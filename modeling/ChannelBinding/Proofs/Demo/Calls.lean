import ChannelBinding.Proofs.Demo.Layout
import ChannelBinding.Proofs.Terms

/-!
# The calls of the demo

A consumer bind or a resolution that runs alone comes to an end: it never waits for another call.  What
holds when it begins holds at each of its steps, so that the layout of the demo is kept, and what it has
made is tracked.  It succeeds if its name can be served: nothing speaks against the name and its properties,
and it has a destination.
-/

namespace ChannelBinding

/-- A transport channel stays where it is when another one is opened. -/
theorem MemoryBinder.get?_openTransport_of_some {f : Fabric} {m : MemoryBinder} {d d' : String}
    {t : ChannelId} (h : m.transports.get? d' = some t) :
  (m.openTransport f d).2.1.transports.get? d' = some t
  := by
  rw [get?_openTransport]
  split
  · rename_i heq
    rw [← heq] at h
    rcases m.openTransport_new f d with hold | ⟨hnone, -⟩
    · rw [← h, hold]
    · rw [h] at hnone
      cases hnone
  · exact h

/-! ## Processes that do not wait -/

section Processes

variable {σ ρ α : Type}

/-- Whether a step leads to where one thing holds, if the process goes on, and another one if it ends; the
process does not wait. -/
def Progress.Meets (I : σ → ρ → Prop) (Q : σ → α → Prop) : σ × Progress ρ α → Prop
  | (s, .running r) => I s r
  | (_, .waiting _ _) => False
  | (s, .ended a) => Q s a

/-- A process each step of which keeps what holds, and does not wait, comes to an end. -/
theorem Process.settle_meets (P : Process σ ρ α) {I : σ → ρ → Prop} {Q : σ → α → Prop}
    (hstep : ∀ {s r}, I s r → Progress.Meets I Q (P.step s r)) {s : σ} {r : ρ} (h : I s r) :
  ∃ s' a, P.settle s r = (s', .ended a) ∧ Q s' a
  := by
  induction r using P.wellFounded.induction generalizing s with
  | _ r ih =>
    have hnext := hstep h
    obtain ⟨s', p, hp⟩ : ∃ s' p, P.step s r = (s', p) := ⟨_, _, rfl⟩
    rw [hp] at hnext
    rw [settle_eq, hp]
    cases p with
    | running r' => exact ih r' (P.nearer_of_step hp) hnext
    | waiting r' pause => exact hnext.elim
    | ended a => exact ⟨s', a, rfl, hnext⟩

end Processes

/-- A step of a bind call refuses a blank destination, opens its transport channel, or attaches to it. -/
theorem MemoryBinder.step_cases {setup : Setup Unit MemoryBinder MemoryCall}
    (hsetup : setup.binders = behaviour) (s : System MemoryBinder) (call : MemoryCall) :
  (Text.isBlankText call.request.destination = true
      ∧ ∃ e, setup.bindProcess.step s call = (s, .ended (.error e)))
    ∨ (∃ request, call = .opening request ∧ setup.bindProcess.step s call
        = (s.withBindersView ((s.binders.openTransport s.fabric request.destination).1,
            (s.binders.openTransport s.fabric request.destination).2.1),
          .running (.attaching request (s.binders.openTransport s.fabric request.destination).2.2)))
    ∨ ∃ request t, call = .attaching request t ∧ setup.bindProcess.step s call
        = (s.withBindersView ((attach s.fabric t request).1, s.binders),
          .ended (.ok (attach s.fabric t request).2))
  := by
  have hprocess : setup.bindProcess = process.focus System.bindersView System.withBindersView := by
    rw [Setup.bindProcess, hsetup]
    rfl
  rw [hprocess]
  cases call with
  | opening request =>
    cases hblank : Text.isBlankText request.destination with
    | true =>
      left
      refine ⟨hblank, .invalidArgument "destination name must not be blank", ?_⟩
      simp only [Process.focus, process, stepPair, MemoryCall.step, System.bindersView, hblank, if_true]
      rfl
    | false =>
      right
      left
      refine ⟨request, rfl, ?_⟩
      simp [Process.focus, process, stepPair, MemoryCall.step, System.bindersView, hblank]
  | attaching request t => exact Or.inr (Or.inr ⟨request, t, rfl, rfl⟩)

/-- Whether a bind call that is about to attach knows the transport channel of its destination. -/
def MemoryCall.Knows (m : MemoryBinder) : MemoryCall → Prop
  | opening _ => True
  | attaching request t => m.transports.get? request.destination = some t

namespace Demo

/-- A process of the demo each step of which keeps what holds, and does not wait, comes to an end. -/
theorem finish_meets {ρ α : Type} (P : Process DemoSystem ρ α) {I : DemoSystem → ρ → Prop}
    {Q : DemoSystem → α → Prop} (hstep : ∀ {s r}, I s r → Progress.Meets I Q (P.step s r))
    {begin : DemoSystem → DemoSystem × Progress ρ α} {s : DemoSystem}
    (h : Progress.Meets I Q (begin s)) :
  ∃ a s', finish P begin s = .ok (a, s') ∧ Q s' a
  := by
  obtain ⟨s₁, p, hp⟩ : ∃ s₁ p, begin s = (s₁, p) := ⟨_, _, rfl⟩
  rw [hp] at h
  cases p with
  | running r =>
    obtain ⟨s', a, hsettle, hq⟩ := P.settle_meets hstep h
    refine ⟨a, s', ?_, hq⟩
    simp only [finish, hp, hsettle]
  | waiting r pause => exact h.elim
  | ended a =>
    refine ⟨a, s₁, ?_, h⟩
    simp only [finish, hp]

/-- Whether a name can be served: there is a binder for it, the properties of its binds have no fault, it is
a name that may be resolved, and it has a destination. -/
structure IsServed (settings : Settings) (name : String) : Prop where
  binder : ((setup settings).factory.get? (settings.binderName name)).isSome
  consumer : (settings.consumerProperties name).fault? = none
  producer : (settings.producerProperties name).fault? = none
  valid : ¬ IsRejected name
  admitted : settings.Admits name
  destination : Text.commaParts (settings.destination name) ≠ []

/-- Without settings, a name is its own destination. -/
example : IsServed {} "orders" :=
  ⟨rfl, rfl, rfl, Resolution.isValidName_iff.mp rfl, Or.inl rfl, by decide⟩

variable {settings : Settings} {names : List String} {inputs : List Input} {start s : DemoSystem}
variable {name : String}

namespace IsServed

theorem consumerTerms (h : IsServed settings name) (m : MemoryBinder) :
  ∃ terms, (setup settings).consumerTerms m name = .ok terms
  := by
  obtain ⟨binder, hbinder⟩ := Option.isSome_iff_exists.mp h.binder
  have hconsumer : ((setup settings).settings.consumerProperties name).fault? = none := h.consumer
  exact ⟨_, Setup.consumerTerms_eq_ok hconsumer hbinder m⟩

theorem producerTerms (h : IsServed settings name) (m : MemoryBinder) :
  ∃ terms, (setup settings).producerTerms m name (settings.producerProperties name) = .ok terms
  := by
  obtain ⟨binder, hbinder⟩ := Option.isSome_iff_exists.mp h.binder
  exact ⟨_, Setup.producerTerms_eq_ok h.producer hbinder m⟩

/-- A destination that has a part is not blank. -/
theorem not_blank (h : IsServed settings name) :
  Text.isBlankText (settings.destination name) = false
  := by
  rw [Bool.eq_false_iff]
  intro hblank
  apply h.destination
  rw [Text.commaParts_eq_nil_iff]
  intro c hc
  exact Or.inr (List.all_eq_true.mp hblank c hc)

end IsServed

/-! ## Consumer binds -/

/-- How matters stand while a consumer bind is under way that has made some bindings. -/
structure Attaches (settings : Settings) (names : List String) (inputs : List Input)
    (start : DemoSystem) (created : List BindingId) (s : DemoSystem) : Prop where
  quiet : start.fabric.Quiet s.fabric
  layout : Layout settings inputs s.fabric s.binders
  booked : Booked names created s.fabric s.ledger s.registry
  rest : s = { start with fabric := s.fabric, binders := s.binders, ledger := s.ledger }

/-- Where a consumer bind of an input stands that keeps to the layout; it is never rolled back. -/
def Consumes (settings : Settings) (names : List String) (inputs : List Input) (start s : DemoSystem) :
    ConsumerBind Unit MemoryCall → Prop
  | .binding request destination call rest created =>
    (∃ i ∈ inputs, i.name ∈ names ∧ request.name = i.name ∧ request.input = i.channel
      ∧ (∀ d ∈ destination :: rest, d ∈ Text.commaParts (settings.destination i.name))
      ∧ ∃ group properties, call.request = .consumer destination group i.channel properties)
    ∧ call.Knows s.binders ∧ Attaches settings names inputs start created s
  | .rollingBack .. => False

/-- What the consumer bind of a name comes to: all that it has made is tracked, or it fails since the name
cannot be served. -/
def HasConsumed (settings : Settings) (names : List String) (inputs : List Input) (start : DemoSystem)
    (name : String) (s : DemoSystem) : ConsumerAnswer → Prop
  | .ok _ => Attaches settings names inputs start [] s
  | .error _ => ¬ IsServed settings name

theorem Attaches.emit {created : List BindingId} (h : Attaches settings names inputs start created s)
    {e : Event} (he : e.isOfDemo = false) :
  Attaches settings names inputs start created (s.emit e)
  := by
  refine ⟨h.quiet.emit he, ?_, h.booked.of_bindings rfl, ?_⟩
  · exact h.layout.of_quiet ((Fabric.Quiet.refl _).emit he) fun _ _ => rfl
  · rw [System.emit, h.rest]

theorem consumes_next {i : Input} (hi : i ∈ inputs) (hname : i.name ∈ names)
    {request : ConsumerRequest Unit} (hrequest : request.name = i.name)
    (hinput : request.input = i.channel) {created : List BindingId}
    (h : Attaches settings names inputs start created s) {rest : List String}
    (hrest : ∀ d ∈ rest, d ∈ Text.commaParts (settings.destination i.name)) :
  Progress.Meets (Consumes settings names inputs start)
    (HasConsumed settings names inputs start name)
    (ConsumerBind.next (setup settings) s request created rest)
  := by
  cases rest with
  | nil =>
    have htold := h.emit (e := .consumersBound request.name request.group) rfl
    refine ⟨htold.quiet, htold.layout, ?_, ?_⟩
    · exact htold.booked.record_consumers (hrequest ▸ hname)
    · rw [System.emit, h.rest]
  | cons d rest =>
    refine ⟨⟨i, hi, hname, hrequest, hinput, hrest, request.group, request.properties, ?_⟩, trivial,
      h.emit rfl⟩
    rw [← hinput]
    rfl

/-- Each step of a consumer bind keeps to the layout. -/
theorem consumes_step {bind : ConsumerBind Unit MemoryCall}
    (h : Consumes settings names inputs start s bind) :
  Progress.Meets (Consumes settings names inputs start)
    (HasConsumed settings names inputs start name)
    (ConsumerBind.step (setup settings) s bind)
  := by
  cases bind with
  | binding request destination call rest created =>
    obtain ⟨⟨i, hi, hname, hrequest, hinput, hparts, group, properties, hcall⟩, hknows, hattaches⟩ := h
    obtain ⟨hdestination, hrest⟩ := List.forall_mem_cons.mp hparts
    have hsetup : (setup settings).binders = MemoryBinder.behaviour := rfl
    rcases MemoryBinder.step_cases hsetup s call with
      ⟨hblank, -⟩ | ⟨asked, rfl, hstep⟩ | ⟨asked, t, rfl, hstep⟩
    · -- the parts of a destination are not blank
      rw [hcall] at hblank
      cases (Text.not_blank_of_mem_commaParts hdestination).symm.trans hblank
    · simp only [ConsumerBind.step, hstep]
      refine ⟨⟨i, hi, hname, hrequest, hinput, hparts, group, properties, hcall⟩, ?_, ?_⟩
      · exact (MemoryBinder.get?_openTransport _ _ _ _).trans (if_pos rfl)
      · refine ⟨hattaches.quiet.openTransport _ _, hattaches.layout.openTransport _, ?_, ?_⟩
        · apply hattaches.booked.of_bindings
          exact ((Fabric.Grows.refl _).openTransport _ _).bindings
        · rw [System.withBindersView, hattaches.rest]
    · have hasked : asked = .consumer destination group i.channel properties := hcall
      subst hasked
      have hlinks := MemoryBinder.links_attach (.consumer destination group i.channel properties)
        (hattaches.layout.transport_lt hknows) (hattaches.layout.handler_new hknows)
      simp only [ConsumerBind.step, hstep]
      apply consumes_next hi hname hrequest hinput _ hrest
      refine ⟨hattaches.quiet.trans hlinks.quiet, ?_, hattaches.booked.link_consumer rfl hlinks, ?_⟩
      · exact hattaches.layout.link_input hi hdestination hknows hlinks
      · rw [System.withBindersView, hattaches.rest]
  | rollingBack release e => exact h.elim

theorem consumes_begin {i : Input} (hi : i ∈ inputs) (hname : i.name ∈ names)
    (hlayout : Layout settings inputs s.fabric s.binders)
    (hbooked : Booked names [] s.fabric s.ledger s.registry) :
  Progress.Meets (Consumes settings names inputs s) (HasConsumed settings names inputs s i.name)
    (ConsumerBind.begin (setup settings) s i.name i.channel)
  := by
  cases hterms : (setup settings).consumerTerms s.binders i.name with
  | error e =>
    rw [ConsumerBind.begin_of_error hterms]
    intro hserved
    obtain ⟨terms, hok⟩ := hserved.consumerTerms s.binders
    cases hterms.symm.trans hok
  | ok terms =>
    by_cases hd : Text.commaParts (settings.destination i.name) = []
    · rw [ConsumerBind.begin_of_no_destination hterms hd]
      exact fun hserved => hserved.destination hd
    · rw [ConsumerBind.begin_of_ok hterms hd]
      exact consumes_next hi hname rfl rfl ⟨.refl _, hlayout, hbooked, rfl⟩ fun d hd => hd

/-- A consumer bind of an input comes to an end that keeps to the layout. -/
theorem finish_consume {i : Input} (hi : i ∈ inputs) (hname : i.name ∈ names)
    (hlayout : Layout settings inputs s.fabric s.binders)
    (hbooked : Booked names [] s.fabric s.ledger s.registry) :
  ∃ answer s', finish (ConsumerBind.process (setup settings))
      (fun s => ConsumerBind.begin (setup settings) s i.name i.channel) s = .ok (answer, s')
    ∧ HasConsumed settings names inputs s i.name s' answer
  := finish_meets _ consumes_step (consumes_begin hi hname hlayout hbooked)

/-! ## Resolutions -/

/-- How matters stand between calls. -/
structure IsReady (settings : Settings) (names : List String) (inputs : List Input) (s : DemoSystem) :
    Prop where
  layout : Layout settings inputs s.fabric s.binders
  outputs : ∀ {p v}, s.cache.get? p = some v →
    IsOutput (settings.destination p) v.channel s.fabric s.binders
  booked : Booked names [] s.fabric s.ledger s.registry
  settled : s.cache.IsSettled
  entries_nodup : s.cache.entries.keys.Nodup
  not_fixed : ∀ p, s.fixed.get? p = none

/-- How matters stand while a resolution is under way. -/
structure Resolving (settings : Settings) (names : List String) (inputs : List Input)
    (start s : DemoSystem) : Prop where
  quiet : start.fabric.Quiet s.fabric
  layout : Layout settings inputs s.fabric s.binders
  outputs : ∀ {p v}, start.cache.get? p = some v →
    IsOutput (settings.destination p) v.channel s.fabric s.binders
  booked : Booked names [] s.fabric s.ledger s.registry
  fixed_eq : s.fixed = start.fixed
  lifecycle_eq : s.lifecycle = start.lifecycle

/-- Whether a channel has no subscribers and is not a transport channel. -/
structure IsUnused (c : ChannelId) (f : Fabric) (m : MemoryBinder) : Prop where
  lt : c.index < f.channels.size
  nobody : f.subscribers c = []
  no_transport : ∀ {d}, m.transports.get? d ≠ some c

namespace IsUnused

variable {c : ChannelId} {f : Fabric} {m : MemoryBinder}

theorem emit (h : IsUnused c f m) (e : Event) :
  IsUnused c (f.emit e) m
  := ⟨h.lt, h.nobody, h.no_transport⟩

theorem openTransport (h : IsUnused c f m) (d : String) :
  IsUnused c (m.openTransport f d).1 (m.openTransport f d).2.1
  := by
  have hgrows := (Fabric.Grows.refl f).openTransport m d
  refine ⟨Nat.lt_of_lt_of_le h.lt hgrows.size, ?_, ?_⟩
  · rw [hgrows.subscribers]
    exact h.nobody
  · intro d' hd'
    rw [MemoryBinder.get?_openTransport] at hd'
    split at hd'
    · rcases m.openTransport_new f d with hold | ⟨-, hsize⟩
      · exact h.no_transport (hold.trans hd')
      · rw [hsize] at hd'
        cases hd'
        exact Nat.lt_irrefl _ h.lt
    · exact h.no_transport hd'

end IsUnused

/-- What a resolution under way knows of the cache, and of the channel that it binds. -/
def Follows (settings : Settings) (start s : DemoSystem) (name : String) :
    ResolutionStage MemoryCall → Prop
  | .requested | .readingFixed | .readingCache => s.cache = start.cache
  | .entering => s.cache = start.cache ∧ start.cache.get? name = none
  | .claiming cell t => ∃ permitted, s.cache.claim cell t = (permitted, .permitted)
    ∧ start.cache.Permits (fun _ => {}) name permitted cell t
  | .binding cell t c bind => start.cache.Permits (fun _ => {}) name s.cache cell t
    ∧ bind.name = name
    ∧ (∃ properties, bind.call.request = .producer (settings.destination name) c properties)
    ∧ bind.call.Knows s.binders ∧ IsUnused c s.fabric s.binders
  | .forgetting .. => False

/-- Where a resolution stands that keeps to the layout, or has failed since its name cannot be served. -/
def Resolves (settings : Settings) (names : List String) (inputs : List Input) (start : DemoSystem)
    (name : String) (s : DemoSystem) (r : Resolution MemoryCall) : Prop :=
  (∃ cell t e, r.stage = .forgetting cell t e) ∧ ¬ IsServed settings name
    ∨ r.name = name ∧ Resolving settings names inputs start s ∧ Follows settings start s name r.stage

/-- What a resolution leaves behind that has answered a channel: its name is cached with the channel. -/
structure Caches (settings : Settings) (names : List String) (inputs : List Input) (start : DemoSystem)
    (name : String) (c : ChannelId) (s : DemoSystem) : Prop where
  quiet : start.fabric.Quiet s.fabric
  ready : IsReady settings names inputs s
  lifecycle_eq : s.lifecycle = start.lifecycle
  cached : ∃ b, s.cache.get? name = some ⟨c, b⟩
  cached_iff : ∀ p, (s.cache.get? p).isSome ↔ p = name ∨ (start.cache.get? p).isSome

/-- What a resolution comes to: its name is cached, or it fails since the name cannot be served. -/
def HasResolved (settings : Settings) (names : List String) (inputs : List Input) (start : DemoSystem)
    (name : String) (s : DemoSystem) : ResolutionAnswer → Prop
  | .ok c => Caches settings names inputs start name c s
  | .error _ => ¬ IsServed settings name

/-- A system between calls has a resolution under way that has done nothing. -/
theorem IsReady.resolving (h : IsReady settings names inputs s) :
  Resolving settings names inputs s s
  := ⟨.refl _, h.layout, h.outputs, h.booked, rfl, rfl⟩

namespace Resolving

/-- What makes nothing but channels is not seen by a resolution. -/
theorem of_grows (h : Resolving settings names inputs start s) {s' : DemoSystem}
    (hquiet : s.fabric.Quiet s'.fabric) (hgrows : s.fabric.Grows s'.fabric)
    (hrest : s' = { s with
      fabric := s'.fabric, cache := s'.cache, announcements := s'.announcements }) :
  Resolving settings names inputs start s'
  := by
  obtain ⟨hbinders, hledger, hregistry, hfixed, hlifecycle⟩ : s'.binders = s.binders
      ∧ s'.ledger = s.ledger ∧ s'.registry = s.registry ∧ s'.fixed = s.fixed
      ∧ s'.lifecycle = s.lifecycle := by
    rw [hrest]
    exact ⟨rfl, rfl, rfl, rfl, rfl⟩
  have hsubscribers : ∀ c, s'.fabric.subscribers c = s.fabric.subscribers c :=
    congrFun hgrows.subscribers
  constructor
  · exact h.quiet.trans hquiet
  · rw [hbinders]
    exact h.layout.of_quiet hquiet fun c _ => hsubscribers c
  · intro p v hv
    rw [hbinders]
    exact (h.outputs hv).of_quiet hquiet (hsubscribers _) id
  · rw [hledger, hregistry]
    exact h.booked.of_bindings hgrows.bindings
  · rw [hfixed, h.fixed_eq]
  · rw [hlifecycle, h.lifecycle_eq]

theorem emit (h : Resolving settings names inputs start s) {e : Event} (he : e.isOfDemo = false) :
  Resolving settings names inputs start (s.emit e)
  := h.of_grows ((Fabric.Quiet.refl _).emit he) ((Fabric.Grows.refl _).emit e) rfl

theorem withCache (h : Resolving settings names inputs start s) (cache : Cache) :
  Resolving settings names inputs start { s with cache }
  := h.of_grows (.refl _) (.refl _) rfl

theorem openTransport (h : Resolving settings names inputs start s) (d : String) :
  Resolving settings names inputs start (s.withBindersView ((s.binders.openTransport s.fabric d).1,
    (s.binders.openTransport s.fabric d).2.1))
  := by
  have hgrows := (Fabric.Grows.refl s.fabric).openTransport s.binders d
  have hquiet := (Fabric.Quiet.refl s.fabric).openTransport s.binders d
  refine ⟨h.quiet.openTransport _ _, h.layout.openTransport d, ?_,
    h.booked.of_bindings hgrows.bindings, h.fixed_eq, h.lifecycle_eq⟩
  intro p v hv
  exact (h.outputs hv).of_quiet hquiet (congrFun hgrows.subscribers _)
    MemoryBinder.get?_openTransport_of_some

/-- The announcement of a destination adds a channel that nobody subscribes to. -/
theorem announce (h : Resolving settings names inputs start s) (name : String) :
  ∃ s₁ c, Resolution.announce (setup settings) s name = (s₁, c, settings.producerProperties name)
    ∧ Resolving settings names inputs start s₁ ∧ s₁.cache = s.cache
    ∧ IsUnused c s₁.fabric s₁.binders
  := by
  obtain ⟨s₁, hs₁⟩ : ∃ s₁, (Resolution.announce (setup settings) s name).1 = s₁ := ⟨_, rfl⟩
  have hgrows : s.fabric.Grows s₁.fabric := by
    rw [← hs₁]
    exact ((Fabric.Grows.refl _).addChannel _ _).emit _
  have hquiet : s.fabric.Quiet s₁.fabric := by
    rw [← hs₁]
    exact ((Fabric.Quiet.refl _).addChannel _).emit rfl
  have hsize : s₁.fabric.channels.size = s.fabric.channels.size + 1 := by
    rw [← hs₁]
    exact Array.size_push _
  obtain ⟨hrest, hcache, hbinders⟩ : s₁ = { s with
      fabric := s₁.fabric, cache := s₁.cache, announcements := s₁.announcements }
        ∧ s₁.cache = s.cache ∧ s₁.binders = s.binders := by
    rw [← hs₁]
    exact ⟨rfl, rfl, rfl⟩
  refine ⟨s₁, ⟨s.fabric.channels.size⟩, ?_, h.of_grows hquiet hgrows hrest, hcache, ?_⟩
  · rw [← hs₁]
    rfl
  · refine ⟨Nat.lt_of_lt_of_eq (Nat.lt_succ_self _) hsize.symm, ?_, ?_⟩
    · rw [hgrows.subscribers]
      exact subscribers_of_size_le (Nat.le_refl _)
    · intro d hd
      rw [hbinders] at hd
      exact Nat.lt_irrefl _ (h.layout.transport_lt hd)

end Resolving

/-- A resolution that has made a producer caches its channel as an output. -/
theorem caches_established (hstart : IsReady settings names inputs start)
    (h : Resolving settings names inputs start s) {cell : CellId} {ticket : Ticket} {c : ChannelId}
    (hpermits : start.cache.Permits (fun _ => {}) name s.cache cell ticket)
    (hunused : IsUnused c s.fabric s.binders) {bind : ProducerBind MemoryCall}
    (hname : bind.name = name) {properties : ProducerProperties} {t : ChannelId}
    (ht : s.binders.transports.get? (settings.destination name) = some t)
    {r : Resolution MemoryCall} (hr : r.name = name) {f : Fabric} {b : BindingId} {h' : HandlerId}
    (hlinks : s.fabric.Links f c t b
      ((BindRequest.producer (settings.destination name) c properties).binding t h')) :
  Caches settings names inputs start name c
    (r.establish (bind.track (s.withBindersView (f, s.binders)) b) cell ticket c b)
  := by
  have hget := hpermits.get?_fill ⟨c, b⟩
  obtain ⟨s', hs'⟩ : ∃ s',
      r.establish (bind.track (s.withBindersView (f, s.binders)) b) cell ticket c b = s' := ⟨_, rfl⟩
  -- what is reported after the bind tells nothing of messages
  have hquiet : f.Quiet s'.fabric := by
    rw [← hs']
    exact (((Fabric.Quiet.refl f).emit rfl).emit rfl).emit rfl
  obtain ⟨hsubscribers, hbindings⟩ : s'.fabric.subscribers = f.subscribers
      ∧ s'.fabric.bindings = f.bindings := by
    rw [← hs']
    exact ⟨rfl, rfl⟩
  obtain ⟨hbinders, hcache, hfixed, hlifecycle⟩ : s'.binders = s.binders
      ∧ s'.cache = s.cache.fill cell ticket ⟨c, b⟩ ∧ s'.fixed = s.fixed
      ∧ s'.lifecycle = s.lifecycle := by
    rw [← hs']
    exact ⟨rfl, rfl, rfl, rfl⟩
  obtain ⟨hledger, hregistry⟩ : s'.ledger = s.ledger.record .producer name [b]
      ∧ s'.registry = s.registry.add name c := by
    rw [← hs', ← hname]
    refine ⟨rfl, ?_⟩
    rw [hname, ← hr]
    rfl
  rw [hs']
  constructor
  · exact (h.quiet.trans hlinks.quiet).trans hquiet
  · constructor
    · rw [hbinders]
      have hlinked := h.layout.link_output hunused.nobody (fun _ => hunused.no_transport) hlinks
      exact hlinked.of_quiet hquiet fun c _ => congrFun hsubscribers c
    · intro p v hv
      rw [hcache, hget] at hv
      rw [hbinders]
      refine IsOutput.of_quiet ?_ hquiet (congrFun hsubscribers _) id
      split at hv
      · rename_i heq
        cases hv
        rw [← heq]
        exact IsOutput.of_links hunused.nobody ht hlinks
      · exact (h.outputs hv).link hunused.nobody hlinks
    · rw [hledger, hregistry]
      exact (h.booked.link_producer rfl hlinks name c).of_bindings hbindings
    · rw [hcache]
      exact hstart.settled.fill hpermits _
    · rw [hcache, hpermits.entries_fill]
      exact Table.nodup_keys_insert _ _ hstart.entries_nodup
    · intro p
      rw [hfixed, h.fixed_eq]
      exact hstart.not_fixed p
  · exact hlifecycle.trans h.lifecycle_eq
  · exact ⟨b, by rw [hcache, hget, if_pos rfl]⟩
  · intro p
    rw [hcache, hget]
    by_cases hp : name = p
    · simp [hp]
    · simp [hp, Ne.symm hp]

/-- A resolution that finds its name in the cache leaves it there. -/
theorem caches_found (hstart : IsReady settings names inputs start)
    (h : Resolving settings names inputs start s) (hcache : s.cache = start.cache)
    {v : Resolved} (hcached : s.cache.get? name = some v) :
  Caches settings names inputs start name v.channel s
  := by
  refine ⟨h.quiet, ⟨h.layout, ?_, h.booked, ?_, ?_, ?_⟩, h.lifecycle_eq, ⟨v.binding, hcached⟩, ?_⟩
  · intro p v' hv'
    exact h.outputs (hcache ▸ hv')
  · exact hcache ▸ hstart.settled
  · exact hcache ▸ hstart.entries_nodup
  · intro p
    rw [h.fixed_eq]
    exact hstart.not_fixed p
  · intro p
    have hp : p = name → (s.cache.get? p).isSome = true := by
      rintro rfl
      rw [hcached]
      rfl
    rw [← hcache]
    exact (or_iff_right_of_imp hp).symm

/-- Each step of the bind of a resolution keeps to the layout, or fails since the name has no destination. -/
theorem resolves_binding (hstart : IsReady settings names inputs start)
    (hresolving : Resolving settings names inputs start s) {cell : CellId} {ticket : Ticket}
    {c : ChannelId} {bind : ProducerBind MemoryCall}
    (hfollows : Follows settings start s name (.binding cell ticket c bind)) :
  Progress.Meets (Resolves settings names inputs start name)
    (HasResolved settings names inputs start name)
    (Resolution.step (setup settings) s { name, stage := .binding cell ticket c bind })
  := by
  obtain ⟨hpermits, hname, ⟨properties, hrequest⟩, hknows, hunused⟩ := hfollows
  have hsetup : (setup settings).binders = MemoryBinder.behaviour := rfl
  rcases MemoryBinder.step_cases hsetup s bind.call with
    ⟨hblank, e, hstep⟩ | ⟨asked, hcall, hstep⟩ | ⟨asked, t, hcall, hstep⟩
  · simp only [Resolution.step, ProducerBind.step, hstep]
    refine Or.inl ⟨⟨cell, ticket, _, rfl⟩, fun hserved => ?_⟩
    rw [hrequest] at hblank
    cases hblank.symm.trans hserved.not_blank
  · simp only [Resolution.step, ProducerBind.step, hstep]
    refine Or.inr ⟨rfl, hresolving.openTransport _, hpermits, hname, ⟨properties, ?_⟩, ?_,
      hunused.openTransport _⟩
    · rw [hcall] at hrequest
      exact hrequest
    · exact (MemoryBinder.get?_openTransport _ _ _ _).trans (if_pos rfl)
  · rw [hcall] at hrequest hknows
    have hasked : asked = .producer (settings.destination name) c properties := hrequest
    subst hasked
    have hlinks := MemoryBinder.links_attach (t := t)
      (.producer (settings.destination name) c properties) hunused.lt
      (hunused.nobody ▸ List.not_mem_nil)
    simp only [Resolution.step, ProducerBind.step, hstep]
    exact caches_established hstart hresolving hpermits hunused hname hknows rfl hlinks

/-- Each step of a resolution keeps to the layout, or fails since its name cannot be served. -/
theorem resolves_step (hstart : IsReady settings names inputs start) {r : Resolution MemoryCall}
    (h : Resolves settings names inputs start name s r) :
  Progress.Meets (Resolves settings names inputs start name)
    (HasResolved settings names inputs start name)
    (Resolution.step (setup settings) s r)
  := by
  obtain ⟨name', stage⟩ := r
  rcases h with ⟨⟨cell, ticket, e, rfl⟩, hunserved⟩ | ⟨rfl, hresolving, hfollows⟩
  · exact hunserved
  · cases stage with
    | requested =>
      simp only [Resolution.step]
      split
      · exact Or.inr ⟨rfl, hresolving.emit rfl, hfollows⟩
      · rename_i hinvalid
        exact fun hserved => hinvalid (Resolution.isValidName_iff.mpr hserved.valid)
    | readingFixed =>
      have hfixed : s.fixed.get? name' = none := by
        rw [hresolving.fixed_eq]
        exact hstart.not_fixed _
      simp only [Resolution.step, hfixed]
      split
      · exact Or.inr ⟨rfl, hresolving, hfollows⟩
      · rename_i hnotAllowed
        exact fun hserved => hnotAllowed (Settings.allowsDynamic_iff.mpr hserved.admitted)
    | readingCache =>
      have hcache : s.cache = start.cache := hfollows
      simp only [Resolution.step]
      cases hcached : s.cache.get? name' with
      | none => exact Or.inr ⟨rfl, hresolving, hfollows, hcache ▸ hcached⟩
      | some v =>
        have htold := hresolving.emit (e := .cacheHit name') rfl
        exact caches_found hstart htold hcache hcached
    | entering =>
      obtain ⟨hcache, hnone⟩ := hfollows
      obtain ⟨entered, cell, ticket, permitted, henter, hclaim, hpermits⟩ :=
        Cache.enter_new hstart.settled.sound (hstart.settled.entry_none hnone)
      simp only [Resolution.step, hcache, henter]
      exact Or.inr ⟨rfl, hresolving.withCache _, permitted, hclaim, hpermits⟩
    | claiming cell ticket =>
      obtain ⟨permitted, hclaim, hpermits⟩ := hfollows
      obtain ⟨s₁, c, hannounce, hannounced, hcache, hunused⟩ :=
        (hresolving.withCache permitted).announce name'
      simp only [Resolution.step, hclaim, hannounce]
      cases hterms : (setup settings).producerTerms s₁.binders name'
          (settings.producerProperties name') with
      | error e =>
        rw [ProducerBind.begin_of_error hterms]
        refine Or.inl ⟨⟨cell, ticket, _, rfl⟩, fun hserved => ?_⟩
        obtain ⟨terms, hok⟩ := hserved.producerTerms s₁.binders
        cases hterms.symm.trans hok
      | ok terms =>
        rw [ProducerBind.begin_of_ok hterms]
        have hpermits : start.cache.Permits (fun _ => {}) name' s₁.cache cell ticket := by
          rw [hcache]
          exact hpermits
        exact Or.inr ⟨rfl, hannounced.emit rfl, hpermits, rfl, ⟨terms.2, rfl⟩, trivial,
          hunused.emit _⟩
    | binding cell ticket c bind => exact resolves_binding hstart hresolving hfollows
    | forgetting cell ticket e => exact hfollows.elim

/-- A resolution comes to an end that keeps to the layout. -/
theorem finish_resolve (hs : IsReady settings names inputs s) (name : String) :
  ∃ answer s', finish (Resolution.process (setup settings)) (fun s => (s, .running { name })) s
      = .ok (answer, s')
    ∧ HasResolved settings names inputs s name s' answer
  := by
  have hbegun : Resolves settings names inputs s name s { name } := Or.inr ⟨rfl, hs.resolving, rfl⟩
  exact finish_meets (Resolution.process (setup settings)) (resolves_step hs) hbegun

end Demo

end ChannelBinding
