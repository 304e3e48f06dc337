import ChannelBinding.Proofs.Alone
import ChannelBinding.Proofs.Decision
import ChannelBinding.Proofs.Unbinding
import ChannelBinding.Proofs.Visits

/-!
# Starting again after a shutdown

A resolved destination stays in the cache for good, whereas a shutdown releases its binding, empties
the registry and forgets what was tracked.  Hence a name that was resolved before a shutdown is resolved
after it to the same channel, which nothing forwards any more, also if the lifecycle was started again.
When resolutions, starts and shutdowns run one after the other, `resolved_is_bound_iff` tells exactly
which destinations are still attached: those that no shutdown has met.
-/

namespace ChannelBinding

variable {ι τ β : Type}

/-! ## One thing after the other -/

/-- What the application does, one thing after the other. -/
inductive Operation where
  | resolve (name : String)
  | start
  | stop
deriving DecidableEq, Repr

namespace Operation

/-- What an operation that runs to its end makes of a system. -/
inductive Does (setup : Setup ι τ β) (s : System τ) : Operation → System τ → Prop where
  | resolve {name : String} {s' : System τ} {a : ResolutionAnswer}
    (h : (Resolution.process setup).Ends s { name } s' a) : Does setup s (.resolve name) s'
  | start : Does setup s .start s.startLifecycle
  | stop : Does setup s .stop s.stopLifecycle.1

/-- The systems that operations lead to; the history has every operation with the system that it has
found. -/
inductive Reaches (setup : Setup ι τ β) (s₀ : System τ) :
    List (System τ × Operation) → System τ → Prop where
  | nil : Reaches setup s₀ [] s₀
  | snoc {history : List (System τ × Operation)} {s s' : System τ} {op : Operation}
    (h : Reaches setup s₀ history s) (hop : op.Does setup s s') :
    Reaches setup s₀ (history ++ [(s, op)]) s'

/-- Whether no shutdown has met a name: none has found the lifecycle running and the name resolved. -/
def Spared (history : List (System τ × Operation)) (name : String) : Prop :=
  ∀ s, (s, .stop) ∈ history → s.lifecycle.running = true → s.cache.get? name = none

end Operation

/-! ## The bind of a destination -/

/-- A handler may subscribe to a channel that has no subscribers. -/
theorem Fabric.subscribe_snd_of_nil {f : Fabric} {c : ChannelId} (hc : c.index < f.channels.size)
    (hnone : f.subscribers c = []) (h : HandlerId) :
  (f.subscribe c h).2 = true
  := by
  have hchannel : f.channel? c = some f.channels[c.index] := Array.getElem?_eq_getElem hc
  rw [subscribers, hchannel, Option.map_some, Option.getD_some] at hnone
  simp [subscribe, hchannel, hnone]

namespace MemoryBinder

/-- What a bind makes of the fabric and of the binder when it attaches a channel as producer. -/
structure Attached (v v' : Fabric × MemoryBinder) (destination : String) (c : ChannelId)
    (b : BindingId) (h : HandlerId) : Prop where
  size : v.1.channels.size ≤ v'.1.channels.size
  fresh : v.1.binding? b = none
  binding?_eq : ∀ b', v'.1.binding? b' = if b' = b
    then some { name := destination, role := .producer, attachment := .subscription c h }
    else v.1.binding? b'
  handler : ∀ {h' handler}, v.1.handler? h' = some handler → v'.1.handler? h' = some handler
  forwards : ∃ t, v'.2.transports.get? destination = some t
    ∧ v'.1.handler? h = some (.forwarding t)
  subscribers_eq : ∀ c', v'.1.subscribers c'
    = if c = c' then v.1.subscribers c' ++ [h] else v.1.subscribers c'
  transport : ∀ {d t}, v.2.transports.get? d = some t → v'.2.transports.get? d = some t

/-- What is made when a channel without subscribers is attached to a transport channel. -/
theorem Attached.attach {f : Fabric} {m : MemoryBinder} {destination : String} {t c : ChannelId}
    (properties : ProducerProperties) (ht : m.transports.get? destination = some t)
    (hc : c.index < f.channels.size) (hnone : f.subscribers c = []) (e : Event) :
  Attached (f, m) ((MemoryBinder.attach f t (.producer destination c properties)).1.emit e, m)
    destination c (MemoryBinder.attach f t (.producer destination c properties)).2 ⟨f.handlers.size⟩
  := by
  obtain ⟨h, hh⟩ : ∃ h, (⟨f.handlers.size⟩ : HandlerId) = h := ⟨_, rfl⟩
  obtain ⟨f₁, hf₁⟩ : ∃ f₁, (f.addHandler (.forwarding t)).1 = f₁ := ⟨_, rfl⟩
  obtain ⟨f₂, hf₂⟩ : ∃ f₂, (f₁.subscribe c h).1 = f₂ := ⟨_, rfl⟩
  obtain ⟨e', hattach⟩ : ∃ e', MemoryBinder.attach f t (.producer destination c properties)
      = (f₂.emit e').addBinding { name := destination, role := .producer
                                  attachment := .subscription c h } := by
    subst hh hf₁ hf₂
    exact ⟨_, rfl⟩
  obtain ⟨hsubscribers, hchannels, hbindings⟩ : f₁.subscribers = f.subscribers
      ∧ f₁.channels = f.channels ∧ f₁.bindings = f.bindings := by
    rw [← hf₁]
    exact ⟨rfl, rfl, rfl⟩
  have hhandler : ∀ h', f₂.handler? h' = if h' = h then some (.forwarding t) else f.handler? h' := by
    intro h'
    rw [← hf₂, ← hh, ← f.handler?_addHandler h' (.forwarding t), hf₁]
    simp only [Fabric.handler?, Fabric.handlers_subscribe]
  have hsubscribed : (f₁.subscribe c h).2 = true := by
    apply Fabric.subscribe_snd_of_nil
    · rw [hchannels]
      apply hc
    · rw [hsubscribers, hnone]
  obtain ⟨hextends, -⟩ := f₁.extends_subscribe c h
  rw [hf₂] at hextends
  have hbindings' : (f₂.emit e').bindings = f.bindings := hextends.bindings.trans hbindings
  have hmade : ((f₂.emit e').addBinding { name := destination, role := .producer
                                          attachment := .subscription c h }).2
      = ⟨f.bindings.size⟩ := by
    rw [← hbindings']
    rfl
  rw [hattach, hmade, hh]
  constructor
  · rw [← hchannels]
    apply hextends.channels
  · simp [Fabric.binding?]
  · intro b'
    have hadd := (f₂.emit e').binding?_addBinding b'
      { name := destination, role := .producer, attachment := .subscription c h }
    have hold : (f₂.emit e').binding? b' = f.binding? b' := congrArg (·[b'.index]?) hbindings'
    rw [hbindings', hold] at hadd
    apply hadd
  · intro h' handler hh'
    refine (hhandler h').trans ?_
    rw [if_neg, hh']
    rintro rfl
    rw [← hh] at hh'
    simp [Fabric.handler?] at hh'
  · exact ⟨t, ht, (hhandler h).trans (if_pos rfl)⟩
  · intro c'
    have hsub := f₁.subscribers_subscribe c c' h
    rw [hsubscribed, hf₂, hsubscribers] at hsub
    simp only [and_true] at hsub
    apply hsub
  · exact id

/-- What was made of a fabric that has grown was made of the fabric before. -/
theorem Attached.of_grows {f f₁ : Fabric} {m m₁ : MemoryBinder} {v' : Fabric × MemoryBinder}
    {destination : String} {c : ChannelId} {b : BindingId} {h : HandlerId} (hgrows : f.Grows f₁)
    (htransport : ∀ {d t}, m.transports.get? d = some t → m₁.transports.get? d = some t)
    (ha : Attached (f₁, m₁) v' destination c b h) :
  Attached (f, m) v' destination c b h
  := by
  have hbinding : ∀ b', f₁.binding? b' = f.binding? b' :=
    fun b' => congrArg (·[b'.index]?) hgrows.bindings
  have hhandler : ∀ h', f₁.handler? h' = f.handler? h' :=
    fun h' => congrArg (·[h'.index]?) hgrows.handlers
  constructor
  · apply Nat.le_trans hgrows.size ha.size
  · rw [← hbinding]
    apply ha.fresh
  · intro b'
    rw [← hbinding]
    apply ha.binding?_eq
  · intro h' handler hh'
    rw [← hhandler] at hh'
    apply ha.handler hh'
  · apply ha.forwards
  · intro c'
    rw [← hgrows.subscribers]
    apply ha.subscribers_eq
  · intro d t ht
    apply ha.transport (htransport ht)

/-- What a bind makes that attaches a channel without subscribers as producer. -/
theorem Attached.bindAt {f : Fabric} (m : MemoryBinder) (destination : String) {c : ChannelId}
    (properties : ProducerProperties) (hc : c.index < f.channels.size)
    (hnone : f.subscribers c = []) (e : Event) :
  Attached (f, m) ((MemoryBinder.bindAt f m (.producer destination c properties)).1.emit e,
      (MemoryBinder.bindAt f m (.producer destination c properties)).2) destination c
    (MemoryBinder.attach (m.openTransport f destination).1 (m.openTransport f destination).2.2
      (.producer destination c properties)).2 ⟨f.handlers.size⟩
  := by
  have hget := get?_openTransport f m destination
  have hnew := openTransport_new f m destination
  have hgrows := (Fabric.Grows.refl f).openTransport m destination
  have ht : (m.openTransport f destination).2.1.transports.get? destination
      = some (m.openTransport f destination).2.2 := by
    rw [hget, if_pos rfl]
  have ha := Attached.attach properties ht (Nat.lt_of_lt_of_le hc hgrows.size)
    (by rw [hgrows.subscribers, hnone]) e
  rw [hgrows.handlers] at ha
  apply Attached.of_grows hgrows _ ha
  intro d t' ht'
  rw [hget]
  split
  · rename_i hd
    subst hd
    rcases hnew with hold | ⟨hnew, -⟩
    · rw [← ht', hold]
    · rw [ht'] at hnew
      cases hnew
  · apply ht'

variable {settings : Settings} {factory : Factory Unit} {callback : Option Callback}

/-- A bind that is handed to the binder asks for the destination of its name. -/
theorem call_of_prepare {m : MemoryBinder} {name : String} {c : ChannelId}
    {properties : ProducerProperties} {bind : ProducerBind MemoryCall}
    (h : ProducerBind.prepare (setup settings factory callback) m name c properties = .ok bind) :
  ∃ properties, bind.call = .opening (.producer (settings.destination name) c properties)
  := by
  unfold ProducerBind.prepare at h
  cases hb : (setup settings factory callback).binderFor name with
  | error e => simp [hb, Bind.bind, Except.bind] at h
  | ok binder =>
    simp only [hb, Bind.bind, Except.bind] at h
    split at h
    · cases h
    · cases h
      exact ⟨_, rfl⟩

/-- A bind that the binder has been asked for, and runs alone, is refused or attaches its channel. -/
theorem ends_opening {s s' : System MemoryBinder} {bind : ProducerBind MemoryCall} {d : String}
    {c : ChannelId} {properties : ProducerProperties} {answer : ProducerAnswer}
    (hcall : bind.call = .opening (.producer d c properties))
    (h : (ProducerBind.process (setup settings factory callback)).Ends s bind s' answer) :
  (∃ e e', answer = .error e ∧ s' = s.emit e')
    ∨ ∃ e ledger, answer = .ok (MemoryBinder.attach (s.binders.openTransport s.fabric d).1
          (s.binders.openTransport s.fabric d).2.2 (.producer d c properties)).2
      ∧ s' = { s with
        fabric := (bindAt s.fabric s.binders (.producer d c properties)).1.emit e
        binders := (bindAt s.fabric s.binders (.producer d c properties)).2
        ledger }
  := by
  obtain ⟨name, destination, binder, call⟩ := bind
  cases hcall
  cases hblank : Text.isBlankText d with
  | true =>
    have hopening : (setup settings factory callback).bindProcess.step s
        (.opening (.producer d c properties))
        = (s, .ended (.error (.invalidArgument "destination name must not be blank"))) := by
      simp [Setup.bindProcess, Process.focus, setup, behaviour, process, stepPair,
        MemoryCall.step, System.bindersView, BindRequest.destination, hblank,
        System.withBindersView]
    left
    rw [Process.ends_of_ended (by
      simp only [ProducerBind.process, ProducerBind.step, hopening]; rfl)] at h
    exact ⟨_, _, h.2, h.1⟩
  | false =>
    have hopening := @step_opening settings factory callback s (.producer d c properties) hblank
    rw [Process.ends_of_running (by
      simp only [ProducerBind.process, ProducerBind.step, hopening]; rfl)] at h
    rw [Process.ends_of_ended rfl] at h
    right
    exact ⟨_, _, h.2, h.1⟩

/-- A bind that runs alone attaches its channel, or makes nothing. -/
theorem answers_cases {s s' : System MemoryBinder} {name : String} {c : ChannelId}
    {properties : ProducerProperties} {answer : ProducerAnswer}
    (h : ProducerBind.Answers (setup settings factory callback) s name c properties s' answer)
    (hc : c.index < s.fabric.channels.size) (hnone : s.fabric.subscribers c = []) :
  (∃ e, answer = .error e ∧ s.fabric.Grows s'.fabric ∧ s'.binders = s.binders)
    ∨ ∃ b k, answer = .ok b
      ∧ Attached s.bindersView s'.bindersView (settings.destination name) c b k
  := by
  unfold ProducerBind.Answers ProducerBind.begin at h
  cases hprepare : ProducerBind.prepare (setup settings factory callback) s.binders name c
      properties with
  | error e =>
    rw [hprepare] at h
    obtain ⟨rfl, rfl⟩ := h
    exact Or.inl ⟨e, rfl, Fabric.Grows.refl _, rfl⟩
  | ok bind =>
    rw [hprepare] at h
    obtain ⟨properties', hcall⟩ := call_of_prepare hprepare
    obtain ⟨e₀, he₀⟩ : ∃ e, Event.producerBindStarted bind.name bind.destination bind.binder = e :=
      ⟨_, rfl⟩
    dsimp only at h
    rw [he₀] at h
    have hgrows : s.fabric.Grows (s.emit e₀).fabric := (Fabric.Grows.refl _).emit e₀
    rcases ends_opening hcall h with ⟨e, e', rfl, rfl⟩ | ⟨e, ledger, rfl, rfl⟩
    · exact Or.inl ⟨e, rfl, hgrows.emit e', rfl⟩
    · right
      refine ⟨_, _, rfl, Attached.of_grows hgrows id (Attached.bindAt s.binders _ properties' ?_ ?_ e)⟩
      · apply hc
      · apply hnone

end MemoryBinder

/-! ## Resolved destinations, attached or released -/

/-- A resolved destination with the handler of its binding: it is attached and tracked, or released and
forgotten. -/
structure Tied (s : System MemoryBinder) (destination name : String) (v : Resolved) (h : HandlerId)
    (live : Bool) : Prop where
  channel_lt : v.channel.index < s.fabric.channels.size
  binding?_eq : s.fabric.binding? v.binding = some { name := destination, role := .producer
                                                     attachment := .subscription v.channel h
                                                     bound := live }
  forwards : ∃ t, s.binders.transports.get? destination = some t
    ∧ s.fabric.handler? h = some (.forwarding t)
  subscribers_eq : s.fabric.subscribers v.channel = if live then [h] else []
  tracked_eq : (s.ledger.of .producer).get? name = if live then some [v.binding] else none

/-- All resolved destinations, attached if they are `live` and released if not: each has a channel and a
binding of its own, and nothing else is tracked. -/
structure Kept (settings : Settings) (s : System MemoryBinder) (live : String → Bool) : Prop where
  tied : ∀ {name v}, s.cache.get? name = some v →
    ∃ h, Tied s (settings.destination name) name v h (live name)
  role_eq : ∀ {role name bs}, (s.ledger.of role).get? name = some bs →
    role = .producer ∧ ∃ v, s.cache.get? name = some v
  channel_inj : ∀ {name name' v v'}, s.cache.get? name = some v → s.cache.get? name' = some v' →
    v.channel = v'.channel → name = name'
  binding_inj : ∀ {name name' v v'}, s.cache.get? name = some v → s.cache.get? name' = some v' →
    v.binding = v'.binding → name = name'

/-- What makes no difference to a resolved destination. -/
theorem Tied.congr {s s' : System MemoryBinder} {destination name : String} {v : Resolved}
    {h : HandlerId} {live : Bool} (ht : Tied s destination name v h live)
    (hsize : s.fabric.channels.size ≤ s'.fabric.channels.size)
    (hbinding : s'.fabric.binding? v.binding = s.fabric.binding? v.binding)
    (hhandler : ∀ {h handler}, s.fabric.handler? h = some handler →
      s'.fabric.handler? h = some handler)
    (hsubscribers : s'.fabric.subscribers v.channel = s.fabric.subscribers v.channel)
    (htransport : ∀ {d t}, s.binders.transports.get? d = some t →
      s'.binders.transports.get? d = some t)
    (hledger : (s'.ledger.of .producer).get? name = (s.ledger.of .producer).get? name) :
  Tied s' destination name v h live
  := by
  obtain ⟨t, hget, hforwards⟩ := ht.forwards
  constructor
  · apply Nat.lt_of_lt_of_le ht.channel_lt hsize
  · rw [hbinding, ht.binding?_eq]
  · exact ⟨t, htransport hget, hhandler hforwards⟩
  · rw [hsubscribers, ht.subscribers_eq]
  · rw [hledger, ht.tracked_eq]

namespace Kept

variable {settings : Settings} {s s' : System MemoryBinder} {live : String → Bool}

/-- A fabric that grows, with the same binders, ledger and resolved names, makes no difference. -/
theorem of_grows (hk : Kept settings s live) (hgrows : s.fabric.Grows s'.fabric)
    (hbinders : s'.binders = s.binders) (hledger : s'.ledger = s.ledger)
    (hcache : s'.cache.get? = s.cache.get?) :
  Kept settings s' live
  := by
  constructor
  · intro name v hv
    rw [hcache] at hv
    obtain ⟨h, ht⟩ := hk.tied hv
    use h
    apply ht.congr hgrows.size
    · rw [Fabric.binding?, hgrows.bindings]
      rfl
    · intro h handler hh
      rw [Fabric.handler?, hgrows.handlers]
      apply hh
    · rw [hgrows.subscribers]
    · rw [hbinders]
      exact id
    · rw [hledger]
  · intro role name bs hbs
    rw [hledger] at hbs
    rw [hcache]
    apply hk.role_eq hbs
  · rw [hcache]
    exact hk.channel_inj
  · rw [hcache]
    exact hk.binding_inj

/-- Only what the names that are resolved are is of interest. -/
theorem congr_live {live' : String → Bool} (hk : Kept settings s live)
    (hlive : ∀ name v, s.cache.get? name = some v → live' name = live name) :
  Kept settings s live'
  := by
  constructor
  · intro name v hv
    rw [hlive name v hv]
    apply hk.tied hv
  · exact hk.role_eq
  · exact hk.channel_inj
  · exact hk.binding_inj

/-- A destination that is attached is released, and all others stay as they are. -/
theorem release (hk : Kept settings s live) {name : String} {v : Resolved} {h : HandlerId}
    (hv : s.cache.get? name = some v) (ht : Tied s (settings.destination name) name v h true) :
  Kept settings { s with
      ledger := (s.ledger.take .producer name).1
      fabric := (s.fabric.unbindAll name [v.binding]).1 }
    (Function.update live name false)
  := by
  have hd := Fabric.detached_unbindAll ⟨ht.binding?_eq, rfl⟩ rfl name
  have hledger : ∀ other, ((s.ledger.take .producer name).1.of .producer).get? other
      = if name = other then none else (s.ledger.of .producer).get? other := by
    intro other
    rw [Ledger.get?_take]
    simp only [true_and]
  constructor
  · intro name' v' hv'
    by_cases hname : name' = name
    · subst hname
      rw [hv] at hv'
      cases hv'
      use h
      rw [Function.update_self]
      constructor
      · apply Nat.lt_of_lt_of_le ht.channel_lt hd.size
      · refine (hd.binding?_eq _).trans ?_
        rw [if_pos rfl, ht.binding?_eq]
        rfl
      · obtain ⟨t, hget, hforwards⟩ := ht.forwards
        exact ⟨t, hget, (hd.handler?_eq h).trans hforwards⟩
      · refine (hd.subscribers_eq _).trans ?_
        rw [if_pos rfl, ht.subscribers_eq]
        simp
      · refine (hledger _).trans ?_
        rw [if_pos rfl]
        rfl
    · obtain ⟨h', ht'⟩ := hk.tied hv'
      use h'
      rw [Function.update_of_ne hname]
      apply ht'.congr hd.size
      · refine (hd.binding?_eq _).trans (if_neg ?_)
        intro heq
        apply hname
        apply hk.binding_inj hv' hv heq.symm
      · intro k handler hk'
        exact (hd.handler?_eq k).trans hk'
      · refine (hd.subscribers_eq _).trans (if_neg ?_)
        intro heq
        apply hname
        apply hk.channel_inj hv' hv heq.symm
      · exact id
      · refine (hledger _).trans ?_
        rw [if_neg (Ne.symm hname)]
  · intro role name' bs hbs
    dsimp only at hbs
    rw [Ledger.get?_take] at hbs
    split at hbs
    · cases hbs
    · apply hk.role_eq hbs
  · exact hk.channel_inj
  · exact hk.binding_inj

end Kept

/-- What is still attached when some names were attempted. -/
def without (live : String → Bool) (attempted : List (Role × String)) (name : String) : Bool :=
  live name && decide ((.producer, name) ∉ attempted)

theorem without_append (live : String → Bool) (attempted attempted' : List (Role × String)) :
  without (without live attempted) attempted' = without live (attempted ++ attempted')
  := by
  funext name
  simp [without, Bool.and_assoc]

namespace Kept

variable {settings : Settings} {s : System MemoryBinder} {live : String → Bool}

/-- An attempt releases the destination of its name, if it is attached. -/
theorem unbindTracked (hk : Kept settings s live) (role : Role) (name : String) :
  Kept settings (s.unbindTracked role name).1 (without live [(role, name)])
  := by
  have hspec := s.unbindTracked_spec role name
  obtain ⟨ledger, found, htake⟩ : ∃ ledger found, s.ledger.take role name = (ledger, found) :=
    ⟨_, _, rfl⟩
  obtain ⟨hledger, hfound⟩ := Prod.mk.inj htake
  rw [htake] at hspec
  rw [hspec]
  cases found with
  | none =>
    have hemit : Kept settings (s.emit (.nothingTracked name role)) live :=
      hk.of_grows ((Fabric.Grows.refl _).emit _) rfl rfl rfl
    apply hemit.congr_live
    intro other v hv
    obtain ⟨h, ht⟩ := hk.tied hv
    have htracked := ht.tracked_eq
    by_cases hkey : (Role.producer, other) = (role, name)
    · cases hkey
      have hdead : live name = false := by
        simpa [hfound] using htracked
      simp [without, hdead]
    · simp [without, hkey]
  | some bs =>
    obtain ⟨rfl, v, hv⟩ := hk.role_eq hfound
    obtain ⟨h, ht⟩ := hk.tied hv
    have htracked := ht.tracked_eq
    rw [hfound] at htracked
    cases hlive : live name with
    | false => simp [hlive] at htracked
    | true =>
      rw [hlive] at ht htracked
      cases htracked
      rw [← hledger]
      apply (hk.release hv ht).congr_live
      intro other v' hv'
      by_cases hother : other = name
      · subst hother
        simp [without]
      · simp [without, hother]

/-- Attempts release the destinations of their names. -/
theorem attempt (hk : Kept settings s live) (role : Role) (names : List String) :
  Kept settings (s.attempt role names).1 (without live (names.map (role, ·)))
  := by
  induction names generalizing s live with
  | nil =>
    apply hk.congr_live
    simp [without]
  | cons name names ih =>
    have hrest := ih (hk.unbindTracked role name)
    rw [without_append] at hrest
    apply hrest

/-- Visits release the destinations whose names are attempted. -/
theorem visit (hk : Kept settings s live) (stages : List (Role × Bindable)) :
  Kept settings (s.visit stages).1 (without live ((s.visit stages).2.map Attempt.key))
  := by
  induction stages generalizing s live with
  | nil =>
    apply hk.congr_live
    simp [without, System.visit]
  | cons stage stages ih =>
    obtain ⟨role, b⟩ := stage
    have hclaim : Kept settings (b.claimNames s role).1 live := by
      cases role <;> cases b <;> exact hk.of_grows (Fabric.Grows.refl _) rfl rfl rfl
    have hrest := ih (hclaim.attempt role (b.claimNames s role).2)
    rw [without_append] at hrest
    rw [System.visit_cons, List.map_append, System.visitOne, System.keys_attempt]
    apply hrest

end Kept

/-- If names have something of their own each, they have so with one more name that has something new. -/
theorem Cache.inj_of_new {α : Type} {f : Resolved → α} {cache cache' : Cache} {name : String}
    {v : Resolved}
    (hnew : ∀ {other w}, cache'.get? other = some w →
      (name = other ∧ w = v) ∨ (name ≠ other ∧ cache.get? other = some w))
    (hother : ∀ {other w}, cache.get? other = some w → f w ≠ f v)
    (hinj : ∀ {other other' w w'}, cache.get? other = some w → cache.get? other' = some w' →
      f w = f w' → other = other')
    {other other' : String} {w w' : Resolved} (hw : cache'.get? other = some w)
    (hw' : cache'.get? other' = some w') (heq : f w = f w') :
  other = other'
  := by
  rcases hnew hw with ⟨rfl, rfl⟩ | ⟨hne, hw⟩
  · rcases hnew hw' with ⟨rfl, rfl⟩ | ⟨hne', hw'⟩
    · rfl
    · apply absurd heq.symm (hother hw')
  · rcases hnew hw' with ⟨rfl, rfl⟩ | ⟨hne', hw'⟩
    · apply absurd heq (hother hw)
    · apply hinj hw hw' heq

/-- A name that is bound is attached, and the others stay as they are. -/
theorem Kept.attach {settings : Settings} {s s' : System MemoryBinder} {live : String → Bool}
    (hk : Kept settings s live) {name : String} (hnone : s.cache.get? name = none) {c : ChannelId}
    (hc : c = ⟨s.fabric.channels.size⟩) (hlt : c.index < s'.fabric.channels.size) {b : BindingId}
    {h : HandlerId} (ha : MemoryBinder.Attached s.bindersView s'.bindersView
      (settings.destination name) c b h)
    (hledger : s'.ledger = s.ledger.record .producer name [b])
    (hcache : ∀ other, s'.cache.get? other
      = if name = other then some ⟨c, b⟩ else s.cache.get? other) :
  Kept settings s' (Function.update live name true)
  := by
  have huntracked : (s.ledger.of .producer).get? name = none := by
    by_contra hsome
    obtain ⟨bs, hbs⟩ := Option.ne_none_iff_exists'.mp hsome
    obtain ⟨-, v, hv⟩ := hk.role_eq hbs
    rw [hnone] at hv
    cases hv
  have hrecord : ∀ role other, (s'.ledger.of role).get? other
      = if Role.producer = role ∧ name = other then some [b] else (s.ledger.of role).get? other := by
    intro role other
    rw [hledger, Ledger.get?_record, Ledger.tracked, huntracked]
    rfl
  have htracked : ∀ other, (s'.ledger.of .producer).get? other
      = if name = other then some [b] else (s.ledger.of .producer).get? other := by
    intro other
    rw [hrecord]
    simp only [true_and]
  -- what was resolved before has another channel and another binding
  have hother : ∀ {other v}, s.cache.get? other = some v → v.channel ≠ c ∧ v.binding ≠ b := by
    intro other v hv
    obtain ⟨k, ht⟩ := hk.tied hv
    constructor
    · rintro rfl
      have hlt' := ht.channel_lt
      rw [hc] at hlt'
      apply Nat.lt_irrefl _ hlt'
    · rintro rfl
      have hfresh : s.fabric.binding? v.binding = none := ha.fresh
      cases ht.binding?_eq.symm.trans hfresh
  have hnew : ∀ {other v}, s'.cache.get? other = some v →
      (name = other ∧ v = ⟨c, b⟩) ∨ (name ≠ other ∧ s.cache.get? other = some v) := by
    intro other v hv
    rw [hcache] at hv
    split at hv
    · rename_i heq
      cases hv
      exact Or.inl ⟨heq, rfl⟩
    · rename_i hne
      exact Or.inr ⟨hne, hv⟩
  constructor
  · intro other v hv
    rcases hnew hv with ⟨rfl, rfl⟩ | ⟨hne, hv⟩
    · use h
      rw [Function.update_self]
      constructor
      · apply hlt
      · refine (ha.binding?_eq b).trans (if_pos rfl)
      · apply ha.forwards
      · have hempty : s.fabric.subscribers c = [] := by
          simp [Fabric.subscribers, Fabric.channel?, hc]
        refine (ha.subscribers_eq c).trans ?_
        rw [if_pos rfl, if_pos rfl]
        exact congrArg (· ++ [h]) hempty
      · rw [htracked, if_pos rfl, if_pos rfl]
    · obtain ⟨k, ht⟩ := hk.tied hv
      obtain ⟨hchannel, hbinding⟩ := hother hv
      use k
      rw [Function.update_of_ne (Ne.symm hne)]
      apply ht.congr ha.size
      · exact (ha.binding?_eq _).trans (if_neg hbinding)
      · exact ha.handler
      · exact (ha.subscribers_eq _).trans (if_neg (Ne.symm hchannel))
      · exact ha.transport
      · rw [htracked, if_neg hne]
  · intro role other bs hbs
    rw [hrecord] at hbs
    rw [hcache]
    split at hbs
    · rename_i heq
      rw [if_pos heq.2]
      exact ⟨heq.1.symm, _, rfl⟩
    · obtain ⟨hrole, v, hv⟩ := hk.role_eq hbs
      use hrole
      split
      · exact ⟨_, rfl⟩
      · exact ⟨v, hv⟩
  · exact Cache.inj_of_new hnew (fun hv => (hother hv).1) hk.channel_inj
  · exact Cache.inj_of_new hnew (fun hv => (hother hv).2) hk.binding_inj

/-! ## The cache between resolutions -/

/-- Whether no call is on a cache: names without a resolved destination have no cell. -/
structure Cache.IsSettled (cache : Cache) : Prop where
  sound : cache.Sound fun _ => {}
  entry_none : ∀ {name}, cache.get? name = none → cache.entries.get? name = none

theorem Cache.isSettled_empty :
  ({} : Cache).IsSettled
  := ⟨sound_empty, fun _ => rfl⟩

/-- A cell that nobody but one call was on leaves no call on the cache when it is filled. -/
theorem Cache.IsSettled.fill {cache permitted : Cache} (hs : cache.IsSettled) {name : String}
    {cell : CellId} {t : Ticket} (hpermits : cache.Permits (fun _ => {}) name permitted cell t)
    (v : Resolved) :
  (permitted.fill cell t v).IsSettled
  := by
  have hsound := hpermits.sound_fill v
  rw [Function.update_eq_self 0 fun _ => ({} : Stake)] at hsound
  refine ⟨hsound, ?_⟩
  intro other hother
  have hget := (hpermits.get?_fill v other).symm.trans hother
  split at hget
  · cases hget
  · rename_i hne
    rw [hpermits.entries_fill, Table.get?_insert_of_ne _ _ hne, hs.entry_none hget]

namespace Resolution

/-- A resolution that runs alone leaves no call on the cache. -/
theorem isSettled_of_ends {setup : Setup ι τ β} {s s' : System τ} {name : String}
    {a : ResolutionAnswer} (hs : s.cache.IsSettled)
    (h : (process setup).Ends s { name } s' a) :
  s'.cache.IsSettled
  := by
  by_cases hnew : IsNew setup s (s.fixed.get? name) name
  · obtain ⟨entered, cell, t, permitted, henter, hclaim, hpermits⟩ :=
      Cache.enter_new hs.sound (hs.entry_none hnew.not_cached)
    have hidle : Function.update (fun _ => ({} : Stake)) 0 {} = fun _ => {} :=
      Function.update_eq_self 0 _
    obtain ⟨s₂, answer, -, hafter⟩ := (ends_new hnew henter hclaim rfl s' a).mp h
    cases answer with
    | ok b =>
      obtain ⟨rfl, -⟩ := Prod.mk.inj hafter
      exact hs.fill hpermits _
    | error e =>
      obtain ⟨rfl, -⟩ := Prod.mk.inj hafter
      have hsound := hpermits.sound_forget
      rw [hidle] at hsound
      refine ⟨hsound, ?_⟩
      intro other hother
      refine (congrArg (Table.get? · other) hpermits.entries_forget).trans (hs.entry_none ?_)
      rw [← hpermits.get?_forget]
      apply hother
  · have hkept : ∀ {s' : System τ}, s.SameButJournal s' → s'.cache.IsSettled := by
      rintro s' ⟨journal, rfl⟩
      apply hs
    have hdecides : Decides setup s (s.fixed.get? name) name := decides hs.sound hs.entry_none
    cases hdecides.rules h with
    | invalid _ hs' | fixed _ _ hs' | notAllowed _ _ _ hs' | cached _ _ _ _ hs' => apply hkept hs'
    | bound hnew' | failed hnew' => apply absurd hnew' hnew

end Resolution

/-- The announcement of a destination adds a channel without subscribers. -/
theorem Resolution.Announces.grows {setup : Setup ι τ β} {s s₁ : System τ} {name : String}
    {c : ChannelId} {properties : ProducerProperties}
    (h : Announces setup s name s₁ c properties) :
  s.fabric.Grows s₁.fabric ∧ c.index < s₁.fabric.channels.size ∧ s₁.fabric.subscribers c = []
    ∧ s₁.binders = s.binders
  := by
  obtain ⟨journal, hs₁⟩ := h.rest
  have hgrows := (Fabric.Grows.refl s.fabric).addChannel name
    (some (setup.settings.contentType name))
  have hsubscribers : s₁.fabric.subscribers = s.fabric.subscribers := by
    rw [hs₁, ← hgrows.subscribers]
    rfl
  refine ⟨⟨?_, ?_, ?_, hsubscribers⟩, ?_, ?_, ?_⟩
  · rw [hs₁]
    apply hgrows.size
  · rw [hs₁]
  · rw [hs₁]
  · rw [hs₁, h.fresh]
    simp
  · rw [hsubscribers, h.fresh]
    simp [Fabric.subscribers, Fabric.channel?]
  · rw [hs₁]

/-- What an announced destination leaves alone, however its bind ends. -/
theorem Resolution.Announces.settles {setup : Setup ι τ β} {s s₁ s₂ s' : System τ} {name : String}
    {c : ChannelId} {properties : ProducerProperties} {ledger : Ledger} {registry : Registry}
    {resolved : String → Option Resolved} (h : Announces setup s name s₁ c properties)
    (hsettles : Settles s₁ s₂ s' ledger registry resolved) :
  s'.lifecycle = s.lifecycle ∧ s'.fixed = s.fixed ∧ s'.ledger = ledger ∧ s'.registry = registry
  := by
  obtain ⟨journal, hs₁⟩ := h.rest
  rw [hsettles.rest, hs₁]
  exact ⟨rfl, rfl, rfl, rfl⟩

/-! ## Runs -/

/-- What holds between two operations: a destination is attached, and its name registered, as long as
no shutdown has met it. -/
structure InTurn (settings : Settings) (history : List (System MemoryBinder × Operation))
    (s : System MemoryBinder) : Prop where
  registry_mem : .registry ∈ s.lifecycle.bindables
  not_fixed : ∀ name, s.fixed.get? name = none
  settled : s.cache.IsSettled
  kept : ∃ live, Kept settings s live ∧ ∀ {name v}, s.cache.get? name = some v →
    (live name = true ↔ Operation.Spared history name)
      ∧ (live name = true → name ∈ s.registry.outputs.keys)
  stays : ∀ {found op}, (found, op) ∈ history → ∀ {name v}, found.cache.get? name = some v →
    s.cache.get? name = some v

/-- A name stays spared unless an operation is a shutdown that meets it. -/
theorem Operation.spared_append (history : List (System τ × Operation)) (s : System τ)
    (op : Operation) (name : String) :
  Spared (history ++ [(s, op)]) name ↔ Spared history name
    ∧ (op = .stop → s.lifecycle.running = true → s.cache.get? name = none)
  := by
  simp only [Spared, List.mem_append, List.mem_singleton, Prod.mk.injEq]
  constructor
  · intro h
    refine ⟨fun found hfound => h found (Or.inl hfound), ?_⟩
    rintro rfl
    apply h s (Or.inr ⟨rfl, rfl⟩)
  · rintro ⟨h, hlast⟩ found (hfound | ⟨rfl, hop⟩)
    · apply h found hfound
    · apply hlast hop.symm

namespace InTurn

variable {settings : Settings} {history : List (System MemoryBinder × Operation)}
variable {s s' : System MemoryBinder}

/-- Nothing is attached in a system without resolved destinations. -/
theorem nil (hcache : s.cache = {}) (hledger : s.ledger = {}) (hfixed : s.fixed = ∅)
    (hregistry : .registry ∈ s.lifecycle.bindables) :
  InTurn settings [] s
  := by
  have hnone : ∀ name, s.cache.get? name = none := by
    intro name
    rw [hcache]
    rfl
  constructor
  · apply hregistry
  · intro name
    rw [hfixed, Table.get?_empty]
  · rw [hcache]
    apply Cache.isSettled_empty
  · refine ⟨fun _ => false, ⟨?_, ?_, ?_, ?_⟩, ?_⟩
    · intro name v hv
      simp [hnone] at hv
    · intro role name bs hbs
      rw [hledger] at hbs
      cases role <;> cases hbs
    · intro name name' v v' hv
      simp [hnone] at hv
    · intro name name' v v' hv
      simp [hnone] at hv
    · intro name v hv
      simp [hnone] at hv
  · intro found op hmem
    cases hmem

/-- An operation that resolves and releases nothing keeps everything as it is. -/
theorem append (hs : InTurn settings history s) {op : Operation}
    (hop : op = .stop → s.lifecycle.running = false)
    (hbindables : s'.lifecycle.bindables = s.lifecycle.bindables) (hfixed : s'.fixed = s.fixed)
    (hsettled : s'.cache.IsSettled) (hcache : s'.cache.get? = s.cache.get?)
    (hregistry : s'.registry = s.registry) (hgrows : s.fabric.Grows s'.fabric)
    (hbinders : s'.binders = s.binders) (hledger : s'.ledger = s.ledger) :
  InTurn settings (history ++ [(s, op)]) s'
  := by
  obtain ⟨live, hk, hlive⟩ := hs.kept
  constructor
  · rw [hbindables]
    apply hs.registry_mem
  · rw [hfixed]
    apply hs.not_fixed
  · apply hsettled
  · refine ⟨live, hk.of_grows hgrows hbinders hledger hcache, ?_⟩
    intro name v hv
    rw [hcache] at hv
    have hspared : Operation.Spared (history ++ [(s, op)]) name ↔ Operation.Spared history name := by
      rw [Operation.spared_append, and_iff_left]
      intro hstop hrunning
      rw [hop hstop] at hrunning
      cases hrunning
    rw [hspared, hregistry]
    apply hlive hv
  · intro found op' hmem name v hv
    rw [hcache]
    rcases List.mem_append.mp hmem with hmem | hmem
    · apply hs.stays hmem hv
    · cases List.mem_singleton.mp hmem
      apply hv

/-- A shutdown of a running lifecycle releases every destination. -/
theorem stop (hs : InTurn settings history s) (hrunning : s.lifecycle.running = true) :
  InTurn settings (history ++ [(s, .stop)]) s.stopLifecycle.1
  := by
  obtain ⟨live, hk, hlive⟩ := hs.kept
  obtain ⟨attempts, hstop⟩ := System.stopsBy_of_running hrunning
  obtain ⟨visited, hvisit, hconclude⟩ := hstop.eq_visit
  obtain ⟨journal, hjournal⟩ := Shutdown.conclude_eq visited s.stopLifecycle.2
  rw [hjournal] at hconclude
  obtain ⟨f, L, registry, ownRegistries, hvisited⟩ :=
    s.beginStop.visit_fst (Shutdown.stages s.lifecycle.bindables)
  have hbegin : Kept settings s.beginStop live :=
    hk.of_grows ((Fabric.Grows.refl _).emit _) rfl rfl rfl
  have hreleased := hbegin.visit (Shutdown.stages s.lifecycle.bindables)
  rw [hvisit] at hvisited hreleased
  dsimp only at hvisited hreleased
  -- every destination that is attached is registered, and hence attempted
  have hattempted : ∀ name v, s.cache.get? name = some v →
      without live (attempts.map Attempt.key) name = false := by
    intro name v hv
    cases hname : live name with
    | false => simp [without, hname]
    | true =>
      have hregistered : name ∈ Bindable.registry.names s .producer :=
        s.registry.names_perm.mem_iff.mpr ((hlive hv).2 hname)
      have houtput := Bindable.mem_outputs hs.registry_mem (List.not_mem_nil) hregistered
      have hkey : (Role.producer, name) ∈ attempts.map Attempt.key := by
        rw [hstop.keys_eq]
        apply List.mem_append_right
        apply List.mem_map_of_mem houtput
      simp [without, hkey]
  have hcache : s.stopLifecycle.1.cache = s.cache := by
    rw [hconclude, hvisited]
    rfl
  constructor
  · rw [hstop.lifecycle_eq]
    apply hs.registry_mem
  · rw [hconclude, hvisited]
    apply hs.not_fixed
  · rw [hcache]
    apply hs.settled
  · refine ⟨without live (attempts.map Attempt.key), ?_, ?_⟩
    · rw [hconclude]
      exact hreleased.of_grows ⟨Nat.le_refl _, rfl, rfl, rfl⟩ rfl rfl rfl
    · intro name v hv
      rw [hcache] at hv
      have hdead := hattempted name v hv
      rw [hdead, Operation.spared_append]
      constructor
      · constructor
        · intro h
          cases h
        · rintro ⟨-, hspared⟩
          rw [hspared rfl hrunning] at hv
          cases hv
      · intro h
        cases h
  · intro found op hmem name v hv
    rw [hcache]
    rcases List.mem_append.mp hmem with hmem | hmem
    · apply hs.stays hmem hv
    · cases List.mem_singleton.mp hmem
      apply hv

/-- A destination that is bound is attached and registered, and no shutdown has met its name yet. -/
theorem bind (hs : InTurn settings history s) {name : String} (hnone : s.cache.get? name = none)
    {c : ChannelId} (hc : c = ⟨s.fabric.channels.size⟩) (hlt : c.index < s'.fabric.channels.size)
    {b : BindingId} {h : HandlerId} (ha : MemoryBinder.Attached s.bindersView s'.bindersView
      (settings.destination name) c b h)
    (hlifecycle : s'.lifecycle = s.lifecycle) (hfixed : s'.fixed = s.fixed)
    (hsettled : s'.cache.IsSettled) (hledger : s'.ledger = s.ledger.record .producer name [b])
    (hregistry : s'.registry = s.registry.add name c)
    (hcache : ∀ other, s'.cache.get? other
      = if name = other then some ⟨c, b⟩ else s.cache.get? other) :
  InTurn settings (history ++ [(s, .resolve name)]) s'
  := by
  obtain ⟨live, hk, hlive⟩ := hs.kept
  constructor
  · rw [hlifecycle]
    apply hs.registry_mem
  · rw [hfixed]
    apply hs.not_fixed
  · apply hsettled
  · refine ⟨Function.update live name true, hk.attach hnone hc hlt ha hledger hcache, ?_⟩
    intro other v hv
    have hspared : Operation.Spared (history ++ [(s, .resolve name)]) other
        ↔ Operation.Spared history other := by
      rw [Operation.spared_append, and_iff_left]
      rintro ⟨⟩
    rw [hspared, hregistry, Registry.add, Table.mem_keys_iff, Table.get?_insert]
    rw [hcache] at hv
    by_cases hother : name = other
    · subst hother
      rw [Function.update_self, if_pos rfl]
      refine ⟨iff_of_true rfl ?_, fun _ => rfl⟩
      -- had a shutdown met the name, it would still be cached
      intro found hfound _
      by_contra hcached
      obtain ⟨v', hv'⟩ := Option.ne_none_iff_exists'.mp hcached
      cases hnone.symm.trans (hs.stays hfound hv')
    · rw [if_neg hother] at hv
      rw [Function.update_of_ne (Ne.symm hother), if_neg hother, ← Table.mem_keys_iff]
      apply hlive hv
  · intro found op hmem other v hv
    have hold : s.cache.get? other = some v := by
      rcases List.mem_append.mp hmem with hmem | hmem
      · apply hs.stays hmem hv
      · cases List.mem_singleton.mp hmem
        apply hv
    rw [hcache, if_neg, hold]
    rintro rfl
    cases hnone.symm.trans hold

/-- A resolution attaches and registers the destination that it binds. -/
theorem resolve (hs : InTurn settings history s) {factory : Factory Unit}
    {callback : Option Callback} {name : String} {a : ResolutionAnswer}
    (h : (Resolution.process (MemoryBinder.setup settings factory callback)).Ends s { name } s' a) :
  InTurn settings (history ++ [(s, .resolve name)]) s'
  := by
  have hrules := (Resolution.decides hs.settled.sound hs.settled.entry_none).rules h
  have hsettled := Resolution.isSettled_of_ends hs.settled h
  have hkept : s.SameButJournal s' → InTurn settings (history ++ [(s, .resolve name)]) s' := by
    rintro ⟨journal, rfl⟩
    exact hs.append nofun rfl rfl hs.settled rfl rfl ⟨Nat.le_refl _, rfl, rfl, rfl⟩ rfl rfl
  cases hrules with
  | invalid _ hsame | fixed _ _ hsame | notAllowed _ _ _ hsame | cached _ _ _ _ hsame =>
    apply hkept hsame
  | failed _ announced answered hsettles =>
    obtain ⟨hgrows, hlt, hnone, hbinders⟩ := announced.grows
    obtain ⟨hlifecycle, hfixed, hledger, hregistry⟩ := announced.settles hsettles
    obtain ⟨journal, hfabric⟩ := hsettles.fabric
    rcases MemoryBinder.answers_cases answered hlt hnone with
      ⟨e', -, hgrows', hbinders'⟩ | ⟨_, _, herror, -⟩
    · apply hs.append
      · rintro ⟨⟩
      · rw [hlifecycle]
      · apply hfixed
      · apply hsettled
      · apply hsettles.get?_eq
      · apply hregistry
      · have hgrown := hgrows.trans hgrows'
        rw [hfabric]
        exact ⟨hgrown.size, hgrown.handlers, hgrown.bindings, hgrown.subscribers⟩
      · rw [hsettles.binders, hbinders', hbinders]
      · apply hledger
    · cases herror
  | @bound s₁ s₂ _ c properties b hnew announced answered hsettles =>
    obtain ⟨hgrows, hlt, hnone, hbinders⟩ := announced.grows
    obtain ⟨hlifecycle, hfixed, hledger, hregistry⟩ := announced.settles hsettles
    obtain ⟨journal, hfabric⟩ := hsettles.fabric
    rcases MemoryBinder.answers_cases answered hlt hnone with ⟨_, herror, -⟩ | ⟨b', k, hb, ha⟩
    · cases herror
    · cases hb
      have hattached : MemoryBinder.Attached s₁.bindersView s'.bindersView
          (settings.destination name) c b k := by
        rw [System.bindersView, System.bindersView, hfabric, hsettles.binders]
        exact ⟨ha.size, ha.fresh, ha.binding?_eq, ha.handler, ha.forwards, ha.subscribers_eq,
          ha.transport⟩
      have hlt' : c.index < s'.fabric.channels.size := by
        apply Nat.lt_of_lt_of_le hlt hattached.size
      apply hs.bind hnew.not_cached announced.fresh hlt' (hattached.of_grows hgrows _) hlifecycle
        hfixed hsettled hledger hregistry (congrFun hsettles.get?_eq)
      rw [hbinders]
      exact id

/-- A start attaches and releases nothing. -/
theorem start (hs : InTurn settings history s) :
  InTurn settings (history ++ [(s, .start)]) s.startLifecycle
  := by
  unfold System.startLifecycle
  split
  · exact hs.append nofun rfl rfl hs.settled rfl rfl (Fabric.Grows.refl _) rfl rfl
  · exact hs.append nofun rfl rfl hs.settled rfl rfl ((Fabric.Grows.refl _).emit _) rfl rfl

/-- Every operation keeps what holds between operations. -/
theorem does (hs : InTurn settings history s) {factory : Factory Unit} {callback : Option Callback}
    {op : Operation} (hop : op.Does (MemoryBinder.setup settings factory callback) s s') :
  InTurn settings (history ++ [(s, op)]) s'
  := by
  cases hop with
  | resolve h => apply hs.resolve h
  | start => apply hs.start
  | stop =>
    by_cases hrunning : s.lifecycle.running = true
    · apply hs.stop hrunning
    · rw [System.stopLifecycle_of_idle hrunning]
      exact hs.append (fun _ => Bool.not_eq_true _ ▸ hrunning) rfl rfl hs.settled rfl rfl
        (Fabric.Grows.refl _) rfl rfl

end InTurn

namespace Operation

variable {settings : Settings} {factory : Factory Unit} {callback : Option Callback}

/-- What holds between operations holds after all of them. -/
theorem Reaches.inTurn {s₀ s : System MemoryBinder} (hs₀ : InTurn settings [] s₀)
    {history : List (System MemoryBinder × Operation)}
    (h : Reaches (MemoryBinder.setup settings factory callback) s₀ history s) :
  InTurn settings history s
  := by
  induction h with
  | nil => apply hs₀
  | snoc _ hop ih => apply ih.does hop

/-- What is resolved to a channel, where nothing is fixed, is cached. -/
theorem cached_of_ends {history : List (System MemoryBinder × Operation)} {s s' : System MemoryBinder}
    (hs : InTurn settings history s) {name : String} {c : ChannelId}
    (h : (Resolution.process (MemoryBinder.setup settings factory callback)).Ends s { name } s'
      (.ok c)) :
  ∃ b, s'.cache.get? name = some ⟨c, b⟩
  := by
  cases (Resolution.decides hs.settled.sound hs.settled.entry_none).rules h with
  | fixed _ hfixed _ =>
    rw [hs.not_fixed] at hfixed
    cases hfixed
  | @cached _ _ b _ _ _ hcached hsame =>
    obtain ⟨journal, rfl⟩ := hsame
    exact ⟨b, hcached⟩
  | @bound _ _ _ _ _ b _ _ _ hsettles =>
    use b
    exact (congrFun hsettles.get?_eq name).trans (if_pos rfl)

/-- Whatever resolutions, starts and shutdowns run one after the other: a name that is resolved to a
channel is cached with a binding of it, and the binding is in place, with its handler, which forwards to
the transport channel of the destination, subscribed to the channel, if and only if no shutdown has met
the name. -/
theorem resolved_is_bound_iff (settings : Settings) (factory : Factory Unit)
    (callback : Option Callback) {s₀ s s' : System MemoryBinder} (hcache : s₀.cache = {})
    (hledger : s₀.ledger = {}) (hfixed : s₀.fixed = ∅)
    (hregistry : .registry ∈ s₀.lifecycle.bindables)
    {history : List (System MemoryBinder × Operation)}
    (hrun : Reaches (MemoryBinder.setup settings factory callback) s₀ history s) {name : String}
    {c : ChannelId} (h : (Resolution.process (MemoryBinder.setup settings factory callback)).Ends s
      { name } s' (.ok c)) :
  ∃ b binding handler transport, s'.cache.get? name = some ⟨c, b⟩
    ∧ s'.fabric.Attaches b binding c handler
    ∧ s'.binders.transports.get? (settings.destination name) = some transport
    ∧ s'.fabric.handler? handler = some (.forwarding transport)
    ∧ (binding.bound = true ↔ Spared history name)
    ∧ (handler ∈ s'.fabric.subscribers c ↔ Spared history name)
  := by
  have hs := hrun.inTurn (.nil hcache hledger hfixed hregistry)
  obtain ⟨b, hcached⟩ := cached_of_ends hs h
  obtain ⟨live, hk, hlive⟩ := (hs.resolve h).kept
  obtain ⟨handler, ht⟩ := hk.tied hcached
  obtain ⟨transport, htransport, hforwards⟩ := ht.forwards
  have hspared : live name = true ↔ Spared history name := by
    rw [(hlive hcached).1, spared_append, and_iff_left]
    rintro ⟨⟩
  refine ⟨b, _, handler, transport, hcached, ⟨ht.binding?_eq, rfl⟩, htransport, hforwards, hspared, ?_⟩
  rw [← hspared, ht.subscribers_eq]
  cases live name <;> simp

/-! ## A restart -/

/-- A system whose lifecycle holds the registry of the resolver. -/
def unstarted : System MemoryBinder :=
  { binders := {}, lifecycle := { bindables := [.registry] } }

/-- The system after a resolution of orders. -/
def resolveOrders (s : System MemoryBinder) : System MemoryBinder :=
  ((Resolution.process MemoryBinder.setup).endIn 7 s { name := "orders" }).elim s Prod.fst

/-- The system after orders are resolved while the lifecycle runs. -/
def resolvedOnce : System MemoryBinder := resolveOrders unstarted.startLifecycle

theorem ends_resolvedOnce :
  (Resolution.process MemoryBinder.setup).Ends unstarted.startLifecycle { name := "orders" }
    resolvedOnce (.ok ⟨0⟩)
  := ⟨7, rfl⟩

/-- Orders that are resolved while the lifecycle runs for the first time are attached. -/
theorem resolved_is_bound_iff_once :
  ∃ b binding handler transport, resolvedOnce.cache.get? "orders" = some ⟨⟨0⟩, b⟩
    ∧ resolvedOnce.fabric.Attaches b binding ⟨0⟩ handler
    ∧ resolvedOnce.binders.transports.get? "orders" = some transport
    ∧ resolvedOnce.fabric.handler? handler = some (.forwarding transport)
    ∧ (binding.bound = true ↔ Spared [(unstarted, .start)] "orders")
    ∧ (handler ∈ resolvedOnce.fabric.subscribers ⟨0⟩ ↔ Spared [(unstarted, .start)] "orders")
  := by
  have hregistry : .registry ∈ unstarted.lifecycle.bindables := List.mem_singleton_self _
  apply resolved_is_bound_iff {} _ none rfl rfl rfl hregistry
  · exact .snoc .nil .start
  · apply ends_resolvedOnce

/-- The system after a shutdown and another start. -/
def restarted : System MemoryBinder := resolvedOnce.stopLifecycle.1.startLifecycle

/-- What has happened up to the restart. -/
def untilRestart : List (System MemoryBinder × Operation) :=
  [(unstarted, .start), (unstarted.startLifecycle, .resolve "orders"), (resolvedOnce, .stop),
    (resolvedOnce.stopLifecycle.1, .start)]

theorem reaches_restarted :
  Reaches MemoryBinder.setup unstarted untilRestart restarted
  := .snoc (.snoc (.snoc (.snoc .nil .start) (.resolve ends_resolvedOnce)) .stop) .start

/-- After a restart, orders are resolved to a channel that nothing forwards: its binding is released, and
it has no subscribers, although the lifecycle runs. -/
theorem restart_hands_out_released :
  ∃ s' c b binding, Reaches MemoryBinder.setup unstarted untilRestart restarted
    ∧ restarted.lifecycle.running = true
    ∧ (Resolution.process MemoryBinder.setup).Ends restarted { name := "orders" } s' (.ok c)
    ∧ s'.cache.get? "orders" = some ⟨c, b⟩ ∧ s'.fabric.binding? b = some binding
    ∧ binding.bound = false ∧ s'.fabric.subscribers c = []
  := by
  have hs : InTurn {} untilRestart restarted :=
    reaches_restarted.inTurn (.nil rfl rfl rfl (List.mem_singleton_self _))
  have hrunning : restarted.lifecycle.running = true := by
    unfold restarted System.startLifecycle
    split
    · assumption
    · rfl
  have hmet : ¬ Spared untilRestart "orders" := by
    intro h
    have hnone := h resolvedOnce (by simp [untilRestart]) rfl
    cases hnone
  have hcached : restarted.cache.get? "orders" = some ⟨⟨0⟩, ⟨0⟩⟩ := by
    have hmem : (resolvedOnce, Operation.stop) ∈ untilRestart := by
      simp [untilRestart]
    apply hs.stays hmem rfl
  have hname : ¬ IsRejected "orders" := Resolution.isValidName_iff.mp rfl
  have hends : (Resolution.process MemoryBinder.setup).Ends restarted { name := "orders" } _
      (.ok ⟨0⟩) :=
    (Resolution.ends_cached hname (hs.not_fixed _) (Or.inl rfl) hcached _ _).mpr ⟨rfl, rfl⟩
  obtain ⟨live, hk, hlive⟩ := hs.kept
  obtain ⟨handler, ht⟩ := hk.tied hcached
  have hdead : live "orders" = false := by
    rw [← Bool.not_eq_true, (hlive hcached).1]
    apply hmet
  rw [hdead] at ht
  exact ⟨_, _, _, _, reaches_restarted, hrunning, hends, hcached, ht.binding?_eq, rfl,
    ht.subscribers_eq⟩

end Operation

end ChannelBinding
