import ChannelBinding.Proofs.Demo.Calls
import ChannelBinding.Proofs.Demo.Clearing
import ChannelBinding.Proofs.Demo.Tally
import Mathlib.Data.List.Dedup

/-!
# Runs of the demo

The demo binds its inputs, resolves and publishes on one destination after the other, shuts down, and sums
up.  Each of these parts either ends the program, since a bind or a resolution has failed, or leads to where
the next one begins.  `body_accounts` puts them together: unless a name cannot be served, a run comes to its
shutdown, has accounted for each message, and has left nothing bound.
-/

namespace ChannelBinding

namespace Demo

/-! ## Parts -/

/-- Whether a bind or a resolution has failed. -/
def IsFailure : DemoError → Prop
  | .binding _ | .resolution _ => True
  | .config _ | .stalled => False

/-- Whether a part of the demo leads to where something holds, or ends the program since a bind or a
resolution has failed, for which there is a reason. -/
def Leads {α : Type} (reason : Prop) (part : Part α) (s : DemoSystem) (Q : α → DemoSystem → Prop) :
    Prop :=
  match part s with
  | .ok (a, s') => Q a s'
  | .error (e, _) => IsFailure e ∧ reason

section Parts

variable {α β : Type} {reason : Prop} {s : DemoSystem}

/-- A part that is followed by another one leads to where the other one leads from there. -/
theorem Leads.bind {part : Part α} {next : α → Part β} {Q : α → DemoSystem → Prop}
    {R : β → DemoSystem → Prop} (h : Leads reason part s Q)
    (hnext : ∀ {a s'}, Q a s' → Leads reason (next a) s' R) :
  Leads reason (part >>= next) s R
  := by
  have hbind : (part >>= next) s = (part s).bind fun x => next x.1 x.2 := rfl
  unfold Leads at h ⊢
  rw [hbind]
  cases hpart : part s with
  | error x =>
    rw [hpart] at h
    exact h
  | ok x =>
    rw [hpart] at h
    exact hnext h

theorem Leads.pure {a : α} {Q : α → DemoSystem → Prop} (h : Q a s) :
  Leads reason (Pure.pure a) s Q
  := h

/-- A part that looks at the system first goes by the system that it begins with. -/
theorem Leads.get_bind {next : DemoSystem → Part α} {Q : α → DemoSystem → Prop}
    (h : Leads reason (next s) s Q) :
  Leads reason (get >>= next) s Q
  := h

/-- A part that sets the system first goes on from there. -/
theorem Leads.set_bind {s₁ : DemoSystem} {next : PUnit → Part α} {Q : α → DemoSystem → Prop}
    (h : Leads reason (next ⟨⟩) s₁ Q) :
  Leads reason (set s₁ >>= next) s Q
  := h

/-- A part that changes the system first goes on from there. -/
theorem Leads.modify_bind {change : DemoSystem → DemoSystem} {next : PUnit → Part α}
    {Q : α → DemoSystem → Prop} (h : Leads reason (next ⟨⟩) (change s) Q) :
  Leads reason (modify change >>= next) s Q
  := h

theorem Leads.report {e : Event} {Q : Unit → DemoSystem → Prop} (h : Q () (s.emit e)) :
  Leads reason (Demo.report e) s Q
  := h

theorem Leads.imp {part : Part α} {Q R : α → DemoSystem → Prop} (h : Leads reason part s Q)
    (himp : ∀ {a s'}, Q a s' → R a s') :
  Leads reason part s R
  := by
  unfold Leads at h ⊢
  split
  · rename_i heq
    rw [heq] at h
    exact himp h
  · rename_i heq
    rw [heq] at h
    exact h

/-- A process that comes to an end leads to where it ends. -/
theorem Leads.finish {ρ : Type} {P : Process DemoSystem ρ α}
    {begin : DemoSystem → DemoSystem × Progress ρ α} {Q : DemoSystem → α → Prop}
    (h : ∃ a s', Demo.finish P begin s = .ok (a, s') ∧ Q s' a) :
  Leads reason (Demo.finish P begin) s fun a s' => Q s' a
  := by
  obtain ⟨a, s', hfinish, hq⟩ := h
  unfold Leads
  rw [hfinish]
  exact hq

/-- A part that is done for each of some things in turn leads from step to step, where each step may be seen
by what has been done and by what it has come to. -/
theorem Leads.mapM {P : List α → List β → DemoSystem → Prop} {part : α → Part β} {xs : List α}
    (h : P [] [] s) (hstep : ∀ {done results s a}, a ∈ xs → P done results s →
      Leads reason (part a) s fun b => P (done ++ [a]) (results ++ [b])) :
  Leads reason (xs.mapM part) s fun results => P xs results
  := by
  have hgeneral : ∀ (todo : List α) {done results s}, todo ⊆ xs → P done results s →
      Leads reason (todo.mapM part) s fun more => P (done ++ todo) (results ++ more) := by
    intro todo
    induction todo with
    | nil =>
      intro done results s _ h
      rw [List.mapM_nil, List.append_nil]
      apply Leads.pure
      rw [List.append_nil]
      exact h
    | cons a todo ih =>
      intro done results s hsub h
      obtain ⟨ha, htodo⟩ := List.cons_subset.mp hsub
      rw [List.mapM_cons]
      apply (hstep ha h).bind
      intro b s' hb
      apply (ih htodo hb).bind
      intro more s'' hmore
      apply Leads.pure
      rw [List.append_assoc, List.append_assoc] at hmore
      exact hmore
  exact hgeneral xs (List.Subset.refl xs) h

theorem Leads.forM {P : List α → DemoSystem → Prop} {part : α → Part PUnit} {xs : List α} (h : P [] s)
    (hstep : ∀ {done s a}, a ∈ xs → P done s → Leads reason (part a) s fun _ => P (done ++ [a])) :
  Leads reason (xs.forM part) s fun _ => P xs
  := by
  have hgeneral : ∀ (todo : List α) {done s}, todo ⊆ xs → P done s →
      Leads reason (todo.forM part) s fun _ => P (done ++ todo) := by
    intro todo
    induction todo with
    | nil =>
      intro done s _ h
      rw [List.append_nil]
      exact Leads.pure h
    | cons a todo ih =>
      intro done s hsub h
      obtain ⟨ha, htodo⟩ := List.cons_subset.mp hsub
      rw [List.forM]
      apply (hstep ha h).bind
      intro _ s' hnext
      have hrest := ih htodo hnext
      rw [List.append_assoc] at hrest
      exact hrest
  exact hgeneral xs (List.Subset.refl xs) h

end Parts

/-! ## Inputs -/

variable {settings : Settings} {names : List String} {inputs : List Input} {s : DemoSystem}

/-- Whether a name of the demo cannot be served. -/
def HasUnserved (settings : Settings) (names : List String) : Prop :=
  ∃ name ∈ names, ¬ IsServed settings name

/-- The system before the demo does anything. -/
def start : DemoSystem := ({ binders := {} } : DemoSystem).emit .programStarted

/-- The input that is added next for a name. -/
def nextInput (f : Fabric) (name : String) : Input := ⟨name, ⟨f.channels.size⟩, ⟨f.handlers.size⟩⟩

/-- Adds an input with a handler that reports. -/
def addInput (f : Fabric) (channel : Channel) (name : String) : Fabric :=
  (((f.addChannel channel).1.addHandler (.reporting name 0)).1.subscribe ⟨f.channels.size⟩
    ⟨f.handlers.size⟩).1

/-- What it is to add an input. -/
structure AddsInput (f f' : Fabric) (i : Input) : Prop where
  quiet : f.Quiet f'
  bindings : f'.bindings = f.bindings
  handler : f'.handler? i.handler = some (.reporting i.name 0)
  subscribers_eq : ∀ c, f'.subscribers c = if c = i.channel then [i.handler] else f.subscribers c

theorem addsInput (f : Fabric) {channel : Channel} (hchannel : channel.subscribers = [])
    (name : String) :
  AddsInput f (addInput f channel name) (nextInput f name)
  := by
  obtain ⟨c, hc⟩ : ∃ c, (⟨f.channels.size⟩ : ChannelId) = c := ⟨_, rfl⟩
  obtain ⟨h, hh⟩ : ∃ h, (⟨f.handlers.size⟩ : HandlerId) = h := ⟨_, rfl⟩
  obtain ⟨f₁, hf₁⟩ : ∃ f₁, ((f.addChannel channel).1.addHandler (.reporting name 0)).1 = f₁ := ⟨_, rfl⟩
  have hadd : addInput f channel name = (f₁.subscribe c h).1 := by
    rw [← hf₁, ← hc, ← hh]
    rfl
  have hnext : nextInput f name = ⟨name, c, h⟩ := by
    rw [← hc, ← hh]
    rfl
  have hempty : f.subscribers c = [] := subscribers_of_size_le (hc ▸ Nat.le_refl _)
  have hquiet : f.Quiet f₁ := by
    rw [← hf₁]
    exact ((Fabric.Quiet.refl f).addChannel _).addHandler _
  have hchannels : ∀ c', f₁.channel? c' = if c' = c then some channel else f.channel? c' := by
    rw [← hf₁, ← hc]
    intro c'
    exact f.channel?_addChannel c' channel
  have hself : f₁.handler? h = some (.reporting name 0) := by
    rw [← hf₁, ← hh]
    exact (f.addChannel channel).1.handler?_addHandler_self _
  have hbindings : f₁.bindings = f.bindings := by
    rw [← hf₁]
    rfl
  have hsubscribers : ∀ c', f₁.subscribers c' = f.subscribers c' := by
    intro c'
    rw [Fabric.subscribers, hchannels]
    split
    · rename_i heq
      rw [heq, hempty]
      exact hchannel
    · rfl
  have hlt : c.index < f₁.channels.size := by
    rw [← hf₁, ← hc]
    exact Nat.lt_of_lt_of_eq (Nat.lt_succ_self _) (Array.size_push _).symm
  have hnew : h ∉ f₁.subscribers c := by
    rw [hsubscribers, hempty]
    exact List.not_mem_nil
  rw [hadd, hnext]
  constructor
  · exact hquiet.subscribe _ _
  · rw [← hbindings]
    exact (f₁.extends_subscribe _ _).1.bindings
  · exact ((Fabric.Quiet.refl f₁).subscribe _ _).handler hself
  · intro c'
    rw [Fabric.subscribers_subscribe_of_new hlt hnew, hsubscribers]
    by_cases hc' : c' = c
    · rw [if_pos hc'.symm, if_pos hc', hc', hempty]
      rfl
    · rw [if_neg (Ne.symm hc'), if_neg hc']

/-- The layout of the demo with one more input, which nobody forwards to yet. -/
theorem Layout.addInput {f f' : Fabric} {m : MemoryBinder} (hl : Layout settings inputs f m)
    {name : String} (hadds : AddsInput f f' (nextInput f name)) :
  Layout settings (inputs ++ [nextInput f name]) f' m
  := by
  have hother : ∀ {c : ChannelId}, c.index < f.channels.size →
      f'.subscribers c = f.subscribers c := by
    intro c hc
    rw [hadds.subscribers_eq, if_neg]
    rintro rfl
    exact Nat.lt_irrefl _ hc
  constructor
  · refine List.forall_mem_append.mpr ⟨?_, ?_⟩
    · intro i hi
      obtain ⟨hsubscriber, received, hh⟩ := hl.input i hi
      rw [hother (hl.input_lt hi)]
      exact ⟨hsubscriber, received, hadds.quiet.handler hh⟩
    · rw [List.forall_mem_singleton, hadds.subscribers_eq, if_pos rfl]
      exact ⟨rfl, 0, hadds.handler⟩
  · rw [List.map_append, List.map_singleton]
    refine List.nodup_append_comm.mp (List.nodup_cons.mpr ⟨?_, hl.input_inj⟩)
    intro hmem
    obtain ⟨i, hi, heq⟩ := List.mem_map.mp hmem
    obtain ⟨-, received, hh⟩ := hl.input i hi
    rw [heq] at hh
    exact Nat.lt_irrefl _ (Array.getElem?_eq_some_iff.mp hh).1
  · intro d t ht
    exact Nat.lt_of_lt_of_le (hl.transport_lt ht) hadds.quiet.size
  · exact hl.transport_inj
  · intro d t ht
    refine List.forall_mem_append.mpr ⟨hl.transport_ne ht, ?_⟩
    rw [List.forall_mem_singleton]
    rintro rfl
    exact Nat.lt_irrefl _ (hl.transport_lt ht)
  · intro d t ht h hh
    rw [hother (hl.transport_lt ht)] at hh
    obtain ⟨i, hi, hd, hforwards⟩ := hl.heard ht h hh
    exact ⟨i, List.mem_append_left _ hi, hd, hadds.quiet.handler hforwards⟩

/-- How matters stand while inputs are bound. -/
structure Prepares (settings : Settings) (names : List String) (inputs : List Input) (s : DemoSystem) :
    Prop where
  layout : Layout settings inputs s.fabric s.binders
  booked : Booked names [] s.fabric s.ledger s.registry
  tally : Tally settings names inputs [] [] s.fabric
  cache_eq : s.cache = {}
  fixed_eq : s.fixed = ∅
  lifecycle_eq : s.lifecycle = {}

theorem prepares_start (settings : Settings) (names : List String) :
  Prepares settings names [] start
  := by
  constructor
  · constructor
    · exact List.forall_mem_nil _
    · exact List.nodup_nil
    · rintro d t ⟨⟩
    · rintro d d' t ⟨⟩
    · rintro d t ⟨⟩
    · rintro d t ⟨⟩
  · constructor
    · rintro b binding ⟨⟩
    · rintro b binding ⟨⟩
  · refine ⟨rfl, .nil, ?_⟩
    rintro k i ⟨⟩
  · rfl
  · rfl
  · rfl

/-- To bind an input is to add it and to let a consumer bind run to its end. -/
theorem bindInput_eq (setup : DemoSetup) (name : String) (s : DemoSystem) :
  let i := nextInput s.fabric name
  bindInput setup name s
    = (finish (ConsumerBind.process setup)
        (fun s => ConsumerBind.begin setup s i.name i.channel) >>= fun answer =>
          match answer with
          | .ok _ => pure i.handler
          | .error e => abort (.binding e))
      { s with fabric := addInput s.fabric (setup.newChannel name) name }
  := rfl

/-- To bind an input keeps to the layout. -/
theorem leads_bindInput {name : String} (hname : name ∈ names) (h : Prepares settings names inputs s) :
  Leads (HasUnserved settings names) (bindInput (setup settings) name) s fun handler s' =>
    ∃ i : Input, i.name = name ∧ i.handler = handler ∧ Prepares settings names (inputs ++ [i]) s'
  := by
  obtain ⟨i, hi⟩ : ∃ i, nextInput s.fabric name = i := ⟨_, rfl⟩
  obtain ⟨added, hadded⟩ : ∃ added : DemoSystem, { s with
      fabric := addInput s.fabric ((setup settings).newChannel name) name } = added := ⟨_, rfl⟩
  have hadds : AddsInput s.fabric added.fabric (nextInput s.fabric name) := by
    rw [← hadded]
    exact addsInput s.fabric rfl name
  have hlayout : Layout settings (inputs ++ [i]) added.fabric added.binders := by
    rw [← hi, ← hadded]
    exact h.layout.addInput (hadded ▸ hadds)
  have hbooked : Booked names [] added.fabric added.ledger added.registry := by
    rw [← hadded]
    exact h.booked.of_bindings (hadded ▸ hadds.bindings)
  have htally : Tally settings names (inputs ++ [i]) [] [] added.fabric := by
    rw [← hi]
    exact h.tally.addInput hadds.quiet hadds.handler
  have hmem : i ∈ inputs ++ [i] := List.mem_append_right _ (List.mem_singleton_self i)
  have hfinish := finish_consume (s := added) hmem (hi ▸ hname) hlayout hbooked
  rw [Leads, bindInput_eq, hi, hadded]
  apply (Leads.finish hfinish).bind
  intro answer s' hconsumed
  cases answer with
  | error e => exact ⟨trivial, i.name, hi ▸ hname, hconsumed⟩
  | ok bs =>
    have hattaches : Attaches settings names (inputs ++ [i]) added [] s' := hconsumed
    obtain ⟨hcache, hfixed, hlifecycle⟩ : s'.cache = s.cache ∧ s'.fixed = s.fixed
        ∧ s'.lifecycle = s.lifecycle := by
      rw [hattaches.rest, ← hadded]
      exact ⟨rfl, rfl, rfl⟩
    apply Leads.pure
    refine ⟨i, hi ▸ rfl, rfl, hattaches.layout, hattaches.booked, htally.of_quiet hattaches.quiet,
      hcache.trans h.cache_eq, hfixed.trans h.fixed_eq, hlifecycle.trans h.lifecycle_eq⟩

/-! ## Messages -/

/-- How matters stand when messages were published under some names. -/
structure Publishes (settings : Settings) (names : List String) (inputs : List Input)
    (published : List String) (hearers : List (Option Nat)) (s : DemoSystem) : Prop where
  ready : IsReady settings names inputs s
  tally : Tally settings names inputs published hearers s.fabric
  cached : ∀ p, (s.cache.get? p).isSome ↔ p ∈ published
  lifecycle_eq : s.lifecycle = ⟨[.targets names [], .registry], true⟩

/-- When the inputs are bound, the lifecycle is started and nothing has been published. -/
theorem Prepares.publishes (h : Prepares settings names inputs s) :
  Publishes settings names inputs [] []
    ((s.addBindable (.targets names [])).addBindable .registry).startLifecycle
  := by
  have hrunning : ((s.addBindable (.targets names [])).addBindable .registry).lifecycle
      = ⟨[.targets names [], .registry], false⟩ := by
    rw [System.addBindable, System.addBindable, h.lifecycle_eq]
    rfl
  have hnone : ∀ p, s.cache.get? p = none := by
    intro p
    rw [h.cache_eq]
    rfl
  have hquiet := (Fabric.Quiet.refl s.fabric).emit (e := .lifecycleStarted 2) rfl
  rw [System.startLifecycle, hrunning, if_neg Bool.false_ne_true]
  constructor
  · constructor
    · exact h.layout.of_quiet hquiet fun _ _ => rfl
    · intro p v hv
      cases (hnone p).symm.trans hv
    · exact h.booked.of_bindings rfl
    · exact h.cache_eq ▸ Cache.isSettled_empty
    · exact h.cache_eq ▸ List.nodup_nil
    · exact fun p => h.fixed_eq ▸ rfl
  · exact h.tally.of_quiet hquiet
  · intro p
    have hcached : (s.cache.get? p).isSome ↔ p ∈ [] := by
      simp [hnone]
    exact hcached
  · rfl

/-- What is made of the fabric is all that matters between calls, as long as what was bound stays in place. -/
theorem IsReady.withFabric (h : IsReady settings names inputs s) {f : Fabric}
    (hlayout : Layout settings inputs f s.binders)
    (houtput : ∀ {d c}, IsOutput d c s.fabric s.binders → IsOutput d c f s.binders)
    (hbindings : f.bindings = s.fabric.bindings) :
  IsReady settings names inputs { s with fabric := f }
  := ⟨hlayout, fun hv => houtput (h.outputs hv), h.booked.of_bindings hbindings, h.settled,
    h.entries_nodup, h.not_fixed⟩

/-- To publish on a destination accounts for one more message. -/
theorem leads_publish {published : List String} {hearers : List (Option Nat)}
    (hnames : inputs.map Input.name = names) (payload : List UInt8) {name : String}
    (hname : name ∈ names) (h : Publishes settings names inputs published hearers s) :
  Leads (HasUnserved settings names) (publish (setup settings) payload name) s fun _ s' =>
    ∃ hearer, Publishes settings names inputs (published ++ [name]) (hearers ++ [hearer]) s'
  := by
  apply (Leads.finish (finish_resolve h.ready name)).bind
  intro answer s' hresolved
  cases answer with
  | error e => exact ⟨trivial, name, hname, hresolved⟩
  | ok output =>
    obtain ⟨hquiet, hready, hlifecycle, ⟨b, hcached⟩, hcache⟩ := hresolved
    have htally := h.tally.of_quiet hquiet
    have hnow : ∀ p, (s'.cache.get? p).isSome ↔ p ∈ published ++ [name] := by
      intro p
      rw [hcache, h.cached, List.mem_append, List.mem_singleton, or_comm]
    obtain ⟨f, msg, hmint⟩ : ∃ f msg, s'.fabric.mint ∅ payload = (f, msg) := ⟨_, _, rfl⟩
    have hf : (s'.fabric.mint ∅ payload).1 = f := congrArg Prod.fst hmint
    have hid : msg.id = ⟨s'.fabric.minted⟩ := congrArg (·.2.id) hmint.symm
    have hlayout : Layout settings inputs f s'.binders := by
      rw [← hf]
      exact hready.layout.of_kept (Nat.le_refl _) id fun _ _ => rfl
    have hminted : ∀ {d c}, IsOutput d c s'.fabric s'.binders → IsOutput d c f s'.binders := by
      rw [← hf]
      exact id
    have houtput : IsOutput (settings.destination name) output f s'.binders :=
      hminted (hready.outputs hcached)
    obtain ⟨f', o, hdeliver, harrives⟩ := deliver_output hlayout houtput msg
    apply Leads.get_bind
    simp only [hmint, hdeliver]
    apply Leads.set_bind
    rcases harrives with ⟨i, hi, hbound, hok, hears⟩ | ⟨⟨e, he⟩, hpasses⟩
    · rw [hok]
      apply Leads.pure
      obtain ⟨k, hk⟩ := List.getElem?_of_mem hi
      have hinput : names[k]? = some i.name := by
        rw [← hnames, List.getElem?_map, hk]
        rfl
      rw [hid] at hears
      refine ⟨some k, ?_, ?_, hnow, hlifecycle.trans h.lifecycle_eq⟩
      · exact hready.withFabric (hlayout.of_hears hears) (fun ho => (hminted ho).of_hears hears)
          (hears.bindings.trans (hf ▸ rfl))
      · exact htally.hears hlayout.input_inj hk hinput hbound (hf.symm ▸ hears)
    · rw [he]
      apply Leads.report
      refine ⟨none, ?_, ?_, hnow, hlifecycle.trans h.lifecycle_eq⟩
      · refine hready.withFabric ?_ ?_ (hpasses.bindings.trans (hf ▸ rfl))
        · exact (hlayout.of_passes hpasses).of_kept (Nat.le_refl _) id fun _ _ => rfl
        · intro d c ho
          have hkept : IsOutput d c f' s'.binders :=
            (hminted ho).of_quiet hpasses.toQuiet (congrFun hpasses.subscribers c) id
          exact hkept
      · exact htally.refuse (hf.symm ▸ hpasses) e

/-- To bind all inputs keeps to the layout. -/
theorem leads_inputs (settings : Settings) (names : List String) :
  Leads (HasUnserved settings names) (names.mapM (bindInput (setup settings))) start fun handlers s =>
    ∃ inputs : List Input, inputs.map Input.name = names ∧ inputs.map Input.handler = handlers
      ∧ Prepares settings names inputs s
  := by
  refine Leads.mapM (P := fun done handlers s => ∃ inputs : List Input,
    inputs.map Input.name = done ∧ inputs.map Input.handler = handlers
      ∧ Prepares settings names inputs s) ⟨[], rfl, rfl, prepares_start settings names⟩ ?_
  rintro done handlers s name hname ⟨inputs, rfl, rfl, hprepares⟩
  apply (leads_bindInput hname hprepares).imp
  rintro handler s' ⟨i, rfl, rfl, hprepares'⟩
  exact ⟨inputs ++ [i], List.map_append, List.map_append, hprepares'⟩

/-- To publish on all destinations accounts for one message after the other. -/
theorem leads_messages (hnames : inputs.map Input.name = names) (payload : List UInt8)
    (h : Publishes settings names inputs [] [] s) :
  Leads (HasUnserved settings names) (names.forM (publish (setup settings) payload)) s fun _ s' =>
    ∃ hearers, Publishes settings names inputs names hearers s'
  := by
  refine Leads.forM (P := fun done s' =>
    ∃ hearers, Publishes settings names inputs done hearers s') ⟨[], h⟩ ?_
  rintro done s name hname ⟨hearers, hpublishes⟩
  apply (leads_publish hnames payload hname hpublishes).imp
  rintro _ s' ⟨hearer, hpublishes'⟩
  exact ⟨hearers ++ [hearer], hpublishes'⟩

/-! ## Accounts -/

/-- The number of resolved destinations, where those are resolved that messages were published on. -/
theorem Publishes.size_eq {published : List String} {hearers : List (Option Nat)}
    (h : Publishes settings names inputs published hearers s) :
  s.cache.size = published.dedup.length
  := by
  have hperm : s.cache.names.Perm (s.cache.entries.keys.filter fun p => (s.cache.get? p).isSome) :=
    List.mergeSort_perm _ _
  rw [Cache.size, hperm.length_eq]
  apply List.Perm.length_eq
  rw [List.perm_ext_iff_of_nodup (h.ready.entries_nodup.filter _) published.nodup_dedup]
  intro p
  rw [List.mem_filter, List.mem_dedup, ← h.cached, and_iff_right_of_imp]
  -- what is cached has a cell
  intro hp
  rw [Table.mem_keys_iff]
  cases hentry : s.cache.entries.get? p with
  | none =>
    rw [Cache.get?, hentry] at hp
    cases hp
  | some cell => rfl

/-- What a run of the demo that comes to its shutdown leaves behind; `hearers` tells for each message which
handler has counted it, if one has. -/
structure Accounts (settings : Settings) (names : List String) (hearers : List (Option Nat))
    (s : DemoSystem) : Prop where
  /-- Each message was told of as it was counted or refused.  Then each handler has summed up what it has
  counted, and the demo the destinations that it has resolved, each once. -/
  told : ∃ events failures, Recounts settings names names hearers events
    ∧ s.fabric.demoTold = events ++ summaries names (fun k => hearers.count (some k))
      ++ [.programEnded names.dedup.length failures]
  /-- What the handlers have counted and the warnings add up to the number of destinations. -/
  adds_up : Event.total s.fabric.told + s.fabric.told.countP Event.isWarning = names.length
  /-- A handler has counted a message only if it is bound to the destination of the message. -/
  bound : ∀ {j k : Nat}, hearers[j]? = some (some k) → ∃ name input, names[j]? = some name
    ∧ names[k]? = some input
    ∧ settings.destination name ∈ Text.commaParts (settings.destination input)
  /-- Nothing is bound any more. -/
  unbound : ∀ {b binding}, s.fabric.binding? b = some binding → binding.bound = false

/-- Who sums up does not warn. -/
theorem countP_summaries (names : List String) (counts : Nat → Nat) :
  (summaries names counts).countP Event.isWarning = 0
  := by
  rw [List.countP_eq_zero]
  intro e he
  obtain ⟨k, hk, rfl⟩ := List.mem_mapIdx.mp he
  exact Bool.false_ne_true

/-- When every message is accounted for, the sums that are told in the end are right. -/
theorem Recounts.accounts {hearers : List (Option Nat)} {events : List Event}
    (h : Recounts settings names names hearers events) (failures : Nat)
    (htold : s.fabric.demoTold = events ++ summaries names (fun k => hearers.count (some k))
      ++ [.programEnded names.dedup.length failures])
    (hunbound : ∀ {b binding}, s.fabric.binding? b = some binding → binding.bound = false) :
  Accounts settings names hearers s
  := by
  refine ⟨⟨events, failures, h, htold⟩, ?_, h.bound, hunbound⟩
  rw [← Event.total_filter_isOfDemo, ← Event.countP_filter_isOfDemo, ← Fabric.demoTold, htold,
    Event.total_append, Event.total_append, h.total_eq, List.countP_append, List.countP_append,
    countP_summaries, Nat.zero_add]
  exact h.total_add_warnings

/-- To report on some things in turn is to tell of them in turn. -/
theorem leads_reports {α : Type} (reason : Prop) (event : α → Event)
    (hevent : ∀ a, (event a).isOfDemo = true) (s : DemoSystem) (todo : List α) :
  Leads reason (todo.forM fun a => report (event a)) s fun _ s' =>
    s'.fabric.demoTold = s.fabric.demoTold ++ todo.map event
      ∧ s'.fabric.bindings = s.fabric.bindings
  := by
  refine Leads.forM (P := fun done s' => s'.fabric.demoTold = s.fabric.demoTold ++ done.map event
    ∧ s'.fabric.bindings = s.fabric.bindings) ⟨?_, rfl⟩ ?_
  · rw [List.map_nil, List.append_nil]
  · intro done s' a _ ⟨htold, hbindings⟩
    apply Leads.report
    refine ⟨?_, hbindings⟩
    have hemit := s'.fabric.demoTold_emit (hevent a)
    rw [htold, List.append_assoc] at hemit
    rw [List.map_append]
    exact hemit

/-- What the handlers of the inputs have counted is what is summed up. -/
theorem summaries_eq {hearers : List (Option Nat)} {f : Fabric}
    (hnames : inputs.map Input.name = names)
    (hcounted : ∀ {k i}, inputs[k]? = some i →
      f.handler? i.handler = some (.reporting i.name (hearers.count (some k)))) :
  (names.zip (inputs.map Input.handler)).map (fun x => .summary x.1 (receivedCount f x.2))
    = summaries names fun k => hearers.count (some k)
  := by
  apply List.ext_getElem?
  intro k
  rw [summaries, ← hnames, List.zip_map', List.map_map, List.getElem?_map, List.getElem?_mapIdx,
    List.getElem?_map]
  cases hk : inputs[k]? with
  | none => rfl
  | some i =>
    have hreceived : receivedCount f i.handler = hearers.count (some k) := by
      rw [receivedCount, hcounted hk]
    simp only [Option.map_some, Function.comp_apply, hreceived]

/-- A run of the demo fails since a name cannot be served, or it comes to its shutdown and accounts for
everything: what the handlers have counted and the warnings add up to the number of destinations, no handler
has counted what it is not bound to, the destinations are reported once each, and nothing stays bound. -/
theorem body_accounts (config : DemoConfig) :
  (∃ e s, body config start = .error (e, s) ∧ IsFailure e
      ∧ HasUnserved config.settings config.plan.destinations)
    ∨ ∃ s hearers, body config start = .ok ((), s)
      ∧ Accounts config.settings config.plan.destinations hearers s
  := by
  obtain ⟨settings, names, payload⟩ := config
  have hleads : Leads (HasUnserved settings names) (body ⟨settings, ⟨names, payload⟩⟩) start
      fun _ s => ∃ hearers, Accounts settings names hearers s := by
    unfold body
    apply (leads_inputs settings names).bind
    rintro handlers s ⟨inputs, hnames, rfl, hprepares⟩
    apply Leads.modify_bind
    apply (leads_messages hnames payload.toUTF8.toList hprepares.publishes).bind
    rintro ⟨⟩ s ⟨hearers, hpublishes⟩
    obtain ⟨hquiet, hcache, hunbound⟩ := stop_clears hpublishes.lifecycle_eq hpublishes.ready.booked
    obtain ⟨stopped, failures, hstop⟩ : ∃ stopped failures, s.stopLifecycle = (stopped, failures) :=
      ⟨_, _, rfl⟩
    rw [hstop] at hquiet hcache hunbound
    apply Leads.get_bind
    simp only [hstop]
    apply Leads.set_bind
    have htally := hpublishes.tally.of_quiet hquiet
    have hsummaries := summaries_eq hnames htally.counted
    have hreports := leads_reports (HasUnserved settings names)
      (fun x => .summary x.1 (receivedCount stopped.fabric x.2))
      (fun _ => rfl) stopped (names.zip (inputs.map Input.handler))
    rw [hsummaries] at hreports
    apply hreports.bind
    rintro ⟨⟩ s' ⟨htold, hbindings⟩
    apply Leads.report
    have hsize : stopped.cache.size = names.dedup.length := hcache ▸ hpublishes.size_eq
    rw [hsize]
    refine ⟨hearers, htally.recounts.accounts failures.length ?_ ?_⟩
    · rw [← htold]
      exact s'.fabric.demoTold_emit rfl
    · intro b binding hb
      exact hunbound ((congrArg (·[b.index]?) hbindings).symm.trans hb)
  unfold Leads at hleads
  split at hleads
  · rename_i s hbody
    obtain ⟨hearers, haccounts⟩ := hleads
    exact Or.inr ⟨s, hearers, hbody, haccounts⟩
  · rename_i e s hbody
    exact Or.inl ⟨e, s, hbody, hleads⟩

end Demo

end ChannelBinding
