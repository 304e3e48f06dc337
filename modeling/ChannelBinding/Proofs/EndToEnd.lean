import ChannelBinding.Proofs.Network
import ChannelBinding.Proofs.Wiring

/-!
# Delivery from end to end

Whatever was bound and unbound before, a message sent on an output is accepted exactly if a producer
binding of the output and a consumer binding of the same destination are in force and a handler of the
consumer's input accepts it; then one such handler alone accepts it, and it is the last that is called.
No call goes through a binding that is not in force any more.
-/

namespace ChannelBinding

namespace World

/-! ## Routes -/

/-- Whether a handler holds a producer binding in place that is in force. -/
def Produces (w : World Unit MemoryBinder MemoryCall) (o : ChannelId) (d : String) (p : HandlerId) :
    Prop :=
  ∃ b binding, w.system.fabric.Attaches b binding o p ∧ binding.role = .producer
    ∧ binding.name = d ∧ binding.InForce b w.task

/-- Whether a handler holds a consumer binding in place that is in force. -/
def Consumes (w : World Unit MemoryBinder MemoryCall) (d : String) (i : ChannelId) (c : HandlerId) :
    Prop :=
  ∃ b binding t, w.system.fabric.Attaches b binding t c ∧ binding.role = .consumer
    ∧ binding.name = d ∧ binding.InForce b w.task ∧ w.system.fabric.handler? c = some (.forwarding i)

/-- Whether a handler is subscribed to a channel and accepts every message. -/
def Accepts (w : World Unit MemoryBinder MemoryCall) (i : ChannelId) (h : HandlerId) : Prop :=
  h ∈ w.system.fabric.subscribers i ∧ w.system.fabric.manner h = some (.answering (.ok ()))

/-- Whether bindings in force lead from an output over the transport channel of a destination to an
input. -/
def Leads (w : World Unit MemoryBinder MemoryCall) (o t i : ChannelId) (p c : HandlerId) : Prop :=
  ∃ d, w.Produces o d p ∧ w.system.binders.transports.get? d = some t ∧ w.Consumes d i c

/-- The calls that bring a message from an output to a handler of an input, all of them accepted. -/
def routeCalls (w : World Unit MemoryBinder MemoryCall) (o t i : ChannelId) (p c h : HandlerId)
    (m : Message) : List HandlerCall :=
  let m₁ := w.system.fabric.stamped o m
  let m₂ := w.system.fabric.stamped t m₁
  let m₃ := w.system.fabric.stamped i m₂
  [⟨[o], p, m₁, .ok ()⟩, ⟨[o, t], c, m₂, .ok ()⟩, ⟨[o, t, i], h, m₃, .ok ()⟩]

/-- Where a message that is sent on an output may pass, and to whom: through bindings in force. -/
inductive Passes (w : World Unit MemoryBinder MemoryCall) (o : ChannelId) :
    List ChannelId → HandlerId → Prop where
  | producer {d : String} {p : HandlerId} (h : w.Produces o d p) :
    Passes w o [o] p
  | consumer {t i : ChannelId} {p c : HandlerId} (h : w.Leads o t i p c) :
    Passes w o [o, t] c
  | input {t i : ChannelId} {p c h : HandlerId} (hroute : w.Leads o t i p c)
      (hh : h ∈ w.system.fabric.subscribers i) :
    Passes w o [o, t, i] h

/-- Whether an outcome is what a send on an output should come to. -/
structure DeliversTo (w : World Unit MemoryBinder MemoryCall) (o : ChannelId) (m : Message)
    (outcome : Outcome) : Prop where
  /-- The message is accepted exactly if a producer binding of the output and a consumer binding of
  the same destination are in force and a handler of the input accepts it. -/
  ok_iff : outcome.verdict = .ok () ↔
    ∃ d i p c h, w.Produces o d p ∧ w.Consumes d i c ∧ w.Accepts i h
  /-- One handler of an input accepts it, and those that forwarded it there; that handler is the last
  that is called. -/
  accepted : outcome.verdict = .ok () → ∃ t i p c h, w.Leads o t i p c ∧ w.Accepts i h
    ∧ outcome.accepted = w.routeCalls o t i p c h m
    ∧ outcome.calls.getLast? = outcome.accepted.getLast?
  rejected : outcome.verdict ≠ .ok () → outcome.accepted = []
  /-- Nobody is called but through bindings in force. -/
  passes : ∀ call ∈ outcome.calls, w.Passes o call.path call.handler

/-- Whether the channels that are bound as outputs, those that are bound as inputs and the transport
channels are kept apart, and the application has handlers of fixed verdicts on inputs only. -/
structure SetsApart (w : World Unit MemoryBinder MemoryCall) (outputs inputs : ChannelId → Prop) :
    Prop where
  output : ∀ {o d p}, w.Produces o d p → outputs o
  input : ∀ {d i c}, w.Consumes d i c → inputs i
  disjoint : ∀ {c}, outputs c → ¬ inputs c
  transport : ∀ {d t}, w.system.binders.transports.get? d = some t → ¬ outputs t ∧ ¬ inputs t
  /-- A handler that holds no binding in place is one of the application. -/
  application : ∀ {c h}, h ∈ w.system.fabric.subscribers c →
    (∀ b binding c', ¬ w.system.fabric.Attaches b binding c' h) →
      inputs c ∧ ∃ verdict, w.system.fabric.manner h = some (.answering verdict)

/-! ## Subscribers -/

variable {w : World Unit MemoryBinder MemoryCall} {outputs inputs : ChannelId → Prop}
  {o t i : ChannelId} {d : String} {p c h : HandlerId}

/-- The manner of a handler that forwards. -/
theorem manner_of_forwarding {f : Fabric} (hh : f.handler? h = some (.forwarding t)) :
  f.manner h = some (.forwarding t)
  := by
  rw [Fabric.manner, hh]
  rfl

/-- The handler of a producer binding in force passes messages on to the transport channel. -/
theorem Produces.forwards (hw : Wired w.system.fabric w.system.binders w.task)
    (hp : w.Produces o d p) :
  p ∈ w.system.fabric.subscribers o ∧ ∃ t, w.system.binders.transports.get? d = some t
    ∧ w.system.fabric.manner p = some (.forwarding t)
  := by
  obtain ⟨b, binding, hb, hrole, rfl, hforce⟩ := hp
  obtain ⟨t, ht, hforward⟩ := hw.producer hb hrole
  constructor
  · exact (hw.subscribed hb).mpr ⟨rfl, hforce⟩
  · exact ⟨t, ht, manner_of_forwarding hforward⟩

/-- The handler of a consumer binding in force passes messages on from the transport channel. -/
theorem Consumes.forwards (hw : Wired w.system.fabric w.system.binders w.task)
    (hc : w.Consumes d i c) (ht : w.system.binders.transports.get? d = some t) :
  c ∈ w.system.fabric.subscribers t ∧ w.system.fabric.manner c = some (.forwarding i)
    ∧ i.index < w.system.fabric.channels.size
  := by
  obtain ⟨b, binding, t', hb, hrole, rfl, hforce, hforward⟩ := hc
  obtain ⟨ht', input, hinput, hlt⟩ := hw.consumer hb hrole
  rw [ht] at ht'
  cases ht'
  rw [hforward] at hinput
  cases hinput
  exact ⟨(hw.subscribed hb).mpr ⟨rfl, hforce⟩, manner_of_forwarding hforward, hlt⟩

/-- Who is subscribed to a channel holds a binding in place there that is in force, or is a handler of
the application. -/
theorem SetsApart.of_subscribed (ha : w.SetsApart outputs inputs)
    (hw : Wired w.system.fabric w.system.binders w.task) {x : ChannelId}
    (hh : h ∈ w.system.fabric.subscribers x) :
  (∃ d, w.Produces x d h)
    ∨ (∃ d i, w.system.binders.transports.get? d = some x ∧ w.Consumes d i h)
    ∨ inputs x ∧ ∃ verdict, w.system.fabric.manner h = some (.answering verdict)
  := by
  by_cases hbinding : ∃ b binding c', w.system.fabric.Attaches b binding c' h
  · obtain ⟨b, binding, c', hb⟩ := hbinding
    obtain ⟨rfl, hforce⟩ := (hw.subscribed hb).mp hh
    cases hrole : binding.role with
    | producer => exact Or.inl ⟨binding.name, b, binding, hb, hrole, rfl, hforce⟩
    | consumer =>
      obtain ⟨ht, i, hforward, -⟩ := hw.consumer hb hrole
      exact Or.inr (Or.inl
        ⟨binding.name, i, ht, b, binding, x, hb, hrole, rfl, hforce, hforward⟩)
  · apply Or.inr
    apply Or.inr
    apply ha.application hh
    intro b binding c' hb
    apply hbinding ⟨b, binding, c', hb⟩

/-- The subscribers of an output pass messages on to transport channels. -/
theorem SetsApart.of_output (ha : w.SetsApart outputs inputs)
    (hw : Wired w.system.fabric w.system.binders w.task) (ho : outputs o)
    (hh : h ∈ w.system.fabric.subscribers o) :
  ∃ d t, w.Produces o d h ∧ w.system.binders.transports.get? d = some t
    ∧ w.system.fabric.manner h = some (.forwarding t)
  := by
  rcases ha.of_subscribed hw hh with ⟨d, hp⟩ | ⟨d, i, ht, -⟩ | ⟨hinput, -⟩
  · obtain ⟨-, t, ht, hforward⟩ := hp.forwards hw
    use d, t
  · apply absurd ho (ha.transport ht).1
  · apply absurd hinput (ha.disjoint ho)

/-- The subscribers of a transport channel pass messages on to inputs. -/
theorem SetsApart.of_transport (ha : w.SetsApart outputs inputs)
    (hw : Wired w.system.fabric w.system.binders w.task)
    (ht : w.system.binders.transports.get? d = some t) (hh : h ∈ w.system.fabric.subscribers t) :
  ∃ i, w.Consumes d i h ∧ w.system.fabric.manner h = some (.forwarding i)
  := by
  obtain ⟨hnoutput, hninput⟩ := ha.transport ht
  rcases ha.of_subscribed hw hh with ⟨d', hp⟩ | ⟨d', i, ht', hc⟩ | ⟨hinput, -⟩
  · apply absurd (ha.output hp) hnoutput
  · obtain rfl := hw.transport_inj ht ht'
    use i, hc
    apply (hc.forwards hw ht).2.1
  · apply absurd hinput hninput

/-- The subscribers of an input have a fixed verdict. -/
theorem SetsApart.of_input (ha : w.SetsApart outputs inputs)
    (hw : Wired w.system.fabric w.system.binders w.task) (hi : inputs i)
    (hh : h ∈ w.system.fabric.subscribers i) :
  ∃ verdict, w.system.fabric.manner h = some (.answering verdict)
  := by
  rcases ha.of_subscribed hw hh with ⟨d, hp⟩ | ⟨d, i', ht, -⟩ | ⟨-, hverdict⟩
  · apply absurd hi (ha.disjoint (ha.output hp))
  · apply absurd hi (ha.transport ht).2
  · apply hverdict

/-! ## What a send on an output comes to -/

/-- From an output, messages are passed on twice at the most. -/
theorem SetsApart.clear (ha : w.SetsApart outputs inputs)
    (hw : Wired w.system.fabric w.system.binders w.task) (ho : outputs o)
    (hlt : o.index < w.system.fabric.channels.size) :
  w.system.fabric.Clear 3 o
  := by
  use hlt
  intro p hp
  obtain ⟨d, t, -, ht, hforward⟩ := ha.of_output hw ho hp
  apply Or.inr
  use t, hforward, hw.transport_lt ht
  intro c hc
  obtain ⟨i, hconsumes, hforward'⟩ := ha.of_transport hw ht hc
  apply Or.inr
  use i, hforward', (hconsumes.forwards hw ht).2.2
  intro h hh
  apply Or.inl
  apply ha.of_input hw (ha.input hconsumes) hh

/-- A send on an output calls nobody but along routes of bindings in force. -/
theorem SetsApart.passes (ha : w.SetsApart outputs inputs)
    (hw : Wired w.system.fabric w.system.binders w.task) (ho : outputs o) {m : Message}
    {call : HandlerCall} (hcall : w.system.fabric.Calls o m call) :
  w.Passes o call.path call.handler
  := by
  cases hcall with
  | own hp =>
    obtain ⟨d, t, hproduces, -⟩ := ha.of_output hw ho hp
    apply Passes.producer hproduces
  | onward hp htarget hcall =>
    obtain ⟨d, t, hproduces, ht, hforward⟩ := ha.of_output hw ho hp
    rw [hforward] at htarget
    cases htarget
    cases hcall with
    | own hc =>
      obtain ⟨i, hconsumes, -⟩ := ha.of_transport hw ht hc
      exact Passes.consumer ⟨d, hproduces, ht, hconsumes⟩
    | onward hc htarget hcall =>
      obtain ⟨i, hconsumes, hforward'⟩ := ha.of_transport hw ht hc
      rw [hforward'] at htarget
      cases htarget
      cases hcall with
      | own hh => exact Passes.input ⟨d, hproduces, ht, hconsumes⟩ hh
      | onward hh htarget _ =>
        obtain ⟨verdict, hverdict⟩ := ha.of_input hw (ha.input hconsumes) hh
        rw [hverdict] at htarget
        cases htarget

/-- A send on an output is accepted along routes of bindings in force to handlers that accept it. -/
theorem SetsApart.chains_iff (ha : w.SetsApart outputs inputs)
    (hw : Wired w.system.fabric w.system.binders w.task) (ho : outputs o) (m : Message)
    (chain : List HandlerCall) :
  w.system.fabric.Chains o m chain ↔ ∃ t i p c h, w.Leads o t i p c ∧ w.Accepts i h
    ∧ chain = w.routeCalls o t i p c h m
  := by
  constructor
  · intro hchain
    cases hchain with
    | own hp hok =>
      obtain ⟨d, t, -, -, hforward⟩ := ha.of_output hw ho hp
      rw [hforward] at hok
      cases hok
    | onward hp htarget hchain =>
      obtain ⟨d, t, hproduces, ht, hforward⟩ := ha.of_output hw ho hp
      rw [hforward] at htarget
      cases htarget
      cases hchain with
      | own hc hok =>
        obtain ⟨i, -, hforward'⟩ := ha.of_transport hw ht hc
        rw [hforward'] at hok
        cases hok
      | onward hc htarget hchain =>
        obtain ⟨i, hconsumes, hforward'⟩ := ha.of_transport hw ht hc
        rw [hforward'] at htarget
        cases htarget
        cases hchain with
        | own hh hok => exact ⟨_, _, _, _, _, ⟨d, hproduces, ht, hconsumes⟩, ⟨hh, hok⟩, rfl⟩
        | onward hh htarget _ =>
          obtain ⟨verdict, hverdict⟩ := ha.of_input hw (ha.input hconsumes) hh
          rw [hverdict] at htarget
          cases htarget
  · rintro ⟨t, i, p, c, h, ⟨d, hproduces, ht, hconsumes⟩, ⟨hh, hok⟩, rfl⟩
    obtain ⟨hp, t', ht', hforward⟩ := hproduces.forwards hw
    rw [ht] at ht'
    cases ht'
    obtain ⟨hc, hforward', -⟩ := hconsumes.forwards hw ht
    exact .onward hp hforward (.onward hc hforward' (.own hh hok))

/-- What suits the network of channels is what a send on an output should come to. -/
theorem SetsApart.deliversTo (ha : w.SetsApart outputs inputs)
    (hw : Wired w.system.fabric w.system.binders w.task) (ho : outputs o) {m : Message}
    {outcome : Outcome}
    (hsuits : outcome.Suits (w.system.fabric.Calls o m) (w.system.fabric.Chains o m)) :
  w.DeliversTo o m outcome
  := by
  have haccepted : outcome.verdict = .ok () → ∃ t i p c h, w.Leads o t i p c ∧ w.Accepts i h
      ∧ outcome.accepted = w.routeCalls o t i p c h m := by
    intro hok
    apply (ha.chains_iff hw ho m _).mp
    apply (hsuits.accepted hok).1
  constructor
  · constructor
    · intro hok
      obtain ⟨t, i, p, c, h, ⟨d, hproduces, -, hconsumes⟩, haccepts, -⟩ := haccepted hok
      exact ⟨d, i, p, c, h, hproduces, hconsumes, haccepts⟩
    · rintro ⟨d, i, p, c, h, hproduces, hconsumes, haccepts⟩
      obtain ⟨-, t, ht, -⟩ := hproduces.forwards hw
      cases hverdict : outcome.verdict with
      | ok => rfl
      | error e =>
        -- there is a chain, which an outcome that fails does without
        apply absurd _ ((hsuits.rejected hverdict).2 (w.routeCalls o t i p c h m))
        apply (ha.chains_iff hw ho m _).mpr
        exact ⟨t, i, p, c, h, ⟨d, hproduces, ht, hconsumes⟩, haccepts, rfl⟩
  · intro hok
    obtain ⟨t, i, p, c, h, hleads, haccepts, hcalls⟩ := haccepted hok
    exact ⟨t, i, p, c, h, hleads, haccepts, hcalls, (hsuits.accepted hok).2.symm⟩
  · intro hnot
    cases hverdict : outcome.verdict with
    | ok => apply absurd hverdict hnot
    | error e => apply (hsuits.rejected hverdict).1
  · intro call hcall
    apply ha.passes hw ho (hsuits.calls call hcall)

/-- Whatever was bound and released before, every message that is sent on an output is delivered along
bindings in force if there is a way, to one handler that accepts it, and to nobody else. -/
theorem delivers_end_to_end (settings : Settings) (factory : Factory Unit)
    (callback : Option Callback) {moves : List (Move Unit)}
    (hmoves : (fresh {} {}).IsOrderly (MemoryBinder.setup settings factory callback) moves) :
  let w := (fresh {} {}).run (MemoryBinder.setup settings factory callback) moves
  ∀ {outputs inputs : ChannelId → Prop} {o : ChannelId} (m : Message),
    w.SetsApart outputs inputs → outputs o → o.index < w.system.fabric.channels.size →
      ∃ f outcome, w.system.fabric.deliver o m = some (f, outcome) ∧ w.DeliversTo o m outcome
  := by
  intro w outputs inputs o m ha ho hlt
  have hw : Wired w.system.fabric w.system.binders w.task :=
    Wired.run settings factory callback hmoves
  have hdepth : 3 ≤ w.system.fabric.nestingBound := by
    rw [Fabric.nestingBound]
    omega
  obtain ⟨outcome, f, hsend, -, hsuits⟩ :=
    Fabric.send_settles (ha.clear hw ho hlt) hdepth m w.system.fabric (Fabric.Alike.refl _)
  use f, outcome
  constructor
  · rw [Fabric.deliver, hsend]
    rfl
  · apply ha.deliversTo hw ho hsuits

/-- An output and an input are bound to one destination; a handler of the input collects. -/
def bindPair : List (Move Unit) :=
  [.act (.newChannel "out" none), .act (.newChannel "in" none),
    .act (.newHandler "sink" (.collecting [])), .act (.subscribe ⟨1⟩ "sink"),
    .call (.attach () (.producer "orders" ⟨0⟩ {})), .advance 0, .advance 0,
    .call (.attach () (.consumer "orders" none ⟨1⟩ {})), .advance 1, .advance 1]

/-- An output and an input that are bound to one destination are kept apart. -/
theorem setsApart_of_pair {w : World Unit MemoryBinder MemoryCall} {producer consumer : Binding}
    (hchannels : w.system.fabric.channels = #[⟨"out", none, [⟨1⟩], 0⟩, ⟨"in", none, [⟨0⟩], 0⟩,
      ⟨"orders", none, [⟨2⟩], 0⟩])
    (hhandlers : w.system.fabric.handlers = #[.collecting [], .forwarding ⟨2⟩, .forwarding ⟨1⟩])
    (hbindings : w.system.fabric.bindings = #[producer, consumer])
    (hproducer : producer = ⟨"orders", .producer, none, .subscription ⟨0⟩ ⟨1⟩, true⟩)
    (hconsumer : consumer = ⟨"orders", .consumer, none, .subscription ⟨2⟩ ⟨2⟩, true⟩)
    (htransports : w.system.binders.transports = ⟨[("orders", ⟨2⟩)]⟩) :
  w.SetsApart (· = ⟨0⟩) (· = ⟨1⟩)
  := by
  have hsubscribers : ∀ {c h}, h ∈ w.system.fabric.subscribers c →
      c = ⟨0⟩ ∧ h = ⟨1⟩ ∨ c = ⟨1⟩ ∧ h = ⟨0⟩ ∨ c = ⟨2⟩ ∧ h = ⟨2⟩ := by
    rintro ⟨_ | _ | _ | n⟩ h hh
    all_goals simp_all [Fabric.subscribers, Fabric.channel?]
  have hfirst : w.system.fabric.Attaches ⟨0⟩ producer ⟨0⟩ ⟨1⟩ := by
    rw [Fabric.Attaches, Fabric.binding?, hbindings, hproducer]
    exact ⟨rfl, rfl⟩
  have hsecond : w.system.fabric.Attaches ⟨1⟩ consumer ⟨2⟩ ⟨2⟩ := by
    rw [Fabric.Attaches, Fabric.binding?, hbindings, hconsumer]
    exact ⟨rfl, rfl⟩
  have hattaches : ∀ {b binding c h}, w.system.fabric.Attaches b binding c h →
      binding.role = .producer ∧ c = ⟨0⟩ ∨ binding.role = .consumer ∧ h = ⟨2⟩ := by
    rintro ⟨_ | _ | n⟩ binding c h hb
    · obtain ⟨rfl, rfl, -⟩ := hfirst.unique hb
      exact Or.inl ⟨by rw [hproducer], rfl⟩
    · obtain ⟨rfl, -, rfl⟩ := hsecond.unique hb
      exact Or.inr ⟨by rw [hconsumer], rfl⟩
    · simp [Fabric.Attaches, Fabric.binding?, hbindings] at hb
  constructor
  · rintro o d p ⟨b, binding, hb, hrole, -⟩
    rcases hattaches hb with ⟨-, rfl⟩ | ⟨hrole', -⟩
    · rfl
    · rw [hrole] at hrole'
      cases hrole'
  · rintro d i c ⟨b, binding, t, hb, hrole, -, -, hforward⟩
    rcases hattaches hb with ⟨hrole', -⟩ | ⟨-, rfl⟩
    · rw [hrole] at hrole'
      cases hrole'
    · rw [Fabric.handler?, hhandlers] at hforward
      cases hforward
      rfl
  · rintro c rfl ⟨⟩
  · intro d t ht
    simp only [htransports, Table.get?, Table.find, Option.ite_none_right_eq_some] at ht
    obtain ⟨-, ⟨⟩⟩ := ht
    decide
  · intro c h hh happlication
    rcases hsubscribers hh with ⟨rfl, rfl⟩ | ⟨rfl, rfl⟩ | ⟨rfl, rfl⟩
    · apply absurd hfirst (happlication _ _ _)
    · use rfl, .ok ()
      rw [Fabric.manner, Fabric.handler?, hhandlers]
      rfl
    · apply absurd hsecond (happlication _ _ _)

/-- A message that is sent on an output comes to the input that is bound to the same destination. -/
theorem delivers_end_to_end_to_pair :
  let w := (fresh {} {}).run MemoryBinder.setup bindPair
  ∃ f outcome, w.system.fabric.deliver ⟨0⟩ ⟨⟨0⟩, ∅, []⟩ = some (f, outcome) ∧ outcome.verdict = .ok ()
  := by
  intro w
  have hmoves : (fresh {} {}).IsOrderly MemoryBinder.setup bindPair := by
    simp [bindPair, IsOrderly]
  have ha : w.SetsApart (· = ⟨0⟩) (· = ⟨1⟩) := setsApart_of_pair rfl rfl rfl rfl rfl rfl
  obtain ⟨f, outcome, hdeliver, hdelivers⟩ :=
    delivers_end_to_end {} { binders := Table.ofEntries [("memory", ())] } none hmoves
      ⟨⟨0⟩, ∅, []⟩ ha rfl (by decide : 0 < 3)
  use f, outcome, hdeliver
  apply hdelivers.ok_iff.mpr
  exact ⟨"orders", ⟨1⟩, ⟨1⟩, ⟨2⟩, ⟨0⟩, ⟨⟨0⟩, _, ⟨rfl, rfl⟩, rfl, rfl, Or.inl rfl⟩,
    ⟨⟨1⟩, _, ⟨2⟩, ⟨rfl, rfl⟩, rfl, rfl, Or.inl rfl, rfl⟩, List.mem_singleton.mpr rfl, rfl⟩

end World

end ChannelBinding
