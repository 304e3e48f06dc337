import ChannelBinding.Binder.Memory

/-!
# The scripted binder

An in-memory binder that logs every bind and follows a script: it can take several turns before and
after the bind, refuse destinations, hand out bindings that cannot be released, and supply extended
properties.
-/

namespace ChannelBinding

/-- What a scripted binder does. -/
structure BinderScript where
  /-- The destinations that are refused, with the number of times if it is limited. -/
  refusals : Table String (BinderError × Option Nat) := ∅
  /-- The destinations whose bindings cannot be released. -/
  stuck : Table String BinderError := ∅
  /-- The number of turns that a bind gives up before it is decided. -/
  yields : Nat := 0
  /-- The number of turns that a bind gives up after it is made. -/
  yieldsAfter : Nat := 0
  /-- Extended properties by binding name; those under `*` are for every other name. -/
  extendedConsumer : Table String ConsumerProperties := ∅
  extendedProducer : Table String ProducerProperties := ∅
deriving Repr, Inhabited

/-- A bind that was asked for, with the name of its channel. -/
structure LoggedBind where
  request : BindRequest
  channel : String
deriving Repr

/-- An in-memory binder with a script and a log. -/
structure ScriptedBinder where
  inner : MemoryBinder := {}
  script : BinderScript := {}
  log : Array LoggedBind := #[]
deriving Repr, Inhabited

/-- Where a bind of the scripted binder stands. -/
inductive ScriptedCall where
  | starting (request : BindRequest)
  | yielding (request : BindRequest) (left : Nat)
  | deciding (request : BindRequest)
  | attaching (call : MemoryCall)
  | lingering (b : BindingId) (left : Nat)
deriving Repr

/-- The entry of a name, or else the entry for every other name. -/
def lookupOrAny (t : Table String α) (name : String) : Option α := (t.get? name).or (t.get? "*")

namespace BinderScript

/-- The refusal of a destination, and the script with the refusal counted. -/
def refuse (script : BinderScript) (destination : String) : BinderScript × Option BinderError :=
  match script.refusals.get? destination with
  | none => (script, none)
  | some (e, none) => (script, some e)
  | some (_, some 0) => (script, none)
  | some (e, some (n + 1)) =>
    ({ script with refusals := script.refusals.insert destination (e, some n) }, some e)

end BinderScript

namespace ScriptedCall

/-- One step of a bind of the scripted binder. -/
def step (f : Fabric) (s : ScriptedBinder) :
    ScriptedCall → Fabric × ScriptedBinder × Progress ScriptedCall BindAnswer
  | starting request =>
    let s := { s with log := s.log.push ⟨request, f.channelName request.channel⟩ }
    (f, s, .running (yielding request s.script.yields))
  | yielding request 0 => (f, s, .running (deciding request))
  | yielding request (left + 1) => (f, s, .waiting (yielding request left) .turn)
  | deciding request =>
    match s.script.refuse request.destination with
    | (script, some e) => (f, { s with script }, .ended (.error e))
    | (_, none) =>
      match s.script.stuck.get? request.destination with
      | some e =>
        let (f, b) := f.addBinding
          { name := request.destination, role := request.role, attachment := .stuck e }
        (f, s, .ended (.ok b))
      | none => (f, s, .running (attaching (.opening request)))
  | attaching call =>
    match call.step f s.inner with
    | (f, inner, .running call) => (f, { s with inner }, .running (attaching call))
    | (f, inner, .waiting call pause) => (f, { s with inner }, .waiting (attaching call) pause)
    | (f, inner, .ended (.ok b)) =>
      (f, { s with inner }, .running (lingering b s.script.yieldsAfter))
    | (f, inner, .ended (.error e)) => (f, { s with inner }, .ended (.error e))
  | lingering b 0 => (f, s, .ended (.ok b))
  | lingering b (left + 1) => (f, s, .waiting (lingering b left) .turn)

/-- The number of steps to the end, pauses aside. -/
def rank : ScriptedCall → Nat
  | starting _ => 5
  | yielding .. => 4
  | deciding _ => 3
  | attaching call => 1 + call.rank
  | lingering .. => 0

theorem rank_lt_of_step {f f' : Fabric} {s s' : ScriptedBinder} {c c' : ScriptedCall}
    (h : step f s c = (f', s', .running c')) :
  c'.rank < c.rank
  := by
  unfold step at h
  split at h
  · simp only [Prod.mk.injEq, Progress.running.injEq] at h
    rw [← h.2.2]
    exact (by decide : 4 < 5)
  · simp only [Prod.mk.injEq, Progress.running.injEq] at h
    rw [← h.2.2]
    exact (by decide : 3 < 4)
  · simp at h
  · split at h
    · simp at h
    · split at h
      · simp at h
      · simp only [Prod.mk.injEq, Progress.running.injEq] at h
        rw [← h.2.2]
        exact (by decide : 2 < 3)
  · split at h
    · rename_i hc
      simp only [Prod.mk.injEq, Progress.running.injEq] at h
      rw [← h.2.2]
      exact Nat.add_lt_add_left (MemoryCall.rank_lt_of_step hc) 1
    · simp at h
    · simp only [Prod.mk.injEq, Progress.running.injEq] at h
      rw [← h.2.2]
      simp only [rank]
      omega
    · simp at h
  · simp at h
  · simp at h

end ScriptedCall

end ChannelBinding
