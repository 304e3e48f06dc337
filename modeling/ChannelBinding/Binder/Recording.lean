import ChannelBinding.Binder.Memory

/-!
# The recording binder

An in-memory binder that notes every binding it hands out.  Its producer binds are counted, can take
time, and can be switched off.
-/

namespace ChannelBinding

/-- An in-memory binder with its notes and switches. -/
structure RecordingBinder where
  inner : MemoryBinder := {}
  /-- How long a producer bind takes, in milliseconds. -/
  delay : Option Nat := none
  /-- Whether producer binds are switched off. -/
  failing : Bool := false
  /-- The number of producer binds asked for. -/
  producerCalls : Nat := 0
  producers : List BindingId := []
  consumers : List BindingId := []
deriving Repr, Inhabited

/-- Where a bind of the recording binder stands. -/
inductive RecordingCall where
  | starting (request : BindRequest)
  | sleeping (request : BindRequest) (wakeAt : Nat)
  | deciding (request : BindRequest)
  | attaching (role : Role) (call : MemoryCall)
  | noting (role : Role) (b : BindingId)
deriving Repr

namespace RecordingBinder

/-- The binder with a binding noted. -/
def note (r : RecordingBinder) (b : BindingId) : Role → RecordingBinder
  | .consumer => { r with consumers := r.consumers ++ [b] }
  | .producer => { r with producers := r.producers ++ [b] }

end RecordingBinder

namespace RecordingCall

/-- One step of a bind of the recording binder. -/
def step (f : Fabric) (r : RecordingBinder) :
    RecordingCall → Fabric × RecordingBinder × Progress RecordingCall BindAnswer
  | starting request =>
    match request.role with
    | .consumer => (f, r, .running (attaching .consumer (.opening request)))
    | .producer =>
      let r := { r with producerCalls := r.producerCalls + 1 }
      match r.delay with
      | none => (f, r, .running (deciding request))
      | some delay => (f, r, .running (sleeping request (f.now + delay)))
  | sleeping request wakeAt =>
    if wakeAt ≤ f.now then (f, r, .running (deciding request))
    else (f, r, .waiting (sleeping request wakeAt) (.alarm wakeAt))
  | deciding request =>
    if r.failing then
      (f, r, .ended (.error (.unavailable
        s!"producer binds to '{request.destination}' are switched off")))
    else (f, r, .running (attaching .producer (.opening request)))
  | attaching role call =>
    match call.step f r.inner with
    | (f, inner, .running call) => (f, { r with inner }, .running (attaching role call))
    | (f, inner, .waiting call pause) =>
      (f, { r with inner }, .waiting (attaching role call) pause)
    | (f, inner, .ended (.ok b)) => (f, { r with inner }, .running (noting role b))
    | (f, inner, .ended (.error e)) => (f, { r with inner }, .ended (.error e))
  | noting role b => (f, r.note b role, .ended (.ok b))

/-- The number of steps to the end, pauses aside. -/
def rank : RecordingCall → Nat
  | starting _ => 5
  | sleeping .. => 4
  | deciding _ => 3
  | attaching _ call => 1 + call.rank
  | noting .. => 0

theorem rank_lt_of_step {f f' : Fabric} {r r' : RecordingBinder} {c c' : RecordingCall}
    (h : step f r c = (f', r', .running c')) :
  c'.rank < c.rank
  := by
  cases c with
  | starting request =>
    simp only [step] at h
    split at h
    · simp only [Prod.mk.injEq, Progress.running.injEq] at h
      rw [← h.2.2]
      exact (by decide : 2 < 5)
    · split at h <;>
      · simp only [Prod.mk.injEq, Progress.running.injEq] at h
        rw [← h.2.2]
        simp [rank]
  | sleeping request wakeAt =>
    simp only [step] at h
    split at h
    · simp only [Prod.mk.injEq, Progress.running.injEq] at h
      rw [← h.2.2]
      exact (by decide : 3 < 4)
    · simp at h
  | deciding request =>
    simp only [step] at h
    split at h
    · simp at h
    · simp only [Prod.mk.injEq, Progress.running.injEq] at h
      rw [← h.2.2]
      exact (by decide : 2 < 3)
  | attaching role call =>
    simp only [step] at h
    split at h
    · rename_i hc
      simp only [Prod.mk.injEq, Progress.running.injEq] at h
      rw [← h.2.2]
      exact Nat.add_lt_add_left (MemoryCall.rank_lt_of_step hc) 1
    · simp at h
    · simp only [Prod.mk.injEq, Progress.running.injEq] at h
      rw [← h.2.2]
      simp only [rank]
      omega
    · simp at h
  | noting role b => simp [step] at h

end RecordingCall

end ChannelBinding
