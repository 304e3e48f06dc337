import ChannelBinding.Binder.Memory
import ChannelBinding.System

/-!
# A binder with a plan

A binder whose plan says, for every destination, how its first bind goes, its second, and so on: how
many turns it gives up before it is decided and after it is made, and whether it is refused, attached
as by an in-memory binder, or made so that it cannot be released.  How a bind goes depends on nothing
else.
-/

namespace ChannelBinding

/-- How a bind is decided. -/
inductive Ruling where
  | refused (error : BinderError)
  /-- The binding is made, and cannot be released. -/
  | stuck (error : BinderError)
  | attached
deriving DecidableEq, Repr

/-- How a bind goes. -/
structure Bout where
  /-- The number of turns that the bind gives up before it is decided. -/
  before : Nat := 0
  ruling : Ruling := .attached
  /-- The number of turns that the bind gives up after it is made. -/
  after : Nat := 0
deriving DecidableEq, Repr

/-- What a planned binder does. -/
structure Plan where
  /-- How a bind of a destination goes, by the number of binds of the destination before it. -/
  bout : String → Nat → Bout
  /-- The properties that the binder adds to the producer properties of a binding name. -/
  extended : String → ProducerProperties := fun _ => {}

/-- An in-memory binder with the requests that it was asked for. -/
structure PlannedBinder where
  inner : MemoryBinder := {}
  asked : List BindRequest := []

/-- The requests for a destination, in the order in which they were asked. -/
def PlannedBinder.askedFor (m : PlannedBinder) (destination : String) : List BindRequest :=
  m.asked.filter fun request => request.destination = destination

/-- Where a bind of a planned binder stands. -/
inductive PlannedCall where
  | asking (request : BindRequest)
  /-- The bind is still to give up some turns before it is decided. -/
  | pausing (request : BindRequest) (bout : Bout) (left : Nat)
  | attaching (call : MemoryCall) (after : Nat)
  /-- The bind is made, and still to give up some turns. -/
  | lingering (b : BindingId) (left : Nat)

namespace PlannedCall

/-- One step of a bind. -/
def step (plan : Plan) (v : Fabric × PlannedBinder) :
    PlannedCall → (Fabric × PlannedBinder) × Progress PlannedCall BindAnswer
  | asking request =>
    let bout := plan.bout request.destination (v.2.askedFor request.destination).length
    ((v.1, { v.2 with asked := v.2.asked ++ [request] }),
      .running (pausing request bout bout.before))
  | pausing request bout (left + 1) => (v, .waiting (pausing request bout left) .turn)
  | pausing request bout 0 =>
    match bout.ruling with
    | .refused e => (v, .ended (.error e))
    | .stuck e =>
      let (f, b) := v.1.addBinding
        { name := request.destination, role := request.role, attachment := .stuck e }
      ((f, v.2), .running (lingering b bout.after))
    | .attached => (v, .running (attaching (.opening request) bout.after))
  | attaching call after =>
    let (f, inner, p) := call.step v.1 v.2.inner
    ((f, { v.2 with inner }), wrap after p)
  | lingering b (left + 1) => (v, .waiting (lingering b left) .turn)
  | lingering b 0 => (v, .ended (.ok b))
where
  /-- The progress of the bind of the in-memory binder. -/
  wrap (after : Nat) : Progress MemoryCall BindAnswer → Progress PlannedCall BindAnswer
    | .running call => .running (attaching call after)
    | .waiting call pause => .waiting (attaching call after) pause
    | .ended (.ok b) => .running (lingering b after)
    | .ended (.error e) => .ended (.error e)

/-- The number of steps to the end, pauses aside. -/
def rank : PlannedCall → Nat
  | asking _ => 4
  | pausing .. => 3
  | attaching call _ => 1 + call.rank
  | lingering .. => 0

variable {plan : Plan}

theorem rank_lt_of_step {v v' : Fabric × PlannedBinder} {call call' : PlannedCall}
    (h : step plan v call = (v', .running call')) :
  call'.rank < call.rank
  := by
  match call with
  | asking request =>
    simp only [step, Prod.mk.injEq, Progress.running.injEq] at h
    rw [← h.2]
    exact (by decide : 3 < 4)
  | pausing request bout (left + 1) => simp [step] at h
  | pausing request bout 0 =>
    simp only [step] at h
    split at h
    · simp at h
    · simp only [Prod.mk.injEq, Progress.running.injEq] at h
      rw [← h.2]
      exact (by decide : 0 < 3)
    · simp only [Prod.mk.injEq, Progress.running.injEq] at h
      rw [← h.2]
      exact (by decide : 2 < 3)
  | attaching call after =>
    obtain ⟨f, inner, p, hstep⟩ : ∃ f inner p, call.step v.1 v.2.inner = (f, inner, p) :=
      ⟨_, _, _, rfl⟩
    simp only [step, hstep] at h
    match p with
    | .running next =>
      simp only [step.wrap, Prod.mk.injEq, Progress.running.injEq] at h
      rw [← h.2]
      apply Nat.add_lt_add_left (MemoryCall.rank_lt_of_step hstep)
    | .waiting next pause => simp [step.wrap] at h
    | .ended (.ok b) =>
      simp only [step.wrap, Prod.mk.injEq, Progress.running.injEq] at h
      rw [← h.2]
      simp only [rank]
      omega
    | .ended (.error e) => simp [step.wrap] at h
  | lingering b (left + 1) => simp [step] at h
  | lingering b 0 => simp [step] at h

end PlannedCall

namespace PlannedBinder

/-- The bind calls of a planned binder, as a process on the fabric and the binder. -/
def process (plan : Plan) : Process (Fabric × PlannedBinder) PlannedCall BindAnswer where
  step := PlannedCall.step plan
  nearer := InvImage (· < ·) PlannedCall.rank
  wellFounded := (measure PlannedCall.rank).wf
  nearer_of_step := PlannedCall.rank_lt_of_step

/-- A planned binder as the only binder of a system. -/
def behaviour (plan : Plan) : Binders Unit PlannedBinder PlannedCall where
  extendedConsumer _ _ _ := {}
  extendedProducer _ _ name := plan.extended name
  bindConsumer _ destination group input properties :=
    .asking (.consumer destination group input properties)
  bindProducer _ destination output properties :=
    .asking (.producer destination output properties)
  process := process plan

/-- A set-up whose only binder has a plan. -/
def setup (plan : Plan) (settings : Settings) (factory : Factory Unit)
    (callback : Option Callback) : Setup Unit PlannedBinder PlannedCall :=
  { settings, factory, binders := behaviour plan, callback }

end PlannedBinder

end ChannelBinding
