import ChannelBinding.Fabric
import ChannelBinding.Process

/-!
# Waiting for messages

A wait for a number of messages at a collecting handler.  In each turn it first notes how many
messages have arrived, then looks whether there are enough of them, and pauses until more have
arrived than it noted or its time is up.  A message that arrives between the note and the pause is
therefore never missed.
-/

namespace ChannelBinding

/-- Where a wait stands. -/
inductive WaitStage where
  | registering
  | checking (seen : Nat)
  | pausing (seen : Nat)
  | collecting
deriving DecidableEq, Repr

/-- A wait for messages. -/
structure Wait where
  handler : HandlerId
  /-- The number of messages waited for. -/
  count : Nat
  /-- The time at which the wait gives up. -/
  deadline : Nat
  stage : WaitStage := .registering
deriving DecidableEq, Repr

namespace Fabric

/-- The messages that a handler has kept. -/
def received (f : Fabric) (h : HandlerId) : List Message :=
  ((f.handler? h).map Handler.received).getD []

end Fabric

namespace Wait

/-- One step of a wait. -/
def step (f : Fabric) (w : Wait) : Progress Wait (List Message) :=
  let messages := f.received w.handler
  match w.stage with
  | .registering => .running { w with stage := .checking messages.length }
  | .checking seen =>
    if w.count ≤ messages.length then .ended messages
    else .running { w with stage := .pausing seen }
  | .pausing seen =>
    if seen < messages.length then .running { w with stage := .registering }
    else if w.deadline ≤ f.now then .running { w with stage := .collecting }
    else .waiting w (.alarm w.deadline)
  | .collecting => .ended messages

/-- Takes up to `n` steps. -/
def steps (f : Fabric) : Nat → Wait → Progress Wait (List Message)
  | 0, w => .waiting w .turn
  | n + 1, w =>
    match w.step f with
    | .running w' => steps f n w'
    | stopped => stopped

/-- Lets a wait run until it pauses or ends, which takes at most five steps. -/
def settle (f : Fabric) (w : Wait) : Progress Wait (List Message) := steps f 5 w

end Wait

end ChannelBinding
