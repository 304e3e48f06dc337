import ChannelBinding.Binder.Recording
import ChannelBinding.Binder.Scripted

/-!
# The binder family

The in-memory, recording and scripted binders side by side, each under its handle, as one family of
binders for the binding service.
-/

namespace ChannelBinding

/-- The handle of a binder. -/
structure BinderId where
  index : Nat
deriving DecidableEq, Repr, Inhabited

/-- A binder of one of the kinds. -/
inductive AnyBinder where
  | memory (binder : MemoryBinder)
  | recording (binder : RecordingBinder)
  | scripted (binder : ScriptedBinder)
deriving Repr, Inhabited

/-- The transport channels of a binder. -/
def AnyBinder.transports : AnyBinder → Table String ChannelId
  | memory b => b.transports
  | recording b => b.inner.transports
  | scripted b => b.inner.transports

/-- The bindings that a binder keeps. -/
def AnyBinder.bindings : AnyBinder → List BindingId
  | recording b => b.producers ++ b.consumers
  | _ => []

/-- The binders of a system, by handle. -/
abbrev AnyBinders := Array AnyBinder

/-- Where a bind stands, by kind of binder. -/
inductive AnyCallStage where
  | asked (request : BindRequest)
  | memory (call : MemoryCall)
  | recording (call : RecordingCall)
  | scripted (call : ScriptedCall)
deriving Repr

/-- A bind call in progress. -/
structure AnyCall where
  binder : BinderId
  /-- The channel that is being attached. -/
  channel : ChannelId
  stage : AnyCallStage
deriving Repr

namespace AnyCall

/-- The bind of a request by a binder. -/
def ask (binder : BinderId) (request : BindRequest) : AnyCall :=
  ⟨binder, request.channel, .asked request⟩

/-- One step of a bind. -/
def step (view : Fabric × AnyBinders) (call : AnyCall) :
    (Fabric × AnyBinders) × Progress AnyCall BindAnswer :=
  let (f, binders) := view
  match call.stage, binders[call.binder.index]? with
  | .asked request, some (.memory _) =>
    (view, .running { call with stage := .memory (.opening request) })
  | .asked request, some (.recording _) =>
    (view, .running { call with stage := .recording (.starting request) })
  | .asked request, some (.scripted _) =>
    (view, .running { call with stage := .scripted (.starting request) })
  | .memory c, some (.memory m) =>
    let (f, m, p) := c.step f m
    ((f, binders.setIfInBounds call.binder.index (.memory m)), wrap .memory p)
  | .recording c, some (.recording r) =>
    let (f, r, p) := c.step f r
    ((f, binders.setIfInBounds call.binder.index (.recording r)), wrap .recording p)
  | .scripted c, some (.scripted s) =>
    let (f, s, p) := c.step f s
    ((f, binders.setIfInBounds call.binder.index (.scripted s)), wrap .scripted p)
  | _, _ => (view, .ended (.error (.internal "no such binder")))
where
  /-- The progress of a bind, in terms of the family. -/
  wrap {γ : Type} (stage : γ → AnyCallStage) :
      Progress γ BindAnswer → Progress AnyCall BindAnswer
    | .running c => .running { call with stage := stage c }
    | .waiting c pause => .waiting { call with stage := stage c } pause
    | .ended answer => .ended answer

/-- The number of steps to the end, pauses aside. -/
def rank (call : AnyCall) : Nat :=
  match call.stage with
  | .asked _ => 6
  | .memory c => c.rank
  | .recording c => c.rank
  | .scripted c => c.rank

theorem eq_running_of_wrap {γ : Type} {call call' : AnyCall} {stage : γ → AnyCallStage}
    {p : Progress γ BindAnswer} (h : step.wrap call stage p = .running call') :
  ∃ c, p = .running c ∧ call' = { call with stage := stage c }
  := by
  cases p with
  | running c => exact ⟨c, rfl, by simpa [step.wrap] using h.symm⟩
  | waiting c pause => simp [step.wrap] at h
  | ended answer => simp [step.wrap] at h

theorem rank_lt_of_step {view view' : Fabric × AnyBinders} {call call' : AnyCall}
    (h : step view call = (view', .running call')) :
  call'.rank < call.rank
  := by
  unfold step at h
  split at h
  split at h
  · rename_i hs _
    simp only [Prod.mk.injEq, Progress.running.injEq] at h
    rw [← h.2]
    simp [rank, hs, MemoryCall.rank]
  · rename_i hs _
    simp only [Prod.mk.injEq, Progress.running.injEq] at h
    rw [← h.2]
    simp [rank, hs, RecordingCall.rank]
  · rename_i hs _
    simp only [Prod.mk.injEq, Progress.running.injEq] at h
    rw [← h.2]
    simp [rank, hs, ScriptedCall.rank]
  · rename_i c m hs _
    obtain ⟨c', hp, rfl⟩ := eq_running_of_wrap (Prod.mk.inj h).2
    simp only [rank, hs]
    exact MemoryCall.rank_lt_of_step (Prod.ext rfl (Prod.ext rfl hp))
  · rename_i c m hs _
    obtain ⟨c', hp, rfl⟩ := eq_running_of_wrap (Prod.mk.inj h).2
    simp only [rank, hs]
    exact RecordingCall.rank_lt_of_step (Prod.ext rfl (Prod.ext rfl hp))
  · rename_i c m hs _
    obtain ⟨c', hp, rfl⟩ := eq_running_of_wrap (Prod.mk.inj h).2
    simp only [rank, hs]
    exact ScriptedCall.rank_lt_of_step (Prod.ext rfl (Prod.ext rfl hp))
  · simp at h

/-- The bind calls of the family, as a process on the fabric and the binders. -/
def process : Process (Fabric × AnyBinders) AnyCall BindAnswer where
  step := step
  nearer := InvImage (· < ·) rank
  wellFounded := (measure rank).wf
  nearer_of_step := rank_lt_of_step

end AnyCall

namespace AnyBinders

/-- The extended consumer properties of a binder for a binding name. -/
def extendedConsumer (binders : AnyBinders) (id : BinderId) (name : String) :
    ConsumerProperties :=
  match binders[id.index]? with
  | some (.scripted b) => (lookupOrAny b.script.extendedConsumer name).getD {}
  | _ => {}

/-- The extended producer properties of a binder for a binding name. -/
def extendedProducer (binders : AnyBinders) (id : BinderId) (name : String) :
    ProducerProperties :=
  match binders[id.index]? with
  | some (.scripted b) => (lookupOrAny b.script.extendedProducer name).getD {}
  | _ => {}

/-- The behaviour of the family. -/
def behaviour : Binders BinderId AnyBinders AnyCall where
  extendedConsumer := extendedConsumer
  extendedProducer := extendedProducer
  bindConsumer id destination group input properties :=
    .ask id (.consumer destination group input properties)
  bindProducer id destination output properties :=
    .ask id (.producer destination output properties)
  process := AnyCall.process

end AnyBinders

end ChannelBinding
