import ChannelBinding.Binder.Request

/-!
# The in-memory binder

Every destination is a channel, made by the first bind that asks for it and kept for ever.  A
consumer is a subscription on that channel which forwards to the input; a producer is a subscription
on the output which forwards to that channel.  Consumer groups make no difference.
-/

namespace ChannelBinding

/-- The transport channels by destination. -/
structure MemoryBinder where
  transports : Table String ChannelId := ∅
deriving Repr, Inhabited

/-- Where a bind of the in-memory binder stands. -/
inductive MemoryCall where
  | opening (request : BindRequest)
  /-- The transport channel is there, and the handler is to be subscribed. -/
  | attaching (request : BindRequest) (transport : ChannelId)
deriving Repr

namespace MemoryBinder

/-- The transport channel of a destination, made if it is missing. -/
def openTransport (f : Fabric) (m : MemoryBinder) (destination : String) :
    Fabric × MemoryBinder × ChannelId :=
  match m.transports.get? destination with
  | some transport => (f.emit (.transportReused destination), m, transport)
  | none =>
    let (f, transport) := f.addChannel { name := destination }
    (f.emit (.transportCreated destination), ⟨m.transports.insert destination transport⟩, transport)

/-- Attaches a channel to a transport channel. -/
def attach (f : Fabric) (transport : ChannelId) : BindRequest → Fabric × BindingId
  | .consumer destination group input _ =>
    let (f, h) := f.addHandler (.forwarding input)
    let f := (f.subscribe transport h).1
    let f := f.emit (.consumerAttached destination group (f.channelName input))
    f.addBinding { name := destination, role := .consumer, group
                   attachment := .subscription transport h }
  | .producer destination output _ =>
    let (f, h) := f.addHandler (.forwarding transport)
    let f := (f.subscribe output h).1
    let f := f.emit (.producerAttached destination (f.channelName output))
    f.addBinding { name := destination, role := .producer
                   attachment := .subscription output h }

end MemoryBinder

namespace MemoryCall

/-- One step of a bind of the in-memory binder. -/
def step (f : Fabric) (m : MemoryBinder) :
    MemoryCall → Fabric × MemoryBinder × Progress MemoryCall BindAnswer
  | opening request =>
    if Text.isBlankText request.destination then
      (f, m, .ended (.error (.invalidArgument "destination name must not be blank")))
    else
      let (f, m, transport) := m.openTransport f request.destination
      (f, m, .running (attaching request transport))
  | attaching request transport =>
    let (f, b) := MemoryBinder.attach f transport request
    (f, m, .ended (.ok b))

/-- The number of steps to the end. -/
def rank : MemoryCall → Nat
  | opening _ => 1
  | attaching .. => 0

theorem rank_lt_of_step {f f' : Fabric} {m m' : MemoryBinder} {c c' : MemoryCall}
    (h : step f m c = (f', m', .running c')) :
  c'.rank < c.rank
  := by
  cases c with
  | opening request =>
    simp only [step] at h
    split at h
    · simp at h
    · simp only [Prod.mk.injEq, Progress.running.injEq] at h
      rw [← h.2.2]
      exact Nat.zero_lt_one
  | attaching request transport => simp [step] at h

end MemoryCall

namespace MemoryBinder

/-- One step of a bind, on the fabric and the binder as one state. -/
def stepPair (view : Fabric × MemoryBinder) (c : MemoryCall) :
    (Fabric × MemoryBinder) × Progress MemoryCall BindAnswer :=
  let (f, m, p) := c.step view.1 view.2
  ((f, m), p)

theorem step_eq_of_stepPair {view view' : Fabric × MemoryBinder} {c : MemoryCall}
    {p : Progress MemoryCall BindAnswer} (h : stepPair view c = (view', p)) :
  c.step view.1 view.2 = (view'.1, view'.2, p)
  := by
  simp only [stepPair, Prod.mk.injEq] at h
  rw [← h.1, ← h.2]

/-- The bind calls of an in-memory binder, as a process on the fabric and the binder. -/
def process : Process (Fabric × MemoryBinder) MemoryCall BindAnswer where
  step := stepPair
  nearer := InvImage (· < ·) MemoryCall.rank
  wellFounded := (measure MemoryCall.rank).wf
  nearer_of_step h := MemoryCall.rank_lt_of_step (step_eq_of_stepPair h)

/-- The in-memory binder as the only binder of a system. -/
def behaviour : Binders Unit MemoryBinder MemoryCall where
  extendedConsumer _ _ _ := {}
  extendedProducer _ _ _ := {}
  bindConsumer _ destination group input properties :=
    .opening (.consumer destination group input properties)
  bindProducer _ destination output properties :=
    .opening (.producer destination output properties)
  process := process

end MemoryBinder

end ChannelBinding
