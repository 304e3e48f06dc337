import ChannelBinding.System

/-!
# Binding a producer

A bind picks the binder of the binding name, adds the extension properties that the binder supplies,
checks the properties and hands the channel to the binder.  The binder's answer is recorded in the
ledger in the very step in which it is received.
-/

namespace ChannelBinding

/-- A producer bind that the binder works on. -/
structure ProducerBind (β : Type) where
  name : String
  destination : String
  /-- The binder's name as it is reported. -/
  binder : String
  /-- The bind call of the binder. -/
  call : β
deriving Repr

/-- What a producer bind comes to. -/
abbrev ProducerAnswer := Except BindingError BindingId

namespace ProducerBind

variable {ι τ β : Type}

/-- The bind that is handed to the binder, or what speaks against it. -/
def prepare (setup : Setup ι τ β) (binders : τ) (name : String) (output : ChannelId)
    (properties : ProducerProperties) : Except BindingError (ProducerBind β) := do
  let binder ← setup.binderFor name
  let supplied := (setup.binders.extendedProducer binders binder name).extension
  let properties := properties.withExtensionDefaults supplied
  match properties.validate with
  | .error e => throw (.invalidProperties e.message)
  | .ok () =>
    let destination := setup.settings.destination name
    return {
      name
      destination
      binder := binderLabel (setup.settings.binderName name)
      call := setup.binders.bindProducer binder destination output properties }

/-- Begins a producer bind. -/
def begin (setup : Setup ι τ β) (s : System τ) (name : String) (output : ChannelId)
    (properties : ProducerProperties) : System τ × Progress (ProducerBind β) ProducerAnswer :=
  match prepare setup s.binders name output properties with
  | .error e => (s, .ended (.error e))
  | .ok bind =>
    (s.emit (.producerBindStarted bind.name bind.destination bind.binder), .running bind)

/-- Records a binding that the binder has handed over. -/
def track (s : System τ) (bind : ProducerBind β) (b : BindingId) : System τ :=
  let ledger := s.ledger.record .producer bind.name [b]
  let producers := (ledger.tracked .producer bind.name).length
  { s with ledger }.emit (.producerTracked bind.name bind.destination bind.binder producers)

/-- One step of a producer bind. -/
def step (setup : Setup ι τ β) (s : System τ) (bind : ProducerBind β) :
    System τ × Progress (ProducerBind β) ProducerAnswer :=
  match setup.bindProcess.step s bind.call with
  | (s', .running call) => (s', .running { bind with call })
  | (s', .waiting call pause) => (s', .waiting { bind with call } pause)
  | (s', .ended (.ok b)) => (bind.track s' b, .ended (.ok b))
  | (s', .ended (.error e)) =>
    (s'.emit (.producerBindFailed bind.name bind.destination bind.binder e),
      .ended (.error (.binder e)))

theorem nearer_of_step {setup : Setup ι τ β} {s s' : System τ} {bind bind' : ProducerBind β}
    (h : step setup s bind = (s', .running bind')) :
  setup.bindProcess.nearer bind'.call bind.call
  := by
  unfold step at h
  split at h
  · rename_i hc
    simp only [Prod.mk.injEq, Progress.running.injEq] at h
    rw [← h.2]
    exact setup.bindProcess.nearer_of_step hc
  all_goals simp at h

/-- A producer bind, as a process on the system. -/
def process (setup : Setup ι τ β) : Process (System τ) (ProducerBind β) ProducerAnswer where
  step := step setup
  nearer := InvImage setup.bindProcess.nearer call
  wellFounded := InvImage.wf call setup.bindProcess.wellFounded
  nearer_of_step := nearer_of_step

end ProducerBind

end ChannelBinding
