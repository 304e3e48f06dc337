import ChannelBinding.Fabric
import ChannelBinding.Process
import ChannelBinding.Properties

/-!
# How binders behave

What the binding service knows of binders: the extended properties that they supply, and the bind
calls that they carry out as processes on the fabric and on a state of their own.  `ι` names the
binders, `τ` is their state and `β` a bind call in progress.
-/

namespace ChannelBinding

/-- What a binder answers to a bind. -/
abbrev BindAnswer := Except BinderError BindingId

/-- The behaviour of a family of binders. -/
structure Binders (ι τ β : Type) where
  /-- The properties that a binder adds to the consumer properties of a binding name. -/
  extendedConsumer : τ → ι → String → ConsumerProperties
  /-- The properties that a binder adds to the producer properties of a binding name. -/
  extendedProducer : τ → ι → String → ProducerProperties
  /-- The call that attaches a channel as consumer of a destination. -/
  bindConsumer : ι → (destination : String) → (group : Option String) → ChannelId →
    ConsumerProperties → β
  /-- The call that attaches a channel as producer of a destination. -/
  bindProducer : ι → (destination : String) → ChannelId → ProducerProperties → β
  /-- How a bind call proceeds. -/
  process : Process (Fabric × τ) β BindAnswer

end ChannelBinding
