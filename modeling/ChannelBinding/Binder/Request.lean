import ChannelBinding.Binder.Behaviour

/-!
# Bind requests

What a binder is asked to attach, in either role.
-/

namespace ChannelBinding

/-- A bind as a binder is asked for it. -/
inductive BindRequest where
  | consumer (destination : String) (group : Option String) (input : ChannelId)
      (properties : ConsumerProperties)
  | producer (destination : String) (output : ChannelId) (properties : ProducerProperties)
deriving Repr

namespace BindRequest

/-- The destination to attach to. -/
def destination : BindRequest → String
  | consumer destination .. => destination
  | producer destination .. => destination

/-- The role in which to attach. -/
def role : BindRequest → Role
  | consumer .. => .consumer
  | producer .. => .producer

/-- The channel to attach. -/
def channel : BindRequest → ChannelId
  | consumer _ _ input _ => input
  | producer _ output _ => output

end BindRequest

end ChannelBinding
