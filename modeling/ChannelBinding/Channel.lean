import ChannelBinding.Binding
import ChannelBinding.Message

/-!
# Channels and handlers

A channel hands each message to one of its subscribers, which take turns.  A handler is what
subscribes to channels: it collects messages, rejects them, forwards them to another channel, follows
a script, or reports them.
-/

namespace ChannelBinding

/-- A channel that gives each message to one subscriber, in turns. -/
structure Channel where
  name : String
  contentType : Option String := none
  /-- The subscribed handlers, in order of subscription. -/
  subscribers : List HandlerId := []
  /-- The number of messages dispatched so far, modulo 2 ^ 64. -/
  turn : UInt64 := 0
deriving DecidableEq, Repr, Inhabited

/-- The subscribers in the order in which the next message is offered to them. -/
def Channel.offerOrder (c : Channel) : List HandlerId :=
  c.subscribers.rotateLeft c.turn.toNat

/-- Something a scripted handler does with each message; channels and handlers go by their labels. -/
inductive Action where
  | subscribe (channel handler : String)
  | unsubscribe (channel handler : String)
  | send (channel : String)
deriving DecidableEq, Repr, Inhabited

/-- What handles messages. -/
inductive Handler where
  /-- Keeps every message, in order of arrival. -/
  | collecting (received : List Message)
  /-- Rejects every message with the same error. -/
  | failing (error : DeliveryError)
  /-- Sends every message on to another channel. -/
  | forwarding (target : ChannelId)
  /-- Keeps every message, acts on it, and ends its `n`-th call as the `n`-th outcome says. -/
  | scripted (outcomes : List (Option DeliveryError)) (actions : List Action)
      (received : List Message)
  /-- Counts the messages for a binding name and reports each. -/
  | reporting (bindingName : String) (received : Nat)
deriving Repr, Inhabited

/-- The messages that a handler has kept. -/
def Handler.received : Handler → List Message
  | .collecting received => received
  | .scripted _ _ received => received
  | _ => []

end ChannelBinding
