import ChannelBinding.Fabric

/-!
# What is alive

A channel is alive while something refers to it: something held, or a living handler that forwards to
it.  A handler is alive while it is held or subscribed to a living channel, and a binding refers to
its channel and its handler.  A channel is released with the last reference to it, so channels that
refer to each other in a circle are never released, whether or not they are held.  `alive` is what is
left when nothing more can be released.
-/

namespace ChannelBinding

/-- Channels, handlers and bindings that are referred to. -/
structure Held where
  channels : List ChannelId := []
  handlers : List HandlerId := []
  bindings : List BindingId := []
deriving Repr, Inhabited

instance : Append Held :=
  ⟨fun a b => ⟨a.channels ++ b.channels, a.handlers ++ b.handlers, a.bindings ++ b.bindings⟩⟩

namespace Fabric

/-- The channels that a handler refers to. -/
def channelsOf (f : Fabric) (h : HandlerId) : List ChannelId :=
  match f.handler? h with
  | some (.forwarding target) => [target]
  | _ => []

/-- What a binding refers to. -/
def heldBy (f : Fabric) (b : BindingId) : Held :=
  match (f.binding? b).map Binding.attachment with
  | some (.subscription channel handler) => { channels := [channel], handlers := [handler] }
  | _ => {}

/-- What is referred to while the given channels are alive. -/
def referred (f : Fabric) (held : Held) (cs : List ChannelId) : List ChannelId :=
  held.channels ++ (held.handlers ++ cs.flatMap f.subscribers).flatMap f.channelsOf

/-- The channels that something refers to, of those that are alive. -/
def keepReferred (f : Fabric) (held : Held) (cs : List ChannelId) : List ChannelId :=
  let refs := f.referred held cs
  cs.filter (· ∈ refs)

/-- Releases channels until something refers to each that is left. -/
def release (f : Fabric) (held : Held) (cs : List ChannelId) : List ChannelId :=
  if (f.keepReferred held cs).length < cs.length then f.release held (f.keepReferred held cs)
  else cs
termination_by cs.length

/-- The channels that are alive while the given things are held. -/
def alive (f : Fabric) (held : Held) : List ChannelId :=
  let held := held.bindings.foldl (fun acc b => acc ++ f.heldBy b) held
  f.release held ((List.range f.channels.size).map ChannelId.mk)

end Fabric

end ChannelBinding
