import ChannelBinding.Channel
import ChannelBinding.Event

/-!
# The fabric

The channels, handlers and bindings of a system, each under its handle, with the journal of events
and the clock that all of them share.  Handles are given out in order and never reused.  A handler
subscribes to a channel at most once, and the journal tells of exactly the subscriptions that changed.
-/

namespace ChannelBinding

/-- The names under which channels and handlers go in scripts. -/
structure Labels where
  channels : Table String ChannelId := ∅
  handlers : Table String HandlerId := ∅
deriving Repr, Inhabited

/-- The channels, handlers and bindings of a system. -/
structure Fabric where
  channels : Array Channel := #[]
  handlers : Array Handler := #[]
  bindings : Array Binding := #[]
  labels : Labels := {}
  /-- The number of messages built so far. -/
  minted : Nat := 0
  /-- Everything reported so far. -/
  journal : Array Event := #[]
  /-- The time on the clock, in milliseconds. -/
  now : Nat := 0
deriving Repr, Inhabited

namespace Fabric

/-- The channel of a handle. -/
def channel? (f : Fabric) (c : ChannelId) : Option Channel := f.channels[c.index]?

/-- The handler of a handle. -/
def handler? (f : Fabric) (h : HandlerId) : Option Handler := f.handlers[h.index]?

/-- The binding of a handle. -/
def binding? (f : Fabric) (b : BindingId) : Option Binding := f.bindings[b.index]?

/-- The fabric with a channel replaced. -/
def setChannel (f : Fabric) (c : ChannelId) (channel : Channel) : Fabric :=
  { f with channels := f.channels.setIfInBounds c.index channel }

/-- The fabric with a handler replaced. -/
def setHandler (f : Fabric) (h : HandlerId) (handler : Handler) : Fabric :=
  { f with handlers := f.handlers.setIfInBounds h.index handler }

/-- The fabric with a binding replaced. -/
def setBinding (f : Fabric) (b : BindingId) (binding : Binding) : Fabric :=
  { f with bindings := f.bindings.setIfInBounds b.index binding }

/-- Adds a channel under a fresh handle. -/
def addChannel (f : Fabric) (channel : Channel) : Fabric × ChannelId :=
  ({ f with channels := f.channels.push channel }, ⟨f.channels.size⟩)

/-- Adds a handler under a fresh handle. -/
def addHandler (f : Fabric) (handler : Handler) : Fabric × HandlerId :=
  ({ f with handlers := f.handlers.push handler }, ⟨f.handlers.size⟩)

/-- Adds a binding under a fresh handle. -/
def addBinding (f : Fabric) (binding : Binding) : Fabric × BindingId :=
  ({ f with bindings := f.bindings.push binding }, ⟨f.bindings.size⟩)

/-- Reports an event. -/
def emit (f : Fabric) (event : Event) : Fabric := { f with journal := f.journal.push event }

/-- Builds a message with a fresh identity. -/
def mint (f : Fabric) (headers : Table String String) (payload : List UInt8) : Fabric × Message :=
  ({ f with minted := f.minted + 1 }, ⟨⟨f.minted⟩, headers, payload⟩)

/-- The name of a channel, empty for a handle that no channel has. -/
def channelName (f : Fabric) (c : ChannelId) : String := ((f.channel? c).map Channel.name).getD ""

/-- The handlers subscribed to a channel, in order of subscription. -/
def subscribers (f : Fabric) (c : ChannelId) : List HandlerId :=
  ((f.channel? c).map Channel.subscribers).getD []

/-! ## Subscriptions -/

/-- Subscribes a handler, unless it is subscribed already; tells which. -/
def subscribe (f : Fabric) (c : ChannelId) (h : HandlerId) : Fabric × Bool :=
  match f.channel? c with
  | none => (f, false)
  | some channel =>
    if h ∈ channel.subscribers then (f, false)
    else
      let subscribers := channel.subscribers ++ [h]
      ((f.setChannel c { channel with subscribers }).emit
        (.subscribed channel.name subscribers.length), true)

/-- Removes the subscription of a handler, if there is one; tells which. -/
def unsubscribe (f : Fabric) (c : ChannelId) (h : HandlerId) : Fabric × Bool :=
  match f.channel? c with
  | none => (f, false)
  | some channel =>
    if h ∈ channel.subscribers then
      let subscribers := channel.subscribers.erase h
      ((f.setChannel c { channel with subscribers }).emit
        (.unsubscribed channel.name subscribers.length), true)
    else (f, false)

@[simp]
theorem channel?_emit (f : Fabric) (e : Event) (c : ChannelId) :
  (f.emit e).channel? c = f.channel? c
  := rfl

theorem channel?_setChannel (f : Fabric) (c d : ChannelId) (channel : Channel) :
  (f.setChannel c channel).channel? d
    = if c = d then (f.channel? d).map fun _ => channel else f.channel? d
  := by
  simp only [channel?, setChannel, Array.getElem?_setIfInBounds]
  by_cases h : c = d
  · subst h
    by_cases hc : c.index < f.channels.size <;> simp [hc]
  · have h' : c.index ≠ d.index := fun e => h (by cases c; cases d; simp_all)
    simp [h, h']

/-- A subscription puts a new handler behind the subscribers there are. -/
theorem subscribers_subscribe (f : Fabric) (c d : ChannelId) (h : HandlerId) :
  (f.subscribe c h).1.subscribers d
    = if c = d ∧ (f.subscribe c h).2 = true then f.subscribers d ++ [h] else f.subscribers d
  := by
  unfold subscribe
  cases hc : f.channel? c with
  | none => simp
  | some channel =>
    dsimp only
    by_cases hm : h ∈ channel.subscribers
    · simp [hm]
    · simp only [hm, if_false, subscribers, channel?_emit, channel?_setChannel, and_true]
      by_cases hd : c = d
      · subst hd
        simp [hc]
      · simp [hd]

/-- Removing a subscription takes one handler out of the subscribers and leaves their order. -/
theorem subscribers_unsubscribe (f : Fabric) (c d : ChannelId) (h : HandlerId) :
  (f.unsubscribe c h).1.subscribers d
    = if c = d then (f.subscribers d).erase h else f.subscribers d
  := by
  unfold unsubscribe
  cases hc : f.channel? c with
  | none =>
    by_cases hd : c = d
    · subst hd
      simp [subscribers, hc]
    · simp [hd]
  | some channel =>
    dsimp only
    by_cases hm : h ∈ channel.subscribers
    · simp only [hm, if_true, subscribers, channel?_emit, channel?_setChannel]
      by_cases hd : c = d
      · subst hd
        simp [hc]
      · simp [hd]
    · by_cases hd : c = d
      · subst hd
        simp [hm, subscribers, hc, List.erase_of_not_mem hm]
      · simp [hm, hd]

end Fabric

end ChannelBinding
