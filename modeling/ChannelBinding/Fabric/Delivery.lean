import ChannelBinding.Fabric

/-!
# Delivery

A channel offers a message to its subscribers in turn until one accepts it.  The subscribers and the
first of them are fixed when the dispatch begins, whatever the handlers do meanwhile.  `dispatch` is
the rule for handlers of any behaviour; `send` is the rule for the handlers of the fabric, with a
bound on how deep dispatches nest.  An outcome lists every handler call made in the course of it.
-/

namespace ChannelBinding

/-- How one handling of a message ends. -/
abbrev Verdict := Except DeliveryError Unit

/-- One handler call in the course of a send. -/
structure HandlerCall where
  /-- The channels that the message went through, the first one first. -/
  path : List ChannelId
  handler : HandlerId
  message : Message
  verdict : Verdict

/-- What one handling of a message led to: the handler calls it made, in order, and its end. -/
structure Outcome where
  calls : List HandlerCall := []
  verdict : Verdict

/-- The outcome with its calls seen from a channel further up. -/
def Outcome.through (o : Outcome) (c : ChannelId) : Outcome :=
  { o with calls := o.calls.map fun call => { call with path := c :: call.path } }

/-- Work on a fabric that may fail to return. -/
abbrev Work := StateT Fabric Option

/-- How handlers take messages. -/
abbrev Taking := HandlerId → Message → Work Outcome

/-- Offers a message of a channel to handlers in turn until one accepts it; `last` is the error if
there is no handler left. -/
def offer (take : Taking) (c : ChannelId) (m : Message) :
    List HandlerId → (last : DeliveryError) → Work Outcome
  | [], last => pure ⟨[], .error last⟩
  | h :: rest, _ => do
    let taken ← take h m
    let calls := ⟨[c], h, m, taken.verdict⟩ :: (taken.through c).calls
    match taken.verdict with
    | .ok () => pure ⟨calls, .ok ()⟩
    | .error e => do
      modify fun f => f.emit (.handlerFailed (f.channelName c) m.id m.contentType? e)
      let later ← offer take c m rest e
      pure ⟨calls ++ later.calls, later.verdict⟩

/-- Dispatches a message on a channel, for handlers of any behaviour. -/
def dispatch (take : Taking) (c : ChannelId) (m : Message) : Work Outcome := do
  let f ← get
  match f.channel? c with
  | none => failure
  | some channel =>
    let m := m.stamp channel.contentType
    if channel.subscribers.isEmpty then do
      set (f.emit (.unheard channel.name m.id))
      pure ⟨[], .error (.noSubscribers channel.name)⟩
    else do
      set (f.setChannel c { channel with turn := channel.turn + 1 })
      offer take c m channel.offerOrder (.noSubscribers channel.name)

namespace Handler

/-- Acts on a message as a script says; stops at the first send that fails. -/
def act (send : ChannelId → Message → Work Outcome) (m : Message) : List Action → Work Outcome
  | [] => pure ⟨[], .ok ()⟩
  | .subscribe channel handler :: rest => do
    let f ← get
    match f.labels.channels.get? channel, f.labels.handlers.get? handler with
    | some c, some h => set (f.subscribe c h).1
    | _, _ => pure ()
    act send m rest
  | .unsubscribe channel handler :: rest => do
    let f ← get
    match f.labels.channels.get? channel, f.labels.handlers.get? handler with
    | some c, some h => set (f.unsubscribe c h).1
    | _, _ => pure ()
    act send m rest
  | .send channel :: rest => do
    let f ← get
    match f.labels.channels.get? channel with
    | none => act send m rest
    | some c =>
      let sent ← send c m
      match sent.verdict with
      | .error _ => pure sent
      | .ok () => do
        let later ← act send m rest
        pure ⟨sent.calls ++ later.calls, later.verdict⟩

/-- The payload of a message read as text, empty if it is not a text. -/
def payloadText (m : Message) : String :=
  (String.fromUTF8? ⟨m.payload.toArray⟩).getD ""

/-- How the handlers of a fabric take messages, given how they send messages on. -/
def take (send : ChannelId → Message → Work Outcome) : Taking := fun h m => do
  let f ← get
  match f.handler? h with
  | none => failure
  | some (.collecting received) => do
    set (f.setHandler h (.collecting (received ++ [m])))
    pure ⟨[], .ok ()⟩
  | some (.failing error) => pure ⟨[], .error error⟩
  | some (.forwarding target) => send target m
  | some (.scripted outcomes actions received) => do
    set (f.setHandler h (.scripted outcomes actions (received ++ [m])))
    let acted ← act send m actions
    match acted.verdict, outcomes[received.length]?.join with
    | .ok (), some e => pure { acted with verdict := .error e }
    | _, _ => pure acted
  | some (.reporting name received) => do
    set ((f.setHandler h (.reporting name (received + 1))).emit
      (.messageReceived name m.id m.contentType? (payloadText m)))
    pure ⟨[], .ok ()⟩

end Handler

namespace Fabric

/-- Sends a message on a channel, with at most `depth` dispatches inside one another. -/
def send : (depth : Nat) → ChannelId → Message → Work Outcome
  | 0 => fun _ _ => failure
  | depth + 1 => dispatch (Handler.take (send depth))

/-- A bound on the nesting of dispatches: one for each channel, and room for scripts that send. -/
def nestingBound (f : Fabric) : Nat := f.channels.size + 1000

/-- Sends a message on a channel; there is no answer if dispatches nest without end. -/
def deliver (f : Fabric) (c : ChannelId) (m : Message) : Option (Fabric × Outcome) :=
  (send f.nestingBound c m f).map fun (outcome, f') => (f', outcome)

end Fabric

end ChannelBinding
