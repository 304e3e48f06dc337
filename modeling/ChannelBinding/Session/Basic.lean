import ChannelBinding.Destination.Resolution
import ChannelBinding.Fabric.Delivery
import ChannelBinding.Fabric.Alive
import ChannelBinding.Service.Consumer
import ChannelBinding.Session.Command

/-!
# Sessions

A session is a system under a set-up, with labels for the channels, handlers, messages and bindings
that commands talk about.
-/

namespace ChannelBinding

/-- The set-up of a session. -/
abbrev SessionSetup := Setup BinderId AnyBinders AnyCall

/-- A system with labels for the things in it. -/
structure Session where
  setup : SessionSetup
  system : System AnyBinders
  messages : Table String Message := ∅
  bindings : Table String BindingId := ∅
  /-- The labels of messages that have one. -/
  messageLabels : Table Nat String := ∅

namespace Session

/-- The fabric of a session. -/
def fabric (s : Session) : Fabric := s.system.fabric

/-- The session with its fabric replaced. -/
def withFabric (s : Session) (fabric : Fabric) : Session :=
  { s with system := { s.system with fabric } }

/-! ## Starting a session -/

/-- A session of named binders, in the order in which they are registered. -/
def start (settings : Settings) (binders : List (String × AnyBinder)) (fallback : Option String)
    (callback : Option Callback) : Session where
  setup := {
    settings
    factory := {
      binders := Table.ofEntries (binders.mapIdx fun i entry => (entry.1, ⟨i⟩))
      fallback }
    binders := AnyBinders.behaviour
    callback }
  system := { binders := (binders.map Prod.snd).toArray }

/-- A session of one recording binder whose lifecycle runs and holds the registry. -/
def startWired (settings : Settings) (binder : RecordingBinder) : Session :=
  let s := start settings [("recording", .recording binder)] none none
  { s with system := (s.system.addBindable .registry).startLifecycle }

/-! ## Labels -/

/-- The channel of a label. -/
def channel? (s : Session) (label : String) : Option ChannelId :=
  s.fabric.labels.channels.get? label

/-- The handler of a label. -/
def handler? (s : Session) (label : String) : Option HandlerId :=
  s.fabric.labels.handlers.get? label

/-- The session with a channel kept under a label. -/
def keepChannel (s : Session) (label : String) (c : ChannelId) : Session :=
  let labels := s.fabric.labels
  s.withFabric
    { s.fabric with labels := { labels with channels := labels.channels.insert label c } }

/-- The session with a handler kept under a label. -/
def keepHandler (s : Session) (label : String) (h : HandlerId) : Session :=
  let labels := s.fabric.labels
  s.withFabric
    { s.fabric with labels := { labels with handlers := labels.handlers.insert label h } }

/-- The session with a binding kept under a label. -/
def keepBinding (s : Session) (label : String) (b : BindingId) : Session :=
  { s with bindings := s.bindings.insert label b }

/-- The session with the result of a command kept, if it has a label. -/
def keep (keepOne : Session → String → α → Session) (s : Session) (label : Option String)
    (a : α) : Session :=
  match label with
  | none => s
  | some label => keepOne s label a

/-- The labels of a value, in ascending order. -/
def labelsOf [DecidableEq α] (t : Table String α) (a : α) : List String :=
  sortNames ((t.entries.filter fun entry => entry.2 = a).map Prod.fst)

/-- The label of a message: its own, or its number. -/
def messageLabel (s : Session) (id : MessageId) : String :=
  (s.messageLabels.get? id.number).getD s!"#{id.number}"

/-! ## Views -/

/-- A channel as it is. -/
def viewChannel (s : Session) (c : ChannelId) : Option ChannelView :=
  (s.fabric.channel? c).map fun channel =>
    { name := channel.name
      contentType := channel.contentType
      subscribers := channel.subscribers.length
      slots := labelsOf s.fabric.labels.channels c }

/-- A binding as it is. -/
def viewBinding? (s : Session) (b : BindingId) : Option BindingView :=
  (s.fabric.binding? b).map fun binding =>
    { name := binding.name
      role := binding.role
      group := binding.group
      bound := binding.bound
      slots := labelsOf s.bindings b }

/-- Bindings as they are. -/
def viewBindings (s : Session) (bs : List BindingId) : List BindingView :=
  bs.filterMap s.viewBinding?

/-- A message under its label. -/
def viewMessage (s : Session) (m : Message) : MessageView := ⟨s.messageLabel m.id, m⟩

/-! ## Binders -/

/-- The binder of a name, or the first one by name. -/
def binder? (s : Session) (name : Option String) : Option BinderId :=
  match name with
  | some name => s.setup.factory.binders.get? name
  | none => do
    let first ← (sortNames s.setup.factory.binders.keys).head?
    s.setup.factory.binders.get? first

/-- A binder as it is. -/
def binderState? (s : Session) (id : BinderId) : Option AnyBinder := s.system.binders[id.index]?

/-- The session with a binder replaced. -/
def setBinder (s : Session) (id : BinderId) (binder : AnyBinder) : Session :=
  { s with system := { s.system with
      binders := s.system.binders.setIfInBounds id.index binder } }

/-- The log of a binder. -/
def viewBinderLog (s : Session) : AnyBinder → BinderLogView
  | .memory _ => .none
  | .scripted b => .binds b.log.toList
  | .recording b => .notes b.producerCalls (s.viewBindings b.producers) (s.viewBindings b.consumers)

/-! ## What is held -/

/-- What a session refers to, calls in progress aside. -/
def held (s : Session) : Held where
  channels :=
    s.fabric.labels.channels.entries.map Prod.snd ++ s.system.fixed.entries.map Prod.snd ++
      s.system.cache.entries.keys.filterMap (fun name => (s.system.cache.get? name).map (·.channel))
      ++ s.system.binders.toList.flatMap fun b => b.transports.entries.map Prod.snd
  handlers := s.fabric.labels.handlers.entries.map Prod.snd
  bindings :=
    s.bindings.entries.map Prod.snd ++ s.system.ledger.consumers.entries.flatMap Prod.snd ++
      s.system.ledger.producers.entries.flatMap Prod.snd ++
      s.system.cache.entries.keys.filterMap (fun name => (s.system.cache.get? name).map (·.binding))
      ++ s.system.binders.toList.flatMap AnyBinder.bindings

end Session

end ChannelBinding
