import ChannelBinding.Session.Basic

/-!
# Commands that end at once

The commands of a session that never have to wait.
-/

namespace ChannelBinding

namespace Session

/-- Goes on with the channel of a label. -/
def withChannel (s : Session) (label : String) (go : ChannelId → Session × Reply) :
    Session × Reply :=
  match s.channel? label with
  | none => (s, .unknown label)
  | some c => go c

/-- Goes on with the handler of a label. -/
def withHandler (s : Session) (label : String) (go : HandlerId → Session × Reply) :
    Session × Reply :=
  match s.handler? label with
  | none => (s, .unknown label)
  | some h => go h

/-- Goes on with the message of a label. -/
def withMessage (s : Session) (label : String) (go : Message → Session × Reply) :
    Session × Reply :=
  match s.messages.get? label with
  | none => (s, .unknown label)
  | some m => go m

/-- Goes on with the binding of a label. -/
def withBinding (s : Session) (label : String) (go : BindingId → Session × Reply) :
    Session × Reply :=
  match s.bindings.get? label with
  | none => (s, .unknown label)
  | some b => go b

/-- Goes on with a binder. -/
def withBinder (s : Session) (name : Option String)
    (go : BinderId → AnyBinder → Session × Reply) : Session × Reply :=
  match s.binder? name with
  | none => (s, .unknown (name.getD ""))
  | some id =>
    match s.binderState? id with
    | none => (s, .unknown (name.getD ""))
    | some binder => go id binder

/-- Adds a channel, keeps it under a label and shows it. -/
def addChannel (s : Session) (slot : String) (channel : Channel) : Session × Reply :=
  let (fabric, c) := s.fabric.addChannel channel
  let s := (s.withFabric fabric).keepChannel slot c
  (s, .channel (s.viewChannel c))

/-- Keeps a channel, if there is one, and shows it. -/
def showChannel (s : Session) (slot : Option String) : Option ChannelId → Session × Reply
  | none => (s, .channel none)
  | some c =>
    let s := keep keepChannel s slot c
    (s, .channel (s.viewChannel c))

/-- Keeps a binding, if there is one, and shows it. -/
def showBinding (s : Session) (slot : Option String) : Option BindingId → Session × Reply
  | none => (s, .binding none)
  | some b =>
    let s := keep keepBinding s slot b
    (s, .binding (s.viewBinding? b))

/-- Sends a message and tells how it ended. -/
def deliver (s : Session) (c : ChannelId) (m : Message) : Session × Reply :=
  match s.fabric.deliver c m with
  | none => (s, .stalled)
  | some (fabric, outcome) =>
    match outcome.verdict with
    | .ok () => (s.withFabric fabric, .done)
    | .error e => (s.withFabric fabric, .failed (.delivery e))

/-- The headers of a list of headers, of which the last one of a key counts. -/
def addHeaders (base : Table String String) (headers : List (String × String)) :
    Table String String :=
  headers.foldl (fun t header => t.insert header.1 header.2) base

/-- Builds a message and keeps it under a label. -/
def addMessage (s : Session) (slot : String) (headers : Table String String)
    (payload : List UInt8) : Session × Reply :=
  let (fabric, m) := s.fabric.mint headers payload
  let fresh := s.messages.entries.all fun entry => entry.2.id ≠ m.id
  let s := { s.withFabric fabric with
    messages := s.messages.insert slot m
    messageLabels := s.messageLabels.insert m.id.number slot }
  (s, .newMessage (s.viewMessage m) fresh)

/-- The names that a bindable has now. -/
def namesOf (s : Session) (bindable : Bindable) : Reply :=
  .names (bindable.names s.system .consumer) (bindable.names s.system .producer)

/-- Carries out a command that ends at once; `inFlight` is what calls in progress refer to. -/
def execute (s : Session) (inFlight : Held) : Command → Session × Reply
  | .newChannel slot name contentType => s.addChannel slot { name, contentType }
  | .createChannel slot name => s.addChannel slot (s.setup.newChannel name)
  | .channelInfo channel => s.withChannel channel fun c => (s, .channel (s.viewChannel c))
  | .dropChannel channel =>
    let labels := s.fabric.labels
    (s.withFabric { s.fabric with labels := { labels with channels := labels.channels.erase channel } },
      .flag (labels.channels.contains channel))
  | .subscribe channel handler =>
    s.withChannel channel fun c => s.withHandler handler fun h =>
      let (fabric, changed) := s.fabric.subscribe c h
      (s.withFabric fabric, .flag changed)
  | .unsubscribe channel handler =>
    s.withChannel channel fun c => s.withHandler handler fun h =>
      let (fabric, changed) := s.fabric.unsubscribe c h
      (s.withFabric fabric, .flag changed)
  | .sendMessage channel message =>
    s.withChannel channel fun c => s.withMessage message fun m => s.deliver c m
  | .sendPayload channel payload headers =>
    s.withChannel channel fun c =>
      let (fabric, m) := s.fabric.mint (addHeaders ∅ headers) payload
      (s.withFabric fabric).deliver c m
  | .newHandler slot spec =>
    let add (handler : Handler) : Session × Reply :=
      let (fabric, h) := s.fabric.addHandler handler
      ((s.withFabric fabric).keepHandler slot h, .done)
    match spec with
    | .collecting => add (.collecting [])
    | .failing reason => add (.failing (.handlerFailed reason))
    | .forwarding channel => s.withChannel channel fun c => add (.forwarding c)
    | .scripted outcomes actions => add (.scripted outcomes actions [])
  | .received handler _ =>
    s.withHandler handler fun h => (s, .messages ((s.fabric.received h).map s.viewMessage))
  | .newMessage slot (.payload bytes) headers => s.addMessage slot (addHeaders ∅ headers) bytes
  | .newMessage slot (.copyOf message) headers =>
    s.withMessage message fun m => s.addMessage slot (addHeaders m.headers headers) m.payload
  | .messageHeader message key => s.withMessage message fun m => (s, .text (m.header? key))
  | .messageEq a b => s.withMessage a fun m => s.withMessage b fun n => (s, .flag (m.same n))
  | .transport binder name slot =>
    s.withBinder binder fun _ state => s.showChannel slot (state.transports.get? name)
  | .transportCount binder => s.withBinder binder fun _ state => (s, .count state.transports.size)
  | .extended binder name =>
    s.withBinder binder fun id _ =>
      (s, .extended (AnyBinders.extendedConsumer s.system.binders id name)
        (AnyBinders.extendedProducer s.system.binders id name))
  | .binderLog binder =>
    s.withBinder binder fun _ state => (s, .binderLog (s.viewBinderLog state))
  | .setScript binder script =>
    s.withBinder binder fun id state =>
      match state with
      | .scripted b => (s.setBinder id (.scripted { b with script }), .done)
      | _ => (s, .unknown (binder.getD ""))
  | .setFailing binder failing =>
    s.withBinder binder fun id state =>
      match state with
      | .recording b => (s.setBinder id (.recording { b with failing }), .done)
      | _ => (s, .unknown (binder.getD ""))
  | .newBinding slot name role group channel handler =>
    s.withChannel channel fun c => s.withHandler handler fun h =>
      let (fabric, b) := s.fabric.addBinding
        { name, role, group, attachment := .subscription c h }
      (s.withFabric fabric).showBinding (some slot) (some b)
  | .bindingInfo binding => s.withBinding binding fun b => (s, .binding (s.viewBinding? b))
  | .unbind binding =>
    s.withBinding binding fun b =>
      match s.fabric.unbind b with
      | (fabric, .ok ()) => (s.withFabric fabric, .done)
      | (fabric, .error e) => (s.withFabric fabric, .failed (.binder e))
  | .dropBinding binding =>
    ({ s with bindings := s.bindings.erase binding }, .flag (s.bindings.contains binding))
  | .unbindTracked role name =>
    match s.system.unbindTracked role name with
    | (system, .ok ()) => ({ s with system }, .done)
    | (system, .error e) => ({ s with system }, .failed (.binding e))
  | .tracked name =>
    (s, .tracked (s.viewBindings (s.system.ledger.tracked .producer name))
      (s.viewBindings (s.system.ledger.tracked .consumer name)))
  | .settings => (s, .settings s.setup.settings)
  | .register name channel =>
    s.withChannel channel fun c =>
      ({ s with system := { s.system with fixed := s.system.fixed.insert name c } }, .done)
  | .producerBinding name slot =>
    s.showBinding slot ((s.system.cache.get? name).map (·.binding))
  | .resolved => (s, .resolved s.system.cache.names)
  | .announcements => (s, .announcements s.system.announcements.toList)
  | .addOutput name channel =>
    s.withChannel channel fun c => ({ s with system := s.system.addOutput name c }, .done)
  | .output name =>
    let alive := s.fabric.alive (s.held ++ inFlight)
    (s, .channel ((s.system.registry.output? (· ∈ alive) name).bind s.viewChannel))
  | .outputNames => (s, s.namesOf .registry)
  | .unbindRegistry role =>
    let (system, failures) := s.system.unbindBindable role .registry
    ({ s with system }, .failures failures)
  | .addBindable bindable =>
    ({ s with system := s.system.addBindable bindable }, s.namesOf bindable)
  | .startLifecycle =>
    let system := s.system.startLifecycle
    ({ s with system }, .flag system.lifecycle.running)
  | .isRunning => (s, .flag s.system.lifecycle.running)
  | .stopLifecycle =>
    let (system, failures) := s.system.stopLifecycle
    ({ s with system }, .failures failures)
  -- the calls that may have to wait are carried out as jobs
  | .bindDirect .. | .bindProducer .. | .bindConsumer .. | .resolve .. | .resolveCancel ..
  | .resolveTimeout .. => (s, .stalled)

end Session

end ChannelBinding
