import ChannelBinding.Binder.Family
import ChannelBinding.Fabric.Waiting
import ChannelBinding.System

/-!
# Commands and replies

What a session can be asked to do, and what it answers.  Commands refer to channels, handlers,
messages and bindings by labels; replies show them as they are when the command ends.
-/

namespace ChannelBinding

/-- A handler as it is asked for. -/
inductive HandlerSpec where
  | collecting
  | failing (reason : String)
  | forwarding (channel : String)
  | scripted (outcomes : List (Option DeliveryError)) (actions : List Action)
deriving Repr

/-- Where a message comes from. -/
inductive MessageSource where
  | payload (bytes : List UInt8)
  | copyOf (message : String)
deriving Repr

/-- What a session can be asked to do; `slot` is the label under which the result is kept. -/
inductive Command where
  -- channels
  | newChannel (slot name : String) (contentType : Option String)
  | createChannel (slot name : String)
  | channelInfo (channel : String)
  | dropChannel (channel : String)
  | subscribe (channel handler : String)
  | unsubscribe (channel handler : String)
  | sendMessage (channel message : String)
  | sendPayload (channel : String) (payload : List UInt8) (headers : List (String × String))
  -- handlers
  | newHandler (slot : String) (spec : HandlerSpec)
  | received (handler : String) (wait : Option Nat)
  -- messages
  | newMessage (slot : String) (source : MessageSource) (headers : List (String × String))
  | messageHeader (message key : String)
  | messageEq (a b : String)
  -- binders
  | bindDirect (binder : Option String) (role : Role) (name : String) (group : Option String)
      (channel : String) (consumer : ConsumerProperties) (producer : ProducerProperties)
      (slot : Option String)
  | transport (binder : Option String) (name : String) (slot : Option String)
  | transportCount (binder : Option String)
  | extended (binder : Option String) (name : String)
  | binderLog (binder : Option String)
  | setScript (binder : Option String) (script : BinderScript)
  | setFailing (binder : Option String) (failing : Bool)
  -- bindings
  | newBinding (slot name : String) (role : Role) (group : Option String)
      (channel handler : String)
  | bindingInfo (binding : String)
  | unbind (binding : String)
  | dropBinding (binding : String)
  -- the binding service
  | bindProducer (name channel : String) (properties : Option ProducerProperties)
      (slot : Option String)
  | bindConsumer (name channel : String) (slot : Option String)
  | unbindTracked (role : Role) (name : String)
  | tracked (name : String)
  | settings
  -- the resolver
  | register (name channel : String)
  | resolve (name : String) (slot : Option String)
  | resolveCancel (name : String) (polls : Nat) (slot : Option String)
  | resolveTimeout (name : String) (ms : Nat) (slot : Option String)
  | producerBinding (name : String) (slot : Option String)
  | resolved
  | announcements
  -- registry and lifecycle
  | addOutput (name channel : String)
  | output (name : String)
  | outputNames
  | unbindRegistry (role : Role)
  | addBindable (bindable : Bindable)
  | startLifecycle
  | isRunning
  | stopLifecycle
deriving Repr

/-- A channel as a reply shows it. -/
structure ChannelView where
  name : String
  contentType : Option String
  subscribers : Nat
  /-- The labels of the channel, in ascending order. -/
  slots : List String
deriving Repr

/-- A binding as a reply shows it. -/
structure BindingView where
  name : String
  role : Role
  group : Option String
  bound : Bool
  /-- The labels of the binding, in ascending order. -/
  slots : List String
deriving Repr

/-- A message as a reply shows it. -/
structure MessageView where
  label : String
  message : Message
deriving Repr

/-- The log of a binder as a reply shows it. -/
inductive BinderLogView where
  | none
  | binds (log : List LoggedBind)
  | notes (producerCalls : Nat) (producers consumers : List BindingView)
deriving Repr

/-- An error of any kind. -/
inductive AnyError where
  | delivery (e : DeliveryError)
  | binder (e : BinderError)
  | binding (e : BindingError)
  | resolution (e : ResolutionError)
  | config (e : ConfigError)
deriving Repr

/-- What a session answers. -/
inductive Reply where
  | done
  | flag (b : Bool)
  | count (n : Nat)
  | text (s : Option String)
  | channel (c : Option ChannelView)
  | binding (b : Option BindingView)
  | bindings (bs : List BindingView)
  | messages (ms : List MessageView)
  | newMessage (m : MessageView) (fresh : Bool)
  | tracked (producers consumers : List BindingView)
  | extended (consumer : ConsumerProperties) (producer : ProducerProperties)
  | binderLog (log : BinderLogView)
  | settings (s : Settings)
  | resolved (names : List String)
  | announcements (all : List Announcement)
  | names (inputs outputs : List String)
  | failures (all : List UnbindFailure)
  | cancelled
  | failed (e : AnyError)
  | together (all : List Reply)
  /-- A label that nothing has. -/
  | unknown (label : String)
  /-- Nothing can go on any more. -/
  | stalled
deriving Repr

end ChannelBinding
