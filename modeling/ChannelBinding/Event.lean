import ChannelBinding.Binding
import ChannelBinding.Message

/-!
# Events

What the parts of the system report while they work, one constructor a kind of event.  How an event
is written out is decided in `ChannelBinding.Event.Record`.
-/

namespace ChannelBinding

/-- Something worth reporting. -/
inductive Event where
  -- channels
  | subscribed (channel : String) (subscribers : Nat)
  | unsubscribed (channel : String) (subscribers : Nat)
  | unheard (channel : String) (id : MessageId)
  | handlerFailed (channel : String) (id : MessageId) (contentType : Option String)
      (error : DeliveryError)
  -- the in-memory transport
  | transportCreated (destination : String)
  | transportReused (destination : String)
  | consumerAttached (destination : String) (group : Option String) (channel : String)
  | producerAttached (destination : String) (channel : String)
  -- bindings
  | unboundAlready (destination : String) (role : Role)
  | unbound (destination : String) (role : Role) (group : Option String) (channel : String)
  -- the binding service
  | producerBindStarted (name destination binder : String)
  | producerBindFailed (name destination binder : String) (error : BinderError)
  | producerTracked (name destination binder : String) (producers : Nat)
  | consumerBindStarted (name destination : String) (group : Option String)
  | consumerBindFailed (name destination : String) (group : Option String) (error : BinderError)
  | consumersBound (name : String) (group : Option String)
  | nothingTracked (name : String) (role : Role)
  | released (name destination : String) (role : Role)
  | releaseFailed (name destination : String) (role : Role) (error : BinderError)
  -- resolution
  | nameRejected (destination : String)
  | resolutionStarted (destination : String)
  | fixedFound (destination : String)
  | notAllowed (destination : String)
  | cacheHit (destination : String)
  | resolutionFailed (destination : String) (error : ResolutionError)
  | destinationBound (destination : String) (contentType : Option String)
  -- registry and lifecycle
  | outputRegistered (name : String) (outputs : Nat)
  | lifecycleStarted (bindables : Nat)
  | shutdownStarted (bindables : Nat)
  | shutdownFailure (failure : UnbindFailure)
  | shutdownEnded (failures : Nat)
  -- the demo program
  | programStarted
  | destinationAnnounced (name channel : String)
  | messageReceived (name : String) (id : MessageId) (contentType : Option String)
      (payload : String)
  | publishFailed (name : String) (error : DeliveryError)
  | summary (name : String) (received : Nat)
  | programEnded (resolved failures : Nat)
deriving DecidableEq, Repr, Inhabited

end ChannelBinding
