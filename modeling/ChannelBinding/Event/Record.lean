import ChannelBinding.Event

/-!
# Event records

How an event is written out: its severity, its source, a sentence, and named fields.  Events of the
parts of the system start with a short name and the name of their part; events of the demo program
have their own fields only.
-/

namespace ChannelBinding

/-- How serious an event is. -/
inductive Severity where
  | warning
  | information
  | detail
deriving DecidableEq, Repr

/-- The name of a severity. -/
def Severity.name : Severity → String
  | .warning => "WARN"
  | .information => "INFO"
  | .detail => "DEBUG"

/-- The rank of a severity: the more serious, the lower. -/
def Severity.rank : Severity → Nat
  | .warning => 0
  | .information => 1
  | .detail => 2

/-- Whether a severity is at least as serious as a limit. -/
def Severity.within (s limit : Severity) : Bool := s.rank ≤ limit.rank

/-- The value of a field of an event. -/
inductive FieldValue where
  /-- A text, which is quoted where quotes are used. -/
  | text (s : String)
  /-- A text that is never quoted. -/
  | bare (s : String)
  | count (n : Nat)
  | messageId (id : MessageId)
deriving DecidableEq, Repr

/-- An event as it is written out. -/
structure EventRecord where
  severity : Severity
  /-- The part of the program that reports the event. -/
  source : String
  message : String
  fields : List (String × FieldValue)
deriving Repr

namespace Event

/-- A record of a part of the system. -/
def part (source component : String) (severity : Severity) (name message : String)
    (fields : List (String × FieldValue)) : EventRecord where
  severity
  source := "stream_binding::" ++ source
  message
  fields := ("event", .text name) :: ("component", .text component) :: fields

/-- A record of a channel. -/
def channelRecord := part "channel" "direct_channel"

/-- A record of the in-memory transport. -/
def transportRecord := part "binder::in_memory" "in_memory_binder" .detail

/-- A record of a binding. -/
def bindingRecord := part "binder::binding" "binding" .detail

/-- A record of the binding service. -/
def serviceRecord := part "binding_service" "binding_service"

/-- A record of the resolver. -/
def resolverRecord := part "resolver::channel_resolver" "channel_resolver"

/-- A record of the lifecycle. -/
def lifecycleRecord := part "lifecycle::binding_lifecycle" "binding_lifecycle"

/-- A record of the demo program. -/
def demoRecord (severity : Severity) (message : String) (fields : List (String × FieldValue)) :
    EventRecord where
  severity
  source := "configurable_binder"
  message
  fields

/-- What is written for something that is not there. -/
def orNone (s : Option String) : String := s.getD "none"

/-- An event as it is written out. -/
def record : Event → EventRecord
  | subscribed channel subscribers =>
    channelRecord .detail "channel_subscribe" "handler subscribed"
      [("channel", .text channel), ("subscribers", .count subscribers)]
  | unsubscribed channel subscribers =>
    channelRecord .detail "channel_unsubscribe" "handler unsubscribed"
      [("channel", .text channel), ("subscribers", .count subscribers)]
  | unheard channel id =>
    channelRecord .detail "channel_no_subscribers" "dropping message with no subscribers"
      [("channel", .text channel), ("msg_id", .messageId id)]
  | handlerFailed channel id contentType error =>
    channelRecord .warning "channel_dispatch_failed" "handler failed, trying next subscriber"
      [("channel", .text channel), ("msg_id", .messageId id),
        ("content_type", .bare (orNone contentType)), ("err", .bare error.message)]
  | transportCreated destination =>
    transportRecord "binder_destination_create" "created transport channel"
      [("destination", .text destination)]
  | transportReused destination =>
    transportRecord "binder_destination_reuse" "reusing transport channel"
      [("destination", .text destination)]
  | consumerAttached destination group channel =>
    transportRecord "binder_bind_consumer_ok" "bound consumer"
      [("destination", .text destination), ("group", .text (orNone group)),
        ("channel", .text channel)]
  | producerAttached destination channel =>
    transportRecord "binder_bind_producer_ok" "bound producer"
      [("destination", .text destination), ("channel", .text channel)]
  | unboundAlready destination role =>
    bindingRecord "binding_unbind_noop" "binding already unbound"
      [("destination", .text destination), ("role", .bare role.name)]
  | unbound destination role group channel =>
    bindingRecord "binding_unbind_ok" "binding unbound"
      [("destination", .text destination), ("role", .bare role.name),
        ("group", .text (orNone group)), ("channel", .text channel)]
  | producerBindStarted name destination binder =>
    serviceRecord .detail "binding_service_bind_start" "binding producer"
      [("binding_name", .text name), ("destination", .text destination),
        ("role", .text Role.producer.name), ("binder", .text binder)]
  | producerBindFailed name destination binder error =>
    serviceRecord .warning "binding_service_bind_failed" "unable to bind producer"
      [("binding_name", .text name), ("destination", .text destination),
        ("role", .text Role.producer.name), ("binder", .text binder), ("err", .bare error.message)]
  | producerTracked name destination binder producers =>
    serviceRecord .detail "binding_service_bind_ok" "bound producer"
      [("binding_name", .text name), ("destination", .text destination),
        ("role", .text Role.producer.name), ("binder", .text binder),
        ("producers", .count producers)]
  | consumerBindStarted name destination group =>
    serviceRecord .detail "binding_service_bind_start" "binding consumer"
      [("binding_name", .text name), ("destination", .text destination),
        ("role", .text Role.consumer.name), ("group", .text (orNone group))]
  | consumerBindFailed name destination group error =>
    serviceRecord .warning "binding_service_bind_failed" "unable to bind consumer"
      [("binding_name", .text name), ("destination", .text destination),
        ("role", .text Role.consumer.name), ("group", .text (orNone group)),
        ("err", .bare error.message)]
  | consumersBound name group =>
    serviceRecord .detail "binding_service_bind_ok" "bound consumer"
      [("binding_name", .text name), ("role", .text Role.consumer.name),
        ("group", .text (orNone group))]
  | nothingTracked name role =>
    serviceRecord .warning "binding_service_unbind_missing"
      s!"trying to unbind a {role.name} with no tracked binding"
      [("binding_name", .text name), ("role", .text role.name)]
  | released name destination role =>
    serviceRecord .detail "binding_service_unbind_ok" "unbound binding"
      [("binding_name", .text name), ("destination", .text destination),
        ("role", .bare role.name)]
  | releaseFailed name destination role error =>
    serviceRecord .warning "binding_service_unbind_failed" "unable to unbind binding"
      [("binding_name", .text name), ("destination", .text destination),
        ("role", .bare role.name), ("err", .bare error.message)]
  | nameRejected destination =>
    resolverRecord .warning "resolve_rejected" "rejected destination"
      [("destination", .bare (Text.quote destination)), ("reason", .text "invalid_destination")]
  | resolutionStarted destination =>
    resolverRecord .detail "resolve_start" "resolving destination"
      [("destination", .text destination)]
  | fixedFound destination =>
    resolverRecord .detail "resolve_static_channel" "resolved statically registered channel"
      [("destination", .text destination)]
  | notAllowed destination =>
    resolverRecord .warning "resolve_rejected" "rejected destination"
      [("destination", .text destination), ("reason", .text "not_in_dynamic_destinations")]
  | cacheHit destination =>
    resolverRecord .detail "resolve_cache_hit" "resolved cached destination"
      [("destination", .text destination)]
  | resolutionFailed destination error =>
    resolverRecord .warning "resolve_failed" "unable to resolve destination"
      [("destination", .text destination), ("err", .bare error.message)]
  | destinationBound destination contentType =>
    resolverRecord .information "resolve_bind_ok" "bound new dynamic destination"
      [("destination", .text destination), ("content_type", .text (contentType.getD ""))]
  | outputRegistered name outputs =>
    part "lifecycle::dynamic_destinations" "dynamic_destinations" .detail
      "lifecycle_output_registered" "registered dynamic output"
      [("binding_name", .text name), ("outputs", .count outputs)]
  | lifecycleStarted bindables =>
    lifecycleRecord .information "lifecycle_start" "binding lifecycle started"
      [("bindables", .count bindables)]
  | shutdownStarted bindables =>
    lifecycleRecord .detail "lifecycle_stop_start" "stopping binding lifecycle"
      [("bindables", .count bindables)]
  | shutdownFailure failure =>
    lifecycleRecord .warning "lifecycle_unbind_failed" "unable to unbind during shutdown"
      [("binding_name", .text failure.name), ("role", .bare failure.role.name),
        ("err", .bare failure.error.message)]
  | shutdownEnded failures =>
    lifecycleRecord .information "lifecycle_stop_ok" "binding lifecycle stopped"
      [("failures", .count failures)]
  | programStarted => demoRecord .information "Started configurable-binder" []
  | destinationAnnounced name channel =>
    demoRecord .information "creating dynamic destination"
      [("binding_name", .text name), ("channel", .text channel)]
  | messageReceived name id contentType payload =>
    demoRecord .information "received message"
      [("binding_name", .text name), ("msg_id", .messageId id),
        ("content_type", .text (orNone contentType)), ("payload", .bare payload)]
  | publishFailed name error =>
    demoRecord .warning "unable to publish"
      [("binding_name", .text name), ("err", .bare error.message)]
  | summary name received =>
    demoRecord .information "demo destination summary"
      [("binding_name", .text name), ("received", .count received)]
  | programEnded resolved failures =>
    demoRecord .information "configurable-binder finished"
      [("resolved", .count resolved), ("unbind_failures", .count failures)]

end Event

end ChannelBinding
