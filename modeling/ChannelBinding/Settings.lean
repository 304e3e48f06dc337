import ChannelBinding.Properties

/-!
# Settings

What a binding service is configured with: settings for each binding name, a default binder and the
destinations that may be resolved dynamically.  Settings are valid when every binding is, in whatever
order the bindings are listed; the first binding that is not, with the first rule that it breaks,
makes the error.
-/

namespace ChannelBinding

/-- The settings of one binding name. -/
structure BindingProperties where
  destination : Option String := none
  group : Option String := none
  contentType : Option String := none
  binder : Option String := none
  consumer : Option ConsumerProperties := none
  producer : Option ProducerProperties := none
deriving Repr, Inhabited

/-- The settings of a binding service. -/
structure Settings where
  defaultBinder : Option String := none
  /-- The destinations that may be resolved dynamically; all of them if there are none. -/
  dynamicDestinations : List String := []
  bindings : Table String BindingProperties := ∅
deriving Repr, Inhabited

/-- What is wrong with a file that cannot be read. -/
inductive FileError where
  | missing
  | notText
  | other (reason : String)
deriving DecidableEq, Repr, Inhabited

/-- The wording of a file error. -/
def FileError.message : FileError → String
  | .missing => "No such file or directory (os error 2)"
  | .notText => "stream did not contain valid UTF-8"
  | .other reason => reason

/-- Why settings were not accepted. -/
inductive ConfigError where
  | io (cause : FileError)
  | parse (reason : String)
  | invalid (binding reason : String)
deriving DecidableEq, Repr, Inhabited

/-- The wording of a configuration error. -/
def ConfigError.message : ConfigError → String
  | .io cause => s!"unable to read binding configuration: {cause.message}"
  | .parse reason => s!"unable to parse binding configuration: {reason}"
  | .invalid binding reason => s!"invalid configuration for binding '{binding}': {reason}"

/-- The wordings of what caused a configuration error. -/
def ConfigError.causes : ConfigError → List String
  | .io cause => [cause.message]
  | _ => []

/-- The content type of a channel whose binding name sets none. -/
def defaultContentType : String := "application/json"

/-- How a binder is called in reports and errors: by the name that is asked for, if there is one. -/
def binderLabel (wanted : Option String) : String := wanted.getD "default"

namespace BindingProperties

/-- What is wrong with the settings of a binding name: a blank destination, a broken consumer rule or
a broken producer rule, the first of these that is. -/
def fault? (p : BindingProperties) : Option String :=
  if p.destination.any Text.isBlankText then some "destination must not be blank"
  else
    match p.consumer.bind ConsumerProperties.fault? with
    | some fault => some (BinderError.invalidArgument fault.message).message
    | none =>
      (p.producer.bind ProducerProperties.fault?).map fun fault =>
        (BinderError.invalidArgument fault.message).message

end BindingProperties

namespace Settings

/-- Accepts settings whose bindings all follow the rules. -/
def validate (s : Settings) : Except ConfigError Unit :=
  match s.bindings.entries.findSome? fun (name, p) => p.fault?.map fun reason => (name, reason) with
  | none => .ok ()
  | some (name, reason) => .error (.invalid name reason)

/-! ## Lookups -/

/-- The settings of a binding name. -/
def binding? (s : Settings) (name : String) : Option BindingProperties := s.bindings.get? name

/-- The destination of a binding name: the configured one, or the name itself. -/
def destination (s : Settings) (name : String) : String :=
  ((s.binding? name).bind BindingProperties.destination).getD name

/-- The consumer group of a binding name. -/
def group (s : Settings) (name : String) : Option String :=
  (s.binding? name).bind BindingProperties.group

/-- The content type of the channels of a binding name. -/
def contentType (s : Settings) (name : String) : String :=
  ((s.binding? name).bind BindingProperties.contentType).getD defaultContentType

/-- The binder of a binding name: its own, or the default one. -/
def binderName (s : Settings) (name : String) : Option String :=
  ((s.binding? name).bind BindingProperties.binder).or s.defaultBinder

/-- The consumer properties of a binding name. -/
def consumerProperties (s : Settings) (name : String) : ConsumerProperties :=
  ((s.binding? name).bind BindingProperties.consumer).getD {}

/-- The producer properties of a binding name. -/
def producerProperties (s : Settings) (name : String) : ProducerProperties :=
  ((s.binding? name).bind BindingProperties.producer).getD {}

/-- Whether a destination may be resolved dynamically. -/
def allowsDynamic (s : Settings) (name : String) : Bool :=
  s.dynamicDestinations.isEmpty || s.dynamicDestinations.contains name

end Settings

end ChannelBinding
