import ChannelBinding.Text.Quoted

/-!
# Failures

What can go wrong while a message is delivered, a binder works, a binding is made or released, and
a destination is resolved.  Each kind of failure is a type of causes with one function `message` that
words it; a failure that was caused by another one keeps it.
-/

namespace ChannelBinding

/-- Why a message was not delivered. -/
inductive DeliveryError where
  | noSubscribers (channel : String)
  | handlerFailed (reason : String)
deriving DecidableEq, Repr, Inhabited

/-- The wording of a delivery error. -/
def DeliveryError.message : DeliveryError → String
  | .noSubscribers channel => s!"channel '{channel}' has no subscribers"
  | .handlerFailed reason => s!"message handler failed: {reason}"

/-- Why a binder did not bind or unbind. -/
inductive BinderError where
  | unavailable (reason : String)
  | invalidArgument (reason : String)
  | internal (reason : String)
deriving DecidableEq, Repr, Inhabited

/-- The wording of a binder error. -/
def BinderError.message : BinderError → String
  | .unavailable reason => s!"transport unavailable: {reason}"
  | .invalidArgument reason => s!"invalid argument: {reason}"
  | .internal reason => s!"internal binder error: {reason}"

/-- Why the binding service did not bind or release. -/
inductive BindingError where
  | binderNotFound (wanted : String)
  | invalidProperties (reason : String)
  | binder (cause : BinderError)
  | notBound (name : String)
deriving DecidableEq, Repr, Inhabited

/-- The wording of a binding error. -/
def BindingError.message : BindingError → String
  | .binderNotFound wanted => s!"no binder found for '{wanted}'"
  | .invalidProperties reason => s!"invalid binding properties: {reason}"
  | .binder cause => s!"binder failed: {cause.message}"
  | .notBound name => s!"no binding found for '{name}'"

/-- The wordings of what caused a binding error, outermost first. -/
def BindingError.causes : BindingError → List String
  | .binder cause => [cause.message]
  | _ => []

/-- Why a destination was not resolved. -/
inductive ResolutionError where
  | invalidDestination (name : String)
  | notAllowed (name : String)
  | bindingFailed (destination : String) (cause : BindingError)
deriving DecidableEq, Repr, Inhabited

/-- The wording of a resolution error. -/
def ResolutionError.message : ResolutionError → String
  | .invalidDestination name => s!"invalid destination name {Text.quote name}"
  | .notAllowed name => s!"destination '{name}' is not an allowed dynamic destination"
  | .bindingFailed destination cause =>
    s!"failed to bind destination '{destination}': {cause.message}"

/-- The wordings of what caused a resolution error, outermost first. -/
def ResolutionError.causes : ResolutionError → List String
  | .bindingFailed _ cause => cause.message :: cause.causes
  | _ => []

end ChannelBinding
