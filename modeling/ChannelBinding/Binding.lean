import ChannelBinding.Failure

/-!
# Bindings

The handles of channels, handlers and bindings, and what a binding is: the attachment of a channel
to a destination in one of two roles.  A binding starts bound and becomes unbound at most once; one
that its binder cannot release stays bound.
-/

namespace ChannelBinding

/-- The handle of a channel. -/
structure ChannelId where
  index : Nat
deriving DecidableEq, Repr, Inhabited

/-- The handle of a message handler. -/
structure HandlerId where
  index : Nat
deriving DecidableEq, Repr, Inhabited

/-- The handle of a binding. -/
structure BindingId where
  index : Nat
deriving DecidableEq, Repr, Inhabited

/-- The role that a channel plays for its destination. -/
inductive Role where
  | consumer
  | producer
deriving DecidableEq, Repr, Inhabited

/-- The name of a role. -/
def Role.name : Role → String
  | .consumer => "consumer"
  | .producer => "producer"

/-- What holds a binding in place: a subscription, or a transport that never lets go. -/
inductive Attachment where
  | subscription (channel : ChannelId) (handler : HandlerId)
  | stuck (error : BinderError)
deriving DecidableEq, Repr, Inhabited

/-- The attachment of a channel to a destination. -/
structure Binding where
  name : String
  role : Role
  group : Option String := none
  attachment : Attachment
  bound : Bool := true
deriving DecidableEq, Repr, Inhabited

/-- A name, in a role, that could not be unbound. -/
structure UnbindFailure where
  name : String
  role : Role
  error : BindingError
deriving DecidableEq, Repr, Inhabited

/-- The wording of an unbind failure. -/
def UnbindFailure.message (f : UnbindFailure) : String :=
  s!"unable to unbind {f.role.name} '{f.name}': {f.error.message}"

end ChannelBinding
