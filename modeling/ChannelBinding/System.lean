import ChannelBinding.Binder.Behaviour
import ChannelBinding.Binder.Factory
import ChannelBinding.Destination.Cache
import ChannelBinding.Ledger
import ChannelBinding.Settings

/-!
# The system

Everything that calls share: the fabric, the state of the binders, the ledger of the binding service,
the destination table and cache of the resolver, the registries and the lifecycle.  A `Setup` is what
stays the same while calls run.
-/

namespace ChannelBinding

/-- What a lifecycle releases on shutdown. -/
inductive Bindable where
  /-- Fixed binding names. -/
  | targets (inputs outputs : List String)
  /-- The registry that the resolver adds its outputs to. -/
  | registry
  /-- A registry that the application keeps besides that one. -/
  | ownRegistry (index : Nat)
  /-- Nothing. -/
  | nothing
deriving DecidableEq, Repr, Inhabited

/-- The bindables that a shutdown releases, and whether there is anything to shut down. -/
structure Lifecycle where
  bindables : List Bindable := []
  running : Bool := false
deriving DecidableEq, Repr, Inhabited

/-- One new destination, as it was announced before its bind. -/
structure Announcement where
  name : String
  channel : Channel
  properties : ProducerProperties
deriving Repr, Inhabited

/-- What calls share; `τ` is the state of the binders. -/
structure System (τ : Type) where
  fabric : Fabric := {}
  binders : τ
  ledger : Ledger := {}
  /-- The channels that resolve to themselves. -/
  fixed : Table String ChannelId := ∅
  cache : Cache := {}
  registry : Registry := {}
  /-- The registries that the application keeps besides that of the resolver. -/
  ownRegistries : Array Registry := #[]
  lifecycle : Lifecycle := {}
  /-- The new destinations announced so far. -/
  announcements : Array Announcement := #[]

/-- What may be done about a new destination before it is bound: its producer properties may be
changed, and its announcement reported. -/
structure Callback where
  adjust : String → Channel → ProducerProperties → ProducerProperties
  report : String → Channel → Option Event := fun _ _ => none

/-- What stays the same while calls run. -/
structure Setup (ι τ β : Type) where
  settings : Settings := {}
  factory : Factory ι := {}
  binders : Binders ι τ β
  callback : Option Callback := none

namespace System

variable {τ : Type}

/-- The system with an event reported. -/
def emit (s : System τ) (e : Event) : System τ := { s with fabric := s.fabric.emit e }

/-- A registry of the application; one that is not there is empty. -/
def ownRegistry (s : System τ) (k : Nat) : Registry := s.ownRegistries[k]?.getD {}

/-- The fabric and the state of the binders, which is all that binders see. -/
def bindersView (s : System τ) : Fabric × τ := (s.fabric, s.binders)

/-- The system with the fabric and the state of the binders replaced. -/
def withBindersView (s : System τ) (view : Fabric × τ) : System τ :=
  { s with fabric := view.1, binders := view.2 }

end System

namespace Setup

variable {ι τ β : Type}

/-- The bind calls of the binders, as a process on the system. -/
def bindProcess (setup : Setup ι τ β) : Process (System τ) β BindAnswer :=
  setup.binders.process.focus System.bindersView System.withBindersView

/-- The binder of a binding name. -/
def binderFor (setup : Setup ι τ β) (name : String) : Except BindingError ι :=
  match setup.factory.get? (setup.settings.binderName name) with
  | some binder => .ok binder
  | none => .error (.binderNotFound (binderLabel (setup.settings.binderName name)))

/-- A channel for a binding name, with the content type that the settings give it. -/
def newChannel (setup : Setup ι τ β) (name : String) : Channel :=
  { name, contentType := some (setup.settings.contentType name) }

end Setup

end ChannelBinding
