import ChannelBinding.Proofs.Validity
import ChannelBinding.Service.Consumer
import ChannelBinding.Service.Producer

/-!
# The terms of a bind

The terms of a bind are the binder of the binding name and the properties that it is handed: the given
ones, completed with what the binder supplies under extension keys that they lack.  There are no terms
if no binder is found or if the properties, as they would be handed over, have a fault; then the bind
is refused, and nothing else happens.
-/

namespace ChannelBinding

variable {ι τ β : Type}

/-! ## Completed properties -/

/-- Whether given properties are handed over with nothing changed, and nothing added but what was
supplied under extension keys that they lack. -/
structure ConsumerProperties.Completes (given supplied handed : ConsumerProperties) : Prop where
  others : handed = { given with extension := handed.extension }
  extension : ∀ key, handed.extension.get? key
    = (given.extension.get? key).or (supplied.extension.get? key)

/-- Whether given properties are handed over with nothing changed, and nothing added but what was
supplied under extension keys that they lack. -/
structure ProducerProperties.Completes (given supplied handed : ProducerProperties) : Prop where
  others : handed = { given with extension := handed.extension }
  extension : ∀ key, handed.extension.get? key
    = (given.extension.get? key).or (supplied.extension.get? key)

theorem ConsumerProperties.completes_withExtensionDefaults (given supplied : ConsumerProperties) :
  given.Completes supplied (given.withExtensionDefaults supplied.extension)
  := ⟨rfl, given.extension.get?_withDefaults supplied.extension⟩

theorem ProducerProperties.completes_withExtensionDefaults (given supplied : ProducerProperties) :
  given.Completes supplied (given.withExtensionDefaults supplied.extension)
  := ⟨rfl, given.extension.get?_withDefaults supplied.extension⟩

/-- Extensions have no faults. -/
theorem ConsumerProperties.fault?_withExtensionDefaults (p : ConsumerProperties)
    (defaults : Extension) :
  (p.withExtensionDefaults defaults).fault? = p.fault?
  := rfl

/-- Extensions have no faults. -/
theorem ProducerProperties.fault?_withExtensionDefaults (p : ProducerProperties)
    (defaults : Extension) :
  (p.withExtensionDefaults defaults).fault? = p.fault?
  := rfl

/-! ## Terms -/

namespace Setup

variable {π φ : Type}

/-- The binder of a name and the properties that it is handed, or what speaks against it. -/
def terms (setup : Setup ι τ β) (name : String) (complete : ι → π) (fault? : π → Option φ)
    (message : φ → String) : Except BindingError (ι × π) :=
  match setup.factory.get? (setup.settings.binderName name) with
  | none => .error (.binderNotFound (binderLabel (setup.settings.binderName name)))
  | some binder =>
    match fault? (complete binder) with
    | none => .ok (binder, complete binder)
    | some fault =>
      .error (.invalidProperties (BinderError.invalidArgument (message fault)).message)

/-- What the terms for a name are to be: those of its binder, with completed properties that have no
fault.  Where there is no binder that is the error, and else the first fault is. -/
inductive AreTerms (setup : Setup ι τ β) (name : String) (completes : ι → π → Prop)
    (faults : List φ) (avoids : π → φ → Prop) (message : φ → String) :
    Except BindingError (ι × π) → Prop where
  | nobody (h : setup.factory.get? (setup.settings.binderName name) = none) :
    AreTerms setup name completes faults avoids message
      (.error (.binderNotFound ((setup.settings.binderName name).getD "default")))
  | faulty {binder : ι} {handed : π} {fault : φ}
      (hbinder : setup.factory.get? (setup.settings.binderName name) = some binder)
      (hhanded : completes binder handed) (hfault : IsFirstFault faults (avoids handed) fault) :
    AreTerms setup name completes faults avoids message
      (.error (.invalidProperties (BinderError.invalidArgument (message fault)).message))
  | agreed {binder : ι} {handed : π}
      (hbinder : setup.factory.get? (setup.settings.binderName name) = some binder)
      (hhanded : completes binder handed) (havoids : ∀ fault, avoids handed fault) :
    AreTerms setup name completes faults avoids message (.ok (binder, handed))

theorem areTerms (setup : Setup ι τ β) (name : String) {complete : ι → π} {fault? : π → Option φ}
    {message : φ → String} {completes : ι → π → Prop} {faults : List φ} {avoids : π → φ → Prop}
    (hcompletes : ∀ binder, completes binder (complete binder))
    (hnone : ∀ p, fault? p = none ↔ ∀ fault, avoids p fault)
    (hsome : ∀ p fault, fault? p = some fault ↔ IsFirstFault faults (avoids p) fault) :
  setup.AreTerms name completes faults avoids message (setup.terms name complete fault? message)
  := by
  rw [terms]
  cases hbinder : setup.factory.get? (setup.settings.binderName name) with
  | none => exact .nobody hbinder
  | some binder =>
    dsimp only
    cases hfault : fault? (complete binder) with
    | none => exact .agreed hbinder (hcompletes binder) ((hnone _).mp hfault)
    | some fault => exact .faulty hbinder (hcompletes binder) ((hsome _ fault).mp hfault)

/-- The terms of a consumer bind. -/
def consumerTerms (setup : Setup ι τ β) (t : τ) (name : String) :
    Except BindingError (ι × ConsumerProperties) :=
  setup.terms name
    (fun binder => (setup.settings.consumerProperties name).withExtensionDefaults
      (setup.binders.extendedConsumer t binder name).extension)
    ConsumerProperties.fault? ConsumerFault.message

/-- The terms of a producer bind with given properties. -/
def producerTerms (setup : Setup ι τ β) (t : τ) (name : String) (given : ProducerProperties) :
    Except BindingError (ι × ProducerProperties) :=
  setup.terms name
    (fun binder => given.withExtensionDefaults
      (setup.binders.extendedProducer t binder name).extension)
    ProducerProperties.fault? ProducerFault.message

/-- What the terms of a consumer bind are to be. -/
def AreConsumerTerms (setup : Setup ι τ β) (t : τ) (name : String) :
    Except BindingError (ι × ConsumerProperties) → Prop :=
  setup.AreTerms name
    (fun binder => (setup.settings.consumerProperties name).Completes
      (setup.binders.extendedConsumer t binder name))
    ConsumerFault.all ConsumerProperties.Avoids ConsumerFault.message

/-- What the terms of a producer bind with given properties are to be. -/
def AreProducerTerms (setup : Setup ι τ β) (t : τ) (name : String) (given : ProducerProperties) :
    Except BindingError (ι × ProducerProperties) → Prop :=
  setup.AreTerms name
    (fun binder => given.Completes (setup.binders.extendedProducer t binder name))
    ProducerFault.all ProducerProperties.Avoids ProducerFault.message

theorem areConsumerTerms (setup : Setup ι τ β) (t : τ) (name : String) :
  setup.AreConsumerTerms t name (setup.consumerTerms t name)
  := by
  apply setup.areTerms name
  · intro binder
    apply ConsumerProperties.completes_withExtensionDefaults
  · exact ConsumerProperties.fault?_eq_none_iff
  · exact ConsumerProperties.fault?_eq_some_iff

theorem areProducerTerms (setup : Setup ι τ β) (t : τ) (name : String) (given : ProducerProperties) :
  setup.AreProducerTerms t name given (setup.producerTerms t name given)
  := by
  apply setup.areTerms name
  · intro binder
    apply ProducerProperties.completes_withExtensionDefaults
  · exact ProducerProperties.fault?_eq_none_iff
  · exact ProducerProperties.fault?_eq_some_iff

variable {setup : Setup ι τ β} {name : String} {binder : ι}

/-- Where there is a binder, a fault is all that can speak against a bind. -/
theorem terms_eq {π φ : Type} {complete : ι → π} {fault? : π → Option φ} {message : φ → String}
    (hbinder : setup.factory.get? (setup.settings.binderName name) = some binder) :
  setup.terms name complete fault? message
    = match fault? (complete binder) with
      | none => .ok (binder, complete binder)
      | some fault =>
        .error (.invalidProperties (BinderError.invalidArgument (message fault)).message)
  := by
  rw [terms, hbinder]

/-- Properties without faults have terms wherever there is a binder. -/
theorem producerTerms_eq_ok {given : ProducerProperties} (hgiven : given.fault? = none)
    (hbinder : setup.factory.get? (setup.settings.binderName name) = some binder) (t : τ) :
  setup.producerTerms t name given
    = .ok (binder, given.withExtensionDefaults
        (setup.binders.extendedProducer t binder name).extension)
  := by
  rw [producerTerms, terms_eq hbinder]
  simp only [ProducerProperties.fault?_withExtensionDefaults, hgiven]

/-- A fault of the properties is what speaks against a bind wherever there is a binder. -/
theorem producerTerms_eq_error {given : ProducerProperties} {fault : ProducerFault}
    (hgiven : given.fault? = some fault)
    (hbinder : setup.factory.get? (setup.settings.binderName name) = some binder) (t : τ) :
  setup.producerTerms t name given
    = .error (.invalidProperties (BinderError.invalidArgument fault.message).message)
  := by
  rw [producerTerms, terms_eq hbinder]
  simp only [ProducerProperties.fault?_withExtensionDefaults, hgiven]

/-- Properties without faults have terms wherever there is a binder. -/
theorem consumerTerms_eq_ok (hgiven : (setup.settings.consumerProperties name).fault? = none)
    (hbinder : setup.factory.get? (setup.settings.binderName name) = some binder) (t : τ) :
  setup.consumerTerms t name
    = .ok (binder, (setup.settings.consumerProperties name).withExtensionDefaults
        (setup.binders.extendedConsumer t binder name).extension)
  := by
  rw [consumerTerms, terms_eq hbinder]
  simp only [ConsumerProperties.fault?_withExtensionDefaults, hgiven]

/-- A fault of the properties is what speaks against a bind wherever there is a binder. -/
theorem consumerTerms_eq_error {fault : ConsumerFault}
    (hgiven : (setup.settings.consumerProperties name).fault? = some fault)
    (hbinder : setup.factory.get? (setup.settings.binderName name) = some binder) (t : τ) :
  setup.consumerTerms t name
    = .error (.invalidProperties (BinderError.invalidArgument fault.message).message)
  := by
  rw [consumerTerms, terms_eq hbinder]
  simp only [ConsumerProperties.fault?_withExtensionDefaults, hgiven]

end Setup

/-! ## Beginning a bind -/

variable {setup : Setup ι τ β} {s : System τ} {name : String}

namespace ProducerBind

variable {output : ChannelId} {given : ProducerProperties}

/-- The bind of a name on its terms. -/
def onTerms (setup : Setup ι τ β) (name : String) (output : ChannelId)
    (terms : ι × ProducerProperties) : ProducerBind β where
  name
  destination := setup.settings.destination name
  binder := binderLabel (setup.settings.binderName name)
  call := setup.binders.bindProducer terms.1 (setup.settings.destination name) output terms.2

theorem prepare_eq (setup : Setup ι τ β) (t : τ) (name : String) (output : ChannelId)
    (given : ProducerProperties) :
  prepare setup t name output given
    = (setup.producerTerms t name given).map (onTerms setup name output)
  := by
  rw [prepare, Setup.binderFor, Setup.producerTerms, Setup.terms]
  cases setup.factory.get? (setup.settings.binderName name) with
  | none => rfl
  | some binder =>
    simp only [Bind.bind, Except.bind, ProducerProperties.validate]
    cases (given.withExtensionDefaults
      (setup.binders.extendedProducer t binder name).extension).fault? <;> rfl

/-- A bind without terms is refused, and nothing else happens. -/
theorem begin_of_error {e : BindingError} (h : setup.producerTerms s.binders name given = .error e) :
  begin setup s name output given = (s, .ended (.error e))
  := by
  rw [begin, prepare_eq, h]
  rfl

theorem begin_of_ok {terms : ι × ProducerProperties}
    (h : setup.producerTerms s.binders name given = .ok terms) :
  begin setup s name output given
    = (s.emit (.producerBindStarted name (setup.settings.destination name)
        (binderLabel (setup.settings.binderName name))),
      .running (onTerms setup name output terms))
  := by
  rw [begin, prepare_eq, h]
  rfl

end ProducerBind

/-- What is asked of the binder for every destination of a name, on its terms. -/
def ConsumerRequest.onTerms (setup : Setup ι τ β) (name : String) (input : ChannelId)
    (terms : ι × ConsumerProperties) : ConsumerRequest ι where
  name
  group := setup.settings.group name
  binder := terms.1
  input
  properties := terms.2

namespace ConsumerBind

variable {input : ChannelId}

theorem prepare_eq (setup : Setup ι τ β) (t : τ) (name : String) (input : ChannelId) :
  prepare setup t name input
    = (setup.consumerTerms t name).bind fun terms =>
      if (Text.commaParts (setup.settings.destination name)).isEmpty then
        .error (.invalidProperties s!"binding '{name}' has no destination")
      else .ok (.onTerms setup name input terms, Text.commaParts (setup.settings.destination name))
  := by
  rw [prepare, Setup.binderFor, Setup.consumerTerms, Setup.terms]
  cases setup.factory.get? (setup.settings.binderName name) with
  | none => rfl
  | some binder =>
    simp only [Bind.bind, Except.bind, ConsumerProperties.validate]
    cases ((setup.settings.consumerProperties name).withExtensionDefaults
      (setup.binders.extendedConsumer t binder name).extension).fault? <;> rfl

/-- A bind without terms is refused, and nothing else happens. -/
theorem begin_of_error {e : BindingError} (h : setup.consumerTerms s.binders name = .error e) :
  begin setup s name input = (s, .ended (.error e))
  := by
  rw [begin, prepare_eq, h]
  rfl

/-- A bind without destinations is refused, and nothing else happens. -/
theorem begin_of_no_destination {terms : ι × ConsumerProperties}
    (h : setup.consumerTerms s.binders name = .ok terms)
    (hd : Text.commaParts (setup.settings.destination name) = []) :
  begin setup s name input
    = (s, .ended (.error (.invalidProperties s!"binding '{name}' has no destination")))
  := by
  rw [begin, prepare_eq, h, hd]
  rfl

theorem begin_of_ok {terms : ι × ConsumerProperties}
    (h : setup.consumerTerms s.binders name = .ok terms)
    (hd : Text.commaParts (setup.settings.destination name) ≠ []) :
  begin setup s name input
    = next setup s (.onTerms setup name input terms) []
      (Text.commaParts (setup.settings.destination name))
  := by
  rw [begin, prepare_eq, h, Except.bind, if_neg]
  rwa [List.isEmpty_iff]

end ConsumerBind

end ChannelBinding
