import ChannelBinding.Demo.Config
import Mathlib.Data.List.Nodup

/-!
# Valid settings

The faults that the settings of a binding name may have, in the order in which they are looked for, and
what it is to avoid each of them.  Settings are accepted exactly if every binding avoids every fault, in
whatever order the bindings come; an error names a binding, and the first fault that it has.  Settings
that were accepted give every name properties without faults, and no blank destination but a name
itself.
-/

namespace ChannelBinding

/-! ## The first fault -/

/-- Whether something has a fault and avoids every fault that is looked for before it. -/
def IsFirstFault {α : Type} (faults : List α) (avoids : α → Prop) (fault : α) : Prop :=
  ¬ avoids fault ∧ ∃ before after, faults = before ++ fault :: after
    ∧ ∀ earlier ∈ before, avoids earlier

theorem find?_eq_some_iff_isFirstFault {α : Type} {faults : List α} {avoids : α → Prop}
    {has : α → Bool} (hhas : ∀ fault, has fault = true ↔ ¬ avoids fault) {fault : α} :
  faults.find? has = some fault ↔ IsFirstFault faults avoids fault
  := by
  have hnot : ∀ fault, (!has fault) = true ↔ avoids fault := by
    intro fault
    rw [Bool.not_eq_true', ← Bool.not_eq_true, hhas, not_not]
  rw [List.find?_eq_some_iff_append, hhas]
  simp only [IsFirstFault, hnot]

theorem find?_eq_none_iff_avoids {α : Type} {faults : List α} {avoids : α → Prop} {has : α → Bool}
    (hhas : ∀ fault, has fault = true ↔ ¬ avoids fault) (hall : ∀ fault, fault ∈ faults) :
  faults.find? has = none ↔ ∀ fault, avoids fault
  := by
  simp only [List.find?_eq_none, hhas, not_not]
  exact ⟨fun h fault => h fault (hall fault), fun h fault _ => h fault⟩

/-! ## Consumer and producer properties -/

namespace ConsumerProperties

/-- Whether consumer properties are free of a fault. -/
def Avoids (p : ConsumerProperties) : ConsumerFault → Prop
  | .noConcurrency => 1 ≤ p.concurrency.toNat
  | .noAttempts => 1 ≤ p.maxAttempts.toNat
  | .intervalsReversed => p.backOffInitialIntervalMs.toNat ≤ p.backOffMaxIntervalMs.toNat
  | .shrinkingBackOff => p.backOffMultiplier.isNaN = false ∧ ¬ p.backOffMultiplier < 1.0

theorem breaks_iff (p : ConsumerProperties) (fault : ConsumerFault) :
  p.breaks fault = true ↔ ¬ p.Avoids fault
  := by
  cases fault with
  | noConcurrency => simp [breaks, Avoids, UInt32.lt_iff_toNat_lt]
  | noAttempts => simp [breaks, Avoids, UInt32.lt_iff_toNat_lt]
  | intervalsReversed => simp [breaks, Avoids, UInt64.lt_iff_toNat_lt]
  | shrinkingBackOff => simp [breaks, Avoids, or_iff_not_imp_left]

theorem fault?_eq_none_iff (p : ConsumerProperties) :
  p.fault? = none ↔ ∀ fault, p.Avoids fault
  := by
  apply find?_eq_none_iff_avoids p.breaks_iff
  rintro (_ | _ | _ | _) <;> decide

theorem fault?_eq_some_iff (p : ConsumerProperties) (fault : ConsumerFault) :
  p.fault? = some fault ↔ IsFirstFault ConsumerFault.all p.Avoids fault
  := find?_eq_some_iff_isFirstFault p.breaks_iff

theorem validate_of_fault?_eq_none {p : ConsumerProperties} (h : p.fault? = none) :
  p.validate = .ok ()
  := by
  rw [validate, h]

end ConsumerProperties

namespace ProducerProperties

/-- Whether producer properties are free of a fault. -/
def Avoids (p : ProducerProperties) : ProducerFault → Prop
  | .noPartitions => 1 ≤ p.partitionCount.toNat
  | .blankGroup => ∀ group ∈ p.requiredGroups, Text.trim group ≠ ""

theorem breaks_iff (p : ProducerProperties) (fault : ProducerFault) :
  p.breaks fault = true ↔ ¬ p.Avoids fault
  := by
  cases fault with
  | noPartitions => simp [breaks, Avoids, UInt32.lt_iff_toNat_lt]
  | blankGroup => simp [breaks, Avoids, Text.trim_eq_empty_iff]

theorem fault?_eq_none_iff (p : ProducerProperties) :
  p.fault? = none ↔ ∀ fault, p.Avoids fault
  := by
  apply find?_eq_none_iff_avoids p.breaks_iff
  rintro (_ | _) <;> decide

theorem fault?_eq_some_iff (p : ProducerProperties) (fault : ProducerFault) :
  p.fault? = some fault ↔ IsFirstFault ProducerFault.all p.Avoids fault
  := find?_eq_some_iff_isFirstFault p.breaks_iff

theorem validate_of_fault?_eq_none {p : ProducerProperties} (h : p.fault? = none) :
  p.validate = .ok ()
  := by
  rw [validate, h]

end ProducerProperties

/-! ## The settings of a binding name -/

/-- A fault of the settings of a binding name. -/
inductive BindingFault where
  | blankDestination
  | consumer (fault : ConsumerFault)
  | producer (fault : ProducerFault)
deriving DecidableEq, Repr

namespace BindingFault

/-- The faults of the settings of a binding name, in the order in which they are looked for. -/
def all : List BindingFault :=
  [.blankDestination,
    .consumer .noConcurrency, .consumer .noAttempts, .consumer .intervalsReversed,
    .consumer .shrinkingBackOff,
    .producer .noPartitions, .producer .blankGroup]

/-- How a fault is reported. -/
def message : BindingFault → String
  | blankDestination => "destination must not be blank"
  | consumer fault => (BinderError.invalidArgument fault.message).message
  | producer fault => (BinderError.invalidArgument fault.message).message

theorem mem_all (fault : BindingFault) :
  fault ∈ all
  := by
  rcases fault with _ | (_ | _ | _ | _) | (_ | _) <;> decide

/-- A report states one fault alone. -/
theorem message_injective :
  Function.Injective message
  := by
  have hdistinct : (all.map message).Nodup := by decide +kernel
  intro fault fault' h
  exact List.inj_on_of_nodup_map hdistinct fault.mem_all fault'.mem_all h

end BindingFault

namespace BindingProperties

/-- Whether the settings of a binding name are free of a fault; properties that are not given have
none. -/
def Avoids (p : BindingProperties) : BindingFault → Prop
  | .blankDestination => ∀ destination ∈ p.destination, Text.trim destination ≠ ""
  | .consumer fault => ∀ consumer ∈ p.consumer, consumer.Avoids fault
  | .producer fault => ∀ producer ∈ p.producer, producer.Avoids fault

/-- Whether the settings of a binding name have a fault, as it is looked for. -/
def breaks (p : BindingProperties) : BindingFault → Bool
  | .blankDestination => p.destination.any Text.isBlankText
  | .consumer fault => p.consumer.any fun consumer => consumer.breaks fault
  | .producer fault => p.producer.any fun producer => producer.breaks fault

theorem breaks_iff (p : BindingProperties) (fault : BindingFault) :
  p.breaks fault = true ↔ ¬ p.Avoids fault
  := by
  cases fault with
  | blankDestination => cases h : p.destination <;> simp [breaks, Avoids, h, Text.trim_eq_empty_iff]
  | consumer fault =>
    cases h : p.consumer <;> simp [breaks, Avoids, h, ConsumerProperties.breaks_iff]
  | producer fault =>
    cases h : p.producer <;> simp [breaks, Avoids, h, ProducerProperties.breaks_iff]

/-- The fault that is reported is the first one that there is. -/
theorem fault?_eq (p : BindingProperties) :
  p.fault? = (BindingFault.all.find? p.breaks).map BindingFault.message
  := by
  have hall : BindingFault.all = .blankDestination
      :: (ConsumerFault.all.map .consumer ++ ProducerFault.all.map .producer) := rfl
  have hconsumer : (ConsumerFault.all.find? fun fault => p.breaks (.consumer fault))
      = p.consumer.bind ConsumerProperties.fault? := by
    cases h : p.consumer with
    | none => simp [breaks, h]
    | some consumer => simp [breaks, h, ConsumerProperties.fault?]
  have hproducer : (ProducerFault.all.find? fun fault => p.breaks (.producer fault))
      = p.producer.bind ProducerProperties.fault? := by
    cases h : p.producer with
    | none => simp [breaks, h]
    | some producer => simp [breaks, h, ProducerProperties.fault?]
  rw [fault?, hall, List.find?_cons, List.find?_append, List.find?_map, List.find?_map]
  simp only [Function.comp_def, hconsumer, hproducer]
  cases hblank : p.destination.any Text.isBlankText with
  | true => simp [breaks, hblank, BindingFault.message]
  | false =>
    simp only [breaks, hblank, Bool.false_eq_true, if_false]
    cases p.consumer.bind ConsumerProperties.fault? with
    | some fault => rfl
    | none => cases p.producer.bind ProducerProperties.fault? <;> rfl

theorem fault?_eq_none_iff (p : BindingProperties) :
  p.fault? = none ↔ ∀ fault, p.Avoids fault
  := by
  rw [fault?_eq, Option.map_eq_none_iff]
  apply find?_eq_none_iff_avoids p.breaks_iff BindingFault.mem_all

theorem fault?_eq_some_iff (p : BindingProperties) (reason : String) :
  p.fault? = some reason
    ↔ ∃ fault, IsFirstFault BindingFault.all p.Avoids fault ∧ fault.message = reason
  := by
  simp only [fault?_eq, Option.map_eq_some_iff, find?_eq_some_iff_isFirstFault p.breaks_iff]

end BindingProperties

/-! ## Settings -/

namespace Settings

variable {s : Settings} {name : String}

/-- An error names a binding, and its fault. -/
theorem of_validate_eq_error {e : ConfigError} (h : s.validate = .error e) :
  ∃ name p reason, (name, p) ∈ s.bindings.entries ∧ p.fault? = some reason ∧ e = .invalid name reason
  := by
  rw [validate] at h
  split at h
  · cases h
  · rename_i name reason hsome
    cases h
    obtain ⟨⟨name', p⟩, hmem, hfault⟩ := List.exists_of_findSome?_eq_some hsome
    obtain ⟨reason', hreason, heq⟩ := Option.map_eq_some_iff.mp hfault
    cases heq
    exact ⟨name, p, reason, hmem, hreason, rfl⟩

theorem validate_eq_ok_iff (s : Settings) :
  s.validate = .ok () ↔ ∀ entry ∈ s.bindings.entries, entry.2.fault? = none
  := by
  constructor
  · intro h entry hmem
    rw [validate] at h
    split at h
    · rename_i hnone
      simp only [List.findSome?_eq_none_iff, Option.map_eq_none_iff] at hnone
      exact hnone entry hmem
    · cases h
  · intro hnone
    cases h : s.validate with
    | ok => rfl
    | error e =>
      obtain ⟨name, p, reason, hmem, hreason, -⟩ := of_validate_eq_error h
      cases (hnone (name, p) hmem).symm.trans hreason

/-- Settings that are accepted have no fault in any binding. -/
theorem fault?_of_validate (h : s.validate = .ok ()) {p : BindingProperties}
    (hp : s.binding? name = some p) :
  p.fault? = none
  := s.validate_eq_ok_iff.mp h _ (Table.mem_entries_of_get? hp)

/-- A destination that is configured is not blank. -/
theorem trim_ne_of_validate (h : s.validate = .ok ()) {d : String}
    (hd : (s.binding? name).bind BindingProperties.destination = some d) :
  Text.trim d ≠ ""
  := by
  obtain ⟨p, hp, hd⟩ := Option.bind_eq_some_iff.mp hd
  exact p.fault?_eq_none_iff.mp (fault?_of_validate h hp) .blankDestination d hd

/-- A name that is not blank has a destination that is not blank. -/
theorem destination_not_blank (h : s.validate = .ok ()) (hname : Text.isBlankText name = false) :
  Text.isBlankText (s.destination name) = false
  := by
  rw [destination]
  cases hd : (s.binding? name).bind BindingProperties.destination with
  | none => exact hname
  | some d =>
    rw [Bool.eq_false_iff, ne_eq, ← Text.trim_eq_empty_iff]
    exact trim_ne_of_validate h hd

/-- The consumer properties that accepted settings give to a name follow the rules. -/
theorem consumerProperties_valid (h : s.validate = .ok ()) (name : String) :
  (s.consumerProperties name).fault? = none
  := by
  have hdefault : ({} : ConsumerProperties).fault? = none := by decide
  rw [consumerProperties]
  cases hgiven : (s.binding? name).bind BindingProperties.consumer with
  | none => exact hdefault
  | some consumer =>
    obtain ⟨p, hp, hconsumer⟩ := Option.bind_eq_some_iff.mp hgiven
    have havoids := p.fault?_eq_none_iff.mp (fault?_of_validate h hp)
    rw [Option.getD_some, ConsumerProperties.fault?_eq_none_iff]
    exact fun fault => havoids (.consumer fault) consumer hconsumer

/-- The producer properties that accepted settings give to a name follow the rules. -/
theorem producerProperties_valid (h : s.validate = .ok ()) (name : String) :
  (s.producerProperties name).fault? = none
  := by
  have hdefault : ({} : ProducerProperties).fault? = none := by decide
  rw [producerProperties]
  cases hgiven : (s.binding? name).bind BindingProperties.producer with
  | none => exact hdefault
  | some producer =>
    obtain ⟨p, hp, hproducer⟩ := Option.bind_eq_some_iff.mp hgiven
    have havoids := p.fault?_eq_none_iff.mp (fault?_of_validate h hp)
    rw [Option.getD_some, ProducerProperties.fault?_eq_none_iff]
    exact fun fault => havoids (.producer fault) producer hproducer

/-- What settings that were accepted answer for every name, whether it is configured or not. -/
structure AnswersSoundly (s : Settings) : Prop where
  consumer : ∀ name, (s.consumerProperties name).validate = .ok ()
  producer : ∀ name, (s.producerProperties name).validate = .ok ()
  /-- Where the destination is blank none is configured, and it is the name itself. -/
  destination : ∀ name, Text.trim (s.destination name) = "" →
    (s.binding? name).bind BindingProperties.destination = none ∧ s.destination name = name

theorem answersSoundly_of_validate (h : s.validate = .ok ()) :
  s.AnswersSoundly
  := by
  constructor
  · intro name
    exact ConsumerProperties.validate_of_fault?_eq_none (consumerProperties_valid h name)
  · intro name
    exact ProducerProperties.validate_of_fault?_eq_none (producerProperties_valid h name)
  · intro name hblank
    rw [destination] at hblank ⊢
    cases hd : (s.binding? name).bind BindingProperties.destination with
    | none => exact ⟨rfl, rfl⟩
    | some d =>
      rw [hd, Option.getD_some] at hblank
      exact absurd hblank (trim_ne_of_validate h hd)

/-! ## Reading -/

theorem validate_of_ofText {text : String} (h : ofText text = .ok s) :
  s.validate = .ok ()
  := by
  simp only [ofText, bind, Except.bind, pure, Except.pure] at h
  split at h
  · cases h
  · split at h
    · cases h
    · rename_i hvalid
      cases h
      exact hvalid

theorem validate_of_ofFile {file : FileContents} (h : ofFile file = .ok s) :
  s.validate = .ok ()
  := by
  simp only [ofFile, bind, Except.bind] at h
  split at h
  · cases h
  · exact validate_of_ofText h

end Settings

namespace DemoConfig

variable {c : DemoConfig}

theorem validate_of_ofText {text : String} (h : ofText text = .ok c) :
  c.settings.validate = .ok ()
  := by
  simp only [ofText, bind, Except.bind, pure, Except.pure] at h
  split at h
  · cases h
  · split at h
    · cases h
    · rename_i hvalid
      split at h
      · cases h
      · cases h
        exact hvalid

theorem validate_of_ofFile {file : FileContents} (h : ofFile file = .ok c) :
  c.settings.validate = .ok ()
  := by
  simp only [ofFile, bind, Except.bind] at h
  split at h
  · cases h
  · exact validate_of_ofText h

end DemoConfig

/-! ## What validation decides -/

/-- Settings are accepted exactly if every binding avoids every fault, in whatever order the bindings
come.  An error names a binding, and reports the first fault that it has.  Settings that were accepted,
wherever they were read from, answer soundly for every name. -/
theorem Settings.validates_every_binding :
  (∀ (s : Settings) (entries : List (String × BindingProperties)),
      s.bindings.keys.Nodup → entries.Perm s.bindings.entries →
        let listed : Settings := { s with bindings := ⟨entries⟩ }
        (listed.validate = .ok () ↔ ∀ name p, s.binding? name = some p → ∀ fault, p.Avoids fault)
          ∧ (∀ e, listed.validate = .error e → ∃ name p fault, e = .invalid name fault.message
            ∧ s.binding? name = some p ∧ IsFirstFault BindingFault.all p.Avoids fault)
          ∧ (listed.validate = .ok () → s.AnswersSoundly))
    ∧ Function.Injective BindingFault.message
    ∧ (∀ text s, ofText text = .ok s → s.AnswersSoundly)
    ∧ (∀ file s, ofFile file = .ok s → s.AnswersSoundly)
    ∧ (∀ text c, DemoConfig.ofText text = .ok c → c.settings.AnswersSoundly)
    ∧ ∀ file c, DemoConfig.ofFile file = .ok c → c.settings.AnswersSoundly
  := by
  refine ⟨?_, BindingFault.message_injective, ?_, ?_, ?_, ?_⟩
  · intro s entries hkeys horder listed
    have hmem : ∀ name p, (name, p) ∈ entries ↔ s.binding? name = some p := by
      intro name p
      rw [horder.mem_iff, binding?, Table.get?_eq_some_iff hkeys]
    have haccepts : listed.validate = .ok ()
        ↔ ∀ name p, s.binding? name = some p → ∀ fault, p.Avoids fault := by
      rw [validate_eq_ok_iff]
      simp only [Prod.forall, hmem, listed, BindingProperties.fault?_eq_none_iff]
    refine ⟨haccepts, ?_, ?_⟩
    · intro e he
      obtain ⟨name, p, reason, hentry, hfault, rfl⟩ := of_validate_eq_error he
      obtain ⟨fault, hfirst, rfl⟩ := (p.fault?_eq_some_iff reason).mp hfault
      exact ⟨name, p, fault, rfl, (hmem name p).mp hentry, hfirst⟩
    · intro hvalid
      apply answersSoundly_of_validate
      rw [validate_eq_ok_iff]
      rintro ⟨name, p⟩ hentry
      rw [p.fault?_eq_none_iff]
      exact haccepts.mp hvalid name p ((hmem name p).mp (horder.mem_iff.mpr hentry))
  · intro text s h
    exact answersSoundly_of_validate (validate_of_ofText h)
  · intro file s h
    exact answersSoundly_of_validate (validate_of_ofFile h)
  · intro text c h
    exact Settings.answersSoundly_of_validate (DemoConfig.validate_of_ofText h)
  · intro file c h
    exact Settings.answersSoundly_of_validate (DemoConfig.validate_of_ofFile h)

/-- Settings in which two of three bindings have faults, more than one each. -/
def Settings.twoFaulty : Settings where
  bindings := ⟨[
    ("audit", { consumer := some { concurrency := 0, maxAttempts := 0 } }),
    ("orders", {
      destination := some "orders"
      producer := some { partitionCount := 0, requiredGroups := [" "] } }),
    ("refunds", {})]⟩

/-- Which of two bindings with faults is named depends on the order; the fault is the first of its
binding in either case. -/
theorem Settings.validates_every_binding_of_two_faulty :
  let listed : Settings := { twoFaulty with bindings := ⟨twoFaulty.bindings.entries.reverse⟩ }
  let configured := "\x7b bindings: \x7b orders: \x7b destination: 'books' \x7d \x7d \x7d"
  let demo := "\x7b demo: \x7b destinations: ['orders'], payload: 'x' \x7d \x7d"
  twoFaulty.bindings.keys.Nodup
    ∧ twoFaulty.bindings.entries.reverse.Perm twoFaulty.bindings.entries
    ∧ twoFaulty.validate = .error (.invalid "audit" (BindingFault.consumer .noConcurrency).message)
    ∧ listed.validate = .error (.invalid "orders" (BindingFault.producer .noPartitions).message)
    ∧ (∃ p, twoFaulty.binding? "orders" = some p
      ∧ IsFirstFault BindingFault.all p.Avoids (.producer .noPartitions))
    ∧ (∃ s, ofText configured = .ok s ∧ s.AnswersSoundly)
    ∧ ∃ c, DemoConfig.ofText demo = .ok c ∧ c.settings.AnswersSoundly
  := by
  intro listed configured demo
  have hkeys : twoFaulty.bindings.keys.Nodup := by decide
  have horder : twoFaulty.bindings.entries.reverse.Perm twoFaulty.bindings.entries :=
    List.reverse_perm _
  have hlisted : listed.validate
      = .error (.invalid "orders" (BindingFault.producer .noPartitions).message) := rfl
  have hconfigured : (ofText configured).toOption.isSome = true := by decide +kernel
  have hdemo : (DemoConfig.ofText demo).toOption.isSome = true := by decide +kernel
  refine ⟨hkeys, horder, rfl, hlisted, ?_, ?_, ?_⟩
  · obtain ⟨name, p, fault, heq, hp, hfirst⟩ :=
      (validates_every_binding.1 twoFaulty _ hkeys horder).2.1 _ hlisted
    obtain ⟨rfl, hmessage⟩ := ConfigError.invalid.inj heq
    obtain rfl := validates_every_binding.2.1 hmessage
    exact ⟨p, hp, hfirst⟩
  · cases h : ofText configured with
    | error e =>
      rw [h] at hconfigured
      cases hconfigured
    | ok s => exact ⟨s, rfl, validates_every_binding.2.2.1 configured s h⟩
  · cases h : DemoConfig.ofText demo with
    | error e =>
      rw [h] at hdemo
      cases hdemo
    | ok c => exact ⟨c, rfl, validates_every_binding.2.2.2.2.1 demo c h⟩

end ChannelBinding
