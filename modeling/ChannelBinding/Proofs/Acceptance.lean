import ChannelBinding.Proofs.Memory
import ChannelBinding.Proofs.Terms
import ChannelBinding.Proofs.Walk

/-!
# Accepted settings when binds are made

A bind is refused for invalid properties before its binder hears of it, or not at all: a bind that has
begun fails with an error of its binder.  Settings that were accepted give every name properties
without faults, and a binder cannot spoil these with what it supplies.  What is left is a destination
that is accepted because it is not blank, and has no part that is not blank when a consumer bind takes
it apart: `Setup.rejects_accepted_iff`.
-/

namespace ChannelBinding

variable {ι τ β : Type} {setup : Setup ι τ β} {s : System τ} {name : String} {binder : ι}

/-! ## Binds that have begun -/

/-- A step of a producer bind fails with an error of the binder. -/
theorem ProducerBind.eq_binder_of_step {bind : ProducerBind β} {e : BindingError}
    (h : (step setup s bind).2 = .ended (.error e)) :
  ∃ cause, e = .binder cause
  := by
  rw [step] at h
  split at h
  · cases h
  · cases h
  · cases h
  · rename_i cause _
    cases h
    exact ⟨cause, rfl⟩

/-- A producer bind that has begun fails with an error of its binder. -/
theorem ProducerBind.eq_binder_of_walk {bind : ProducerBind β} {states : List (System τ)}
    {e : BindingError} (h : ((process setup).walk (.running bind) states).2 = .ended (.error e)) :
  ∃ cause, e = .binder cause
  := by
  rcases (process setup).walk_snd_cases (.running bind) states with heq | ⟨s, r, -, heq⟩
  · rw [heq] at h
    cases h
  · rw [heq] at h
    exact eq_binder_of_step h

namespace ConsumerBind

theorem next_ne_error (setup : Setup ι τ β) (s : System τ) (request : ConsumerRequest ι)
    (created : List BindingId) (rest : List String) (e : BindingError) :
  (next setup s request created rest).2 ≠ .ended (.error e)
  := by
  cases rest <;> simp [next]

theorem eq_binder_of_rollBack {error : BinderError} {p : Progress Release (Option BinderError)}
    {e : BindingError} (h : rollBack (ι := ι) (β := β) error p = .ended (.error e)) :
  ∃ cause, e = .binder cause
  := by
  cases p with
  | running release => cases h
  | waiting release pause => cases h
  | ended failure =>
    cases h
    exact ⟨error, rfl⟩

/-- A step of a consumer bind fails with an error of the binder. -/
theorem eq_binder_of_step {bind : ConsumerBind ι β} {e : BindingError}
    (h : (step setup s bind).2 = .ended (.error e)) :
  ∃ cause, e = .binder cause
  := by
  cases bind with
  | binding request destination call rest created =>
    simp only [step] at h
    split at h
    · cases h
    · cases h
    · exact absurd h (next_ne_error setup _ request _ rest e)
    · exact eq_binder_of_rollBack h
  | rollingBack release error => exact eq_binder_of_rollBack h

/-- A consumer bind that goes on to a destination fails with an error of its binder. -/
theorem eq_binder_of_walk {request : ConsumerRequest ι} {created : List BindingId}
    {rest : List String} {states : List (System τ)} {e : BindingError}
    (h : ((process setup).walk (next setup s request created rest).2 states).2
      = .ended (.error e)) :
  ∃ cause, e = .binder cause
  := by
  rcases (process setup).walk_snd_cases (next setup s request created rest).2 states with
    heq | ⟨s', r, -, heq⟩
  · rw [heq] at h
    exact absurd h (next_ne_error setup s request created rest e)
  · rw [heq] at h
    exact eq_binder_of_step h

end ConsumerBind

/-! ## What is rejected although it was accepted -/

/-- Under accepted settings no producer bind of a name with a destination is rejected for invalid
properties, and a consumer bind is, at once, exactly if the destination consists of commas and blank
characters. -/
theorem Setup.rejects_accepted_iff (setup : Setup ι τ β) {p : BindingProperties} {d : String}
    (hvalid : setup.settings.validate = .ok ()) (hp : setup.settings.binding? name = some p)
    (hd : p.destination = some d)
    (hbinder : setup.factory.get? (setup.settings.binderName name) = some binder) :
  (∀ s output states reason, ((ProducerBind.process setup).walk
      (ProducerBind.begin setup s name output (setup.settings.producerProperties name)).2 states).2
        ≠ .ended (.error (.invalidProperties reason)))
    ∧ ∀ s input states reason, ((ConsumerBind.process setup).walk
      (ConsumerBind.begin setup s name input).2 states).2
        = .ended (.error (.invalidProperties reason))
        ↔ (∀ c ∈ d.toList, c = ',' ∨ Text.isBlank c = true)
          ∧ reason = s!"binding '{name}' has no destination"
  := by
  have hdestination : setup.settings.destination name = d := by
    rw [Settings.destination, hp, Option.bind_some, hd, Option.getD_some]
  constructor
  · intro s output states reason h
    have hterms := producerTerms_eq_ok (setup.settings.producerProperties_valid hvalid name) hbinder
      s.binders
    rw [ProducerBind.begin_of_ok hterms] at h
    obtain ⟨cause, hcause⟩ := ProducerBind.eq_binder_of_walk h
    cases hcause
  · intro s input states reason
    have hterms := consumerTerms_eq_ok (setup.settings.consumerProperties_valid hvalid name) hbinder
      s.binders
    rw [← Text.commaParts_eq_nil_iff]
    by_cases hparts : Text.commaParts d = []
    · rw [ConsumerBind.begin_of_no_destination hterms (by rw [hdestination, hparts]),
        Process.walk_ended]
      simp [hparts, eq_comm]
    · rw [ConsumerBind.begin_of_ok hterms (by rwa [hdestination])]
      simp only [hparts, false_and, iff_false]
      intro h
      obtain ⟨cause, hcause⟩ := ConsumerBind.eq_binder_of_walk h
      cases hcause

/-- Settings with a destination that consists of a comma. -/
def Settings.loneComma : Settings where
  bindings := ⟨[("in", { destination := some ",", producer := some { partitionCount := 2 } })]⟩

/-- Whoever binds under these settings, a producer is not rejected, and a consumer is. -/
theorem Setup.rejects_accepted_of_lone_comma :
  let setup := MemoryBinder.setup .loneComma
  setup.settings.validate = .ok ()
    ∧ (∀ s output states reason, ((ProducerBind.process setup).walk
      (ProducerBind.begin setup s "in" output (setup.settings.producerProperties "in")).2 states).2
        ≠ .ended (.error (.invalidProperties reason)))
    ∧ ∀ s input states, ((ConsumerBind.process setup).walk
      (ConsumerBind.begin setup s "in" input).2 states).2
        = .ended (.error (.invalidProperties "binding 'in' has no destination"))
  := by
  intro setup
  have hvalid : setup.settings.validate = .ok () := rfl
  have hp : setup.settings.binding? "in"
      = some { destination := some ",", producer := some { partitionCount := 2 } } := rfl
  have hbinder : setup.factory.get? (setup.settings.binderName "in") = some () := rfl
  obtain ⟨hproducer, hconsumer⟩ := setup.rejects_accepted_iff hvalid hp rfl hbinder
  refine ⟨hvalid, hproducer, ?_⟩
  intro s input states
  exact (hconsumer s input states _).mpr ⟨by simp, rfl⟩

/-- A consumer bind rejects as invalid a destination that was accepted, though there is a binder for
it. -/
theorem Setup.accepted_destination_is_rejected :
  let setup := MemoryBinder.setup .loneComma
  setup.settings.validate = .ok ()
    ∧ (setup.settings.binding? "in").bind BindingProperties.destination = some ","
    ∧ setup.factory.get? (setup.settings.binderName "in") = some ()
    ∧ (ConsumerBind.begin setup { binders := {} } "in" ⟨0⟩).2
      = .ended (.error (.invalidProperties "binding 'in' has no destination"))
  := ⟨rfl, rfl, rfl, rfl⟩

end ChannelBinding
