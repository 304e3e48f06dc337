import ChannelBinding.Proofs.Clearance
import ChannelBinding.Proofs.Demo.Layout

/-!
# The shutdown of the demo

The shutdown of the demo asks for the names of all inputs and for all registered outputs.  Each attempt
takes what is tracked under its name and unbinds it, and no binding of the demo is stuck.  So when every
binding that is bound is tracked under one of these names, none is bound in the end.
-/

namespace ChannelBinding

variable {τ : Type}

/-! ## What is told of unbindings -/

namespace Fabric.Quiet

variable {f f' : Fabric}

theorem unbind (h : f.Quiet f') (b : BindingId) :
  f.Quiet (f'.unbind b).1
  := by
  cases hb : f'.binding? b with
  | none =>
    rw [unbind_of_none hb]
    exact h
  | some binding =>
    cases hattachment : binding.attachment with
    | stuck error =>
      rw [unbind_of_stuck hb hattachment]
      exact h
    | subscription c handler =>
      cases hbound : binding.bound with
      | false =>
        rw [unbind_of_unbound ⟨hb, hattachment⟩ hbound]
        exact h.emit rfl
      | true =>
        rw [unbind_of_bound ⟨hb, hattachment⟩ hbound]
        exact ((h.setBinding _ _).unsubscribe _ _).emit rfl

theorem report (h : f.Quiet f') (name : String) (b : BindingId) (failure : Option BinderError) :
  f.Quiet (Release.report f' name b failure)
  := by
  unfold Release.report
  split
  · exact h
  · exact h.emit rfl
  · exact h.emit rfl

theorem unbindEach (h : f.Quiet f') (name : String) (bs : List BindingId) :
  f.Quiet (f'.unbindEach name bs).1
  := by
  induction bs generalizing f' with
  | nil => exact h
  | cons b bs ih =>
    rw [unbindEach_cons]
    exact ih ((h.unbind b).report name b _)

/-- What a shutdown reports in the end tells nothing of messages. -/
theorem conclude {s : System τ} (h : f.Quiet s.fabric) (failures : List UnbindFailure) :
  f.Quiet (Shutdown.conclude s failures).fabric
  := by
  refine emit ?_ rfl
  induction failures generalizing s with
  | nil => exact h
  | cons failure failures ih => exact ih (h.emit rfl)

end Fabric.Quiet

/-! ## What attempts clear -/

/-- What some attempts do to what is booked: it stays booked, and nothing is tracked any more under what was
attempted. -/
structure System.Clears (s s' : System τ) (keys : List (Role × String)) : Prop where
  quiet : s.fabric.Quiet s'.fabric
  booked : ∀ {names registry}, Demo.Booked names [] s.fabric s.ledger registry →
    Demo.Booked names [] s'.fabric s'.ledger registry
  cleared : ∀ {role name}, (role, name) ∈ keys ∨ s.ledger.tracked role name = [] →
    s'.ledger.tracked role name = []

namespace System.Clears

variable {s s' s'' : System τ} {keys keys' : List (Role × String)}

/-- What changes neither the fabric nor the ledger clears nothing. -/
theorem of_eq (hfabric : s'.fabric = s.fabric) (hledger : s'.ledger = s.ledger) :
  s.Clears s' []
  := by
  refine ⟨hfabric ▸ .refl _, fun hb => ?_, fun h => ?_⟩
  · rw [hfabric, hledger]
    exact hb
  · rw [hledger]
    exact h.resolve_left List.not_mem_nil

theorem trans (h : s.Clears s' keys) (h' : s'.Clears s'' keys') :
  s.Clears s'' (keys ++ keys')
  := by
  refine ⟨h.quiet.trans h'.quiet, fun hb => h'.booked (h.booked hb), ?_⟩
  intro role name hkey
  apply h'.cleared
  rw [List.mem_append, or_assoc] at hkey
  rcases hkey with hkey | hkey | hnone
  · exact Or.inr (h.cleared (Or.inl hkey))
  · exact Or.inl hkey
  · exact Or.inr (h.cleared (Or.inr hnone))

/-- An attempt clears its name. -/
theorem unbindTracked (s : System τ) (role : Role) (name : String) :
  s.Clears (s.unbindTracked role name).1 [(role, name)]
  := by
  rw [System.unbindTracked_spec]
  obtain ⟨ledger, found, htake⟩ : ∃ ledger found, s.ledger.take role name = (ledger, found) :=
    ⟨_, _, rfl⟩
  obtain ⟨hledger, hfound⟩ := Prod.mk.inj htake
  rw [htake]
  cases found with
  | none =>
    refine ⟨(Fabric.Quiet.refl _).emit rfl, fun hb => hb.of_bindings rfl, ?_⟩
    rintro role' name' (hkey | hnone)
    · cases List.mem_singleton.mp hkey
      exact congrArg (Option.getD · []) hfound
    · exact hnone
  | some bs =>
    have htracked : ∀ role' name', ledger.tracked role' name'
        = if role = role' ∧ name = name' then [] else s.ledger.tracked role' name' := by
      intro role' name'
      rw [← s.ledger.tracked_take, htake]
    have hbs : s.ledger.tracked role name = bs := congrArg (Option.getD · []) hfound
    dsimp only
    rw [Fabric.unbindAll_eq]
    refine ⟨(Fabric.Quiet.refl _).unbindEach name bs, ?_, ?_⟩
    · intro names registry hb
      constructor
      · intro b binding hmem hbound
        exact hb.attached (Fabric.bound_of_unbindEach hmem hbound).1 hbound
      · intro b binding hmem hbound
        obtain ⟨hbefore, hstuck⟩ := Fabric.bound_of_unbindEach hmem hbound
        rcases hb.held hbefore hbound with ⟨hcreated, -⟩ | ⟨name', hmem', hlisted⟩
        · cases hcreated
        · refine Or.inr ⟨name', ?_, hlisted⟩
          rw [htracked]
          split
          · -- what was taken is unbound now, for nothing is stuck
            rename_i heq
            rw [← heq.1, ← heq.2, hbs] at hmem'
            obtain ⟨error, hattachment⟩ := hstuck hmem'
            obtain ⟨c, h, hsubscription⟩ := hb.attached hbefore hbound
            rw [hattachment] at hsubscription
            cases hsubscription
          · exact hmem'
    · rintro role' name' hkey
      rw [htracked]
      split
      · rfl
      · rename_i hne
        rcases hkey with hkey | hnone
        · cases List.mem_singleton.mp hkey
          exact absurd ⟨rfl, rfl⟩ hne
        · exact hnone

theorem attempt (s : System τ) (role : Role) (names : List String) :
  s.Clears (s.attempt role names).1 (names.map (role, ·))
  := by
  induction names generalizing s with
  | nil => exact of_eq rfl rfl
  | cons name names ih => exact (unbindTracked s role name).trans (ih _)

/-- Visits clear all that they attempt. -/
theorem visit (s : System τ) (stages : List (Role × Bindable)) :
  s.Clears (s.visit stages).1 ((s.visit stages).2.map Attempt.key)
  := by
  induction stages generalizing s with
  | nil => exact of_eq rfl rfl
  | cons stage stages ih =>
    obtain ⟨role, bindable⟩ := stage
    have hclaim : s.Clears (bindable.claimNames s role).1 [] := by
      cases role <;> cases bindable <;> exact of_eq rfl rfl
    have hattempts := hclaim.trans (attempt (bindable.claimNames s role).1 role
      (bindable.claimNames s role).2)
    rw [System.visit_cons, List.map_append, System.visitOne, System.keys_attempt]
    exact hattempts.trans (ih _)

end System.Clears

namespace Demo

/-- The shutdown of the demo attempts every name that is listed. -/
theorem mem_keys_of_isListed {s : System τ} {names : List String} {role : Role} {name : String}
    (h : IsListed names s.registry role name) :
  let bindables := [.targets names [], .registry]
  (role, name) ∈ (bindables.flatMap fun b : Bindable => b.names s .consumer).map (.consumer, ·)
    ++ (Bindable.outputs s [] bindables).map (.producer, ·)
  := by
  cases role with
  | consumer =>
    apply List.mem_append_left
    apply List.mem_map_of_mem
    rw [List.flatMap_cons]
    exact List.mem_append_left _ h
  | producer =>
    apply List.mem_append_right
    apply List.mem_map_of_mem
    apply Bindable.mem_outputs (b := .registry) (by simp) List.not_mem_nil
    exact s.registry.names_perm.mem_iff.mpr h

/-- The shutdown of the demo tells nothing of messages, keeps the cache, and leaves nothing bound, if all
that is bound is tracked under the names that it asks for. -/
theorem stop_clears {s : System τ} {names : List String}
    (hlifecycle : s.lifecycle = ⟨[.targets names [], .registry], true⟩)
    (hbooked : Booked names [] s.fabric s.ledger s.registry) :
  s.fabric.Quiet s.stopLifecycle.1.fabric ∧ s.stopLifecycle.1.cache = s.cache
    ∧ ∀ {b binding}, s.stopLifecycle.1.fabric.binding? b = some binding → binding.bound = false
  := by
  have hrunning : s.lifecycle.running = true := by
    rw [hlifecycle]
  obtain ⟨stages, hstages⟩ : ∃ stages, Shutdown.stages s.lifecycle.bindables = stages := ⟨_, rfl⟩
  have hkeys := s.keys_beginStop
  have hbegin : s.fabric.Quiet s.beginStop.fabric := (Fabric.Quiet.refl _).emit rfl
  have hclears := System.Clears.visit s.beginStop stages
  obtain ⟨fabric, ledger, registry, ownRegistries, hvisit⟩ := s.beginStop.visit_fst stages
  rw [System.stopLifecycle_of_running hrunning]
  rw [hstages] at hkeys ⊢
  obtain ⟨journal, hconclude⟩ := Shutdown.conclude_eq (s.beginStop.visit stages).1
    ((s.beginStop.visit stages).2.filterMap Attempt.failure?)
  refine ⟨(hbegin.trans hclears.quiet).conclude _, ?_, ?_⟩
  · rw [hconclude, hvisit]
    rfl
  · intro b binding hb
    rw [hconclude] at hb
    have hbooked' := hclears.booked (hbooked.of_bindings rfl)
    -- what is still bound would be tracked under a name that was attempted
    by_contra hbound
    rcases hbooked'.held hb (Bool.not_eq_false _ ▸ hbound) with ⟨hcreated, -⟩ | ⟨name, hmem, hlisted⟩
    · cases hcreated
    · have hnone : (s.beginStop.visit stages).1.ledger.tracked binding.role name = [] := by
        apply hclears.cleared
        left
        rw [hkeys, hlifecycle]
        exact mem_keys_of_isListed hlisted
      rw [hnone] at hmem
      cases hmem

end Demo

end ChannelBinding
