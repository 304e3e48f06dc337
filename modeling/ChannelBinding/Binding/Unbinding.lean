import ChannelBinding.Fabric
import ChannelBinding.Process

/-!
# Unbinding

The release of one binding.  The call that finds it bound marks it unbound and then removes its
subscription; every other call does nothing.  Between the two steps other calls may run, and see the
binding unbound.
-/

namespace ChannelBinding

/-- Where the release of a binding stands. -/
inductive Unbinding where
  | requested (b : BindingId)
  | detaching (b : BindingId)
deriving DecidableEq, Repr

namespace Unbinding

/-- The binding to be released. -/
def target : Unbinding → BindingId
  | requested b => b
  | detaching b => b

/-- The number of steps to the end. -/
def rank : Unbinding → Nat
  | requested _ => 1
  | detaching _ => 0

/-- One step of the release of a binding. -/
def step (f : Fabric) : Unbinding → Fabric × Progress Unbinding (Except BinderError Unit)
  | requested b =>
    match f.binding? b with
    | none => (f, .ended (.ok ()))
    | some binding =>
      match binding.attachment with
      | .stuck error => (f, .ended (.error error))
      | .subscription _ _ =>
        if binding.bound then
          (f.setBinding b { binding with bound := false }, .running (detaching b))
        else (f.emit (.unboundAlready binding.name binding.role), .ended (.ok ()))
  | detaching b =>
    match f.binding? b with
    | some { name, role, group, attachment := .subscription channel handler, .. } =>
      let detached := (f.unsubscribe channel handler).1
      (detached.emit (.unbound name role group (f.channelName channel)), .ended (.ok ()))
    | _ => (f, .ended (.ok ()))

/-- A release goes from its request to the detachment and no further. -/
theorem eq_detaching_of_step {f f' : Fabric} {u u' : Unbinding}
    (h : step f u = (f', .running u')) :
  u = requested u.target ∧ u' = detaching u.target
  := by
  cases u with
  | requested b =>
    simp only [step] at h
    split at h
    · simp at h
    · split at h
      · simp at h
      · split at h
        · simp only [Prod.mk.injEq, Progress.running.injEq] at h
          exact ⟨rfl, h.2.symm⟩
        · simp at h
  | detaching b =>
    simp only [step] at h
    split at h <;> simp at h

theorem step_ne_waiting {f f' : Fabric} {u u' : Unbinding} {pause : Pause} :
  step f u ≠ (f', .waiting u' pause)
  := by
  cases u <;> simp only [step] <;> repeat' split
  all_goals simp

/-- The release of a binding, as a process on the fabric. -/
def process : Process Fabric Unbinding (Except BinderError Unit) where
  step := step
  nearer := InvImage (· < ·) rank
  wellFounded := (measure rank).wf
  nearer_of_step h := by
    obtain ⟨hu, hu'⟩ := eq_detaching_of_step h
    rw [hu, hu']
    exact Nat.zero_lt_one

theorem process_neverWaits : process.NeverWaits := fun _ _ _ _ _ => step_ne_waiting

end Unbinding

/-- Releases a binding. -/
def Fabric.unbind (f : Fabric) (b : BindingId) : Fabric × Except BinderError Unit :=
  Unbinding.process.finish Unbinding.process_neverWaits f (.requested b)

end ChannelBinding
