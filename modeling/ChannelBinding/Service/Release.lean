import ChannelBinding.Binding.Unbinding
import ChannelBinding.System

/-!
# Releasing bindings

The release of a list of bindings, one after the other, whatever fails; the first failure is what is
reported.  A withdrawal takes the bindings of one name after the other out of the ledger and releases
them, and collects the names that failed.
-/

namespace ChannelBinding

/-- The release of the bindings of one name. -/
structure Release where
  name : String
  current : Unbinding
  /-- The bindings that come after the current one. -/
  rest : List BindingId
  /-- The first failure so far. -/
  failure : Option BinderError
deriving DecidableEq, Repr

namespace Release

/-- The release of the given bindings, after a possible failure. -/
def begin (name : String) (failure : Option BinderError) :
    List BindingId → Progress Release (Option BinderError)
  | [] => .ended failure
  | b :: rest => .running ⟨name, .requested b, rest, failure⟩

/-- The failure, if any, with which the release of one binding ended. -/
def failureOf : Except BinderError Unit → Option BinderError
  | .ok () => none
  | .error e => some e

/-- Reports how the release of one binding ended. -/
def report (f : Fabric) (name : String) (b : BindingId) (failure : Option BinderError) : Fabric :=
  match f.binding? b, failure with
  | none, _ => f
  | some binding, none => f.emit (.released name binding.name binding.role)
  | some binding, some e => f.emit (.releaseFailed name binding.name binding.role e)

/-- One step of a release. -/
def step (f : Fabric) (r : Release) : Fabric × Progress Release (Option BinderError) :=
  match Unbinding.step f r.current with
  | (f', .running u) => (f', .running { r with current := u })
  | (f', .waiting u pause) => (f', .waiting { r with current := u } pause)
  | (f', .ended result) =>
    (report f' r.name r.current.target (failureOf result),
      begin r.name (r.failure.or (failureOf result)) r.rest)

/-- A bound on the number of steps to the end. -/
def rank (r : Release) : Nat := 2 * r.rest.length + r.current.rank

theorem rank_lt_of_step {f f' : Fabric} {r r' : Release} (h : step f r = (f', .running r')) :
  r'.rank < r.rank
  := by
  unfold step at h
  split at h
  · rename_i f₁ u hu
    obtain ⟨h₁, h₂⟩ := Unbinding.eq_detaching_of_step hu
    simp only [Prod.mk.injEq, Progress.running.injEq] at h
    rw [← h.2, rank, rank, h₁, h₂]
    simp [Unbinding.rank]
  · simp at h
  · cases hr : r.rest with
    | nil => simp [hr, begin] at h
    | cons b rest =>
      simp only [hr, begin, Prod.mk.injEq, Progress.running.injEq] at h
      rw [← h.2]
      simp only [rank, hr, Unbinding.rank, List.length_cons]
      omega

theorem step_ne_waiting {f f' : Fabric} {r r' : Release} {pause : Pause} :
  step f r ≠ (f', .waiting r' pause)
  := by
  unfold step
  split
  · simp
  · rename_i hu
    exact absurd hu Unbinding.step_ne_waiting
  · cases r.rest <;> simp [begin]

/-- The release of bindings, as a process on the fabric. -/
def process : Process Fabric Release (Option BinderError) where
  step := step
  nearer := InvImage (· < ·) rank
  wellFounded := (measure rank).wf
  nearer_of_step := rank_lt_of_step

theorem process_neverWaits : process.NeverWaits := fun _ _ _ _ _ => step_ne_waiting

end Release

/-- Releases bindings one after the other; the first failure, if any, is the result. -/
def Fabric.unbindAll (f : Fabric) (name : String) (bs : List BindingId) :
    Fabric × Option BinderError :=
  match Release.begin name none bs with
  | .running r => Release.process.finish Release.process_neverWaits f r
  | .waiting _ _ => (f, none)
  | .ended failure => (f, failure)

/-! ## Withdrawal by name -/

/-- The release of everything tracked under some names in one role. -/
structure Withdrawal where
  role : Role
  /-- The names to be taken out of the ledger. -/
  names : List String
  /-- The release of what was tracked under the name taken last. -/
  current : Option Release := none
  /-- The names that failed so far, in order. -/
  failures : List UnbindFailure := []
deriving DecidableEq, Repr

namespace Withdrawal

variable {τ : Type}

/-- The withdrawal with the release under way replaced by where it stands now. -/
def proceed (w : Withdrawal) (name : String) :
    Progress Release (Option BinderError) → Withdrawal
  | .running r => { w with current := some r }
  | .waiting r _ => { w with current := some r }
  | .ended none => { w with current := none }
  | .ended (some e) =>
    { w with current := none, failures := w.failures ++ [⟨name, w.role, .binder e⟩] }

/-- One step of a withdrawal. -/
def step (s : System τ) (w : Withdrawal) :
    System τ × Progress Withdrawal (List UnbindFailure) :=
  match w.current with
  | some r =>
    let (fabric, progress) := Release.step s.fabric r
    ({ s with fabric }, .running (w.proceed r.name progress))
  | none =>
    match w.names with
    | [] => (s, .ended w.failures)
    | name :: names =>
      match s.ledger.take w.role name with
      | (ledger, some bs) =>
        ({ s with ledger }, .running ({ w with names }.proceed name (Release.begin name none bs)))
      | (_, none) =>
        (s.emit (.nothingTracked name w.role),
          .running { w with names, failures := w.failures ++ [⟨name, w.role, .notBound name⟩] })

/-- A measure of the steps to the end: the names to take, then the release under way. -/
def rank (w : Withdrawal) : Nat × Nat :=
  (w.names.length, match w.current with | none => 0 | some r => r.rank + 1)

theorem nearer_of_step {s s' : System τ} {w w' : Withdrawal}
    (h : step s w = (s', .running w')) :
  Prod.Lex (· < ·) (· < ·) w'.rank w.rank
  := by
  unfold step at h
  split at h
  · rename_i r hr
    cases hs : Release.step s.fabric r with
    | mk f p =>
      simp only [hs, Prod.mk.injEq, Progress.running.injEq] at h
      rw [← h.2]
      cases p with
      | running r' =>
        simpa [proceed, rank, hr] using
          Prod.Lex.right _ (Nat.succ_lt_succ (Release.rank_lt_of_step hs))
      | waiting r' pause => exact absurd hs Release.step_ne_waiting
      | ended e => cases e <;> simpa [proceed, rank, hr] using Prod.Lex.right _ (Nat.succ_pos _)
  · split at h
    · simp at h
    · rename_i name names hn
      split at h
      · simp only [Prod.mk.injEq, Progress.running.injEq] at h
        rw [← h.2, rank, rank, hn]
        rename_i bs _
        cases bs <;> exact Prod.Lex.left _ _ (Nat.lt_succ_self _)
      · simp only [Prod.mk.injEq, Progress.running.injEq] at h
        rw [← h.2, rank, rank, hn]
        exact Prod.Lex.left _ _ (Nat.lt_succ_self _)

theorem step_ne_waiting {s s' : System τ} {w w' : Withdrawal} {pause : Pause} :
  step s w ≠ (s', .waiting w' pause)
  := by
  unfold step
  split
  · simp
  · split
    · simp
    · split <;> simp

/-- A withdrawal, as a process on the system. -/
def process : Process (System τ) Withdrawal (List UnbindFailure) where
  step := step
  nearer := InvImage (Prod.Lex (· < ·) (· < ·)) rank
  wellFounded := InvImage.wf rank (Prod.lex Nat.lt_wfRel Nat.lt_wfRel).wf
  nearer_of_step := nearer_of_step

theorem process_neverWaits : (process (τ := τ)).NeverWaits := fun _ _ _ _ _ => step_ne_waiting

end Withdrawal

namespace System

variable {τ : Type}

/-- Releases everything tracked under some names in one role; the names that failed are the result. -/
def withdraw (s : System τ) (role : Role) (names : List String) :
    System τ × List UnbindFailure :=
  Withdrawal.process.finish Withdrawal.process_neverWaits s { role, names }

/-- Releases everything tracked under one name in one role. -/
def unbindTracked (s : System τ) (role : Role) (name : String) :
    System τ × Except BindingError Unit :=
  let (s', failures) := s.withdraw role [name]
  match failures with
  | [] => (s', .ok ())
  | failure :: _ => (s', .error failure.error)

end System

end ChannelBinding
