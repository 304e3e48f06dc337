/-!
# Processes

A call that other calls may interleave with is a process: a machine that takes atomic steps on a
shared state.  After a step it goes on, pauses or has ended.  Between two pauses a process takes
finitely many steps, so `settle`, which lets it run on its own, is total; `settle_eq` unfolds it.
-/

namespace ChannelBinding

/-- What a process that pauses is waiting for. -/
inductive Pause where
  /-- Its next turn. -/
  | turn
  /-- A time on the clock. -/
  | alarm (time : Nat)
  /-- Another process. -/
  | other
deriving DecidableEq, Repr

/-- Where a process stands after a step. -/
inductive Progress (ρ : Type u) (α : Type v) where
  /-- It can go on at once. -/
  | running (rest : ρ)
  /-- It has to wait. -/
  | waiting (rest : ρ) (pause : Pause)
  /-- It has ended. -/
  | ended (result : α)
deriving Repr

/-- A process with state of its own in `ρ`, shared state in `σ` and a result in `α`. -/
structure Process (σ : Type u) (ρ : Type v) (α : Type w) where
  /-- One atomic step. -/
  step : σ → ρ → σ × Progress ρ α
  /-- `nearer r' r` says that `r'` is nearer to a pause or to the end than `r`. -/
  nearer : ρ → ρ → Prop
  wellFounded : WellFounded nearer
  nearer_of_step : ∀ {s r s' r'}, step s r = (s', .running r') → nearer r' r

namespace Process

variable {σ : Type u} {ρ : Type v} {α : Type w}

/-- Lets a process take steps until it pauses or ends. -/
def settle (P : Process σ ρ α) (s : σ) (r : ρ) : σ × Progress ρ α :=
  match _h : P.step s r with
  | (s', .running r') => P.settle s' r'
  | (s', .waiting r' pause) => (s', .waiting r' pause)
  | (s', .ended a) => (s', .ended a)
termination_by P.wellFounded.wrap r
decreasing_by exact P.nearer_of_step _h

/-- A settled process has taken one step and settled from there. -/
theorem settle_eq (P : Process σ ρ α) (s : σ) (r : ρ) :
  P.settle s r
    = match P.step s r with
      | (s', .running r') => P.settle s' r'
      | (s', .waiting r' pause) => (s', .waiting r' pause)
      | (s', .ended a) => (s', .ended a)
  := by
  rw [settle]
  split <;> simp_all

/-- A process that waits for nothing. -/
def NeverWaits (P : Process σ ρ α) : Prop :=
  ∀ s r s' r' pause, P.step s r ≠ (s', .waiting r' pause)

/-- Lets a process that waits for nothing run to its end. -/
def finish (P : Process σ ρ α) (hP : P.NeverWaits) (s : σ) (r : ρ) : σ × α :=
  match h : P.step s r with
  | (s', .running r') => P.finish hP s' r'
  | (s', .waiting r' pause) => (hP s r s' r' pause h).elim
  | (s', .ended a) => (s', a)
termination_by P.wellFounded.wrap r
decreasing_by exact P.nearer_of_step h

/-- A step that goes on leads to the same end. -/
theorem finish_of_running (P : Process σ ρ α) (hP : P.NeverWaits) {s s' : σ} {r r' : ρ}
    (h : P.step s r = (s', .running r')) :
  P.finish hP s r = P.finish hP s' r'
  := by
  rw [finish.eq_def P hP s r]
  split <;> simp_all

/-- A step that ends the process is its end. -/
theorem finish_of_ended (P : Process σ ρ α) (hP : P.NeverWaits) {s s' : σ} {r : ρ} {a : α}
    (h : P.step s r = (s', .ended a)) :
  P.finish hP s r = (s', a)
  := by
  rw [finish.eq_def P hP s r]
  split <;> simp_all

/-- The process that acts on one part of a larger state. -/
def focus {τ : Type u} (P : Process σ ρ α) (get : τ → σ) (put : τ → σ → τ) : Process τ ρ α where
  step t r :=
    let (s, p) := P.step (get t) r
    (put t s, p)
  nearer := P.nearer
  wellFounded := P.wellFounded
  nearer_of_step {t r t' r'} h := by
    cases hs : P.step (get t) r with
    | mk s p =>
      simp only [hs, Prod.mk.injEq] at h
      exact P.nearer_of_step (by rw [hs, h.2])

end Process

end ChannelBinding
