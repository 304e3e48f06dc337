import ChannelBinding.Process

/-!
# Walks

A walk of a process is a number of its steps, one after the other, each of them taken in whatever state
the others have left behind.  What holds of all walks of a call therefore holds of it whatever calls
interleave with it, however often it pauses, and wherever it is dropped.
-/

namespace ChannelBinding

/-- What is left of a process that goes on. -/
def Progress.rest? {ρ α : Type} : Progress ρ α → Option ρ
  | running r => some r
  | waiting r _ => some r
  | ended _ => none

/-- The progress of a process in other terms. -/
def Progress.map {γ γ' α α' : Type} (f : γ → γ') (g : α → α') : Progress γ α → Progress γ' α'
  | running r => running (f r)
  | waiting r pause => waiting (f r) pause
  | ended a => ended (g a)

namespace Process

variable {σ ρ α : Type} (P : Process σ ρ α)

/-- The steps that a process takes from some progress on, in given states, each with the place where it
was taken, and the progress that it comes to. -/
def walk : Progress ρ α → List σ → List (σ × ρ) × Progress ρ α
  | p, [] => ([], p)
  | p, s :: states =>
    match p.rest? with
    | none => ([], p)
    | some r => ((s, r) :: (walk (P.step s r).2 states).1, (walk (P.step s r).2 states).2)

theorem walk_cons {p : Progress ρ α} {r : ρ} (hr : p.rest? = some r) (s : σ) (states : List σ) :
  P.walk p (s :: states)
    = ((s, r) :: (P.walk (P.step s r).2 states).1, (P.walk (P.step s r).2 states).2)
  := by
  rw [walk, hr]

/-- A process that has ended takes no more steps. -/
theorem walk_ended (a : α) (states : List σ) :
  P.walk (.ended a) states = ([], .ended a)
  := by
  cases states <;> rfl

/-- What holds where no step is taken, and of a walk if it holds of the walk from its first step on,
holds of every walk. -/
theorem walk_induction {Q : Progress ρ α → List (σ × ρ) → Progress ρ α → Prop}
    (hnil : ∀ p, Q p [] p)
    (hcons : ∀ s r p steps p', p.rest? = some r → Q (P.step s r).2 steps p' → Q p ((s, r) :: steps) p')
    (p : Progress ρ α) (states : List σ) :
  Q p (P.walk p states).1 (P.walk p states).2
  := by
  induction states generalizing p with
  | nil => exact hnil p
  | cons s states ih =>
    cases hr : p.rest? with
    | none =>
      rw [walk, hr]
      exact hnil p
    | some r =>
      rw [P.walk_cons hr]
      exact hcons s r p _ _ hr (ih _)

/-- What every step keeps of the place that it is taken from holds of every place of a walk. -/
theorem walk_keeps {I : ρ → Prop}
    (hstep : ∀ s r r', I r → (P.step s r).2.rest? = some r' → I r') {p : Progress ρ α}
    (hp : ∀ r, p.rest? = some r → I r) (states : List σ) :
  ∀ step ∈ (P.walk p states).1, I step.2
  := by
  revert hp
  apply P.walk_induction (Q := fun p steps _ => (∀ r, p.rest? = some r → I r) → ∀ step ∈ steps, I step.2)
  · rintro p - step hstep
    cases hstep
  · intro s r p steps p' hr ih hp
    rw [List.forall_mem_cons]
    exact ⟨hp r hr, ih fun r' => hstep s r r' (hp r hr)⟩

/-- A walk comes to where it began, or to where its last step led. -/
theorem walk_snd_cases (p : Progress ρ α) (states : List σ) :
  (P.walk p states).2 = p
    ∨ ∃ s r, (s, r) ∈ (P.walk p states).1 ∧ (P.walk p states).2 = (P.step s r).2
  := by
  apply P.walk_induction (Q := fun p steps p' => p' = p ∨ ∃ s r, (s, r) ∈ steps ∧ p' = (P.step s r).2)
  · intro p
    exact Or.inl rfl
  · rintro s r p steps p' - (heq | ⟨s', r', hmem, heq⟩)
    · exact Or.inr ⟨s, r, List.mem_cons_self, heq⟩
    · exact Or.inr ⟨s', r', List.mem_cons_of_mem _ hmem, heq⟩

/-- The states in which a process that runs alone takes its first steps, as long as it goes on and does not
wait. -/
def trail : Nat → σ → ρ → List σ
  | 0, _, _ => []
  | n + 1, s, r => s :: match P.step s r with
    | (s', .running r') => trail n s' r'
    | _ => []

theorem trail_one (s : σ) (r : ρ) :
  P.trail 1 s r = [s]
  := by
  rw [trail]
  split
  · rfl
  · rfl

/-- A walk of a process that runs alone goes from where a step leads to. -/
theorem walk_trail_succ {s s' : σ} {r r' : ρ} (h : P.step s r = (s', .running r')) (n : Nat) :
  (P.walk (.running r) (P.trail (n + 1) s r)).1
    = (s, r) :: (P.walk (.running r') (P.trail n s' r')).1
  := by
  rw [trail, h, P.walk_cons (by rfl), h]

end Process

end ChannelBinding
