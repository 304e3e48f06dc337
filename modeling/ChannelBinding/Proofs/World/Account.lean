import ChannelBinding.Proofs.World.Inversion

/-!
# Accounts

The account of a world is what invariants speak of: its books, the stakes of its calls and its
history.  Every move is a step of the account, so `account_run` proves an invariant of all worlds
from its preservation by effects.
-/

namespace ChannelBinding

variable {ι τ β : Type}

/-- What invariants speak of: the books, the stakes of the calls, and the history. -/
structure Account where
  books : Books := {}
  stake : Nat → Stake := fun _ => {}
  history : List (Nat × Happening) := []

/-- An account changes by an effect with the stake of one call. -/
inductive Account.Step (a : Account) : Account → Prop where
  | effect (i : Nat) (B : Books) (k : Stake) (news : List Happening)
      (h : Effect a.books (a.stake i) B k news) :
    Step a ⟨B, Function.update a.stake i k, a.history ++ news.map (i, ·)⟩

theorem mem_history_append {history : List (Nat × Happening)} {i j : Nat} {e : Happening}
    {news : List Happening} :
  (j, e) ∈ history ++ news.map (i, ·) ↔ (j, e) ∈ history ∨ j = i ∧ e ∈ news
  := by
  rw [List.mem_append, List.mem_map]
  apply or_congr_right
  constructor
  · rintro ⟨e', hmem, heq⟩
    cases heq
    exact ⟨rfl, hmem⟩
  · rintro ⟨rfl, hmem⟩
    exact ⟨e, hmem, rfl⟩

namespace World

/-- The stake of a call. -/
def stake (w : World ι τ β) (i : Nat) : Stake := (w.call i).stake

/-- The account of a world. -/
def account (w : World ι τ β) : Account := ⟨w.system.books, w.stake, w.history⟩

/-- In a tidy world every bind that a resolution has begun goes by its name. -/
def IsTidy (w : World ι τ β) : Prop := ∀ r, .resolving r ∈ w.calls → r.IsTidy

theorem stake_append (w : World ι τ β) (s : System τ) (call : Call ι β)
    (history : List (Nat × Happening)) :
  (World.mk s (w.calls ++ [call]) history).stake
    = Function.update w.stake w.calls.length call.stake
  := by
  simp only [funext_iff, stake, call_append]
  apply congrFun (comp_update Call.stake _ _ _)

theorem stake_set (w : World ι τ β) (s : System τ) {i : Nat} {call : Call ι β} (call' : Call ι β)
    (history : List (Nat × Happening)) (h : w.calls[i]? = some call) :
  (World.mk s (w.calls.set i call') history).stake = Function.update w.stake i call'.stake
  := by
  simp only [funext_iff, stake, call_set w s call' history h]
  apply congrFun (comp_update Call.stake _ _ _)

/-- A move that leaves the account alone is a step of it. -/
theorem step_of_account_eq {w w' : World ι τ β} (h : w'.account = w.account) :
  w.account.Step w'.account
  := by
  rw [h]
  have hstep := Account.Step.effect 0 _ _ _ (Effect.quiet w.account.books (w.account.stake 0))
  rw [Function.update_eq_self, List.map_nil, List.append_nil] at hstep
  apply hstep

/-- The step of an account that a call makes. -/
theorem step_of_effect {w : World ι τ β} {i : Nat} {s : System τ} {call call' : Call ι β}
    {news : List Happening} (hi : w.calls[i]? = some call)
    (h : Effect w.system.books call.stake s.books call'.stake news) :
  w.account.Step (account ⟨s, w.calls.set i call', w.history ++ news.map (i, ·)⟩)
  := by
  have hstake : w.stake i = call.stake := by
    rw [stake, call_of_getElem? hi]
  rw [← hstake] at h
  simp only [account, stake_set w s call' _ hi]
  apply Account.Step.effect i _ _ _ h

theorem isTidy_set {w : World ι τ β} (hw : w.IsTidy) {s : System τ} {i : Nat} {call : Call ι β}
    {history : List (Nat × Happening)} (h : ∀ r, call = .resolving r → r.IsTidy) :
  (World.mk s (w.calls.set i call) history).IsTidy
  := by
  intro r hr
  rcases List.mem_or_eq_of_mem_set hr with hr | rfl
  · apply hw r hr
  · apply h r rfl

theorem isTidy_finish {w : World ι τ β} (hw : w.IsTidy) (s : System τ) (i : Nat)
    (history : List (Nat × Happening)) :
  (World.mk s (w.calls.set i .finished) history).IsTidy
  := by
  apply isTidy_set hw
  intro r hr
  cases hr

/-- Dropping a call is a step of the account. -/
theorem step_drop {w : World ι τ β} {i : Nat} {s : System τ} {call : Call ι β}
    (hi : w.calls[i]? = some call) (h : Effect w.system.books call.stake s.books {} []) :
  w.account.Step (account ⟨s, w.calls.set i .finished, w.history⟩)
  := by
  have hstep : w.account.Step (account ⟨s, w.calls.set i .finished, w.history ++ [].map (i, ·)⟩) :=
    step_of_effect hi h
  rw [List.map_nil, List.append_nil] at hstep
  apply hstep

/-- Every move of a tidy world is a step of its account and leads to a tidy world. -/
theorem step_account (setup : Setup ι τ β) {w : World ι τ β} (hw : w.IsTidy) (m : Move ι) :
  w.account.Step (next setup w m).account ∧ (next setup w m).IsTidy
  := by
  cases m with
  | call request =>
    obtain ⟨heffect, htidy⟩ := Request.effect_begin setup w.system request
    simp only [next]
    split
    case isFalse => exact ⟨step_of_account_eq rfl, hw⟩
    constructor
    · simp only [account, stake_append]
      have hnone : w.stake w.calls.length = {} := by
        rw [stake, call_length]
        rfl
      rw [← hnone] at heffect
      apply Account.Step.effect _ _ _ _ heffect
    · intro r hr
      rcases List.mem_append.1 hr with hr | hr
      · apply hw r hr
      · apply htidy r (List.mem_singleton.1 hr).symm
  | advance i =>
    simp only [next]
    cases hi : w.calls[i]? with
    | none => exact ⟨step_of_account_eq rfl, hw⟩
    | some call =>
      have htidy : ∀ r, call = .resolving r → r.IsTidy := by
        rintro r rfl
        apply hw r (List.mem_of_getElem? hi)
      obtain ⟨heffect, htidy'⟩ := Call.effect_step setup w.system call htidy
      constructor
      · apply step_of_effect hi heffect
      · apply isTidy_set hw htidy'
  | drop i =>
    simp only [next]
    split
    · rename_i r hi
      exact ⟨step_drop hi (r.effect_abandon w.system), isTidy_finish hw _ _ _⟩
    · rename_i bind hi
      exact ⟨step_drop hi (.quiet _ _), isTidy_finish hw _ _ _⟩
    · rename_i bind hi
      exact ⟨step_drop hi (.quiet _ _), isTidy_finish hw _ _ _⟩
    · rename_i call hi
      exact ⟨step_drop hi (.quiet _ _), isTidy_finish hw _ _ _⟩
    · exact ⟨step_of_account_eq rfl, hw⟩
  | act a => exact ⟨step_of_account_eq rfl, hw⟩
  | register name c =>
    constructor
    · have hstep := Account.Step.effect 0 _ _ _
        (Effect.registered w.account.books (w.account.stake 0) name c)
      rw [Function.update_eq_self, List.map_nil, List.append_nil] at hstep
      apply hstep
    · apply hw
  | addBindable bindable => exact ⟨step_of_account_eq rfl, hw⟩
  | start =>
    constructor
    · apply step_of_account_eq
      simp only [next, account, System.books_startLifecycle]
      rfl
    · apply hw

/-- Every world that can be reached is tidy. -/
theorem isTidy_run (setup : Setup ι τ β) (fabric : Fabric) (binders : τ) (moves : List (Move ι)) :
  ((fresh fabric binders : World ι τ β).run setup moves).IsTidy
  := by
  apply run_induction (P := IsTidy)
  · intro r hr
    cases hr
  · intro w m hw
    apply (step_account setup hw m).2

/-- What every step of an account keeps holds of the account of every world that comes of a tidy
one. -/
theorem account_run_of_isTidy {P : Account → Prop} (hstep : ∀ a a', P a → a.Step a' → P a')
    (setup : Setup ι τ β) {w : World ι τ β} (h : P w.account) (hw : w.IsTidy)
    (moves : List (Move ι)) :
  P (w.run setup moves).account ∧ (w.run setup moves).IsTidy
  := by
  apply run_induction (P := fun w => P w.account ∧ w.IsTidy) ⟨h, hw⟩
  rintro w m ⟨hP, htidy⟩
  obtain ⟨hs, htidy'⟩ := step_account setup htidy m
  exact ⟨hstep _ _ hP hs, htidy'⟩

/-- What every step of an account keeps holds of the account of every world that can be reached. -/
theorem account_run {P : Account → Prop} (h : P {}) (hstep : ∀ a a', P a → a.Step a' → P a')
    (setup : Setup ι τ β) (fabric : Fabric) (binders : τ) (moves : List (Move ι)) :
  P ((fresh fabric binders : World ι τ β).run setup moves).account
  := (account_run_of_isTidy hstep setup (w := fresh fabric binders) h nofun moves).1

end World

end ChannelBinding
