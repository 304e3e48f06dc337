import ChannelBinding.Proofs.World.Change

/-!
# Observers

An observer takes notes of what the application does and of the bind calls that binders work on.
`Follows.run` proves what ties the fabric and the tasks of calls to such notes, from its preservation
by acts, by steps of bind calls, by all other changes, and by calls that are dropped; `Keeps.run` is
the same for an invariant that takes no notes.
-/

namespace ChannelBinding

/-- What is noted of an act, and of a step of a bind call. -/
structure Observer (τ β γ : Type) where
  act : Fabric → Act → γ → γ
  bind : Fabric × τ → β → γ → γ

namespace World

variable {ι τ β γ : Type} {setup : Setup ι τ β}

/-- The notes after a move. -/
def note (o : Observer τ β γ) (w : World ι τ β) (g : γ) : Move ι → γ
  | .act a => o.act w.system.fabric a g
  | .advance i =>
    match w.task i with
    | .attaching call => o.bind w.system.bindersView call g
    | _ => g
  | _ => g

/-- The notes of some moves. -/
def notes (o : Observer τ β γ) (setup : Setup ι τ β) : World ι τ β → γ → List (Move ι) → γ
  | _, g, [] => g
  | w, g, m :: moves => notes o setup (w.next setup m) (w.note o g m) moves

/-- What ties the fabric, the binders and the tasks of calls to notes, through every act, every step
of a bind call, every change while binders stand still, and the drop of a call that is not in the
middle of a release. -/
structure Follows (o : Observer τ β γ) (binders : Binders ι τ β)
    (P : Fabric × τ → (Nat → Task β) → γ → Prop) : Prop where
  act : ∀ {f t k g} (a : Act), P (f, t) k g → P (f.act a, t) k (o.act f a g)
  bind : ∀ {v k g i call}, P v k g → k i = .attaching call →
    P (binders.process.step v call).1
      (Function.update k i ((binders.process.step v call).2.task .attaching)) (o.bind v call g)
  change : ∀ {v k g i v' x}, P v k g → Change binders.still (v, k i) (v', x) →
    P v' (Function.update k i x) g
  drop : ∀ {v k g} (i : Nat), P v k g → (∀ b, k i ≠ .detaching b) → P v (Function.update k i .idle) g

variable {o : Observer τ β γ} {P : Fabric × τ → (Nat → Task β) → γ → Prop}

/-- What holds through one change holds through many. -/
theorem Follows.changes {binders : Binders ι τ β} (hP : Follows o binders P) {v v' : Fabric × τ}
    {k : Nat → Task β} {g : γ} {i : Nat} {x x' : Task β} (h : Changes binders.still (v, x) (v', x'))
    (hv : P v k g) (hx : k i = x) :
  P v' (Function.update k i x') g
  := by
  generalize hy : (v', x') = y at h
  induction h generalizing v' x' with
  | refl =>
    cases hy
    rw [← hx, Function.update_eq_self]
    apply hv
  | @tail y z hchanges hstep ih =>
    subst hy
    have hmid : P y.1 (Function.update k i y.2) g := ih rfl
    have hself : Function.update k i y.2 i = y.2 := Function.update_self i y.2 k
    have hafter : P v' (Function.update (Function.update k i y.2) i x') g := by
      apply hP.change hmid
      rw [hself]
      apply hstep
    rw [Function.update_idem] at hafter
    apply hafter

/-- Nothing is noted of a call that is not in the middle of a bind. -/
theorem note_advance_of_ne (w : World ι τ β) (g : γ) {i : Nat} (h : ∀ c, w.task i ≠ .attaching c) :
  w.note o g (.advance i) = g
  := by
  simp only [note]

/-- A call takes a step of its bind call, if it is in the middle of one, and then changes what it may
while binders stand still. -/
theorem Follows.step (hP : Follows o setup.binders P) (hkeep : setup.binders.KeepsChannels)
    {w : World ι τ β} (hw : w.HasChannels) {g : γ} (hv : P w.system.bindersView w.task g) {i : Nat}
    {call : Call ι β} (hi : w.calls[i]? = some call) :
  P (call.step setup w.system).1.bindersView
    (Function.update w.task i (call.step setup w.system).2.1.task) (w.note o g (.advance i))
  := by
  have hcall := hw call (List.mem_of_getElem? hi)
  have htask : w.task i = call.task := congrArg Call.task (call_of_getElem? hi)
  by_cases hbusy : ∃ c, call.task = .attaching c
  · obtain ⟨c, hc⟩ := hbusy
    rw [hc] at htask
    have hrest := call.changes_rest hkeep w.system hc hcall
    have hafter := hP.changes (i := i) hrest (hP.bind hv htask) (Function.update_self ..)
    rw [Function.update_idem] at hafter
    simp only [note, htask]
    apply hafter
  · have hfree : ∀ c, call.task ≠ .attaching c := fun c hc => hbusy ⟨c, hc⟩
    obtain ⟨hchanges, -⟩ := call.changes_step setup.keepsChannels_still w.system hcall
    rw [call.step_still w.system hfree] at hchanges
    rw [note_advance_of_ne w g fun c => htask ▸ hfree c]
    apply hP.changes hchanges hv htask

/-- Every move keeps what ties the fabric, the binders and the tasks of calls to the notes. -/
theorem Follows.next (hP : Follows o setup.binders P) (hkeep : setup.binders.KeepsChannels)
    {w : World ι τ β} (hw : w.HasChannels) {g : γ} (hv : P w.system.bindersView w.task g)
    {m : Move ι} (hm : ∀ i b, m = .drop i → w.task i ≠ .detaching b) :
  P (w.next setup m).system.bindersView (w.next setup m).task (w.note o g m)
  := by
  -- a call that is dropped changes nothing but its task
  have hdrop : ∀ i call s, w.calls[i]? = some call → m = .drop i →
      s.bindersView = w.system.bindersView →
        P s.bindersView (task ⟨s, w.calls.set i .finished, w.history⟩) g := by
    intro i call s hi hmi hs
    rw [hs, task_set w s .finished w.history hi]
    apply hP.drop i hv fun b => hm i b hmi
  cases m with
  | call request =>
    simp only [World.next, note]
    split
    · rename_i hrequest
      obtain ⟨hchanges, -⟩ := request.changes_begin setup.keepsChannels_still w.system hrequest
      rw [task_append]
      apply hP.changes hchanges hv
      rw [task, call_length]
      rfl
    · apply hv
  | advance i =>
    cases hi : w.calls[i]? with
    | none =>
      have hidle : w.task i = .idle := by
        rw [task, call, hi]
        rfl
      rw [note_advance_of_ne w g (by simp [hidle])]
      simp only [World.next, hi]
      apply hv
    | some call =>
      have hstep := hP.step hkeep hw hv hi
      simp only [World.next, hi]
      rw [task_set w _ _ _ hi]
      apply hstep
  | drop i =>
    simp only [World.next, note]
    split
    · rename_i r hi
      apply hdrop i _ _ hi rfl
      unfold Resolution.abandon
      split <;> rfl
    · rename_i bind hi
      apply hdrop i _ _ hi rfl rfl
    · rename_i bind hi
      apply hdrop i _ _ hi rfl rfl
    · rename_i call hi
      apply hdrop i _ _ hi rfl rfl
    · apply hv
  | act a => apply hP.act a hv
  | register name c => apply hv
  | addBindable bindable => apply hv
  | start =>
    simp only [World.next, System.startLifecycle, note]
    split
    · apply hv
    · have hemit := hP.changes (i := 0)
        (.single (.emit _ _ _ (.lifecycleStarted w.system.lifecycle.bindables.length))) hv rfl
      rw [Function.update_eq_self] at hemit
      apply hemit

/-- What ties the fabric, the binders and the tasks of calls to the notes does so after any moves. -/
theorem Follows.run (hP : Follows o setup.binders P) (hkeep : setup.binders.KeepsChannels)
    {w : World ι τ β} (hw : w.HasChannels) {g : γ} (hv : P w.system.bindersView w.task g)
    {moves : List (Move ι)} (hmoves : w.IsOrderly setup moves) :
  P (w.run setup moves).system.bindersView (w.run setup moves).task (w.notes o setup g moves)
  := by
  induction moves generalizing w g with
  | nil => apply hv
  | cons m moves ih =>
    apply ih (hw.next hkeep m).1 _ hmoves.2
    apply hP.next hkeep hw hv hmoves.1

/-! ## Invariants -/

/-- What the fabric and the tasks of calls keep through every act, every change, and the drop of a
call that is not in the middle of a release. -/
structure Keeps (binders : Binders ι τ β) (P : Fabric × τ → (Nat → Task β) → Prop) : Prop where
  act : ∀ {f t k} (a : Act), P (f, t) k → P (f.act a, t) k
  change : ∀ {v k i v' x}, P v k → Change binders (v, k i) (v', x) → P v' (Function.update k i x)
  drop : ∀ {v k} (i : Nat), P v k → (∀ b, k i ≠ .detaching b) → P v (Function.update k i .idle)

/-- An invariant ties the fabric and the tasks of calls to no notes at all. -/
theorem Keeps.follows {binders : Binders ι τ β} {P : Fabric × τ → (Nat → Task β) → Prop}
    (hP : Keeps binders P) :
  Follows ⟨fun _ _ => id, fun _ _ => id⟩ binders fun v k (_ : Unit) => P v k
  where
    act := hP.act
    bind hv hi := by
      apply hP.change hv
      rw [hi]
      apply Change.attach
    change := by
      intro v k g i v' x hv hchange
      rcases hchange.of_still with hsame | hchange
      · cases hsame
        rw [Function.update_eq_self]
        apply hv
      · apply hP.change hv hchange
    drop := hP.drop

/-- What acts, changes and drops keep holds in every world that can be reached. -/
theorem Keeps.run {P : Fabric × τ → (Nat → Task β) → Prop} (hP : Keeps setup.binders P)
    (hkeep : setup.binders.KeepsChannels) {w : World ι τ β} (hw : w.HasChannels)
    (hv : P w.system.bindersView w.task) {moves : List (Move ι)}
    (hmoves : w.IsOrderly setup moves) :
  P (w.run setup moves).system.bindersView (w.run setup moves).task
  := hP.follows.run (g := ()) hkeep hw hv hmoves

/-! ## What does not depend on tasks -/

/-- What the fabric and the binders keep through every act and every change, whatever calls are in the
middle of. -/
structure Retains (binders : Binders ι τ β) (P : Fabric × τ → Prop) : Prop where
  act : ∀ {f t} (a : Act), P (f, t) → P (f.act a, t)
  change : ∀ {v x v' x'}, P v → Change binders (v, x) (v', x') → P v'

/-- A call that is dropped leaves the fabric and the binders alone. -/
theorem bindersView_drop (w : World ι τ β) (i : Nat) :
  (w.next setup (.drop i)).system.bindersView = w.system.bindersView
  := by
  simp only [World.next]
  split
  · unfold Resolution.abandon
    split <;> rfl
  all_goals rfl

/-- What acts and changes keep holds in every world that can be reached, whatever calls are dropped. -/
theorem Retains.run {P : Fabric × τ → Prop} (hP : Retains setup.binders P)
    (hkeep : setup.binders.KeepsChannels) {w : World ι τ β} (hw : w.HasChannels)
    (hv : P w.system.bindersView) (moves : List (Move ι)) :
  P (w.run setup moves).system.bindersView
  := by
  have hkeeps : Keeps setup.binders fun v _ => P v :=
    ⟨hP.act, fun hv hchange => hP.change hv hchange, fun _ hv _ => hv⟩
  have hrun : (w.run setup moves).HasChannels ∧ P (w.run setup moves).system.bindersView := by
    refine run_induction (P := fun w => w.HasChannels ∧ P w.system.bindersView) ⟨hw, hv⟩ ?_ moves
    rintro w m ⟨hw, hv⟩
    use (hw.next hkeep m).1
    by_cases hdrop : ∃ i, m = .drop i
    · obtain ⟨i, rfl⟩ := hdrop
      rw [bindersView_drop]
      apply hv
    · apply hkeeps.follows.next (g := ()) hkeep hw hv
      rintro i b rfl
      apply absurd ⟨i, rfl⟩ hdrop
  apply hrun.2

end World

end ChannelBinding
