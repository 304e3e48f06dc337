import ChannelBinding.Proofs.Holders
import Mathlib.Data.List.Induction
import Mathlib.Data.List.Nodup
import Mathlib.Tactic.Use

/-!
# Cells that are left over

A cell that is not filled and that nobody holds any more was let go of by some last call.  If this call
was dropped, the cell keeps its name; otherwise it has lost it.  Calls that are dropped may therefore
leave cells behind on which everybody has failed, and such a cell stays until the name is asked for
again.
-/

namespace ChannelBinding

variable {ι τ β : Type}

/-! ## Effects on one cell -/

namespace Cache

variable {c : Cache} {id : CellId}

/-- Whether a cell is there and is not filled. -/
def IsOpen (c : Cache) (id : CellId) : Prop := ∃ cell, c.cell? id = some cell ∧ cell.value = none

/-- Whether a cell is found under a name. -/
def IsNamed (c : Cache) (id : CellId) : Prop := ∃ name, c.entries.get? name = some id

/-- A cell that is not filled after a change was not filled before, if the change empties none. -/
theorem IsOpen.of_modify {id' : CellId} {f : Cell → Cell} (h : (c.modify id' f).IsOpen id)
    (hf : ∀ cell, (f cell).value = none → cell.value = none) :
  c.IsOpen id
  := by
  obtain ⟨cell', hcell', hv⟩ := h
  rcases cell_of_modify hcell' with ⟨-, cell, hcell, rfl⟩ | ⟨-, hcell⟩
  · exact ⟨cell, hcell, hf cell hv⟩
  · exact ⟨cell', hcell, hv⟩

theorem IsOpen.of_claim {id' : CellId} {t : Ticket} (h : (c.claim id' t).1.IsOpen id) :
  c.IsOpen id
  := by
  rw [claim_fst] at h
  apply h.of_modify
  intro cell hv
  rwa [Cell.value_claim] at hv

theorem IsOpen.of_giveUp {id' : CellId} {t : Ticket} (h : (c.giveUp id' t).IsOpen id) :
  c.IsOpen id
  := by
  apply h.of_modify
  intro cell hv
  rwa [Cell.value_giveUp] at hv

theorem IsOpen.of_letGo {id' : CellId} {t : Ticket} (h : (c.letGo id' t).IsOpen id) :
  c.IsOpen id
  := h.of_modify fun _ hv => hv

theorem IsOpen.of_forget {name : String} {id' : CellId} {t : Ticket}
    (h : (c.forget name id' t).IsOpen id) :
  c.IsOpen id
  := by
  unfold forget at h
  dsimp only at h
  split at h
  · have hlet : (c.letGo id' t).IsOpen id := h
    apply hlet.of_letGo
  · apply IsOpen.of_letGo h

/-- A cell that is open after a call has entered was open before, or is the one that the call holds. -/
theorem IsOpen.of_enter {name : String} (h : (c.enter name).1.IsOpen id) :
  c.IsOpen id ∨ (c.enter name).2.1 = id
  := by
  cases hentry : c.entries.get? name with
  | some id' =>
    rw [enter_of_entry hentry] at h
    have hmodify : (c.modify id' (·.hold ⟨c.issued⟩)).IsOpen id := h
    exact Or.inl (hmodify.of_modify fun _ hv => hv)
  | none =>
    rw [enter_of_no_entry hentry, enter_of_entry (c.entry_addCell name)] at h ⊢
    have hmodify : ((c.addCell name).modify ⟨c.cells.size⟩ (·.hold ⟨c.issued⟩)).IsOpen id := h
    obtain ⟨cell, hcell, hv⟩ := hmodify.of_modify fun _ hv => hv
    rw [cell?_addCell] at hcell
    split at hcell
    · rename_i hid
      exact Or.inr hid.symm
    · exact Or.inl ⟨cell, hcell, hv⟩

/-- A call that enters finds the cell of its name, or names a new one. -/
theorem isNamed_enter (h : c.IsOpen id) (name : String) :
  (c.enter name).1.IsNamed id ↔ c.IsNamed id
  := by
  cases hentry : c.entries.get? name with
  | some id' =>
    rw [enter_of_entry hentry]
    rfl
  | none =>
    have hnew : id ≠ ⟨c.cells.size⟩ := by
      rintro rfl
      obtain ⟨cell, hcell, -⟩ := h
      simp [cell?] at hcell
    rw [enter_of_no_entry hentry, enter_of_entry (c.entry_addCell name)]
    change (∃ name', (c.entries.insert name ⟨c.cells.size⟩).get? name' = some id) ↔ c.IsNamed id
    constructor
    · rintro ⟨name', hname'⟩
      rw [Table.get?_insert] at hname'
      split at hname'
      · cases hname'
        exact absurd rfl hnew
      · exact ⟨name', hname'⟩
    · rintro ⟨name', hname'⟩
      use name'
      rw [Table.get?_insert_of_ne, hname']
      rintro rfl
      rw [hentry] at hname'
      cases hname'

/-- A call that forgets its cell takes the name of no other. -/
theorem isNamed_forget {id' : CellId} (hne : id' ≠ id) (name : String) (t : Ticket) :
  (c.forget name id' t).IsNamed id ↔ c.IsNamed id
  := by
  unfold forget
  dsimp only
  split
  · rename_i hu
    simp only [unused, Bool.and_eq_true, decide_eq_true_eq] at hu
    constructor
    · rintro ⟨name', hname'⟩
      have hname'' : (c.entries.erase name).get? name' = some id := hname'
      rw [Table.get?_erase] at hname''
      split at hname''
      · cases hname''
      · exact ⟨name', hname''⟩
    · rintro ⟨name', hname'⟩
      use name'
      change (c.entries.erase name).get? name' = some id
      rw [Table.get?_erase_of_ne, hname']
      rintro rfl
      rw [hu.1] at hname'
      cases hname'
      exact hne rfl
  · rfl

/-- A cell that is forgotten by the one call that holds it loses its name. -/
theorem not_isNamed_forget {stake : Nat → Stake} (hs : c.Sound stake) {i : Nat} {h : Hold}
    (hi : (stake i).hold = some h) {cell : Cell} (hcell : c.cell? h.cell = some cell)
    (hv : cell.value = none) (hheld : cell.holders = [h.ticket]) :
  ¬ (c.forget h.name h.cell h.ticket).IsNamed h.cell
  := by
  have hentry := hs.entry_of_hold hi
  have hu : c.unused h.name h.cell h.ticket = true := by
    simp [unused, hentry, hcell, hv, hheld]
  unfold forget
  rw [if_pos hu]
  rintro ⟨name, hname⟩
  have hname' : (c.entries.erase h.name).get? name = some h.cell := hname
  by_cases heq : h.name = name
  · subst heq
    rw [Table.get?_erase_self] at hname'
    cases hname'
  · rw [Table.get?_erase_of_ne _ heq] at hname'
    exact heq (hs.entry_inj hentry hname')

/-- A cell that the last call that holds it leaves open without being dropped loses its name. -/
theorem Departs.not_isNamed {c' : Cache} {stake : Nat → Stake} {i : Nat} {h : Hold}
    (hd : c.Departs h c') (hs : c.Sound stake) (hc : c.Census stake)
    (hi : (stake i).hold = some h)
    (hsole : ∀ {j h'}, (stake j).hold = some h' → h'.cell = h.cell → j = i)
    (ho : c'.IsOpen h.cell) :
  ¬ c'.IsNamed h.cell
  := by
  obtain ⟨cell, hcell, hmem⟩ := hs.holds hi
  cases hd with
  | found hv =>
    obtain ⟨cell', hcell', hnone⟩ := ho.of_letGo.of_claim
    rw [hcell] at hcell'
    cases hcell'
    rw [claim_eq c h.ticket hcell] at hv
    rw [Cell.of_claim_filled hv] at hnone
    cases hnone
  | filled v =>
    obtain ⟨cell', hcell', hnone⟩ := ho
    rw [fill, cell?_modify, if_pos rfl, hcell] at hcell'
    cases hcell'
    cases hnone
  | forgot =>
    obtain ⟨cell', hcell', hv⟩ := ho.of_forget
    rw [hcell] at hcell'
    cases hcell'
    have hheld : cell.holders = [h.ticket] := by
      apply List.perm_singleton.mp
      apply (List.perm_ext_iff_of_nodup (hc.nodup hcell) (List.nodup_singleton _)).mpr
      intro t
      rw [List.mem_singleton]
      constructor
      · intro ht
        obtain ⟨j, h', hj, hcell', rfl⟩ := hc.exists_hold hcell ht
        cases hsole hj hcell'
        rw [hi] at hj
        cases hj
        rfl
      · rintro rfl
        exact hmem
    apply not_isNamed_forget hs hi hcell hv hheld

end Cache

/-- A cell that is open after an effect was open before, or is held by the call that has entered. -/
theorem Effect.isOpen {B B' : Books} {k k' : Stake} {news : List Happening}
    (h : Effect B k B' k' news) {id : CellId} (ho : B'.cache.IsOpen id) :
  B.cache.IsOpen id ∨ ∃ x, k'.hold = some x ∧ x.cell = id
  := by
  cases h with
  | entered name =>
    rcases ho.of_enter with ho | hid
    · exact Or.inl ho
    · exact Or.inr ⟨_, rfl, hid⟩
  | queued name cell t hclaim => exact Or.inl ho.of_claim
  | permitted name cell t hclaim => exact Or.inl ho.of_claim
  | found name cell t v hclaim => exact Or.inl ho.of_letGo.of_claim
  | refused name cell t hclaim => exact Or.inl ho.of_giveUp.of_claim
  | failed name cell t => exact Or.inl ho.of_giveUp
  | established name cell t c b => exact Or.inl (ho.of_modify nofun)
  | forgot name cell t => exact Or.inl ho.of_forget
  | abandoned name cell t filling => exact Or.inl ho.of_letGo.of_giveUp
  | left name cell t => exact Or.inl ho.of_letGo
  | _ => exact Or.inl ho

/-- An effect of a call that does not hold an open cell leaves the cell its name, or without one. -/
theorem Effect.isNamed_iff {B B' : Books} {k k' : Stake} {news : List Happening}
    (h : Effect B k B' k' news) {id : CellId} (ho : B.cache.IsOpen id)
    (hk : ∀ x, k.hold = some x → x.cell ≠ id) :
  B'.cache.IsNamed id ↔ B.cache.IsNamed id
  := by
  cases h with
  | entered name => apply Cache.isNamed_enter ho
  | queued name cell t hclaim =>
    rw [Cache.claim_fst]
    rfl
  | permitted name cell t hclaim =>
    rw [Cache.claim_fst]
    rfl
  | found name cell t v hclaim =>
    rw [Cache.claim_fst]
    rfl
  | refused name cell t hclaim =>
    rw [Cache.claim_fst]
    rfl
  | forgot name cell t => apply Cache.isNamed_forget (hk ⟨name, cell, t, false⟩ rfl)
  | _ => rfl

/-- A call that holds a cell before and after an effect holds the same. -/
theorem Effect.cell_eq {B B' : Books} {k k' : Stake} {news : List Happening}
    (h : Effect B k B' k' news) {x x' : Hold} (hx : k.hold = some x) (hx' : k'.hold = some x') :
  x'.name = x.name ∧ x'.cell = x.cell
  := by
  cases h with
  | quiet | registered =>
    rw [hx] at hx'
    cases hx'
    exact ⟨rfl, rfl⟩
  | queued | permitted | refused | failed =>
    cases hx
    cases hx'
    exact ⟨rfl, rfl⟩
  | answered | entered | recorded | took | missed | unbinding | drained | listed => cases hx
  | found | established | forgot | abandoned | left => cases hx'

/-! ## Strays -/

/-- Whether some call holds a cell. -/
def Account.IsHeld (a : Account) (id : CellId) : Prop :=
  ∃ i h, (a.stake i).hold = some h ∧ h.cell = id

/-- Whether a cell is not filled and nobody holds it. -/
structure Account.IsStray (a : Account) (id : CellId) : Prop where
  isOpen : a.books.cache.IsOpen id
  not_isHeld : ¬ a.IsHeld id

/-- A stray that nobody held before a step was a stray before, with a name if it has one still. -/
theorem Account.Step.of_isStray {a a' : Account} (hstep : a.Step a') {id : CellId}
    (hid : a'.IsStray id) (hnot : ¬ a.IsHeld id) :
  a.IsStray id ∧ (a'.books.cache.IsNamed id ↔ a.books.cache.IsNamed id)
  := by
  obtain ⟨i, B, k, news, h⟩ := hstep
  have ho : a.books.cache.IsOpen id := by
    rcases h.isOpen hid.isOpen with ho | ⟨x, hx, hcell⟩
    · exact ho
    · apply absurd _ hid.not_isHeld
      refine ⟨i, x, ?_, hcell⟩
      rw [← hx]
      apply congrArg Stake.hold (Function.update_self ..)
  refine ⟨⟨ho, hnot⟩, h.isNamed_iff ho ?_⟩
  intro x hx hcell
  apply hnot ⟨i, x, hx, hcell⟩

namespace World

variable {w : World ι τ β} {id : CellId}

/-- A resolution that is dropped takes no names away. -/
theorem entries_abandon (s : System τ) (r : Resolution β) :
  (r.abandon s).cache.entries = s.cache.entries
  := by
  obtain ⟨name, stage⟩ := r
  cases stage <;> rfl

theorem entries_drop (setup : Setup ι τ β) (w : World ι τ β) (i : Nat) :
  (w.next setup (.drop i)).system.cache.entries = w.system.cache.entries
  := by
  simp only [next]
  split
  · apply entries_abandon
  all_goals rfl

/-- Calls that a move does not change hold what they held. -/
theorem isHeld_of_stake_eq {w' : World ι τ β} {i : Nat} {h : Hold} (hi : (w.stake i).hold = some h)
    (heq : w'.stake i = w.stake i) :
  w'.account.IsHeld h.cell
  := by
  refine ⟨i, h, ?_, rfl⟩
  change (w'.stake i).hold = some h
  rw [heq, hi]

/-- A call whose step leaves nobody who holds its cell has let go of the cell. -/
theorem departs_of_advance (setup : Setup ι τ β) (htidy : w.IsTidy) {i j : Nat} {h : Hold}
    (hj : (w.stake j).hold = some h) (hnot : ¬ (w.next setup (.advance i)).account.IsHeld h.cell) :
  i = j ∧ w.system.cache.Departs h (w.next setup (.advance i)).system.cache
  := by
  by_cases hji : j = i
  · subst hji
    have hcall : ((w.next setup (.advance j)).stake j).hold
        = ((w.call j).step setup w.system).2.1.stake.hold := by
      rw [stake, call_advance, Function.update_self]
    have hend : ((w.call j).step setup w.system).2.1.stake.hold = none := by
      cases hafter : ((w.call j).step setup w.system).2.1.stake.hold with
      | none => rfl
      | some h' =>
        obtain ⟨heffect, -⟩ := Call.effect_step setup w.system (w.call j) (htidy.call j)
        apply absurd _ hnot
        exact ⟨j, h', hcall.trans hafter, (heffect.cell_eq hj hafter).2⟩
    rw [next_advance]
    exact ⟨rfl, Call.departs_step setup w.system (w.call j) hj hend⟩
  · apply absurd _ hnot
    apply isHeld_of_stake_eq hj
    rw [stake, call_advance, Function.update_of_ne hji, stake]

/-- The beginning of a call takes nobody's cell away. -/
theorem isHeld_call (setup : Setup ι τ β) (request : Request ι) (hheld : w.account.IsHeld id) :
  (w.next setup (.call request)).account.IsHeld id
  := by
  obtain ⟨j, h, hj, rfl⟩ := hheld
  apply isHeld_of_stake_eq hj
  simp only [next]
  split
  · simp only [stake_append]
    rw [Function.update_of_ne]
    rintro rfl
    have hnone : (w.stake w.calls.length).hold = none := by
      rw [stake, call_length]
      rfl
    have hj' : (w.stake w.calls.length).hold = some h := hj
    rw [hnone] at hj'
    cases hj'
  · rfl

/-- The move by which a stray was let go of has left it a name exactly if it dropped a call. -/
theorem isNamed_iff_of_release (setup : Setup ι τ β) (hw : w.account.Counted) (htidy : w.IsTidy)
    {m : Move ι} (hheld : w.account.IsHeld id) (hid : (w.next setup m).account.IsStray id) :
  (w.next setup m).system.cache.IsNamed id ↔ ∃ i, m = .drop i
  := by
  cases m with
  | drop i =>
    obtain ⟨j, h, hj, rfl⟩ := hheld
    constructor
    · intro _
      exact ⟨i, rfl⟩
    · intro _
      use h.name
      rw [entries_drop]
      apply hw.agrees.sound.entry_of_hold hj
  | advance i =>
    obtain ⟨j, h, hj, rfl⟩ := hheld
    constructor
    · intro hnamed
      apply absurd hnamed
      obtain ⟨rfl, hdeparts⟩ := departs_of_advance setup htidy hj hid.not_isHeld
      apply hdeparts.not_isNamed hw.agrees.sound hw.census hj _ hid.isOpen
      intro j' h' hj' hcell
      -- whoever held the cell has let go of it in this one step
      obtain ⟨heq, -⟩ := departs_of_advance setup htidy hj' (hcell ▸ hid.not_isHeld)
      exact heq.symm
    · rintro ⟨i', ⟨⟩⟩
  | call request => exact absurd (isHeld_call setup request hheld) hid.not_isHeld
  | _ => exact absurd hheld hid.not_isHeld

/-- Whether a cell was let go of for good by a certain move: some call held it just before, and no call
has held it since. -/
structure IsReleased (setup : Setup ι τ β) (w : World ι τ β) (id : CellId) (before : List (Move ι))
    (m : Move ι) (after : List (Move ι)) : Prop where
  isHeld : (w.run setup before).account.IsHeld id
  not_isHeld : ∀ further, further <+: after →
    ¬ (w.run setup (before ++ m :: further)).account.IsHeld id

/-- A stray is one that some move has let go of for good; it has a name exactly if the move dropped a
call. -/
theorem stray_is_named_iff_dropped (setup : Setup ι τ β) (fabric : Fabric) (binders : τ)
    (names : List String) (moves : List (Move ι)) {id : CellId}
    (hid : ((fetching fabric binders names).run setup moves : World ι τ β).account.IsStray id) :
  ∃ before m after, moves = before ++ m :: after
    ∧ IsReleased setup (fetching fabric binders names) id before m after
    ∧ (((fetching fabric binders names).run setup moves).system.cache.IsNamed id ↔ ∃ i, m = .drop i)
  := by
  induction moves using List.reverseRecOn with
  | nil =>
    obtain ⟨cell, hcell, -⟩ := hid.isOpen
    cases hcell
  | append_singleton moves m ih =>
    obtain ⟨hw, htidy⟩ := counted_run setup fabric binders names moves
    have hnext : (fetching fabric binders names).run setup (moves ++ [m])
        = ((fetching fabric binders names).run setup moves).next setup m := run_append _ _ _ _
    rw [hnext] at hid ⊢
    by_cases hheld : ((fetching fabric binders names).run setup moves).account.IsHeld id
    · -- this move has let go of the cell
      refine ⟨moves, m, [], rfl, ⟨hheld, ?_⟩, isNamed_iff_of_release setup hw htidy hheld hid⟩
      intro further hfurther
      rw [List.prefix_nil.mp hfurther, hnext]
      exact hid.not_isHeld
    · -- an earlier one has
      obtain ⟨hstep, -⟩ := step_account setup htidy m
      obtain ⟨hstray, hnamed⟩ := hstep.of_isStray hid hheld
      obtain ⟨before, m', after, rfl, hreleased, hiff⟩ := ih hstray
      refine ⟨before, m', after ++ [m], by simp, ⟨hreleased.isHeld, ?_⟩, hnamed.trans hiff⟩
      intro further hfurther
      rcases List.prefix_concat_iff.mp hfurther with rfl | hfurther
      · have hall : before ++ m' :: (after ++ [m]) = (before ++ m' :: after) ++ [m] := by
          simp
        rw [hall, hnext]
        exact hid.not_isHeld
      · apply hreleased.not_isHeld further hfurther

/-- Two calls for one name, the second of which is dropped while it waits, after the first one has
failed. -/
def dropWaiting : List (Move BinderId) :=
  List.replicate 5 (.advance 0) ++ List.replicate 2 (.advance 1) ++ List.replicate 3 (.advance 0)
    ++ [.drop 1]

/-- The cell that both calls have let go of is not filled. -/
theorem isStray_dropWaiting :
  ((fetching {} refusing ["orders", "orders"]).run soleBinder dropWaiting).account.IsStray ⟨0⟩
  := by
  have hcalls : ((fetching {} refusing ["orders", "orders"]).run soleBinder dropWaiting).calls
      = [.finished, .finished] := rfl
  constructor
  · exact ⟨{}, rfl, rfl⟩
  · rintro ⟨i, h, hi, -⟩
    have hcall : ((fetching {} refusing ["orders", "orders"]).run soleBinder dropWaiting).call i
        = .finished := by
      rw [call, hcalls]
      rcases i with _ | _ | i <;> rfl
    change (Call.stake (call _ i)).hold = some h at hi
    rw [hcall] at hi
    cases hi

/-- The cell has kept its name because the last call that held it was dropped. -/
theorem stray_of_dropWaiting_is_named_iff_dropped :
  ∃ before m after, dropWaiting = before ++ m :: after
    ∧ IsReleased soleBinder (fetching {} refusing ["orders", "orders"]) ⟨0⟩ before m after
    ∧ (((fetching {} refusing ["orders", "orders"]).run soleBinder dropWaiting).system.cache.IsNamed ⟨0⟩
      ↔ ∃ i, m = .drop i)
  := stray_is_named_iff_dropped soleBinder {} refusing ["orders", "orders"] dropWaiting
    isStray_dropWaiting

/-- Whether a call has failed to fill a cell in the course of some moves. -/
def HasFailed (setup : Setup ι τ β) (w : World ι τ β) (moves : List (Move ι)) (id : CellId) : Prop :=
  ∃ before after i name t e, moves = before ++ after
    ∧ (w.run setup before).call i = .resolving ⟨name, .forgetting id t e⟩

/-- A cell may be found under its name though a call has failed to fill it and no call is under way. -/
theorem dropped_call_leaves_failed_cell :
  let w := (fetching {} refusing ["orders", "orders"]).run soleBinder dropWaiting
  HasFailed soleBinder (fetching {} refusing ["orders", "orders"]) dropWaiting ⟨0⟩
    ∧ w.calls = [.finished, .finished] ∧ w.account.IsStray ⟨0⟩
    ∧ w.system.cache.entries.get? "orders" = some ⟨0⟩
  := by
  refine ⟨?_, rfl, isStray_dropWaiting, by decide +kernel⟩
  exact ⟨dropWaiting.take 9, dropWaiting.drop 9, 0, "orders", ⟨0⟩, _, rfl, rfl⟩

end World

end ChannelBinding
