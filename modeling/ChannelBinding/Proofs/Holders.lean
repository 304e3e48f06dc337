import ChannelBinding.Binder.Family
import ChannelBinding.Proofs.Agreement

/-!
# The holders of cells

Which calls a cell counts among its holders, and which calls hold it, is the same.  Therefore a cell is
taken from its name only by the last call that holds it, and a filled one never.  A call that runs to
its end leaves its cell filled, held by others or without a name; only where calls are dropped may a
cell be left that is neither filled nor held, and keep its name.
-/

namespace ChannelBinding

variable {ι τ β : Type}

namespace Cache

variable {c c' : Cache} {stake : Nat → Stake} {name : String} {id : CellId} {v : Resolved}

/-! ## Changes of one cell -/

/-- A cell after a change of one. -/
theorem cell_of_modify {id' : CellId} {f : Cell → Cell} {cell' : Cell}
    (h : (c.modify id f).cell? id' = some cell') :
  (id = id' ∧ ∃ cell, c.cell? id' = some cell ∧ f cell = cell')
    ∨ (id ≠ id' ∧ c.cell? id' = some cell')
  := by
  rw [cell?_modify] at h
  split at h
  · rename_i hid
    exact Or.inl ⟨hid, Option.map_eq_some_iff.mp h⟩
  · rename_i hid
    exact Or.inr ⟨hid, h⟩

/-- What a change does to other cells than the one that is there makes no difference. -/
theorem modify_congr {f g : Cell → Cell} (h : ∀ cell, c.cell? id = some cell → f cell = g cell) :
  c.modify id f = c.modify id g
  := by
  have hcells : c.cells.modify id.index f = c.cells.modify id.index g := by
    apply Array.ext_getElem?
    intro i
    rw [Array.getElem?_modify, Array.getElem?_modify]
    split
    · rename_i hi
      subst hi
      cases hcell : c.cells[id.index]? with
      | none => rfl
      | some cell => exact congrArg some (h cell hcell)
    · rfl
  rw [modify, modify, hcells]

/-- To change nothing about a cell is to change nothing. -/
theorem modify_self (c : Cache) (id : CellId) :
  c.modify id (fun cell => cell) = c
  := by
  have hcells : c.cells.modify id.index (fun cell => cell) = c.cells := by
    apply Array.ext_getElem?
    intro i
    rw [Array.getElem?_modify]
    split
    · apply Option.map_id'
    · rfl
  rw [modify, hcells]

/-- To ask a cell for its permit is to change it. -/
theorem claim_fst (c : Cache) (id : CellId) (t : Ticket) :
  (c.claim id t).1 = c.modify id fun cell => (cell.claim t).1
  := by
  cases hcell : c.cell? id with
  | none =>
    have hself : (c.modify id fun cell => (cell.claim t).1) = c.modify id fun cell => cell := by
      apply modify_congr
      intro cell hcell'
      rw [hcell] at hcell'
      cases hcell'
    rw [claim, hcell, hself, modify_self]
  | some cell =>
    rw [claim_eq c t hcell]
    apply modify_congr
    intro cell' hcell'
    rw [hcell] at hcell'
    cases hcell'
    rfl

/-! ## The census -/

/-- The holders that cells count are calls that hold them, and are counted once. -/
structure Census (c : Cache) (stake : Nat → Stake) : Prop where
  nodup : ∀ {id cell}, c.cell? id = some cell → cell.holders.Nodup
  exists_hold : ∀ {id cell t}, c.cell? id = some cell → t ∈ cell.holders →
    ∃ i h, (stake i).hold = some h ∧ h.cell = id ∧ h.ticket = t

theorem census_empty :
  ({} : Cache).Census fun _ => {}
  := by
  constructor <;> simp [cell?]

/-- A call that changes the cell that it holds keeps the census if the cell counts nobody new, and the
call itself only while the call holds on to the cell. -/
theorem Census.modify (hc : c.Census stake) {i : Nat} {h : Hold} (hi : (stake i).hold = some h)
    (f : Cell → Cell) (k : Stake)
    (hnodup : ∀ cell, cell.holders.Nodup → (f cell).holders.Nodup)
    (hholders : ∀ cell t, cell.holders.Nodup → t ∈ (f cell).holders → t ∈ cell.holders
      ∧ (t = h.ticket → ∃ h', k.hold = some h' ∧ h'.cell = h.cell ∧ h'.ticket = h.ticket)) :
  (c.modify h.cell f).Census (Function.update stake i k)
  := by
  constructor
  · intro id cell' hcell'
    rcases cell_of_modify hcell' with ⟨-, cell, hcell, rfl⟩ | ⟨-, hcell⟩
    · apply hnodup cell (hc.nodup hcell)
    · apply hc.nodup hcell
  · intro id cell' t hcell' ht
    rcases cell_of_modify hcell' with ⟨hid, cell, hcell, rfl⟩ | ⟨hid, hcell⟩
    · obtain ⟨ht, hown⟩ := hholders cell t (hc.nodup hcell) ht
      obtain ⟨j, h', hj, hcell', ht'⟩ := hc.exists_hold hcell ht
      by_cases hji : j = i
      · subst hji
        rw [hi] at hj
        cases hj
        obtain ⟨h', hk, hcell'', ht''⟩ := hown ht'.symm
        refine ⟨j, h', ?_, hcell''.trans hid, ht''.trans ht'⟩
        rw [Function.update_self, hk]
      · refine ⟨j, h', ?_, hcell', ht'⟩
        rw [Function.update_of_ne hji, hj]
    · obtain ⟨j, h', hj, hcell', ht'⟩ := hc.exists_hold hcell ht
      refine ⟨j, h', ?_, hcell', ht'⟩
      rw [Function.update_of_ne, hj]
      rintro rfl
      rw [hi] at hj
      cases hj
      apply hid hcell'

/-- A call that changes anything but the holders of the cell that it holds, and holds on to it, keeps
the census. -/
theorem Census.modify_of_holders (hc : c.Census stake) {i : Nat} {h : Hold}
    (hi : (stake i).hold = some h) (f : Cell → Cell) (hf : ∀ cell, (f cell).holders = cell.holders)
    (filling : Bool) :
  (c.modify h.cell f).Census (Function.update stake i { hold := some { h with filling } })
  := by
  apply hc.modify hi
  · intro cell hnodup
    rw [hf]
    apply hnodup
  · intro cell t _ ht
    rw [hf] at ht
    exact ⟨ht, fun _ => ⟨_, rfl, rfl, rfl⟩⟩

theorem Census.claim (hc : c.Census stake) {i : Nat} {h : Hold} (hi : (stake i).hold = some h)
    (filling : Bool) :
  (c.claim h.cell h.ticket).1.Census (Function.update stake i { hold := some { h with filling } })
  := by
  rw [claim_fst]
  apply hc.modify_of_holders hi
  intro cell
  apply Cell.holders_claim

theorem Census.giveUp (hc : c.Census stake) {i : Nat} {h : Hold} (hi : (stake i).hold = some h) :
  (c.giveUp h.cell h.ticket).Census
    (Function.update stake i { hold := some { h with filling := false } })
  := by
  apply hc.modify_of_holders hi
  intro cell
  apply Cell.holders_giveUp

/-- A call that lets go of its cell, whatever else it does to it, is not counted any more. -/
theorem Census.letGo_of (hc : c.Census stake) {i : Nat} {h : Hold} (hi : (stake i).hold = some h)
    (f : Cell → Cell) (hf : ∀ cell, (f cell).holders = cell.holders.erase h.ticket) :
  (c.modify h.cell f).Census (Function.update stake i {})
  := by
  apply hc.modify hi
  · intro cell hnodup
    rw [hf]
    apply hnodup.erase
  · intro cell t hnodup ht
    rw [hf] at ht
    obtain ⟨hne, ht⟩ := (hnodup.mem_erase_iff).mp ht
    exact ⟨ht, fun heq => absurd heq hne⟩

theorem Census.letGo (hc : c.Census stake) {i : Nat} {h : Hold} (hi : (stake i).hold = some h) :
  (c.letGo h.cell h.ticket).Census (Function.update stake i {})
  := hc.letGo_of hi _ fun _ => rfl

theorem Census.fill (hc : c.Census stake) {i : Nat} {h : Hold} (hi : (stake i).hold = some h)
    (v : Resolved) :
  (c.fill h.cell h.ticket v).Census (Function.update stake i {})
  := hc.letGo_of hi _ fun _ => rfl

theorem Census.forget (hc : c.Census stake) {i : Nat} {h : Hold} (hi : (stake i).hold = some h) :
  (c.forget h.name h.cell h.ticket).Census (Function.update stake i {})
  := by
  have hlet := hc.letGo hi
  unfold Cache.forget
  dsimp only
  split
  · exact ⟨hlet.nodup, hlet.exists_hold⟩
  · exact hlet

/-- A call that takes hold of a cell with a fresh ticket is counted. -/
theorem Census.hold (hc : c.Census stake) (hs : c.Sound stake) {i : Nat}
    (hi : (stake i).hold = none) :
  ({ c.modify id (·.hold ⟨c.issued⟩) with issued := c.issued + 1 } : Cache).Census
    (Function.update stake i { hold := some ⟨name, id, ⟨c.issued⟩, false⟩ })
  := by
  have hkeep : ∀ {id' cell t}, c.cell? id' = some cell → t ∈ cell.holders →
      ∃ j h, (Function.update stake i { hold := some ⟨name, id, ⟨c.issued⟩, false⟩ } j).hold = some h
        ∧ h.cell = id' ∧ h.ticket = t := by
    intro id' cell t hcell ht
    obtain ⟨j, h, hj, hcell', ht'⟩ := hc.exists_hold hcell ht
    refine ⟨j, h, ?_, hcell', ht'⟩
    rw [Function.update_of_ne, hj]
    rintro rfl
    rw [hi] at hj
    cases hj
  constructor
  · intro id' cell' hcell'
    change (c.modify id (·.hold ⟨c.issued⟩)).cell? id' = some cell' at hcell'
    rcases cell_of_modify hcell' with ⟨-, cell, hcell, rfl⟩ | ⟨-, hcell⟩
    · apply List.nodup_cons.mpr
      constructor
      · -- the tickets of holders were issued before
        intro hmem
        obtain ⟨j, h, hj, -, ht⟩ := hc.exists_hold hcell hmem
        have hlt := hs.issued_of_hold hj
        rw [ht] at hlt
        exact Nat.lt_irrefl _ hlt
      · apply hc.nodup hcell
    · apply hc.nodup hcell
  · intro id' cell' t hcell' ht
    change (c.modify id (·.hold ⟨c.issued⟩)).cell? id' = some cell' at hcell'
    rcases cell_of_modify hcell' with ⟨hid, cell, hcell, rfl⟩ | ⟨-, hcell⟩
    · rcases List.mem_cons.mp ht with rfl | ht
      · exact ⟨i, _, by rw [Function.update_self], hid, rfl⟩
      · apply hkeep hcell ht
    · apply hkeep hcell ht

theorem Census.addCell (hc : c.Census stake) :
  (c.addCell name).Census stake
  := by
  constructor
  · intro id cell hcell
    rw [cell?_addCell] at hcell
    split at hcell
    · cases hcell
      apply List.nodup_nil
    · apply hc.nodup hcell
  · intro id cell t hcell ht
    rw [cell?_addCell] at hcell
    split at hcell
    · cases hcell
      cases ht
    · apply hc.exists_hold hcell ht

theorem Census.enter (hc : c.Census stake) (hs : c.Sound stake) {i : Nat}
    (hi : (stake i).hold = none) (name : String) :
  (c.enter name).1.Census (Function.update stake i
    { hold := some ⟨name, (c.enter name).2.1, (c.enter name).2.2, false⟩ })
  := by
  cases hentry : c.entries.get? name with
  | some id =>
    rw [enter_of_entry hentry]
    apply hc.hold hs hi
  | none =>
    rw [enter_of_no_entry hentry, enter_of_entry (c.entry_addCell name)]
    apply hc.addCell.hold (hs.addCell hentry) hi

/-- A call that holds on to what it holds keeps the census. -/
theorem Census.keep (hc : c.Census stake) (i : Nat) {k : Stake}
    (hk : ∀ h, (stake i).hold = some h → k.hold = some h) :
  c.Census (Function.update stake i k)
  := by
  constructor
  · exact hc.nodup
  · intro id cell t hcell ht
    obtain ⟨j, h, hj, hcell', ht'⟩ := hc.exists_hold hcell ht
    refine ⟨j, h, ?_, hcell', ht'⟩
    by_cases hji : j = i
    · subst hji
      rw [Function.update_self]
      apply hk h hj
    · rw [Function.update_of_ne hji]
      apply hj

/-! ## Filled cells -/

/-- Whether a cell is that of a name and is filled. -/
def IsFilled (c : Cache) (name : String) (id : CellId) (v : Resolved) : Prop :=
  c.entries.get? name = some id ∧ ∃ cell, c.cell? id = some cell ∧ cell.value = some v

theorem IsFilled.modify (hf : c.IsFilled name id v) (id' : CellId) (f : Cell → Cell)
    (h : ∀ cell, c.cell? id = some cell → id' = id → (f cell).value = cell.value) :
  (c.modify id' f).IsFilled name id v
  := by
  obtain ⟨hentry, cell, hcell, hv⟩ := hf
  refine ⟨hentry, ?_⟩
  rw [cell?_modify]
  split
  · rename_i hid
    rw [hcell]
    exact ⟨f cell, rfl, (h cell hcell hid).trans hv⟩
  · exact ⟨cell, hcell, hv⟩

theorem IsFilled.claim (hf : c.IsFilled name id v) (id' : CellId) (t : Ticket) :
  (c.claim id' t).1.IsFilled name id v
  := by
  rw [claim_fst]
  apply hf.modify
  intro cell _ _
  apply Cell.value_claim

theorem IsFilled.giveUp (hf : c.IsFilled name id v) (id' : CellId) (t : Ticket) :
  (c.giveUp id' t).IsFilled name id v
  := by
  apply hf.modify
  intro cell _ _
  apply Cell.value_giveUp

theorem IsFilled.letGo (hf : c.IsFilled name id v) (id' : CellId) (t : Ticket) :
  (c.letGo id' t).IsFilled name id v
  := by
  apply hf.modify
  intro cell _ _
  rfl

/-- A cell that a call may fill is not one that is filled. -/
theorem IsFilled.fill (hf : c.IsFilled name id v) (hs : c.Sound stake) {i : Nat} {h : Hold}
    (hi : (stake i).hold = some h) (hfilling : h.filling = true) (v' : Resolved) :
  (c.fill h.cell h.ticket v').IsFilled name id v
  := by
  apply hf.modify
  rintro cell hcell rfl
  obtain ⟨cell', hcell', hnone, -⟩ := hs.permit_of_filling hi hfilling
  obtain ⟨-, cell'', hcell'', hv⟩ := hf
  rw [hcell''] at hcell'
  cases hcell'
  rw [hnone] at hv
  cases hv

/-- A filled cell is not unused. -/
theorem IsFilled.forget (hf : c.IsFilled name id v) (name' : String) (id' : CellId) (t : Ticket) :
  (c.forget name' id' t).IsFilled name id v
  := by
  have hlet := hf.letGo id' t
  unfold Cache.forget
  dsimp only
  split
  · rename_i hu
    constructor
    · rw [Table.get?_erase_of_ne, hlet.1]
      rintro rfl
      obtain ⟨hentry, cell, hcell, hv⟩ := hf
      simp [unused, hentry] at hu
      obtain ⟨rfl, hu⟩ := hu
      simp [hcell, hv] at hu
    · exact hlet.2
  · exact hlet

theorem IsFilled.addCell (hf : c.IsFilled name id v) {name' : String}
    (hnone : c.entries.get? name' = none) :
  (c.addCell name').IsFilled name id v
  := by
  obtain ⟨hentry, cell, hcell, hv⟩ := hf
  constructor
  · rw [Cache.addCell, Table.get?_insert_of_ne _ _, hentry]
    rintro rfl
    rw [hnone] at hentry
    cases hentry
  · rw [cell?_addCell, if_neg]
    · exact ⟨cell, hcell, hv⟩
    · rintro rfl
      simp [cell?] at hcell

theorem IsFilled.enter (hf : c.IsFilled name id v) (name' : String) :
  (c.enter name').1.IsFilled name id v
  := by
  have hhold : ∀ {c : Cache} (id' : CellId), c.IsFilled name id v →
      ({ c.modify id' (·.hold ⟨c.issued⟩) with issued := c.issued + 1 } : Cache).IsFilled name id v :=
    fun id' hf => hf.modify id' _ fun _ _ _ => rfl
  cases hentry : c.entries.get? name' with
  | some id' =>
    rw [enter_of_entry hentry]
    apply hhold id' hf
  | none =>
    rw [enter_of_no_entry hentry, enter_of_entry (c.entry_addCell name')]
    apply hhold _ (hf.addCell hentry)

/-! ## Cells that nobody holds -/

/-- Whether every cell of a name that is not filled has holders. -/
def IsManned (c : Cache) : Prop :=
  ∀ name id cell, c.entries.get? name = some id → c.cell? id = some cell → cell.value = none →
    cell.holders ≠ []

theorem isManned_empty :
  ({} : Cache).IsManned
  := by
  intro name id cell hentry
  cases hentry

/-- A change of a cell leaves the cells manned if it is filled before and after, or keeps a holder. -/
theorem IsManned.modify (hm : c.IsManned) (f : Cell → Cell)
    (h : ∀ cell, c.cell? id = some cell → (f cell).value = none →
      cell.value = none ∧ (cell.holders ≠ [] → (f cell).holders ≠ [])) :
  (c.modify id f).IsManned
  := by
  intro name id' cell' hentry hcell' hv
  rcases cell_of_modify hcell' with ⟨rfl, cell, hcell, rfl⟩ | ⟨-, hcell⟩
  · obtain ⟨hv', hheld⟩ := h cell hcell hv
    apply hheld (hm name id cell hentry hcell hv')
  · apply hm name id' cell' hentry hcell hv

theorem IsManned.claim (hm : c.IsManned) (id : CellId) (t : Ticket) :
  (c.claim id t).1.IsManned
  := by
  rw [claim_fst]
  apply hm.modify
  intro cell _ hv
  rw [Cell.value_claim] at hv
  rw [Cell.holders_claim]
  exact ⟨hv, fun hheld => hheld⟩

theorem IsManned.giveUp (hm : c.IsManned) (id : CellId) (t : Ticket) :
  (c.giveUp id t).IsManned
  := by
  apply hm.modify
  intro cell _ hv
  rw [Cell.value_giveUp] at hv
  rw [Cell.holders_giveUp]
  exact ⟨hv, fun hheld => hheld⟩

theorem IsManned.enter (hm : c.IsManned) (name : String) :
  (c.enter name).1.IsManned
  := by
  cases hentry : c.entries.get? name with
  | some id =>
    rw [enter_of_entry hentry]
    intro name' id' cell' hentry' hcell' hv
    rcases cell_of_modify (f := (·.hold ⟨c.issued⟩)) hcell' with ⟨-, cell, -, rfl⟩ | ⟨-, hcell⟩
    · apply List.cons_ne_nil
    · apply hm name' id' cell' hentry' hcell hv
  | none =>
    rw [enter_of_no_entry hentry, enter_of_entry (c.entry_addCell name)]
    intro name' id' cell' hentry' hcell' hv
    rcases cell_of_modify (f := (·.hold ⟨c.issued⟩)) hcell' with ⟨-, cell, -, rfl⟩ | ⟨hid, hcell⟩
    · apply List.cons_ne_nil
    · rw [cell?_addCell, if_neg (Ne.symm hid)] at hcell
      apply hm name' id' cell' _ hcell hv
      change (c.entries.insert name ⟨c.cells.size⟩).get? name' = some id' at hentry'
      rw [Table.get?_insert] at hentry'
      split at hentry'
      · cases hentry'
        exact absurd rfl hid
      · exact hentry'

/-- How a call lets go of the cell that it holds, if it is not dropped: it has found the cell filled, it
fills it, or it forgets it. -/
inductive Departs (c : Cache) (h : Hold) : Cache → Prop where
  | found {v : Resolved} (hv : (c.claim h.cell h.ticket).2 = .filled v) :
    Departs c h ((c.claim h.cell h.ticket).1.letGo h.cell h.ticket)
  | filled (v : Resolved) :
    Departs c h (c.fill h.cell h.ticket v)
  | forgot :
    Departs c h (c.forget h.name h.cell h.ticket)

/-- Who forgets a cell that is not filled without taking its name away leaves other holders. -/
theorem holders_of_not_unused {t : Ticket} {cell : Cell} (hu : ¬ c.unused name id t = true)
    (hentry : c.entries.get? name = some id) (hcell : c.cell? id = some cell)
    (hv : cell.value = none) (ht : t ∈ cell.holders) :
  (cell.letGo t).holders ≠ []
  := by
  intro hnil
  apply hu
  have hperm := List.perm_cons_erase ht
  have hheld : cell.holders.erase t = [] := hnil
  rw [hheld] at hperm
  simp [unused, hentry, hcell, hv, List.perm_singleton.mp hperm]

/-- A call that lets go of its cell leaves the cells manned, unless it is dropped. -/
theorem Departs.isManned {i : Nat} {h : Hold} (hd : c.Departs h c') (hs : c.Sound stake)
    (hi : (stake i).hold = some h) (hm : c.IsManned) :
  c'.IsManned
  := by
  obtain ⟨cell, hcell, hmem⟩ := hs.holds hi
  cases hd with
  | @found v hv =>
    rw [claim_eq c h.ticket hcell] at hv
    apply (hm.claim h.cell h.ticket).modify
    intro cell' hcell' hnone
    rw [claim_fst, cell?_modify, if_pos rfl, hcell] at hcell'
    cases hcell'
    have hvalue : (cell.claim h.ticket).1.value = none := hnone
    rw [Cell.value_claim, Cell.of_claim_filled hv] at hvalue
    cases hvalue
  | filled v =>
    apply hm.modify
    intro cell' _ hnone
    cases hnone
  | forgot =>
    have hentry := hs.entry_of_hold hi
    unfold Cache.forget
    dsimp only
    split
    · intro name' id' cell' hentry' hcell' hv
      have hne : h.name ≠ name' := by
        rintro rfl
        rw [Table.get?_erase_self] at hentry'
        cases hentry'
      have hold : c.entries.get? name' = some id' := by
        rw [Table.get?_erase_of_ne _ hne] at hentry'
        exact hentry'
      have hcell'' : (c.letGo h.cell h.ticket).cell? id' = some cell' := hcell'
      rcases cell_of_modify hcell'' with ⟨hid, -⟩ | ⟨-, hcell'⟩
      · subst hid
        exact absurd (hs.entry_inj hentry hold) hne
      · apply hm name' id' cell' hold hcell' hv
    · rename_i hu
      apply hm.modify
      intro cell' hcell' hv
      rw [hcell] at hcell'
      cases hcell'
      exact ⟨hv, fun _ => holders_of_not_unused hu hentry hcell hv hmem⟩

end Cache

/-! ## Effects -/

/-- Every effect keeps the census. -/
theorem Effect.census {B B' : Books} {k k' : Stake} {news : List Happening}
    (h : Effect B k B' k' news) {stake : Nat → Stake} {i : Nat} (hi : stake i = k)
    (hs : B.cache.Sound stake) (hc : B.cache.Census stake) :
  B'.cache.Census (Function.update stake i k')
  := by
  cases h with
  | entered name =>
    apply hc.enter hs
    rw [hi]
  | queued name cell t hclaim =>
    apply hc.claim (h := ⟨name, cell, t, false⟩) (by rw [hi]) false
  | found name cell t v hclaim =>
    have hclaim := hc.claim (h := ⟨name, cell, t, false⟩) (by rw [hi]) false
    have hlet := hclaim.letGo (i := i) (by rw [Function.update_self])
    rw [Function.update_idem] at hlet
    apply hlet
  | permitted name cell t hclaim =>
    apply hc.claim (h := ⟨name, cell, t, false⟩) (by rw [hi]) true
  | refused name cell t hclaim =>
    have hclaim := hc.claim (h := ⟨name, cell, t, false⟩) (by rw [hi]) false
    have hgive := hclaim.giveUp (i := i) (by rw [Function.update_self])
    rw [Function.update_idem] at hgive
    apply hgive
  | failed name cell t => apply hc.giveUp (h := ⟨name, cell, t, true⟩) (by rw [hi])
  | established name cell t c b => apply hc.fill (h := ⟨name, cell, t, true⟩) (by rw [hi])
  | forgot name cell t => apply hc.forget (h := ⟨name, cell, t, false⟩) (by rw [hi])
  | abandoned name cell t filling =>
    have hgive := hc.giveUp (h := ⟨name, cell, t, filling⟩) (by rw [hi])
    have hlet := hgive.letGo (i := i) (by rw [Function.update_self])
    rw [Function.update_idem] at hlet
    apply hlet
  | left name cell t => apply hc.letGo (h := ⟨name, cell, t, false⟩) (by rw [hi])
  | _ =>
    apply hc.keep
    intro h hk
    rw [hi] at hk
    exact hk

/-- No effect takes a filled cell from its name, or fills it with something else. -/
theorem Effect.isFilled {B B' : Books} {k k' : Stake} {news : List Happening}
    (h : Effect B k B' k' news) {stake : Nat → Stake} {i : Nat} (hi : stake i = k)
    (hs : B.cache.Sound stake) {name : String} {id : CellId} {v : Resolved}
    (hf : B.cache.IsFilled name id v) :
  B'.cache.IsFilled name id v
  := by
  cases h with
  | entered name' => apply hf.enter
  | queued name' cell t hclaim => apply hf.claim
  | found name' cell t v' hclaim => apply (hf.claim cell t).letGo
  | permitted name' cell t hclaim => apply hf.claim
  | refused name' cell t hclaim => apply (hf.claim cell t).giveUp
  | failed name' cell t => apply hf.giveUp
  | established name' cell t c b =>
    apply hf.fill hs (i := i) (h := ⟨name', cell, t, true⟩) (by rw [hi]) rfl
  | forgot name' cell t => apply hf.forget
  | abandoned name' cell t filling => apply (hf.giveUp cell t).letGo
  | left name' cell t => apply hf.letGo
  | _ => exact hf

/-- An effect leaves the cells manned, if it is not one by which a call lets go of its cell. -/
theorem Effect.isManned {B B' : Books} {k k' : Stake} {news : List Happening}
    (h : Effect B k B' k' news) (hk : k.hold = none ∨ k'.hold ≠ none) (hm : B.cache.IsManned) :
  B'.cache.IsManned
  := by
  cases h with
  | entered name => apply hm.enter
  | queued name cell t hclaim => apply hm.claim
  | permitted name cell t hclaim => apply hm.claim
  | refused name cell t hclaim => apply (hm.claim cell t).giveUp
  | failed name cell t => apply hm.giveUp
  | found | established | forgot | abandoned | left => simp at hk
  | _ => exact hm

/-! ## Steps that let go -/

/-- A resolution whose bind has left it without a cell was handed a binding. -/
theorem Resolution.ok_of_proceed {r : Resolution β} {cell : CellId} {t : Ticket}
    {channel : ChannelId} {p : System τ × Progress (ProducerBind β) ProducerAnswer}
    (hend : (Call.after (ι := ι) .resolving (r.proceed cell t channel p).2).stake.hold = none) :
  ∃ s b, p = (s, .ended (.ok b))
  := by
  obtain ⟨s, p⟩ := p
  cases p with
  | running bind => cases hend
  | waiting bind pause => cases hend
  | ended answer =>
    cases answer with
    | ok b => exact ⟨s, b, rfl⟩
    | error e => cases hend

/-- A resolution that takes its last step with a cell lets go of it as one that is not dropped. -/
theorem Resolution.departs_step (setup : Setup ι τ β) (s : System τ) (r : Resolution β) {h : Hold}
    (hr : r.hold? = some h)
    (hend : (Call.after (ι := ι) .resolving (step setup s r).2).stake.hold = none) :
  s.cache.Departs h (step setup s r).1.cache
  := by
  obtain ⟨name, stage⟩ := r
  cases stage with
  | requested | readingFixed | readingCache | entering => cases hr
  | claiming cell t =>
    cases hr
    cases hclaim : s.cache.claim cell t with
    | mk cache claim =>
      cases claim with
      | filled v =>
        simp only [step, hclaim]
        have hfound := Cache.Departs.found (c := s.cache) (h := ⟨name, cell, t, false⟩) (v := v)
          (by rw [hclaim])
        rw [hclaim] at hfound
        apply hfound
      | queued =>
        simp only [step, hclaim] at hend
        cases hend
      | permitted =>
        simp only [step, hclaim] at hend
        obtain ⟨s', b, hbegin⟩ := ok_of_proceed hend
        obtain ⟨-, ⟨e, he⟩ | ⟨bind, -, hbind⟩⟩ := ProducerBind.begin_cases setup
          (announce setup { s with cache } name).1 name (announce setup { s with cache } name).2.1
          (announce setup { s with cache } name).2.2
        · rw [hbegin] at he
          cases he
        · rw [hbegin] at hbind
          cases hbind
  | binding cell t channel bind =>
    cases hr
    simp only [step] at hend ⊢
    obtain ⟨s', b, hstep⟩ := ok_of_proceed hend
    have hcache : s'.cache = s.cache := by
      rcases ProducerBind.step_cases setup s bind with ⟨bind', -, -, hbooks, -⟩ | ⟨b', -, hbooks, -⟩
        | ⟨e, -, hbooks, -⟩
      all_goals
        rw [hstep] at hbooks
        exact congrArg Books.cache hbooks
    rw [hstep]
    have hfilled := Cache.Departs.filled (c := s.cache) (h := ⟨name, cell, t, true⟩) ⟨channel, b⟩
    rw [← hcache] at hfilled ⊢
    apply hfilled
  | forgetting cell t e =>
    cases hr
    apply Cache.Departs.forgot

/-- A call that takes its last step with a cell lets go of it as one that is not dropped. -/
theorem Call.departs_step (setup : Setup ι τ β) (s : System τ) (call : Call ι β) {h : Hold}
    (hcall : call.stake.hold = some h) (hend : (call.step setup s).2.1.stake.hold = none) :
  s.cache.Departs h (call.step setup s).1.cache
  := by
  cases call with
  | resolving r => apply Resolution.departs_step setup s r hcall hend
  | stopping x =>
    match x with
    | .requested | .listing | .releasing _ none _ | .releasing _ (some _) _ => cases hcall
  | _ => cases hcall

/-! ## Worlds -/

namespace World

/-- A world in which calls have come to the cache for some names, and nothing has happened yet. -/
def fetching (fabric : Fabric) (binders : τ) (names : List String) : World ι τ β where
  system := { fabric, binders }
  calls := names.map fun name => .resolving { name, stage := .entering }

/-- Whether a call holds a cell for a name. -/
def Holds (w : World ι τ β) (i : Nat) (name : String) (id : CellId) : Prop :=
  ∃ h, (w.stake i).hold = some h ∧ h.name = name ∧ h.cell = id

end World

/-- An account that agrees with itself, also on who holds the cells. -/
structure Account.Counted (a : Account) : Prop where
  agrees : a.Agrees
  census : a.books.cache.Census a.stake

theorem Account.counted_empty :
  ({} : Account).Counted
  := ⟨agrees_empty, Cache.census_empty⟩

theorem Account.Step.counted {a a' : Account} (hstep : a.Step a') (ha : a.Counted) :
  a'.Counted
  := by
  refine ⟨hstep.agrees ha.agrees, ?_⟩
  obtain ⟨i, B, k, news, h⟩ := hstep
  apply h.census rfl ha.agrees.sound ha.census

namespace World

variable {w : World ι τ β}

theorem account_fetching (fabric : Fabric) (binders : τ) (names : List String) :
  (fetching fabric binders names : World ι τ β).account = {}
  := by
  have hstake : (fetching fabric binders names : World ι τ β).stake = fun _ => {} := by
    funext i
    simp only [stake, call, fetching, List.getElem?_map]
    cases names[i]? with
    | none => rfl
    | some name => rfl
  rw [account, hstake]
  rfl

theorem isTidy_fetching (fabric : Fabric) (binders : τ) (names : List String) :
  (fetching fabric binders names : World ι τ β).IsTidy
  := by
  intro r hr cell ticket channel bind hstage
  obtain ⟨name, -, hname⟩ := List.mem_map.mp hr
  cases hname
  cases hstage

/-- The account of every world that comes of calls for some names is in order. -/
theorem counted_run (setup : Setup ι τ β) (fabric : Fabric) (binders : τ) (names : List String)
    (moves : List (Move ι)) :
  let w := (fetching fabric binders names).run setup moves
  w.account.Counted ∧ w.IsTidy
  := by
  apply account_run_of_isTidy fun _ _ ha hstep => hstep.counted ha
  · rw [account_fetching]
    apply Account.counted_empty
  · apply isTidy_fetching

/-- In a tidy world every bind that a resolution has begun goes by its name, whichever call it is. -/
theorem IsTidy.call (hw : w.IsTidy) (i : Nat) :
  ∀ r, w.call i = .resolving r → r.IsTidy
  := fun r hr => hw r (List.mem_of_getElem? (getElem?_of_call hr (by simp)))

/-- A filled cell stays as it is under its name. -/
theorem isFilled_run (setup : Setup ι τ β) (hw : w.account.Counted) (htidy : w.IsTidy) {name : String}
    {id : CellId} {v : Resolved} (hf : w.system.cache.IsFilled name id v) (moves : List (Move ι)) :
  (w.run setup moves).system.cache.IsFilled name id v
  := by
  have hkept := account_run_of_isTidy
    (P := fun a => a.Counted ∧ a.books.cache.IsFilled name id v) ?_ setup ⟨hw, hf⟩ htidy moves
  · exact hkept.1.2
  · rintro a a' ⟨ha, hf⟩ hstep
    refine ⟨hstep.counted ha, ?_⟩
    obtain ⟨i, B, k, news, h⟩ := hstep
    apply h.isFilled rfl ha.agrees.sound hf

/-- A move by which no call is dropped leaves the cells manned. -/
theorem isManned_next (setup : Setup ι τ β) (hw : w.account.Counted) (htidy : w.IsTidy) {m : Move ι}
    (hdrop : ∀ i, m ≠ .drop i) (hm : w.system.cache.IsManned) :
  (w.next setup m).system.cache.IsManned
  := by
  cases m with
  | call request =>
    simp only [next]
    split
    · obtain ⟨heffect, -⟩ := Request.effect_begin setup w.system request
      apply heffect.isManned (Or.inl rfl) hm
    · apply hm
  | advance i =>
    rw [next_advance]
    obtain ⟨heffect, -⟩ := Call.effect_step setup w.system (w.call i) (htidy.call i)
    cases hhold : (w.call i).stake.hold with
    | none => apply heffect.isManned (Or.inl hhold) hm
    | some h =>
      by_cases hend : ((w.call i).step setup w.system).2.1.stake.hold = none
      · have hdeparts := Call.departs_step setup w.system (w.call i) hhold hend
        apply hdeparts.isManned hw.agrees.sound hhold hm
      · apply heffect.isManned (Or.inr hend) hm
  | drop i => exact absurd rfl (hdrop i)
  | start =>
    have hcache : w.system.startLifecycle.cache = w.system.cache :=
      congrArg Books.cache w.system.books_startLifecycle
    simp only [next, hcache]
    apply hm
  | _ => apply hm

/-- Without drops, the cells are manned in all worlds. -/
theorem isManned_run (setup : Setup ι τ β) (fabric : Fabric) (binders : τ) (names : List String)
    {moves : List (Move ι)} (hmoves : ∀ i, .drop i ∉ moves) :
  ((fetching fabric binders names).run setup moves : World ι τ β).system.cache.IsManned
  := by
  suffices hrun : ((fetching fabric binders names).run setup moves : World ι τ β).account.Counted
      ∧ ((fetching fabric binders names).run setup moves : World ι τ β).IsTidy
      ∧ ((fetching fabric binders names).run setup moves : World ι τ β).system.cache.IsManned from
    hrun.2.2
  apply run_induction_of_mem
    (P := fun w => w.account.Counted ∧ w.IsTidy ∧ w.system.cache.IsManned)
  · obtain ⟨hw, htidy⟩ := counted_run setup fabric binders names []
    exact ⟨hw, htidy, Cache.isManned_empty⟩
  · rintro w m hmem ⟨hw, htidy, hm⟩
    obtain ⟨hstep, htidy'⟩ := step_account setup htidy m
    refine ⟨hstep.counted hw, htidy', isManned_next setup hw htidy ?_ hm⟩
    rintro i rfl
    apply hmoves i hmem

/-! ## One cell a name -/

/-- Which cell a name has in a world, and what is left of it in a later one. -/
structure KeepsCells (w later : World ι τ β) : Prop where
  /-- The cell that a call holds for a name is the very cell that is found under the name. -/
  held : ∀ {i name id}, w.Holds i name id → w.system.cache.entries.get? name = some id
  /-- A filled cell is not taken from its name, and nothing else is put into it. -/
  kept : ∀ {name id v}, w.system.cache.IsFilled name id v → later.system.cache.IsFilled name id v

/-- Whether nothing is left in a world of what has failed. -/
structure LeavesNothing (w : World ι τ β) : Prop where
  /-- A cell that is not filled is held by a call. -/
  manned : ∀ {name id cell}, w.system.cache.entries.get? name = some id →
    w.system.cache.cell? id = some cell → cell.value = none → ∃ i, w.Holds i name id
  /-- When no call holds a cell, the names with a cell are those that were bound. -/
  keys_iff : (∀ i name id, ¬ w.Holds i name id) → ∀ name,
    name ∈ w.system.cache.entries.keys ↔ ∃ i c b, (i, .bound name c b) ∈ w.history
  /-- The names that were bound are those whose cells are filled. -/
  filled_iff : ∀ name, (∃ i c b, (i, .bound name c b) ∈ w.history) ↔
    ∃ id v, w.system.cache.IsFilled name id v

/-- A manned cell is held by a call. -/
theorem exists_holds (hw : w.account.Counted) (hm : w.system.cache.IsManned) {name : String}
    {id : CellId} {cell : Cell} (hentry : w.system.cache.entries.get? name = some id)
    (hcell : w.system.cache.cell? id = some cell) (hv : cell.value = none) :
  ∃ i, w.Holds i name id
  := by
  obtain ⟨t, ht⟩ := List.exists_mem_of_ne_nil _ (hm name id cell hentry hcell hv)
  obtain ⟨i, h, hi, rfl, rfl⟩ := hw.census.exists_hold hcell ht
  refine ⟨i, h, hi, ?_, rfl⟩
  apply hw.agrees.sound.entry_inj (hw.agrees.sound.entry_of_hold hi) hentry

/-- The names that were bound are those whose cells are filled. -/
theorem bound_iff (hw : w.account.Counted) (name : String) :
  (∃ i c b, (i, .bound name c b) ∈ w.history) ↔ ∃ id v, w.system.cache.IsFilled name id v
  := by
  constructor
  · rintro ⟨i, c, b, hmem⟩
    have hget : w.system.cache.get? name = some ⟨c, b⟩ := hw.agrees.cached_iff.mpr ⟨i, hmem⟩
    simp only [Cache.get?, Option.bind_eq_bind, Option.bind_eq_some_iff] at hget
    obtain ⟨id, hentry, cell, hcell, hv⟩ := hget
    exact ⟨id, _, hentry, cell, hcell, hv⟩
  · rintro ⟨id, ⟨c, b⟩, hentry, cell, hcell, hv⟩
    have hget : w.system.cache.get? name = some ⟨c, b⟩ := by
      rw [Cache.get?_of_cell hentry hcell, hv]
    obtain ⟨i, hmem⟩ := hw.agrees.cached_iff.mp hget
    exact ⟨i, c, b, hmem⟩

theorem leavesNothing_of_isManned (hw : w.account.Counted) (hm : w.system.cache.IsManned) :
  w.LeavesNothing
  := by
  constructor
  · intro name id cell
    apply exists_holds hw hm
  · intro hidle name
    rw [bound_iff hw, Table.mem_keys_iff, Option.isSome_iff_exists]
    constructor
    · rintro ⟨id, hentry⟩
      have hlt := hw.agrees.sound.lt_of_entry hentry
      have hcell : w.system.cache.cell? id = some w.system.cache.cells[id.index] :=
        Array.getElem?_eq_getElem hlt
      cases hv : (w.system.cache.cells[id.index]).value with
      | none =>
        obtain ⟨i, hi⟩ := exists_holds hw hm hentry hcell hv
        exact absurd hi (hidle i name id)
      | some v => exact ⟨id, v, hentry, _, hcell, hv⟩
    · rintro ⟨id, v, hentry, -⟩
      exact ⟨id, hentry⟩
  · apply bound_iff hw

/-- Whatever calls for whatever names come to, however they are interleaved: who holds a cell for a
name holds the one that the name has, and a filled one stays; and if no call is dropped, nothing is
left of what has failed. -/
theorem one_cell_per_name (setup : Setup ι τ β) (fabric : Fabric) (binders : τ)
    (names : List String) (moves further : List (Move ι)) :
  let w := (fetching fabric binders names).run setup moves
  w.KeepsCells (w.run setup further) ∧ ((∀ i, .drop i ∉ moves) → w.LeavesNothing)
  := by
  intro w
  obtain ⟨hw, htidy⟩ := counted_run setup fabric binders names moves
  constructor
  · constructor
    · rintro i name id ⟨h, hi, rfl, rfl⟩
      apply hw.agrees.sound.entry_of_hold hi
    · intro name id v hf
      apply isFilled_run setup hw htidy hf
  · intro hmoves
    apply leavesNothing_of_isManned hw (isManned_run setup fabric binders names hmoves)

/-- A binder that gives up a turn and then refuses to bind orders. -/
def refusing : AnyBinders :=
  #[.scripted {
    script := { refusals := Table.ofEntries [("orders", (.unavailable "down", none))], yields := 1 } }]

/-- The setup with one binder, of whatever kind it is. -/
def soleBinder : Setup BinderId AnyBinders AnyCall where
  factory := { binders := Table.ofEntries [("sole", ⟨0⟩)] }
  binders := AnyBinders.behaviour

/-- Two calls for one name, the second of which waits until the first one has failed. -/
def failTwice : List (Move BinderId) :=
  List.replicate 5 (.advance 0) ++ List.replicate 2 (.advance 1) ++ List.replicate 3 (.advance 0)
    ++ List.replicate 7 (.advance 1)

/-- Nothing is left of two calls that have failed. -/
theorem one_cell_per_name_of_failures :
  let w := (fetching {} refusing ["orders", "orders"]).run soleBinder failTwice
  w.calls = [.finished, .finished] ∧ w.system.cache.entries.keys = [] ∧ w.LeavesNothing
  := by
  have hmoves : ∀ i, .drop i ∉ failTwice := by
    simp [failTwice]
  refine ⟨rfl, by decide +kernel, ?_⟩
  apply (one_cell_per_name soleBinder {} refusing ["orders", "orders"] failTwice []).2 hmoves

end World

end ChannelBinding
