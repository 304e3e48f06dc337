import ChannelBinding.Proofs.Cells
import ChannelBinding.Proofs.Renaming

/-!
# Mirrored caches

The place of a name in a cache is its cell with the cell's handle.  Calls for other names leave it as
it is: they change the cells of their own names, and new cells have new handles.  When the places of a
name in two caches are the same but for the names of handles, whatever a call for the name does to the
one and the renamed call to the other keeps them so.
-/

namespace ChannelBinding

/-- A cell and its handle, renamed. -/
def Renaming.place (ρ : Renaming) : CellId × Option Cell → CellId × Option Cell :=
  Prod.map ρ.cell (Option.map (Cell.rename ρ))

namespace Cache

/-- The cell of a name with its handle. -/
def place (c : Cache) (name : String) : Option (CellId × Option Cell) :=
  (c.entries.get? name).map fun id => (id, c.cell? id)

/-- Whether a name has the same place in one cache as in another, but for the names of handles. -/
def Mirrors (ρ : Renaming) (name : String) (c e : Cache) : Prop :=
  c.place name = (e.place name).map ρ.place

variable {ρ : Renaming} {c e : Cache} {name : String} {id : CellId}

theorem place_of_entry (h : c.entries.get? name = some id) :
  c.place name = some (id, c.cell? id)
  := by
  rw [place, h]
  rfl

theorem place_of_no_entry (h : c.entries.get? name = none) :
  c.place name = none
  := by
  rw [place, h]
  rfl

/-- What is resolved is read off the place. -/
theorem get?_eq_place (c : Cache) (name : String) :
  c.get? name = (c.place name).bind fun place => place.2.bind Cell.value
  := by
  cases h : c.entries.get? name with
  | none => simp [get?, place, h]
  | some id => simp [get?, place, h]

/-! ## Calls for other names -/

/-- A change of another cell leaves a place as it is. -/
theorem place_modify_of_ne (h : c.entries.get? name ≠ some id) (f : Cell → Cell) :
  (c.modify id f).place name = c.place name
  := by
  cases hentry : c.entries.get? name with
  | none => rw [place_of_no_entry hentry, place_of_no_entry (by rw [entries_modify, hentry])]
  | some id' =>
    have hne : id ≠ id' := by
      rintro rfl
      apply h hentry
    rw [place_of_entry hentry, place_of_entry (by rw [entries_modify, hentry]), cell?_modify,
      if_neg hne]

theorem place_forget_of_ne {other : String} (hother : other ≠ name)
    (h : c.entries.get? name ≠ some id) (t : Ticket) :
  (c.forget other id t).place name = c.place name
  := by
  rw [← place_modify_of_ne h (·.letGo t)]
  unfold forget
  dsimp only
  split
  · simp only [place, Table.get?_erase_of_ne _ hother]
    rfl
  · rfl

/-- Whoever enters another cell leaves a place as it is. -/
theorem place_enter_of_ne {stake : Nat → Stake} (hs : c.Sound stake) {other : String}
    (hother : other ≠ name) :
  (c.enter other).1.place name = c.place name
  := by
  cases hentry : c.entries.get? other with
  | some id =>
    have hne : c.entries.get? name ≠ some id := fun h => hother (hs.entry_inj hentry h)
    rw [enter_of_entry hentry]
    apply place_modify_of_ne hne
  | none =>
    have hne : (c.addCell other).entries.get? name ≠ some ⟨c.cells.size⟩ := by
      rw [addCell, Table.get?_insert_of_ne _ _ hother]
      intro h
      apply absurd (hs.lt_of_entry h) (Nat.lt_irrefl _)
    rw [enter_of_no_entry hentry, enter_of_entry (c.entry_addCell other)]
    refine (place_modify_of_ne hne _).trans ?_
    cases hname : c.entries.get? name with
    | none =>
      rw [place_of_no_entry hname, place_of_no_entry]
      rw [addCell, Table.get?_insert_of_ne _ _ hother, hname]
    | some id =>
      have hold : (c.addCell other).entries.get? name = some id := by
        rw [addCell, Table.get?_insert_of_ne _ _ hother, hname]
      rw [place_of_entry hname, place_of_entry hold, cell?_addCell, if_neg]
      rintro rfl
      apply hne hold

/-! ## Calls for the name -/

namespace Mirrors

theorem entry (h : c.Mirrors ρ name e) :
  c.entries.get? name = (e.entries.get? name).map ρ.cell
  := by
  have hplace := congrArg (Option.map Prod.fst) h
  simp only [place, Option.map_map] at hplace
  simpa [Function.comp_def, Renaming.place] using hplace

theorem cell (h : c.Mirrors ρ name e) (hentry : e.entries.get? name = some id) :
  c.cell? (ρ.cell id) = (e.cell? id).map (Cell.rename ρ)
  := by
  have hentry' : c.entries.get? name = some (ρ.cell id) := by
    rw [h.entry, hentry]
    rfl
  rw [Mirrors, place_of_entry hentry, place_of_entry hentry'] at h
  exact congrArg Prod.snd (Option.some.inj h)

theorem get? (h : c.Mirrors ρ name e) :
  c.get? name = (e.get? name).map (Resolved.rename ρ)
  := by
  rw [get?_eq_place, get?_eq_place, h]
  rcases e.place name with _ | ⟨id, _ | cell⟩ <;> rfl

/-- Places are alike when they have the same entries and cells, but for the names of handles. -/
theorem of_entry (hentry : e.entries.get? name = some id)
    (hentry' : c.entries.get? name = some (ρ.cell id))
    (hcell : c.cell? (ρ.cell id) = (e.cell? id).map (Cell.rename ρ)) :
  c.Mirrors ρ name e
  := by
  rw [Mirrors, place_of_entry hentry, place_of_entry hentry', hcell]
  rfl

/-- A change that respects the renaming keeps places alike. -/
theorem modify (h : c.Mirrors ρ name e) (hentry : e.entries.get? name = some id)
    {f g : Cell → Cell} (hfg : ∀ cell, f (cell.rename ρ) = (g cell).rename ρ) :
  (c.modify (ρ.cell id) f).Mirrors ρ name (e.modify id g)
  := by
  refine of_entry hentry ?_ ?_
  · rw [entries_modify, h.entry, hentry]
    rfl
  · rw [cell?_modify, if_pos rfl, cell?_modify, if_pos rfl, h.cell hentry]
    cases e.cell? id with
    | none => rfl
    | some cell => exact congrArg some (hfg cell)

theorem giveUp (h : c.Mirrors ρ name e) (hentry : e.entries.get? name = some id) (t : Ticket) :
  (c.giveUp (ρ.cell id) (ρ.ticket t)).Mirrors ρ name (e.giveUp id t)
  := h.modify hentry fun cell => cell.giveUp_rename ρ t

theorem letGo (h : c.Mirrors ρ name e) (hentry : e.entries.get? name = some id) (t : Ticket) :
  (c.letGo (ρ.cell id) (ρ.ticket t)).Mirrors ρ name (e.letGo id t)
  := h.modify hentry fun cell => cell.letGo_rename ρ t

theorem fill (h : c.Mirrors ρ name e) (hentry : e.entries.get? name = some id) (t : Ticket)
    (v : Resolved) :
  (c.fill (ρ.cell id) (ρ.ticket t) (v.rename ρ)).Mirrors ρ name (e.fill id t v)
  := by
  apply h.modify hentry
  intro cell
  rw [Cell.fill_rename, Cell.letGo_rename]

theorem claim (h : c.Mirrors ρ name e) (hentry : e.entries.get? name = some id) (t : Ticket) :
  (c.claim (ρ.cell id) (ρ.ticket t)).1.Mirrors ρ name (e.claim id t).1
    ∧ (c.claim (ρ.cell id) (ρ.ticket t)).2 = (e.claim id t).2.rename ρ
  := by
  have hcell := h.cell hentry
  cases hid : e.cell? id with
  | none =>
    rw [hid] at hcell
    simp only [Cache.claim, hid, hcell, Option.map_none]
    exact ⟨h, rfl⟩
  | some cell =>
    rw [hid] at hcell
    rw [claim_eq e t hid, claim_eq c _ hcell, Cell.claim_rename]
    constructor
    · refine of_entry hentry ?_ ?_
      · rw [entries_modify, h.entry, hentry]
        rfl
      · rw [cell?_modify, if_pos rfl, cell?_modify, if_pos rfl, hid, hcell]
        rfl
    · rfl

/-- Whoever has failed forgets its cell in both caches or in neither. -/
theorem forget (h : c.Mirrors ρ name e) (hentry : e.entries.get? name = some id) (t : Ticket) :
  (c.forget name (ρ.cell id) (ρ.ticket t)).Mirrors ρ name (e.forget name id t)
  := by
  have hunused : c.unused name (ρ.cell id) (ρ.ticket t) = e.unused name id t := by
    have hholders : ∀ cell : Cell, cell.holders.map ρ.ticket = [ρ.ticket t] ↔ cell.holders = [t] := by
      intro cell
      exact (List.map_injective_iff.mpr ρ.ticket_injective).eq_iff (b := [t])
    simp only [unused, h.entry, hentry, h.cell hentry, Option.map_some, decide_true, Bool.true_and]
    cases e.cell? id with
    | none => rfl
    | some cell => simp [Cell.rename, hholders]
  unfold Cache.forget
  rw [hunused]
  dsimp only
  split
  · rw [Mirrors, place_of_no_entry (Table.get?_erase_self _ _),
      place_of_no_entry (Table.get?_erase_self _ _)]
    rfl
  · apply h.letGo hentry

/-- Whoever enters the cell of the name gets the same handles, but for their names. -/
theorem enter (h : c.Mirrors ρ name e) (hticket : ρ.ticket ⟨e.issued⟩ = ⟨c.issued⟩)
    (hcell : e.entries.get? name = none → ρ.cell ⟨e.cells.size⟩ = ⟨c.cells.size⟩) :
  (c.enter name).1.Mirrors ρ name (e.enter name).1
    ∧ (c.enter name).2 = Prod.map ρ.cell ρ.ticket (e.enter name).2
  := by
  have hhold : ∀ {c e : Cache} {id : CellId} {t : Ticket}, c.Mirrors ρ name e →
      e.entries.get? name = some id →
      (c.modify (ρ.cell id) (·.hold (ρ.ticket t))).Mirrors ρ name (e.modify id (·.hold t)) :=
    fun h hentry => h.modify hentry fun cell => cell.hold_rename ρ _
  cases hentry : e.entries.get? name with
  | some id =>
    have hentry' : c.entries.get? name = some (ρ.cell id) := by
      rw [h.entry, hentry]
      rfl
    rw [enter_of_entry hentry, enter_of_entry hentry', ← hticket]
    exact ⟨hhold h hentry, rfl⟩
  | none =>
    have hentry' : c.entries.get? name = none := by
      rw [h.entry, hentry]
      rfl
    have hadd : (c.addCell name).Mirrors ρ name (e.addCell name) := by
      apply of_entry (e.entry_addCell name)
      · rw [hcell hentry]
        apply c.entry_addCell
      · rw [hcell hentry, cell?_addCell, if_pos rfl, cell?_addCell, if_pos rfl]
        rfl
    rw [enter_of_no_entry hentry, enter_of_no_entry hentry', enter_of_entry (e.entry_addCell name),
      enter_of_entry (c.entry_addCell name), ← hcell hentry]
    have hissued : ρ.ticket ⟨(e.addCell name).issued⟩ = ⟨(c.addCell name).issued⟩ := hticket
    rw [← hissued]
    exact ⟨hhold hadd (e.entry_addCell name), rfl⟩

end Mirrors

end Cache

end ChannelBinding
