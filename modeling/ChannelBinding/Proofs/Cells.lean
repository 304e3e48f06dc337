import ChannelBinding.Proofs.World.Account

/-!
# The cells of the cache

A cache is sound for the stakes of calls when the cell that a call holds for a name is the very cell
under which the name is found, when no two calls have one ticket, and when a call that fills a cell
has its permit.  `Sound.modify` is the one argument about calls that change their cell; each operation
of the cache is a case of it.  What the cache resolves changes when a cell is filled and never else.
-/

namespace ChannelBinding

variable {ι τ β : Type}

/-! ## Single cells -/

namespace Cell

variable {cell : Cell} {t u : Ticket}

@[simp]
theorem value_claim (cell : Cell) (t : Ticket) :
  (cell.claim t).1.value = cell.value
  := by
  unfold claim
  split
  · rfl
  · rfl
  · split
    · rfl
    · split
      · rfl
      · rfl

@[simp]
theorem holders_claim (cell : Cell) (t : Ticket) :
  (cell.claim t).1.holders = cell.holders
  := by
  unfold claim
  split
  · rfl
  · rfl
  · split
    · rfl
    · split
      · rfl
      · rfl

/-- A permit that is given out stays where it is when others ask for it. -/
theorem permit_claim (h : cell.permit = some u) :
  (cell.claim t).1.permit = some u
  := by
  unfold claim
  rw [h]
  split
  · apply h
  · contradiction
  · split
    · apply h
    · split
      · apply h
      · rfl

/-- A call gets the permit of a cell that is not filled. -/
theorem of_claim_permitted (h : (cell.claim t).2 = .permitted) :
  cell.value = none ∧ (cell.claim t).1.permit = some t
  := by
  unfold claim at h ⊢
  split
  · simp_all
  · simp_all
  · simp_all
    split at h
    · simp_all
    · split at h <;> cases h

/-- A call finds what a cell is filled with. -/
theorem of_claim_filled {v : Resolved} (h : (cell.claim t).2 = .filled v) :
  cell.value = some v
  := by
  unfold claim at h
  split at h
  · cases h
    assumption
  · cases h
  · split at h
    · cases h
    · split at h <;> cases h

@[simp]
theorem value_giveUp (cell : Cell) (t : Ticket) :
  (cell.giveUp t).value = cell.value
  := by
  unfold giveUp
  split
  · rfl
  · rfl

@[simp]
theorem holders_giveUp (cell : Cell) (t : Ticket) :
  (cell.giveUp t).holders = cell.holders
  := by
  unfold giveUp
  split
  · rfl
  · rfl

/-- A permit that another call has stays where it is. -/
theorem permit_giveUp (h : cell.permit = some u) (hu : u ≠ t) :
  (cell.giveUp t).permit = some u
  := by
  unfold giveUp
  rw [h, if_neg (by simpa using hu)]

/-- Who lets go of a cell leaves the other holders. -/
theorem mem_holders_letGo (h : u ∈ cell.holders) (hu : u ≠ t) :
  u ∈ (cell.letGo t).holders
  := (List.mem_erase_of_ne hu).2 h

end Cell

/-! ## The operations of the cache -/

namespace Cache

theorem cell?_modify (c : Cache) (id id' : CellId) (f : Cell → Cell) :
  (c.modify id f).cell? id' = if id = id' then (c.cell? id').map f else c.cell? id'
  := by
  simp only [cell?, modify, Array.getElem?_modify]
  by_cases h : id = id'
  · simp [h]
  · have h' : id.index ≠ id'.index := by
      intro he
      apply h
      cases id
      cases id'
      simp_all
    simp [h, h']

@[simp]
theorem entries_modify (c : Cache) (id : CellId) (f : Cell → Cell) :
  (c.modify id f).entries = c.entries
  := rfl

/-- Asking a cell for its permit changes that cell. -/
theorem claim_eq (c : Cache) {id : CellId} {cell : Cell} (t : Ticket) (h : c.cell? id = some cell) :
  c.claim id t = (c.modify id fun _ => (cell.claim t).1, (cell.claim t).2)
  := by
  simp only [claim, h]

/-- A change that leaves the values of cells alone leaves what is resolved. -/
theorem get?_modify (c : Cache) (id : CellId) (f : Cell → Cell)
    (h : ∀ cell, c.cell? id = some cell → (f cell).value = cell.value) :
  (c.modify id f).get? = c.get?
  := by
  funext name
  simp only [get?, entries_modify, cell?_modify, Option.bind_eq_bind]
  congr 1
  funext id'
  split
  · rename_i hid
    subst hid
    cases hc : c.cell? id with
    | none => rfl
    | some cell => apply h cell hc
  · rfl

@[simp]
theorem get?_letGo (c : Cache) (id : CellId) (t : Ticket) :
  (c.letGo id t).get? = c.get?
  := get?_modify c id _ fun _ _ => rfl

@[simp]
theorem get?_giveUp (c : Cache) (id : CellId) (t : Ticket) :
  (c.giveUp id t).get? = c.get?
  := get?_modify c id _ fun cell _ => cell.value_giveUp t

@[simp]
theorem get?_claim (c : Cache) (id : CellId) (t : Ticket) :
  (c.claim id t).1.get? = c.get?
  := by
  cases h : c.cell? id with
  | none => simp [claim, h]
  | some cell =>
    rw [claim_eq c t h]
    apply get?_modify
    intro cell' h'
    rw [h] at h'
    cases h'
    apply cell.value_claim t

/-- What a filled cell of a name holds is what the name is resolved to. -/
theorem get?_of_cell {c : Cache} {name : String} {id : CellId} {cell : Cell}
    (hentry : c.entries.get? name = some id) (hcell : c.cell? id = some cell) :
  c.get? name = cell.value
  := by
  simp [get?, hentry, hcell]

/-- The cache with an empty cell under a name. -/
def addCell (c : Cache) (name : String) : Cache :=
  { c with cells := c.cells.push {}, entries := c.entries.insert name ⟨c.cells.size⟩ }

theorem entry_addCell (c : Cache) (name : String) :
  (c.addCell name).entries.get? name = some ⟨c.cells.size⟩
  := Table.get?_insert_self _ _ _

theorem cell?_addCell (c : Cache) (name : String) (id : CellId) :
  (c.addCell name).cell? id = if id = ⟨c.cells.size⟩ then some {} else c.cell? id
  := by
  simp only [cell?, addCell, Array.getElem?_push]
  cases id
  simp

theorem enter_of_entry {c : Cache} {name : String} {id : CellId}
    (h : c.entries.get? name = some id) :
  c.enter name
    = ({ c.modify id (·.hold ⟨c.issued⟩) with issued := c.issued + 1 }, id, ⟨c.issued⟩)
  := by
  simp only [enter, h]

/-- To enter under a name without a cell is to add a cell first. -/
theorem enter_of_no_entry {c : Cache} {name : String} (h : c.entries.get? name = none) :
  c.enter name = (c.addCell name).enter name
  := by
  have hcells : c.cells.push { holders := [⟨c.issued⟩] }
      = (c.cells.push {}).modify c.cells.size (·.hold ⟨c.issued⟩) := by
    apply Array.ext
    · simp
    · intro i h₁ h₂
      simp only [Array.getElem_modify, Array.getElem_push]
      split
      · rename_i hlt
        rw [if_neg (Nat.ne_of_gt hlt)]
      · rw [if_pos]
        · rfl
        · simp at h₁
          omega
  rw [enter_of_entry (c.entry_addCell name)]
  simp only [enter, h, addCell, Cache.modify, hcells]

/-- A new cell resolves nothing. -/
@[simp]
theorem get?_addCell (c : Cache) (name : String) (h : c.entries.get? name = none) :
  (c.addCell name).get? = c.get?
  := by
  funext name'
  by_cases hn : name = name'
  · subst hn
    simp [get?, entry_addCell, cell?_addCell, h]
  · have hentry : (c.addCell name).entries.get? name' = c.entries.get? name' :=
      Table.get?_insert_of_ne _ _ hn
    simp only [get?, hentry]
    cases hc : c.entries.get? name' with
    | none => rfl
    | some id =>
      simp only [Option.bind_eq_bind, Option.bind_some, cell?_addCell]
      split
      · rename_i hid
        subst hid
        simp [cell?]
      · rfl

@[simp]
theorem get?_enter (c : Cache) (name : String) :
  (c.enter name).1.get? = c.get?
  := by
  have hhold : ∀ (c : Cache) (id : CellId),
      ({ c.modify id (·.hold ⟨c.issued⟩) with issued := c.issued + 1 } : Cache).get? = c.get? :=
    fun c id => get?_modify c id _ fun _ _ => rfl
  cases hentry : c.entries.get? name with
  | some id =>
    rw [enter_of_entry hentry]
    apply hhold
  | none =>
    rw [enter_of_no_entry hentry, enter_of_entry (c.entry_addCell name), ← c.get?_addCell name hentry]
    apply hhold

/-- A name whose cell was never filled is not resolved, with its cell or without. -/
@[simp]
theorem get?_forget (c : Cache) (name : String) (id : CellId) (t : Ticket) :
  (c.forget name id t).get? = c.get?
  := by
  unfold forget
  dsimp only
  split
  · rename_i hu
    simp only [unused, Bool.and_eq_true, decide_eq_true_eq] at hu
    obtain ⟨hentry, hu⟩ := hu
    rw [← c.get?_letGo id t]
    funext name'
    by_cases hn : name = name'
    · subst hn
      rw [c.get?_letGo id t]
      cases hc : c.cell? id with
      | none => simp [hc] at hu
      | some cell =>
        rw [hc] at hu
        simp only [Option.any_some, Bool.and_eq_true, Option.isNone_iff_eq_none] at hu
        rw [get?_of_cell hentry hc, hu.1]
        simp [get?, letGo]
    · simp [get?, letGo, cell?, Table.get?_erase_of_ne _ hn]
  · apply c.get?_letGo id t

/-! ## Sound caches -/

/-- The cells that calls hold are those of their names, each with a ticket of its own, and a call that
fills a cell has its permit. -/
structure Sound (c : Cache) (stake : Nat → Stake) : Prop where
  lt_of_entry : ∀ {name id}, c.entries.get? name = some id → id.index < c.cells.size
  entry_inj : ∀ {name name' id}, c.entries.get? name = some id → c.entries.get? name' = some id →
    name = name'
  entry_of_hold : ∀ {i h}, (stake i).hold = some h → c.entries.get? h.name = some h.cell
  issued_of_hold : ∀ {i h}, (stake i).hold = some h → h.ticket.number < c.issued
  holds : ∀ {i h}, (stake i).hold = some h →
    ∃ cell, c.cell? h.cell = some cell ∧ h.ticket ∈ cell.holders
  ticket_inj : ∀ {i j h h'}, (stake i).hold = some h → (stake j).hold = some h' →
    h.ticket = h'.ticket → i = j
  permit_of_filling : ∀ {i h}, (stake i).hold = some h → h.filling = true →
    ∃ cell, c.cell? h.cell = some cell ∧ cell.value = none ∧ cell.permit = some h.ticket

/-- A cache without cells is sound while no call holds one. -/
theorem sound_empty :
  ({} : Cache).Sound fun _ => {}
  := by
  constructor <;> simp

variable {c : Cache} {stake : Nat → Stake}

/-- The cell that a call holds is a cell of the cache. -/
theorem Sound.exists_cell (hs : c.Sound stake) {i : Nat} {h : Hold} (hi : (stake i).hold = some h) :
  ∃ cell, c.cell? h.cell = some cell
  := by
  obtain ⟨cell, hcell, -⟩ := hs.holds hi
  exact ⟨cell, hcell⟩

/-- The stakes after a change of one, as they are looked up. -/
theorem hold_update {i j : Nat} {k : Stake} {h : Hold}
    (hj : (Function.update stake i k j).hold = some h) :
  (j = i ∧ k.hold = some h) ∨ (j ≠ i ∧ (stake j).hold = some h)
  := by
  rw [Function.apply_update fun _ => Stake.hold] at hj
  apply World.of_update hj

/-- A call that changes the cell that it holds, and keeps it or lets go of it, keeps the cache sound
if it takes nobody else's place among the holders, nobody else's permit, and a permit for itself if it
goes on to fill the cell. -/
theorem Sound.modify (hs : c.Sound stake) {i : Nat} {h : Hold} (hi : (stake i).hold = some h)
    (f : Cell → Cell) (k : Stake)
    (hk : ∀ h', k.hold = some h' → h'.name = h.name ∧ h'.cell = h.cell ∧ h'.ticket = h.ticket)
    (hholders : ∀ cell t, c.cell? h.cell = some cell → t ∈ cell.holders →
      (t = h.ticket → k.hold ≠ none) → t ∈ (f cell).holders)
    (hpermit : ∀ cell t, c.cell? h.cell = some cell → cell.value = none → cell.permit = some t →
      t ≠ h.ticket → (f cell).value = none ∧ (f cell).permit = some t)
    (hfilling : ∀ cell h', c.cell? h.cell = some cell → k.hold = some h' → h'.filling = true →
      (f cell).value = none ∧ (f cell).permit = some h.ticket) :
  (c.modify h.cell f).Sound (Function.update stake i k)
  := by
  -- what `i` holds afterwards it has held before
  have hown : ∀ {h'}, k.hold = some h' →
      (stake i).hold = some ⟨h'.name, h'.cell, h'.ticket, h.filling⟩ := by
    intro h' hh'
    obtain ⟨hn, hc, ht⟩ := hk h' hh'
    rw [hi, hn, hc, ht]
  constructor
  · intro name id hentry
    simpa [Cache.modify] using hs.lt_of_entry hentry
  · intro name name' id
    apply hs.entry_inj
  · intro j h' hj
    rcases hold_update hj with ⟨rfl, hnew⟩ | ⟨-, hold⟩
    · apply hs.entry_of_hold (hown hnew)
    · apply hs.entry_of_hold hold
  · intro j h' hj
    rcases hold_update hj with ⟨rfl, hnew⟩ | ⟨-, hold⟩
    · apply hs.issued_of_hold (hown hnew)
    · apply hs.issued_of_hold hold
  · intro j h' hj
    rw [cell?_modify]
    rcases hold_update hj with ⟨rfl, hnew⟩ | ⟨hne, hold⟩
    · obtain ⟨-, hcell, hticket⟩ := hk h' hnew
      obtain ⟨cell, hc, hmem⟩ := hs.holds hi
      rw [hcell, hticket, if_pos rfl, hc]
      refine ⟨f cell, rfl, hholders cell _ hc hmem fun _ => ?_⟩
      simp [hnew]
    · obtain ⟨cell, hc, hmem⟩ := hs.holds hold
      split
      · rename_i hid
        rw [hc]
        refine ⟨f cell, rfl, hholders cell _ (hid ▸ hc) hmem fun ht => ?_⟩
        apply absurd (hs.ticket_inj hold hi ht) hne
      · exact ⟨cell, hc, hmem⟩
  · intro j j' h' h'' hj hj' ht
    rcases hold_update hj with ⟨rfl, hnew⟩ | ⟨-, hold⟩
    · rcases hold_update hj' with ⟨rfl, -⟩ | ⟨-, hold'⟩
      · rfl
      · apply hs.ticket_inj (hown hnew) hold' ht
    · rcases hold_update hj' with ⟨rfl, hnew'⟩ | ⟨-, hold'⟩
      · apply hs.ticket_inj hold (hown hnew') ht
      · apply hs.ticket_inj hold hold' ht
  · intro j h' hj hf
    rw [cell?_modify]
    rcases hold_update hj with ⟨rfl, hnew⟩ | ⟨hne, hold⟩
    · obtain ⟨-, hcell, hticket⟩ := hk h' hnew
      obtain ⟨cell, hc⟩ := hs.exists_cell hi
      rw [hcell, hticket, if_pos rfl, hc]
      exact ⟨f cell, rfl, hfilling cell h' hc hnew hf⟩
    · obtain ⟨cell, hc, hv, hp⟩ := hs.permit_of_filling hold hf
      split
      · rename_i hid
        rw [hc]
        refine ⟨f cell, rfl, hpermit cell _ (hid ▸ hc) hv hp fun ht => ?_⟩
        apply absurd (hs.ticket_inj hold hi ht) hne
      · exact ⟨cell, hc, hv, hp⟩

/-- A call that asks for its cell keeps the cache sound; it may go on to fill the cell if it was
permitted to. -/
theorem Sound.claim (hs : c.Sound stake) {i : Nat} {h : Hold} (hi : (stake i).hold = some h)
    (filling : Bool) (hf : filling = true → (c.claim h.cell h.ticket).2 = .permitted) :
  (c.claim h.cell h.ticket).1.Sound
    (Function.update stake i { hold := some { h with filling } })
  := by
  obtain ⟨cell, hc⟩ := hs.exists_cell hi
  rw [claim_eq c h.ticket hc] at hf ⊢
  apply hs.modify hi
  · rintro h' ⟨⟩
    exact ⟨rfl, rfl, rfl⟩
  · intro cell' t hc' hmem _
    rw [hc] at hc'
    cases hc'
    rw [Cell.holders_claim]
    apply hmem
  · intro cell' t hc' hv hp _
    rw [hc] at hc'
    cases hc'
    rw [Cell.value_claim]
    exact ⟨hv, Cell.permit_claim hp⟩
  · rintro cell' h' hc' ⟨⟩ hfilling
    rw [hc] at hc'
    cases hc'
    obtain ⟨hv, hp⟩ := Cell.of_claim_permitted (hf hfilling)
    rw [Cell.value_claim]
    exact ⟨hv, hp⟩

/-- A call that gives back its permit, or its place in line, keeps the cache sound. -/
theorem Sound.giveUp (hs : c.Sound stake) {i : Nat} {h : Hold} (hi : (stake i).hold = some h) :
  (c.giveUp h.cell h.ticket).Sound
    (Function.update stake i { hold := some { h with filling := false } })
  := by
  apply hs.modify hi
  · rintro h' ⟨⟩
    exact ⟨rfl, rfl, rfl⟩
  · intro cell t _ hmem _
    rw [Cell.holders_giveUp]
    apply hmem
  · intro cell t _ hv hp ht
    rw [Cell.value_giveUp]
    exact ⟨hv, Cell.permit_giveUp hp ht⟩
  · rintro cell h' _ ⟨⟩ hfilling
    cases hfilling

/-- A call that lets go of its cell keeps the cache sound. -/
theorem Sound.letGo (hs : c.Sound stake) {i : Nat} {h : Hold} (hi : (stake i).hold = some h) :
  (c.letGo h.cell h.ticket).Sound (Function.update stake i {})
  := by
  apply hs.modify hi
  · rintro h' ⟨⟩
  · intro cell t _ hmem ht
    apply Cell.mem_holders_letGo hmem
    intro heq
    apply ht heq rfl
  · intro cell t _ hv hp _
    exact ⟨hv, hp⟩
  · rintro cell h' _ ⟨⟩

/-- The call that has the permit of its cell keeps the cache sound when it fills the cell. -/
theorem Sound.fill (hs : c.Sound stake) {i : Nat} {h : Hold} (hi : (stake i).hold = some h)
    (hf : h.filling = true) (v : Resolved) :
  (c.fill h.cell h.ticket v).Sound (Function.update stake i {})
  := by
  apply hs.modify hi
  · rintro h' ⟨⟩
  · intro cell t _ hmem ht
    have hmem' : t ∈ (cell.fill v).holders := hmem
    apply Cell.mem_holders_letGo hmem'
    intro heq
    apply ht heq rfl
  · intro cell t hc _ hp ht
    -- nobody else has the permit
    obtain ⟨cell', hc', -, hp'⟩ := hs.permit_of_filling hi hf
    rw [hc] at hc'
    cases hc'
    rw [hp] at hp'
    cases hp'
    contradiction
  · rintro cell h' _ ⟨⟩

/-- A call that alone holds a cell may take the name away from it. -/
theorem Sound.erase (hs : c.Sound stake) {i : Nat} {name : String} {id : CellId} {t : Ticket}
    {filling : Bool} (hi : (stake i).hold = some ⟨name, id, t, filling⟩)
    (hu : c.unused name id t = true) :
  ({ c.letGo id t with entries := c.entries.erase name } : Cache).Sound
    (Function.update stake i {})
  := by
  simp only [unused, Bool.and_eq_true, decide_eq_true_eq] at hu
  obtain ⟨-, hu⟩ := hu
  obtain ⟨cell, hc⟩ := hs.exists_cell hi
  rw [hc] at hu
  simp only [Option.any_some, Bool.and_eq_true, decide_eq_true_eq] at hu
  obtain ⟨-, hheld⟩ := hu
  have hlet := hs.letGo hi
  -- whoever else holds a cell holds it under another name
  have hother : ∀ {j h'}, (Function.update stake i {} j).hold = some h' → name ≠ h'.name := by
    rintro j h' hj rfl
    rcases hold_update hj with ⟨-, hnew⟩ | ⟨hne, hold⟩
    · cases hnew
    · have hentry := hs.entry_of_hold hold
      rw [hs.entry_of_hold hi] at hentry
      cases hentry
      obtain ⟨cell', hc', hmem⟩ := hs.holds hold
      rw [hc] at hc'
      cases hc'
      rw [hheld, List.mem_singleton] at hmem
      apply hne (hs.ticket_inj hold hi hmem)
  have hentry : ∀ {name' id'}, (c.entries.erase name).get? name' = some id' →
      c.entries.get? name' = some id' := by
    intro name' id' h
    rw [Table.get?_erase] at h
    split at h
    · cases h
    · apply h
  constructor
  · intro name' id' h
    apply hlet.lt_of_entry (hentry h)
  · intro name' name'' id' h h'
    apply hlet.entry_inj (hentry h) (hentry h')
  · intro j h' hj
    rw [Table.get?_erase_of_ne _ (hother hj)]
    apply hlet.entry_of_hold hj
  · intro j h' hj
    apply hlet.issued_of_hold hj
  · intro j h' hj
    apply hlet.holds hj
  · intro j j' h' h'' hj hj' ht
    apply hlet.ticket_inj hj hj' ht
  · intro j h' hj hf
    apply hlet.permit_of_filling hj hf

/-- A call that has failed keeps the cache sound when it lets go of its cell. -/
theorem Sound.forget (hs : c.Sound stake) {i : Nat} {name : String} {id : CellId} {t : Ticket}
    {filling : Bool} (hi : (stake i).hold = some ⟨name, id, t, filling⟩) :
  (c.forget name id t).Sound (Function.update stake i {})
  := by
  unfold Cache.forget
  dsimp only
  split
  · rename_i hu
    apply hs.erase hi hu
  · apply hs.letGo hi

/-- A call that takes hold of a cell keeps the cache sound. -/
theorem Sound.hold (hs : c.Sound stake) (i : Nat) {name : String} {id : CellId}
    (hentry : c.entries.get? name = some id) :
  ({ c.modify id (·.hold ⟨c.issued⟩) with issued := c.issued + 1 } : Cache).Sound
    (Function.update stake i { hold := some ⟨name, id, ⟨c.issued⟩, false⟩ })
  := by
  -- a fresh ticket is nobody's
  have hfresh : ∀ {j h'}, (stake j).hold = some h' → h'.ticket ≠ ⟨c.issued⟩ := by
    intro j h' hold ht
    have hlt := hs.issued_of_hold hold
    rw [ht] at hlt
    simp at hlt
  constructor
  · intro name' id' h
    simpa [Cache.modify] using hs.lt_of_entry h
  · intro name' name'' id' h h'
    apply hs.entry_inj h h'
  · intro j h' hj
    rcases hold_update hj with ⟨rfl, ⟨⟩⟩ | ⟨-, hold⟩
    · apply hentry
    · apply hs.entry_of_hold hold
  · intro j h' hj
    rcases hold_update hj with ⟨rfl, ⟨⟩⟩ | ⟨-, hold⟩
    · apply Nat.lt_succ_self
    · apply Nat.lt_succ_of_lt (hs.issued_of_hold hold)
  · intro j h' hj
    change ∃ cell, (c.modify id (·.hold ⟨c.issued⟩)).cell? h'.cell = some cell ∧ _
    rw [cell?_modify]
    rcases hold_update hj with ⟨rfl, ⟨⟩⟩ | ⟨-, hold⟩
    · rw [if_pos rfl]
      have hlt := hs.lt_of_entry hentry
      rw [cell?, Array.getElem?_eq_getElem hlt]
      exact ⟨_, rfl, List.mem_cons_self⟩
    · obtain ⟨cell, hc, hmem⟩ := hs.holds hold
      split
      · rw [hc]
        exact ⟨_, rfl, List.mem_cons_of_mem _ hmem⟩
      · exact ⟨cell, hc, hmem⟩
  · intro j j' h' h'' hj hj' ht
    rcases hold_update hj with ⟨rfl, ⟨⟩⟩ | ⟨-, hold⟩
    · rcases hold_update hj' with ⟨rfl, -⟩ | ⟨-, hold'⟩
      · rfl
      · apply absurd ht.symm (hfresh hold')
    · rcases hold_update hj' with ⟨rfl, ⟨⟩⟩ | ⟨-, hold'⟩
      · apply absurd ht (hfresh hold)
      · apply hs.ticket_inj hold hold' ht
  · intro j h' hj hf
    change ∃ cell, (c.modify id (·.hold ⟨c.issued⟩)).cell? h'.cell = some cell ∧ _
    rw [cell?_modify]
    rcases hold_update hj with ⟨rfl, ⟨⟩⟩ | ⟨-, hold⟩
    · cases hf
    · obtain ⟨cell, hc, hv, hp⟩ := hs.permit_of_filling hold hf
      split
      · rw [hc]
        exact ⟨_, rfl, hv, hp⟩
      · exact ⟨cell, hc, hv, hp⟩

/-- A new cell under a name that has none keeps the cache sound. -/
theorem Sound.addCell (hs : c.Sound stake) {name : String} (hnone : c.entries.get? name = none) :
  (c.addCell name).Sound stake
  := by
  -- no call holds the new cell, and none holds a cell under its name
  have hentry : ∀ {name' id'}, (c.addCell name).entries.get? name' = some id' →
      (name' = name ∧ id' = ⟨c.cells.size⟩)
        ∨ (name ≠ name' ∧ c.entries.get? name' = some id') := by
    intro name' id' h
    simp only [Cache.addCell, Table.get?_insert] at h
    split at h
    · cases h
      exact Or.inl ⟨by symm; assumption, rfl⟩
    · exact Or.inr ⟨by assumption, h⟩
  have hcell : ∀ {id' cell}, c.cell? id' = some cell → (c.addCell name).cell? id' = some cell := by
    intro id' cell h
    rw [cell?_addCell, if_neg, h]
    rintro rfl
    simp [Cache.cell?] at h
  constructor
  · intro name' id' h
    simp only [Cache.addCell, Array.size_push]
    rcases hentry h with ⟨-, rfl⟩ | ⟨-, hold⟩
    · apply Nat.lt_succ_self
    · apply Nat.lt_succ_of_lt (hs.lt_of_entry hold)
  · intro name' name'' id' h h'
    rcases hentry h with ⟨rfl, rfl⟩ | ⟨-, hold⟩
    · rcases hentry h' with ⟨rfl, -⟩ | ⟨-, hold'⟩
      · rfl
      · apply absurd (hs.lt_of_entry hold') (Nat.lt_irrefl _)
    · rcases hentry h' with ⟨rfl, rfl⟩ | ⟨-, hold'⟩
      · apply absurd (hs.lt_of_entry hold) (Nat.lt_irrefl _)
      · apply hs.entry_inj hold hold'
  · intro j h' hj
    have hold := hs.entry_of_hold hj
    simp only [Cache.addCell]
    rw [Table.get?_insert_of_ne, hold]
    rintro rfl
    rw [hnone] at hold
    cases hold
  · intro j h' hj
    apply hs.issued_of_hold hj
  · intro j h' hj
    obtain ⟨cell, hc, hmem⟩ := hs.holds hj
    exact ⟨cell, hcell hc, hmem⟩
  · intro j j' h' h'' hj hj' ht
    apply hs.ticket_inj hj hj' ht
  · intro j h' hj hf
    obtain ⟨cell, hc, hv⟩ := hs.permit_of_filling hj hf
    exact ⟨cell, hcell hc, hv⟩

/-- A call that enters the cache keeps it sound. -/
theorem Sound.enter (hs : c.Sound stake) (i : Nat) (name : String) :
  (c.enter name).1.Sound (Function.update stake i
    { hold := some ⟨name, (c.enter name).2.1, (c.enter name).2.2, false⟩ })
  := by
  cases hentry : c.entries.get? name with
  | some id =>
    rw [enter_of_entry hentry]
    apply hs.hold i hentry
  | none =>
    have hself := c.entry_addCell name
    rw [enter_of_no_entry hentry, enter_of_entry hself]
    apply (hs.addCell hentry).hold i hself

/-- A call that holds nothing new keeps the cache sound. -/
theorem Sound.keep (hs : c.Sound stake) (i : Nat) {k : Stake}
    (hk : ∀ h, k.hold = some h → (stake i).hold = some h) :
  c.Sound (Function.update stake i k)
  := by
  have hold : ∀ {j h}, (Function.update stake i k j).hold = some h → (stake j).hold = some h := by
    intro j h hj
    rcases hold_update hj with ⟨rfl, hnew⟩ | ⟨-, hold⟩
    · apply hk h hnew
    · apply hold
  constructor
  · intro name id h
    apply hs.lt_of_entry h
  · intro name name' id h h'
    apply hs.entry_inj h h'
  · intro j h hj
    apply hs.entry_of_hold (hold hj)
  · intro j h hj
    apply hs.issued_of_hold (hold hj)
  · intro j h hj
    apply hs.holds (hold hj)
  · intro j j' h h' hj hj' ht
    apply hs.ticket_inj (hold hj) (hold hj') ht
  · intro j h hj hf
    apply hs.permit_of_filling (hold hj) hf

/-! ## What a sound cache resolves -/

/-- A call that finds its cell filled finds what its name is resolved to. -/
theorem Sound.get?_of_filled (hs : c.Sound stake) {i : Nat} {h : Hold}
    (hi : (stake i).hold = some h) {v : Resolved} (hv : (c.claim h.cell h.ticket).2 = .filled v) :
  c.get? h.name = some v
  := by
  obtain ⟨cell, hc⟩ := hs.exists_cell hi
  rw [claim_eq c _ hc] at hv
  rw [get?_of_cell (hs.entry_of_hold hi) hc]
  apply Cell.of_claim_filled hv

/-- The name of a call that has the permit is not resolved. -/
theorem Sound.get?_of_permitted (hs : c.Sound stake) {i : Nat} {h : Hold}
    (hi : (stake i).hold = some h) (hv : (c.claim h.cell h.ticket).2 = .permitted) :
  c.get? h.name = none
  := by
  obtain ⟨cell, hc⟩ := hs.exists_cell hi
  rw [claim_eq c _ hc] at hv
  rw [get?_of_cell (hs.entry_of_hold hi) hc]
  apply (Cell.of_claim_permitted hv).1

/-- The name of a call that fills its cell is not resolved. -/
theorem Sound.get?_of_filling (hs : c.Sound stake) {i : Nat} {h : Hold}
    (hi : (stake i).hold = some h) (hf : h.filling = true) :
  c.get? h.name = none
  := by
  obtain ⟨cell, hc, hv, -⟩ := hs.permit_of_filling hi hf
  rw [get?_of_cell (hs.entry_of_hold hi) hc, hv]

/-- No two calls fill the cell of one name. -/
theorem Sound.filling_inj (hs : c.Sound stake) {i j : Nat} {h h' : Hold}
    (hi : (stake i).hold = some h) (hj : (stake j).hold = some h') (hf : h.filling = true)
    (hf' : h'.filling = true) (hname : h.name = h'.name) :
  i = j
  := by
  have hentry := hs.entry_of_hold hi
  rw [hname, hs.entry_of_hold hj, Option.some.injEq] at hentry
  obtain ⟨cell, hc, -, hp⟩ := hs.permit_of_filling hi hf
  obtain ⟨cell', hc', -, hp'⟩ := hs.permit_of_filling hj hf'
  rw [hentry, hc] at hc'
  cases hc'
  rw [hp, Option.some.injEq] at hp'
  apply hs.ticket_inj hi hj hp'

/-- Filling the cell of a name resolves this name and no other. -/
theorem Sound.get?_fill (hs : c.Sound stake) {i : Nat} {h : Hold} (hi : (stake i).hold = some h)
    (v : Resolved) (name : String) :
  (c.fill h.cell h.ticket v).get? name = if h.name = name then some v else c.get? name
  := by
  have hentry := hs.entry_of_hold hi
  split
  · rename_i hname
    subst hname
    obtain ⟨cell, hc⟩ := hs.exists_cell hi
    simp [get?, Cache.fill, hentry, cell?_modify, hc, Cell.fill, Cell.letGo]
  · rename_i hname
    simp only [get?, Cache.fill, entries_modify, Option.bind_eq_bind]
    cases hn : c.entries.get? name with
    | none => rfl
    | some id =>
      simp only [Option.bind_some, cell?_modify]
      rw [if_neg]
      intro hid
      apply hname
      apply hs.entry_inj hentry
      rw [hn, hid]

/-- The names of a cache are those that it resolves. -/
theorem mem_names {name : String} :
  name ∈ c.names ↔ (c.get? name).isSome = true
  := by
  simp only [names, sortNames, List.mem_mergeSort, List.mem_filter, Table.mem_keys_iff,
    and_iff_right_iff_imp]
  intro h
  obtain ⟨v, hv⟩ := Option.isSome_iff_exists.1 h
  simp only [get?, Option.bind_eq_bind, Option.bind_eq_some_iff] at hv
  obtain ⟨id, hid, -⟩ := hv
  rw [hid]
  rfl

end Cache

/-! ## Sound accounts -/

/-- An account whose cache is sound for the stakes of its calls. -/
def Account.Sound (a : Account) : Prop := a.books.cache.Sound a.stake

theorem Account.sound_empty :
  ({} : Account).Sound
  := Cache.sound_empty

/-- Every effect keeps the cache sound. -/
theorem Effect.sound {B B' : Books} {k k' : Stake} {news : List Happening}
    (h : Effect B k B' k' news) {stake : Nat → Stake} {i : Nat} (hi : stake i = k)
    (hs : B.cache.Sound stake) :
  B'.cache.Sound (Function.update stake i k')
  := by
  cases h with
  | entered name => apply hs.enter i name
  | queued name cell t hc =>
    apply hs.claim (h := ⟨name, cell, t, false⟩) (by rw [hi]) false nofun
  | found name cell t v hc =>
    have hclaim := hs.claim (h := ⟨name, cell, t, false⟩) (by rw [hi]) false nofun
    have hlet := hclaim.letGo (i := i) (by rw [Function.update_self])
    rw [Function.update_idem] at hlet
    apply hlet
  | permitted name cell t hc =>
    apply hs.claim (h := ⟨name, cell, t, false⟩) (by rw [hi]) true fun _ => hc
  | refused name cell t hc =>
    have hclaim := hs.claim (h := ⟨name, cell, t, false⟩) (by rw [hi]) false nofun
    have hgive := hclaim.giveUp (i := i) (by rw [Function.update_self])
    rw [Function.update_idem] at hgive
    apply hgive
  | failed name cell t => apply hs.giveUp (h := ⟨name, cell, t, true⟩) (by rw [hi])
  | established name cell t c b =>
    apply hs.fill (h := ⟨name, cell, t, true⟩) (by rw [hi]) rfl
  | forgot name cell t => apply hs.forget (i := i) (by rw [hi])
  | abandoned name cell t filling =>
    have hgive := hs.giveUp (h := ⟨name, cell, t, filling⟩) (by rw [hi])
    have hlet := hgive.letGo (i := i) (by rw [Function.update_self])
    rw [Function.update_idem] at hlet
    apply hlet
  | left name cell t => apply hs.letGo (h := ⟨name, cell, t, false⟩) (by rw [hi])
  | quiet =>
    apply hs.keep
    intro h hk
    rw [hi]
    apply hk
  | registered =>
    apply hs.keep
    intro h hk
    rw [hi]
    apply hk
  | _ => exact hs.keep i nofun

/-- Every step keeps an account sound. -/
theorem Account.Step.sound {a a' : Account} (hstep : a.Step a') (hs : a.Sound) :
  a'.Sound
  := by
  obtain ⟨i, B, k, news, h⟩ := hstep
  apply h.sound rfl hs

end ChannelBinding
