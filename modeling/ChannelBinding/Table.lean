/-!
# Tables

A table is a finite map kept as a list of entries, in the order in which their keys were first
inserted.  Its view is `get?`: an insertion changes it at one key, an erasure removes one key, and
every other key keeps its value.  Insertion and erasure keep the keys free of repetitions.
-/

namespace ChannelBinding

/-- A finite map from keys to values, in order of insertion. -/
structure Table (κ : Type u) (α : Type v) where
  entries : List (κ × α) := []
deriving Repr

namespace Table

variable {κ : Type u} {α : Type v}

instance : EmptyCollection (Table κ α) := ⟨⟨[]⟩⟩

instance : Inhabited (Table κ α) := ⟨∅⟩

/-- The keys of a table, in order of insertion. -/
def keys (t : Table κ α) : List κ := t.entries.map Prod.fst

/-- The number of keys of a table. -/
def size (t : Table κ α) : Nat := t.entries.length

variable [DecidableEq κ]

/-- The value of a key in a list of entries. -/
def find (k : κ) : List (κ × α) → Option α
  | [] => none
  | (k', v) :: rest => if k' = k then some v else find k rest

/-- The entries with the value of a key replaced, or with the key added at the end. -/
def put (k : κ) (v : α) : List (κ × α) → List (κ × α)
  | [] => [(k, v)]
  | (k', v') :: rest => if k' = k then (k, v) :: rest else (k', v') :: put k v rest

/-- The value of a key. -/
def get? (t : Table κ α) (k : κ) : Option α := find k t.entries

/-- Whether a table has a key. -/
def contains (t : Table κ α) (k : κ) : Bool := (t.get? k).isSome

/-- The table in which a key has a given value. -/
def insert (t : Table κ α) (k : κ) (v : α) : Table κ α := ⟨put k v t.entries⟩

/-- The table without a key. -/
def erase (t : Table κ α) (k : κ) : Table κ α := ⟨t.entries.filter fun entry => entry.1 ≠ k⟩

/-- The table of a list of entries, of which the last one of a key counts. -/
def ofEntries (entries : List (κ × α)) : Table κ α :=
  entries.foldl (fun t entry => t.insert entry.1 entry.2) ∅

/-! ## The view -/

@[simp]
theorem get?_empty (k : κ) :
  (∅ : Table κ α).get? k = none
  := rfl

/-- The value of a key stands in an entry. -/
theorem mem_entries_of_get? {t : Table κ α} {k : κ} {v : α} (h : t.get? k = some v) :
  (k, v) ∈ t.entries
  := by
  obtain ⟨entries⟩ := t
  simp only [get?] at h
  induction entries with
  | nil => cases h
  | cons entry rest ih =>
    obtain ⟨k', v'⟩ := entry
    rw [find] at h
    split at h
    · rename_i hk
      cases h
      cases hk
      apply List.mem_cons_self
    · apply List.mem_cons_of_mem _ (ih h)

theorem find_put (k j : κ) (v : α) (entries : List (κ × α)) :
  find j (put k v entries) = if k = j then some v else find j entries
  := by
  induction entries with
  | nil => simp [put, find]
  | cons entry rest ih =>
    obtain ⟨k', v'⟩ := entry
    by_cases h : k' = k
    · subst h
      by_cases h' : k' = j <;> simp [put, find, h']
    · by_cases h' : k' = j
      · subst h'
        simp [put, find, h, Ne.symm h]
      · simp [put, find, h, h', ih]

/-- Insertion changes the value of its key alone. -/
theorem get?_insert (t : Table κ α) (k j : κ) (v : α) :
  (t.insert k v).get? j = if k = j then some v else t.get? j
  := find_put k j v t.entries

@[simp]
theorem get?_insert_self (t : Table κ α) (k : κ) (v : α) :
  (t.insert k v).get? k = some v
  := by
  simp [get?_insert]

theorem get?_insert_of_ne (t : Table κ α) {k j : κ} (v : α) (h : k ≠ j) :
  (t.insert k v).get? j = t.get? j
  := by
  simp [get?_insert, h]

/-- Insertion under a new key leaves the other values as they are. -/
theorem get?_insert_of_new {t : Table κ α} {k j : κ} {w : α} (v : α) (hk : t.get? k = none)
    (hj : t.get? j = some w) :
  (t.insert k v).get? j = some w
  := by
  rw [get?_insert_of_ne, hj]
  rintro rfl
  rw [hk] at hj
  cases hj

theorem find_filter_ne (k j : κ) (entries : List (κ × α)) :
  find j (entries.filter fun entry => entry.1 ≠ k) = if k = j then none else find j entries
  := by
  induction entries with
  | nil => simp [find]
  | cons entry rest ih =>
    obtain ⟨k', v'⟩ := entry
    by_cases h : k' = k
    · subst h
      by_cases h' : k' = j
      · subst h'
        simpa using ih
      · simpa [find, h'] using ih
    · by_cases h' : k' = j
      · subst h'
        simp [find, h, Ne.symm h]
      · simpa [find, h, h'] using ih

/-- Erasure removes its key alone. -/
theorem get?_erase (t : Table κ α) (k j : κ) :
  (t.erase k).get? j = if k = j then none else t.get? j
  := find_filter_ne k j t.entries

@[simp]
theorem get?_erase_self (t : Table κ α) (k : κ) :
  (t.erase k).get? k = none
  := by
  simp [get?_erase]

theorem get?_erase_of_ne (t : Table κ α) {k j : κ} (h : k ≠ j) :
  (t.erase k).get? j = t.get? j
  := by
  simp [get?_erase, h]

/-- A new key that is taken out again leaves nothing behind. -/
theorem erase_insert {t : Table κ α} {k : κ} (h : t.get? k = none) (v : α) :
  (t.insert k v).erase k = t
  := by
  obtain ⟨entries⟩ := t
  simp only [get?] at h
  simp only [insert, erase, mk.injEq]
  induction entries with
  | nil => simp [put]
  | cons entry entries ih =>
    obtain ⟨k', v'⟩ := entry
    by_cases hk : k' = k
    · simp [find, hk] at h
    · simp only [find, hk, if_false] at h
      rw [put, if_neg hk, List.filter_cons_of_pos (by simpa using hk), ih h]

/-- A table has exactly the keys that it lists. -/
theorem mem_keys_iff {t : Table κ α} {k : κ} :
  k ∈ t.keys ↔ (t.get? k).isSome = true
  := by
  obtain ⟨entries⟩ := t
  simp only [keys, get?]
  induction entries with
  | nil => simp [find]
  | cons entry rest ih =>
    obtain ⟨k', v'⟩ := entry
    by_cases h : k' = k
    · simp [find, h]
    · simp [find, h, Ne.symm h, ih]

/-! ## Keys do not repeat -/

theorem mem_keys_put {k j : κ} {v : α} {entries : List (κ × α)} :
  j ∈ (put k v entries).map Prod.fst ↔ j = k ∨ j ∈ entries.map Prod.fst
  := by
  induction entries with
  | nil => simp [put]
  | cons entry rest ih =>
    obtain ⟨k', v'⟩ := entry
    by_cases hk : k' = k
    · subst hk
      simp [put]
    · simp only [put, hk, if_false, List.map_cons, List.mem_cons, ih]
      grind

theorem nodup_keys_put {k : κ} {v : α} {entries : List (κ × α)}
    (h : (entries.map Prod.fst).Nodup) :
  ((put k v entries).map Prod.fst).Nodup
  := by
  induction entries with
  | nil => simp [put]
  | cons entry rest ih =>
    obtain ⟨k', v'⟩ := entry
    by_cases hk : k' = k
    · subst hk
      simpa [put] using h
    · simp only [put, hk, if_false, List.map_cons, List.nodup_cons] at h ⊢
      exact ⟨fun hm => (mem_keys_put.1 hm).elim hk h.1, ih h.2⟩

/-- Insertion keeps the keys free of repetitions. -/
theorem nodup_keys_insert {t : Table κ α} (k : κ) (v : α) (h : t.keys.Nodup) :
  (t.insert k v).keys.Nodup
  := nodup_keys_put h

/-- Where keys do not repeat, the value of a key is the one that stands in an entry. -/
theorem get?_eq_some_iff {t : Table κ α} (h : t.keys.Nodup) {k : κ} {v : α} :
  t.get? k = some v ↔ (k, v) ∈ t.entries
  := by
  obtain ⟨entries⟩ := t
  simp only [keys] at h
  simp only [get?]
  induction entries with
  | nil => simp [find]
  | cons entry rest ih =>
    obtain ⟨k', v'⟩ := entry
    rw [List.map_cons, List.nodup_cons] at h
    by_cases hk : k' = k
    · subst hk
      have hnew : (k', v) ∉ rest := fun hmem => h.1 (List.mem_map.mpr ⟨_, hmem, rfl⟩)
      simp [find, hnew, eq_comm]
    · simp [find, hk, Ne.symm hk, ih h.2]

end Table

end ChannelBinding
