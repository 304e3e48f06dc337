/-!
# Blank characters

The white space characters of the Unicode character database, trimming, blank texts, and the comma
separated parts of a text.  A text is blank exactly when trimming leaves nothing of it.
-/

namespace ChannelBinding.Text

/-- Whether a character is white space. -/
def isBlank (c : Char) : Bool :=
  let n := c.toNat
  (9 ≤ n && n ≤ 13) || n = 0x20 || n = 0x85 || n = 0xa0 || n = 0x1680 ||
    (0x2000 ≤ n && n ≤ 0x200a) || n = 0x2028 || n = 0x2029 || n = 0x202f || n = 0x205f || n = 0x3000

/-- The characters without the blank ones at either end. -/
def trimChars (cs : List Char) : List Char :=
  ((cs.dropWhile isBlank).reverse.dropWhile isBlank).reverse

/-- A text without the blank characters at either end. -/
def trim (s : String) : String := String.ofList (trimChars s.toList)

/-- Whether a text has no character but blank ones. -/
def isBlankText (s : String) : Bool := s.toList.all isBlank

theorem dropWhile_eq_nil_iff_all {p : Char → Bool} {cs : List Char} :
  cs.dropWhile p = [] ↔ cs.all p = true
  := by
  induction cs with
  | nil => simp
  | cons c r ih => by_cases h : p c <;> simp [h, ih]

theorem trimChars_eq_nil_iff {cs : List Char} :
  trimChars cs = [] ↔ cs.all isBlank = true
  := by
  constructor
  · intro h
    have h' : ((cs.dropWhile isBlank).reverse).dropWhile isBlank = [] := by
      simpa [trimChars] using h
    rw [dropWhile_eq_nil_iff_all, List.all_reverse] at h'
    rw [← dropWhile_eq_nil_iff_all]
    cases hd : cs.dropWhile isBlank with
    | nil => rfl
    | cons c r =>
      have hc := List.head_dropWhile_not isBlank (l := cs) (by simp [hd])
      simp_all
  · intro h
    simp [trimChars, dropWhile_eq_nil_iff_all.2 h]

/-- Trimming leaves nothing exactly of the blank texts. -/
theorem trim_eq_empty_iff {s : String} :
  trim s = "" ↔ isBlankText s = true
  := by
  simp [trim, isBlankText, trimChars_eq_nil_iff]

/-- Trimming leaves blank characters alone only if there is nothing else. -/
theorem all_trimChars (cs : List Char) :
  (trimChars cs).all isBlank = cs.all isBlank
  := by
  rw [Bool.eq_iff_iff]
  constructor
  · intro h
    rw [← trimChars_eq_nil_iff, trimChars, List.reverse_eq_nil_iff]
    rw [trimChars, List.all_reverse, List.all_eq_true] at h
    cases hrest : (cs.dropWhile isBlank).reverse.dropWhile isBlank with
    | nil => rfl
    | cons c r =>
      -- what is left ends with a character that is not blank
      have hlast := List.head_dropWhile_not isBlank (l := (cs.dropWhile isBlank).reverse)
        (by simp [hrest])
      simp only [hrest, List.head_cons] at hlast
      rw [h c (by simp [hrest])] at hlast
      cases hlast
  · intro h
    rw [trimChars_eq_nil_iff.mpr h]
    rfl

/-- A text is as blank as what trimming leaves of it. -/
theorem isBlankText_trim (s : String) :
  isBlankText (trim s) = isBlankText s
  := by
  rw [isBlankText, trim, String.toList_ofList, all_trimChars, isBlankText]

/-- The parts of a sequence of characters between the separators. -/
def cutAt (separator : Char) : List Char → List (List Char)
  | [] => [[]]
  | c :: r =>
    if c = separator then [] :: cutAt separator r
    else
      match cutAt separator r with
      | [] => [[c]]
      | part :: parts => (c :: part) :: parts

/-- The comma separated parts of a text, trimmed, the empty ones left out. -/
def commaParts (s : String) : List String :=
  ((cutAt ',' s.toList).map fun part => String.ofList (trimChars part)).filter (· ≠ "")

/-- A sequence without the separator is its only part. -/
theorem cutAt_of_not_mem {separator : Char} {cs : List Char} (h : separator ∉ cs) :
  cutAt separator cs = [cs]
  := by
  induction cs with
  | nil => rfl
  | cons c r ih =>
    rw [List.mem_cons, not_or] at h
    rw [cutAt, if_neg (Ne.symm h.1), ih h.2]

/-- A text without commas that is not blank is, once trimmed, its only part. -/
theorem commaParts_of_not_mem {s : String} (h : ',' ∉ s.toList) (hblank : isBlankText s = false) :
  commaParts s = [trim s]
  := by
  have hne : trim s ≠ "" := by
    rw [ne_eq, trim_eq_empty_iff, hblank]
    exact Bool.false_ne_true
  rw [commaParts, cutAt_of_not_mem h, List.map_singleton, ← trim]
  simp [hne]

/-- The parts of a sequence have its characters but for the separators. -/
theorem forall_mem_cutAt_iff {separator : Char} {cs : List Char} {P : Char → Prop} :
  (∀ part ∈ cutAt separator cs, ∀ c ∈ part, P c) ↔ ∀ c ∈ cs, c = separator ∨ P c
  := by
  induction cs with
  | nil => simp [cutAt]
  | cons c r ih =>
    rw [cutAt, List.forall_mem_cons, ← ih]
    by_cases h : c = separator
    · simp [h]
    · cases cutAt separator r with
      | nil => simp [h]
      | cons part parts => simp [h, and_assoc]

/-- A text has no parts exactly if it consists of commas and blank characters. -/
theorem commaParts_eq_nil_iff {s : String} :
  commaParts s = [] ↔ ∀ c ∈ s.toList, c = ',' ∨ isBlank c = true
  := by
  have hempty : ∀ cs : List Char, String.ofList (trimChars cs) = "" ↔ ∀ c ∈ cs, isBlank c = true := by
    intro cs
    rw [String.ofList_eq_empty_iff, trimChars_eq_nil_iff, List.all_eq_true]
  rw [← forall_mem_cutAt_iff, commaParts, List.filter_eq_nil_iff, List.forall_mem_map]
  simp only [ne_eq, decide_not, Bool.not_eq_true', decide_eq_false_iff_not, Classical.not_not, hempty]

/-- No part between commas is blank. -/
theorem not_blank_of_mem_commaParts {s part : String} (h : part ∈ commaParts s) :
  isBlankText part = false
  := by
  simp only [commaParts, List.mem_filter, List.mem_map, decide_eq_true_eq] at h
  obtain ⟨⟨cs, -, rfl⟩, hne⟩ := h
  rw [Bool.eq_false_iff]
  intro hblank
  apply hne
  rw [isBlankText, String.toList_ofList, all_trimChars, ← trimChars_eq_nil_iff] at hblank
  rw [hblank]

end ChannelBinding.Text
