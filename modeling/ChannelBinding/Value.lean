import ChannelBinding.Table

/-!
# Values

Untyped values, as transport specific settings carry them: null, truth values, whole and fractional
numbers, texts, lists and objects.  `Extension` is a table of such values.
-/

namespace ChannelBinding

/-- An untyped value. -/
inductive Value where
  | null
  | bool (b : Bool)
  | int (n : Int)
  | float (x : Float)
  | text (s : String)
  | list (items : List Value)
  | object (fields : List (String × Value))
deriving Repr, Inhabited

/-- The value of a fractional number; only finite numbers have one. -/
def Value.ofFloat (x : Float) : Value := if x.isFinite then .float x else .null

/-- Settings that a transport understands and nothing else looks into. -/
abbrev Extension := Table String Value

/-- The extension with each missing key taken from `defaults`. -/
def Extension.withDefaults (ext defaults : Extension) : Extension :=
  defaults.entries.foldl (fun e entry => if e.contains entry.1 then e else e.insert entry.1 entry.2) ext

/-- A key that is there keeps its value, and every other key has the default. -/
theorem Extension.get?_withDefaults (ext defaults : Extension) (key : String) :
  (ext.withDefaults defaults).get? key = (ext.get? key).or (defaults.get? key)
  := by
  obtain ⟨entries⟩ := defaults
  change (entries.foldl _ ext).get? key = (ext.get? key).or (Table.find key entries)
  induction entries generalizing ext with
  | nil => simp [Table.find]
  | cons entry rest ih =>
    obtain ⟨k, v⟩ := entry
    rw [List.foldl_cons, ih, Table.find]
    by_cases heq : k = key
    · subst heq
      cases hk : ext.get? k with
      | some w => simp [Table.contains, hk]
      | none => simp [Table.contains, hk]
    · cases hk : ext.get? k with
      | some w => simp [Table.contains, hk, heq]
      | none => simp [Table.contains, hk, heq, Table.get?_insert_of_ne]

end ChannelBinding
