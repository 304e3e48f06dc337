import ChannelBinding.Value

/-!
# Documents

The tree that a configuration text describes.  Texts keep their escapes and numbers their digits: what
they mean is decided when they are used, so a value that is never looked at is never wrong.
-/

namespace ChannelBinding

/-- A piece of a text as it is written. -/
inductive TextPiece where
  /-- A character that stands for itself. -/
  | plain (c : Char)
  /-- A backslash and a character. -/
  | escaped (c : Char)
  /-- A backslash and a zero. -/
  | nul
  /-- A character by its code, in two hexadecimal digits. -/
  | code (digits : List Char)
  /-- A character, or half of one, in four hexadecimal digits. -/
  | unit (digits : List Char)
deriving DecidableEq, Repr

/-- A text as it is written. -/
abbrev WrittenText := List TextPiece

/-- A number in a document. -/
inductive Numeral where
  /-- A number as it is written. -/
  | written (digits : String)
  | int (n : Int)
  | float (x : Float)
deriving Repr, Inhabited

/-- A configuration document. -/
inductive Document where
  | null
  | bool (b : Bool)
  | number (n : Numeral)
  | text (t : WrittenText)
  | list (items : List Document)
  | object (members : List (WrittenText × Document))
deriving Repr, Inhabited

namespace Document

/-- A text without escapes, as it is written. -/
def writeText (s : String) : WrittenText := s.toList.map .plain

/-- The members of an object with their keys in ascending order. -/
def sortMembers (members : List (String × α)) : List (String × α) :=
  members.mergeSort fun a b => decide (a.1 ≤ b.1)

/-- The document of a value; the members of objects come in ascending order of their keys. -/
def ofValue : Value → Document
  | .null => .null
  | .bool b => .bool b
  | .int n => .number (.int n)
  | .float x => .number (.float x)
  | .text s => .text (writeText s)
  | .list items => .list (ofList items)
  | .object fields => .object ((sortMembers (ofFields fields)).map fun m => (writeText m.1, m.2))
where
  /-- The documents of values. -/
  ofList : List Value → List Document
    | [] => []
    | v :: vs => ofValue v :: ofList vs
  /-- The documents of fields. -/
  ofFields : List (String × Value) → List (String × Document)
    | [] => []
    | (k, v) :: fields => (k, ofValue v) :: ofFields fields

end Document

end ChannelBinding
