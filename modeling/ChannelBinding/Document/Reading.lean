import ChannelBinding.Decimal.Shortest
import ChannelBinding.Document.Basic
import ChannelBinding.Text.Quoted

/-!
# Reading typed values from documents

How texts, numbers, truth values, lists, tables and records are read from a document, and what is
reported when a document holds something else.  A document is read in the order in which it is
written, and the first thing that is wrong with it is the error.
-/

namespace ChannelBinding

/-- Why a document does not hold what is asked for. -/
inductive ReadError where
  /-- Something of another type. -/
  | invalidType (found expected : String)
  /-- A value that the type does not have. -/
  | invalidValue (found expected : String)
  | invalidLength (length : Nat) (expected : String)
  | unknownField (name : String) (known : List String)
  | duplicateField (name : String)
  | missingField (name : String)
  /-- A whole number that is out of range. -/
  | integer
  /-- Hexadecimal digits that are out of range, or none. -/
  | hexadecimal
  /-- Something that is not a number. -/
  | number
  /-- A number that is not finite. -/
  | tooLarge
  /-- The second half of a character, without a first half before it. -/
  | trailUnexpected
  /-- The first half of a character, at the end of a text. -/
  | trailMissing
  /-- The first half of a character, and something else after it. -/
  | trailExpected
deriving DecidableEq, Repr

namespace ReadError

/-- Names of fields in a sentence that offers them for choice. -/
def offer : List String → String
  | [] => "there are no fields"
  | [a] => s!"expected `{a}`"
  | [a, b] => s!"expected `{a}` or `{b}`"
  | names => "expected one of " ++ ", ".intercalate (names.map fun a => s!"`{a}`")

/-- The wording of a read error. -/
def message : ReadError → String
  | invalidType found expected => s!"invalid type: {found}, expected {expected}"
  | invalidValue found expected => s!"invalid value: {found}, expected {expected}"
  | invalidLength length expected => s!"invalid length {length}, expected {expected}"
  | unknownField name known => s!"unknown field `{name}`, {offer known}"
  | duplicateField name => s!"duplicate field `{name}`"
  | missingField name => s!"missing field `{name}`"
  | integer => "error parsing integer"
  | hexadecimal => "error parsing hex"
  | number => "error parsing number"
  | tooLarge => "error parsing number: too large"
  | trailUnexpected => "unexpected unicode trail surrogate"
  | trailMissing => "missing unicode trail surrogate"
  | trailExpected => "expecting unicode trail surrogate"

end ReadError

/-- The ways in which kinds of documents differ. -/
structure Dialect where
  /-- What the null value is called. -/
  nullName : String
  /-- How fractional numbers are written in errors. -/
  floatStyle : Decimal.FloatStyle
  /-- Whether anything that stands where a number is asked for is taken for one that is ill written. -/
  takesAllForNumbers : Bool
  /-- Whether a list that stands for a record may be longer than the record. -/
  allowsExtraItems : Bool
  /-- Whether null can stand for an empty object of untyped values. -/
  nullIsEmptyObject : Bool

/-- Documents that are read from texts. -/
def Dialect.written : Dialect := ⟨"unit value", .plain, true, true, true⟩

/-- Documents that are made of values. -/
def Dialect.ofValues : Dialect := ⟨"null", .scientific, false, false, false⟩

/-- A reading, or what is wrong. -/
abbrev Read := Except ReadError

/-! ## Texts -/

namespace TextPiece

/-- The digits or the character of a piece as they are written. -/
def written : TextPiece → List Char
  | plain c => [c]
  | escaped c => [c]
  | nul => ['0']
  | code digits => digits
  | unit digits => digits

/-- The number that a piece writes in hexadecimal digits. -/
def hex (piece : TextPiece) : Read Nat :=
  match Decimal.readHex piece.written with
  | some n => .ok n
  | none => .error .hexadecimal

/-- The character that a backslash and another character stand for. -/
def unescape (c : Char) : Char :=
  if c = 'b' then '\x08'
  else if c = 'f' then '\x0c'
  else if c = 'n' then '\n'
  else if c = 'r' then '\r'
  else if c = 't' then '\t'
  else if c = 'v' then '\x0b'
  else c

/-- The character that two halves make up. -/
def join (lead trail : Nat) : Char :=
  Char.ofNat (((lead - 0xd800) <<< 10) ||| (trail - 0xdc00 + 0x10000))

end TextPiece

namespace WrittenText

/-- The characters that a written text stands for. -/
def decodeChars : WrittenText → Read (List Char)
  | [] => .ok []
  | .plain c :: rest => (c :: ·) <$> decodeChars rest
  | .escaped c :: rest => (TextPiece.unescape c :: ·) <$> decodeChars rest
  | .nul :: rest => (Char.ofNat 0 :: ·) <$> decodeChars rest
  | .code digits :: rest => do
    let n ← (TextPiece.code digits).hex
    (Char.ofNat n :: ·) <$> decodeChars rest
  | .unit digits :: rest => do
    let n ← (TextPiece.unit digits).hex
    if 0xdc00 ≤ n ∧ n ≤ 0xdfff then throw .trailUnexpected
    else if 0xd800 ≤ n ∧ n ≤ 0xdbff then
      match rest with
      | [] => throw .trailMissing
      | piece :: rest =>
        let trail ← piece.hex
        if 0xdc00 ≤ trail ∧ trail ≤ 0xdfff then
          (TextPiece.join n trail :: ·) <$> decodeChars rest
        else throw .trailExpected
    else (Char.ofNat n :: ·) <$> decodeChars rest

/-- The text that a written text stands for. -/
def decode (t : WrittenText) : Read String := String.ofList <$> decodeChars t

end WrittenText

/-! ## Numbers -/

namespace Numeral

/-- The digits of a hexadecimal numeral. -/
def hexDigits? (digits : String) : Option (List Char) :=
  match digits.toList with
  | '0' :: x :: d :: ds => if x = 'x' || x = 'X' then some (d :: ds) else none
  | _ => none

/-- The value of hexadecimal digits, which have to fit 32 bits. -/
def readHex (ds : List Char) : Read Nat :=
  match Decimal.readHex ds with
  | some n => if n < UInt32.size then .ok n else .error .hexadecimal
  | none => .error .hexadecimal

/-- Whether a numeral that is not looked at as a number of some type is a whole number. -/
def isWhole (digits : String) : Bool :=
  let cs := digits.toList
  !cs.contains '.' &&
    ((hexDigits? digits).isSome || (!cs.contains 'e' && !cs.contains 'E')) &&
    !(["Infinity", "-Infinity", "NaN", "-NaN"].contains digits)

/-- The whole number that a numeral writes, which has to fit 64 bits with a sign. -/
def readWhole (digits : String) : Read Int :=
  match hexDigits? digits with
  | some ds => (fun n => (n : Int)) <$> readHex ds
  | none =>
    match Decimal.readInt digits with
    | some n => if Int64.minValue.toInt ≤ n ∧ n ≤ Int64.maxValue.toInt then .ok n else .error .integer
    | none => .error .integer

/-- The double that a numeral writes. -/
def readDouble (digits : String) : Read Float :=
  if digits = "Infinity" then .ok (1.0 / 0.0)
  else if digits = "-Infinity" then .ok (-1.0 / 0.0)
  else if digits = "NaN" || digits = "-NaN" then .ok (0.0 / 0.0)
  else
    match hexDigits? digits with
    | some ds => Float.ofNat <$> readHex ds
    | none =>
      -- a sign before a word leaves a number that is not finite
      if digits = "+Infinity" || digits = "+NaN" then .error .tooLarge
      else
        match Decimal.readFloat digits with
        | some x => if x.isFinite then .ok x else .error .tooLarge
        | none => .error .number

end Numeral

namespace Document

variable (d : Dialect)

/-- What a document is called in an error. -/
def describe : Document → Read String
  | .null => .ok d.nullName
  | .bool b => .ok s!"boolean `{b}`"
  | .text t => (fun s => s!"string {Text.quote s}") <$> t.decode
  | .list _ => .ok "sequence"
  | .object _ => .ok "map"
  | .number (.int n) => .ok s!"integer `{n}`"
  | .number (.float x) => .ok s!"floating point `{d.floatStyle.format x}`"
  | .number (.written digits) =>
    if Numeral.isWhole digits then
      (fun n => s!"integer `{n}`") <$> Numeral.readWhole digits
    else (fun x => s!"floating point `{d.floatStyle.format x}`") <$> Numeral.readDouble digits

/-- Refuses a document for its type. -/
def refuse (doc : Document) (expected : String) : Read α := do
  let found ← doc.describe d
  throw (.invalidType found expected)

/-- Reads a text. -/
def readText : Document → Read String
  | .text t => t.decode
  | doc => doc.refuse d "a string"

/-- Reads a truth value. -/
def readBool : Document → Read Bool
  | .bool b => .ok b
  | doc => doc.refuse d "a boolean"

/-- Reads a number of a type named `expected`: a written number as `ofFloat` converts it, a whole
number as `ofInt?` does. -/
def readNumber (expected : String) (ofFloat : Float → α) (ofInt? : Int → Option α)
    (ofFraction? : Float → Option α) : Document → Read α
  | .number (.written digits) => ofFloat <$> Numeral.readDouble digits
  | .number (.int n) =>
    match ofInt? n with
    | some a => .ok a
    | none => .error (.invalidValue s!"integer `{n}`" expected)
  | .number (.float x) =>
    match ofFraction? x with
    | some a => .ok a
    | none => (Document.number (.float x)).refuse d expected
  | doc => if d.takesAllForNumbers then .error .number else doc.refuse d expected

/-- Reads a number of 32 bits. -/
def readUInt32 : Document → Read UInt32 :=
  readNumber d "u32" Float.toUInt32
    (fun n => if 0 ≤ n ∧ n < UInt32.size then some (UInt32.ofNat n.toNat) else none) fun _ => none

/-- Reads a number of 64 bits. -/
def readUInt64 : Document → Read UInt64 :=
  readNumber d "u64" Float.toUInt64
    (fun n => if 0 ≤ n ∧ n < UInt64.size then some (UInt64.ofNat n.toNat) else none) fun _ => none

/-- Reads a double. -/
def readFloat : Document → Read Float :=
  readNumber d "f64" id (fun n => some (Float.ofInt n)) some

/-- Reads something, or null. -/
def readOption (read : Document → Read α) : Document → Read (Option α)
  | .null => .ok none
  | doc => some <$> read doc

/-- Reads a list. -/
def readList (read : Document → Read α) : Document → Read (List α)
  | .list items => items.mapM read
  | doc => doc.refuse d "a sequence"

/-- Reads a table of names; the last value of a name counts. -/
def readTable (read : Document → Read α) : Document → Read (Table String α)
  | .object members =>
    members.foldlM (fun t (k, v) => do
      let name ← WrittenText.decode k
      let a ← read v
      return t.insert name a) ∅
  | doc => doc.refuse d "a map"

/-! ## Untyped values -/

mutual

/-- Reads an untyped value. -/
def readValue : Document → Read Value
  | .null => .ok .null
  | .bool b => .ok (.bool b)
  | .text t => Value.text <$> WrittenText.decode t
  | .number (.int n) => .ok (.int n)
  | .number (.float x) => .ok (.ofFloat x)
  | .number (.written digits) =>
    if Numeral.isWhole digits then Value.int <$> Numeral.readWhole digits
    else Value.ofFloat <$> Numeral.readDouble digits
  | .list items => Value.list <$> readValues items
  | .object members => (fun t => Value.object t.entries) <$> readMembers ∅ members

/-- Reads the items of a list of untyped values. -/
def readValues : List Document → Read (List Value)
  | [] => .ok []
  | item :: items => do
    let v ← readValue item
    let vs ← readValues items
    return v :: vs

/-- Reads the members of an object of untyped values into a table; the last value of a name
counts. -/
def readMembers (t : Table String Value) :
    List (WrittenText × Document) → Read (Table String Value)
  | [] => .ok t
  | (k, doc) :: members => do
    let name ← WrittenText.decode k
    let v ← readValue doc
    readMembers (t.insert name v) members

end

/-- Reads an object of untyped values. -/
def readExtension : Document → Read Extension
  | .object members => readMembers ∅ members
  | .null => if d.nullIsEmptyObject then .ok ∅ else Document.null.refuse d "a map"
  | doc => doc.refuse d "a map"

/-! ## Records -/

/-- How a field of a record is called and read. -/
structure FieldReader (α : Type) where
  name : String
  /-- Reads the field into a record. -/
  read : α → Document → Read α
  required : Bool := false

/-- Reads the members of an object into the fields of a record; a field that is there may not come
again. -/
def readFields (fields : List (FieldReader α)) :
    α → (seen : List String) → List (WrittenText × Document) → Read (α × List String)
  | record, seen, [] => .ok (record, seen)
  | record, seen, (k, v) :: members => do
    let name ← WrittenText.decode k
    match fields.find? fun field => field.name = name with
    | none => throw (.unknownField name (fields.map FieldReader.name))
    | some field =>
      if seen.contains name then throw (.duplicateField name)
      else
        let record ← field.read record v
        readFields fields record (name :: seen) members

/-- Reads the items of a list into the fields of a record, in order. -/
def readItems (expected : String) :
    List (FieldReader α) → List Document → (index : Nat) → α → Read α
  | [], _, _, record => .ok record
  | field :: fields, [], index, record =>
    if field.required then throw (.invalidLength index expected)
    else readItems expected fields [] (index + 1) record
  | field :: fields, item :: items, index, record => do
    let record ← field.read record item
    readItems expected fields items (index + 1) record

/-- Reads a record from an object, or from a list of its fields in order. -/
def readRecord (name : String) (fields : List (FieldReader α)) (record : α) : Document → Read α
  | .object members => do
    let (record, seen) ← readFields fields record [] members
    match fields.find? fun field => field.required && !seen.contains field.name with
    | some field => throw (.missingField field.name)
    | none => return record
  | .list items => do
    let plural := if fields.length = 1 then "element" else "elements"
    let record ← readItems s!"struct {name} with {fields.length} {plural}" fields items 0 record
    if items.length ≤ fields.length || d.allowsExtraItems then return record
    else throw (.invalidLength items.length "fewer elements in array")
  | doc => doc.refuse d s!"struct {name}"

end Document

end ChannelBinding
