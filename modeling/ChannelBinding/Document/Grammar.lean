import ChannelBinding.Decimal.Reading
import ChannelBinding.Document.Basic
import ChannelBinding.Text.Letters
import ChannelBinding.Text.Marks

/-!
# The grammar of configuration texts

A text of the JSON5 format is read by ordered choice, without looking back once an alternative has
matched.  The rules that have a name leave a trace where they fail to match: the furthest place at
which a named rule was tried in vain, with the rules that were tried there, is what a syntax error
reports.
-/

namespace ChannelBinding

namespace Grammar

/-- The named rules, in the order in which they are reported. -/
inductive Rule where
  | endOfInput
  | array
  | boolean
  | charEscape
  | charLiteral
  | hexEscape
  | identifier
  | nulEscape
  | null
  | number
  | object
  | string
  | unicodeEscape
deriving DecidableEq, Repr

/-- All rules, in the order in which they are reported. -/
def Rule.all : List Rule :=
  [.endOfInput, .array, .boolean, .charEscape, .charLiteral, .hexEscape, .identifier, .nulEscape,
    .null, .number, .object, .string, .unicodeEscape]

/-- The name of a rule. -/
def Rule.name : Rule → String
  | .endOfInput => "EOI"
  | .array => "array"
  | .boolean => "boolean"
  | .charEscape => "char_escape_sequence"
  | .charLiteral => "char_literal"
  | .hexEscape => "hex_escape_sequence"
  | .identifier => "identifier"
  | .nulEscape => "nul_escape_sequence"
  | .null => "null"
  | .number => "number"
  | .object => "object"
  | .string => "string"
  | .unicodeEscape => "unicode_escape_sequence"

/-- A place in a text: the number of characters before it, and what follows it. -/
structure Cursor where
  /-- The number of characters of the whole text. -/
  size : Nat
  pos : Nat
  rest : List Char
deriving Repr

/-- The place after the next `n` characters. -/
def Cursor.advance (c : Cursor) (n : Nat) : Cursor :=
  { c with pos := c.pos + n, rest := c.rest.drop n }

/-- The furthest place at which a rule was tried in vain, and the rules that were tried there. -/
structure Attempts where
  pos : Nat := 0
  rules : List Rule := []
deriving Repr

/-- The attempts with a rule that was tried in vain at a place. -/
def Attempts.add (a : Attempts) (pos : Nat) (rule : Rule) : Attempts :=
  if a.pos < pos then ⟨pos, [rule]⟩
  else if a.pos = pos then ⟨pos, rule :: a.rules⟩
  else a

/-- A reader of a part of a text; a reader that fails leaves its attempts behind. -/
abbrev Reader := StateT Cursor (OptionT (StateM Attempts))

namespace Reader

/-- Leaves a trace if a named rule does not match. -/
def named (rule : Rule) (p : Reader α) : Reader α := fun c attempts =>
  match p c attempts with
  | (none, attempts) => (none, attempts.add c.pos rule)
  | matched => matched

/-- Reads a character of a class. -/
def satisfy (p : Char → Bool) : Reader Char := do
  let c ← get
  match c.rest with
  | ch :: _ => if p ch then set (c.advance 1) *> pure ch else failure
  | [] => failure

/-- Reads a given character. -/
def char (ch : Char) : Reader Unit := do
  let _ ← satisfy (· = ch)

/-- Reads the given characters. -/
def word : List Char → Reader Unit
  | [] => pure ()
  | ch :: rest => char ch *> word rest

/-- Reads as many parts as there are, at most `n`. -/
def upTo (p : Reader α) : (n : Nat) → Reader (List α)
  | 0 => pure []
  | n + 1 =>
    (do
      let a ← p
      let as ← upTo p n
      pure (a :: as)) <|> pure []

/-- Reads as many parts as there are; each part has a character at least. -/
def many (p : Reader α) : Reader (List α) := do
  let c ← get
  upTo p c.size

/-- Reads a part, or nothing. -/
def optional (p : Reader Unit) : Reader Unit := p <|> pure ()

/-- The characters that a reader reads. -/
def textOf (p : Reader Unit) : Reader (List Char) := do
  let before ← get
  p
  let after ← get
  pure (before.rest.take (after.pos - before.pos))

end Reader

open Reader

/-! ## Space -/

/-- Whether a character ends a line. -/
def isLineTerminator (c : Char) : Bool :=
  c = '\n' || c = '\r' || c.toNat = 0x2028 || c.toNat = 0x2029

/-- Whether a character may stand between the parts of a document. -/
def isSpace (c : Char) : Bool :=
  let n := c.toNat
  n = 9 || n = 0xb || n = 0xc || n = 0x20 || n = 0xa0 || n = 0xfeff || n = 0x1680 ||
    (0x2000 ≤ n && n ≤ 0x200a) || n = 0x202f || n = 0x205f || n = 0x3000 || isLineTerminator c

/-- The length of a block comment after its opening, the closing included. -/
def blockLength : List Char → Option Nat
  | '*' :: '/' :: _ => some 2
  | _ :: rest => (blockLength rest).map (· + 1)
  | [] => none

/-- The length of the comment that starts here. -/
def commentLength : List Char → Option Nat
  | '/' :: '*' :: rest => (blockLength rest).map (· + 2)
  | '/' :: '/' :: rest => some (2 + (rest.takeWhile fun c => !isLineTerminator c).length)
  | _ => none

/-- Skips space and comments, at most `n` of them. -/
def skipSpace : (n : Nat) → Cursor → Cursor
  | 0, c => c
  | n + 1, c =>
    match c.rest with
    | [] => c
    | ch :: _ =>
      if isSpace ch then skipSpace n (c.advance 1)
      else
        match commentLength c.rest with
        | some length => skipSpace n (c.advance length)
        | none => c

/-- Skips all space and comments. -/
def space : Reader Unit := modify fun c => skipSpace c.size c

/-! ## Numbers -/

/-- Whether a character is a hexadecimal digit. -/
def isHexDigit (c : Char) : Bool := (Decimal.hexDigit? c).isSome

/-- Reads one or more characters of a class. -/
def some1 (p : Char → Bool) : Reader Unit := do
  let _ ← satisfy p
  let _ ← many (satisfy p)

/-- Reads any number of characters of a class. -/
def any0 (p : Char → Bool) : Reader Unit := do
  let _ ← many (satisfy p)

/-- Reads a sign, if there is one. -/
def sign : Reader Unit := optional (char '+' <|> char '-')

/-- Reads a decimal integer; one of several digits does not start with a zero. -/
def decimalInteger : Reader Unit :=
  char '0' <|> do
    let _ ← satisfy fun c => c.isDigit && c ≠ '0'
    any0 Char.isDigit

/-- Reads an exponent. -/
def exponentPart : Reader Unit := do
  char 'e' <|> char 'E'
  sign
  some1 Char.isDigit

/-- Reads a decimal number. -/
def decimalNumber : Reader Unit :=
  (do decimalInteger; char '.'; any0 Char.isDigit; optional exponentPart) <|>
  (do char '.'; some1 Char.isDigit; optional exponentPart) <|>
  (do decimalInteger; optional exponentPart)

/-- Reads a hexadecimal number. -/
def hexNumber : Reader Unit := do
  char '0'
  char 'x' <|> char 'X'
  some1 isHexDigit

/-- Reads a number. -/
def number : Reader Document :=
  named .number do
    let digits ← textOf do
      sign
      hexNumber <|> decimalNumber <|> word "Infinity".toList <|> word "NaN".toList
    pure (Document.number (.written (String.ofList digits)))

/-! ## Texts and identifiers -/

/-- Reads a given number of hexadecimal digits. -/
def hexDigits : Nat → Reader (List Char)
  | 0 => pure []
  | n + 1 => do
    let d ← satisfy isHexDigit
    let ds ← hexDigits n
    pure (d :: ds)

/-- Whether a character has a meaning of its own after a backslash. -/
def isSingleEscape (c : Char) : Bool := "'\"\\bfnrtv".toList.contains c

/-- Reads a character that may follow a backslash. -/
def charEscape : Reader TextPiece :=
  named .charEscape do
    let c ← satisfy fun c =>
      isSingleEscape c || !(c.isDigit || c = 'x' || c = 'u' || isLineTerminator c)
    pure (.escaped c)

/-- Reads four hexadecimal digits. -/
def unicodeEscape : Reader TextPiece := named .unicodeEscape do
  let digits ← hexDigits 4
  pure (.unit digits)

/-- Reads what follows a backslash. -/
def escapeSequence : Reader TextPiece :=
  charEscape <|>
  named .nulEscape (do char '0'; pure .nul) <|>
  (do char 'x'; named .hexEscape (do let digits ← hexDigits 2; pure (.code digits))) <|>
  (do char 'u'; unicodeEscape)

/-- Reads a character that stands for itself. -/
def charLiteral : Reader TextPiece :=
  named .charLiteral do
    let c ← satisfy fun c => !(c = '\\' || isLineTerminator c)
    pure (.plain c)

/-- Reads the end of a line after a backslash, which leaves nothing in the text. -/
def lineContinuation : Reader Unit := do
  char '\\'
  word ['\r', '\n'] <|> (do let _ ← satisfy isLineTerminator)

/-- Fails where the given character stands. -/
def notAt (ch : Char) : Reader Unit := do
  let c ← get
  if c.rest.head? = some ch then failure

/-- Reads the next piece of a text between given quotes. -/
def stringPiece (quote : Char) : Reader (Option TextPiece) :=
  (do char '\\'; let piece ← escapeSequence; pure (some piece)) <|>
  (do lineContinuation; pure none) <|>
  (do notAt quote; let piece ← charLiteral; pure (some piece))

/-- Reads a text between given quotes. -/
def quoted (quote : Char) : Reader WrittenText := do
  char quote
  let pieces ← many (stringPiece quote)
  char quote
  pure (pieces.filterMap id)

/-- Reads a text. -/
def string : Reader WrittenText := named .string (quoted '"' <|> quoted '\'')

/-- Whether an identifier can start with a character. -/
def isIdentifierStart (c : Char) : Bool := Text.isLetter c || c = '$' || c = '_'

/-- Whether a character can continue an identifier that it cannot start. -/
def isIdentifierMark (c : Char) : Bool :=
  Text.isNonspacingMark c || Text.isDiacritic c || Text.isDecimalDigit c || Text.isConnector c ||
    c.toNat = 0x200c || c.toNat = 0x200d

/-- Reads the first piece of an identifier. -/
def identifierStart : Reader TextPiece :=
  (do let c ← satisfy isIdentifierStart; pure (.plain c)) <|>
  (do char '\\'; char 'u'; unicodeEscape)

/-- Reads a further piece of an identifier. -/
def identifierPart : Reader TextPiece :=
  identifierStart <|> (do let c ← satisfy isIdentifierMark; pure (.plain c))

/-- Reads an identifier. -/
def identifier : Reader WrittenText :=
  named .identifier do
    let first ← identifierStart
    let pieces ← many identifierPart
    pure (first :: pieces)

/-- Reads the key of a member. -/
def key : Reader WrittenText := identifier <|> string

/-! ## Values -/

/-- Reads the null value. -/
def nullValue : Reader Document := named .null (do word "null".toList; pure Document.null)

/-- Reads a truth value. -/
def boolean : Reader Document :=
  named .boolean ((do word "true".toList; pure (Document.bool true)) <|>
    (do word "false".toList; pure (Document.bool false)))

/-- Reads one or more parts with commas between them, and perhaps one after them. -/
def commaSeparated (part : Reader α) : Reader (List α) := do
  let first ← part
  let others ← many (do space; char ','; space; part)
  optional (do space; char ',')
  pure (first :: others)

/-- Reads parts between brackets, if there are any. -/
def bracketed (opening closing : Char) (part : Reader α) : Reader (List α) :=
  (do char opening; space; char closing; pure []) <|>
  (do
    char opening
    space
    let parts ← commaSeparated part
    space
    char closing
    pure parts)

/-- Reads a value with at most `depth` objects and lists inside one another. -/
def value : (depth : Nat) → Reader Document
  | 0 => failure
  | depth + 1 =>
    nullValue <|> boolean <|> (do let t ← string; pure (Document.text t)) <|> number <|>
    named .object (do
      let members ← bracketed '{' '}' do
        let k ← key
        space
        char ':'
        space
        let v ← value depth
        pure (k, v)
      pure (Document.object members)) <|>
    named .array (do
      let items ← bracketed '[' ']' (value depth)
      pure (Document.list items))

/-- Reads a whole text. -/
def document : Reader Document := do
  space
  let v ← value ((← get).size + 1)
  space
  named .endOfInput do
    let c ← get
    if c.rest.isEmpty then pure () else failure
  pure v

end Grammar

end ChannelBinding
