import ChannelBinding.Document.Grammar

/-!
# Syntax errors

Where a text goes against the grammar, and the drawing that shows it: the line in question, a mark
under the place, and the rules that could have matched there.
-/

namespace ChannelBinding

/-- A place in a text at which none of the rules in question matches. -/
structure SyntaxError where
  pos : Nat
  expected : List Grammar.Rule
deriving DecidableEq, Repr

namespace Document

/-- Reads a text as a document. -/
def ofText (text : String) : Except SyntaxError Document :=
  let cs := text.toList
  match Grammar.document ⟨cs.length, 0, cs⟩ {} with
  | (some (d, _), _) => .ok d
  | (none, attempts) => .error ⟨attempts.pos, Grammar.Rule.all.filter (· ∈ attempts.rules)⟩

end Document

namespace SyntaxError

/-- Names in a sentence that offers them for choice. -/
def enumerate : List String → String
  | [] => ""
  | [a] => a
  | [a, b] => s!"{a} or {b}"
  | names => ", ".intercalate names.dropLast ++ ", or " ++ names.getLast?.getD ""

/-- The number of line ends in a text before a place. -/
def countLines (before : List Char) : Nat := before.count '\n'

/-- The characters after the last line feed. -/
def lastLine (before : List Char) : List Char :=
  (before.reverse.takeWhile (· ≠ '\n')).reverse

/-- The characters up to the next line feed, which is included. -/
def throughLineFeed (after : List Char) : List Char :=
  let line := after.takeWhile (· ≠ '\n')
  if line.length < after.length then line ++ ['\n'] else line

/-- A line as it is drawn: without line ends, or with signs in their place if the error is at one. -/
def drawLine (line : List Char) (atLineEnd : Bool) : List Char :=
  if atLineEnd then
    line.map fun c => if c = '\r' then '␍' else if c = '\n' then '␊' else c
  else line.filter fun c => c ≠ '\r' && c ≠ '\n'

/-- The drawing of a syntax error in a text. -/
def draw (e : SyntaxError) (text : String) : String :=
  let cs := text.toList
  let before := cs.take e.pos
  let after := cs.drop e.pos
  let atLineEnd := after.head? = some '\n' || after.head? = some '\r'
  let lineBefore := lastLine before
  let column := lineBefore.length + 1
  let line := drawLine (lineBefore ++ throughLineFeed after) atLineEnd
  let number := toString (countLines before + 1)
  let margin := String.ofList (List.replicate number.length ' ')
  let underline := String.ofList
    ((line.take (column - 1)).map fun c => if c = '\t' then '\t' else ' ')
  let message := s!"expected {enumerate (e.expected.map Grammar.Rule.name)}"
  s!"{margin}--> {number}:{column}\n{margin} |\n{number} | {String.ofList line}\n" ++
    s!"{margin} | {underline}^---\n{margin} |\n{margin} = {message}"

end SyntaxError

end ChannelBinding
