/-!
# Spans of code points

A character class given as a table of spans, each a first and a last code point. `inSpans` decides
membership by bisection, for a table whose spans are in increasing order.
-/

namespace ChannelBinding.Text

/-- The code points from `first` to `last`, both included. -/
structure Span where
  first : Nat
  last : Nat
deriving DecidableEq, Repr

/-- Bisection of the spans at positions `lo ≤ i < hi`, halving the interval at most `rounds` times. -/
def bisect (spans : Array Span) (n : Nat) : (rounds lo hi : Nat) → Bool
  | 0, _, _ => false
  | rounds + 1, lo, hi =>
    if lo < hi then
      let mid := (lo + hi) / 2
      match spans[mid]? with
      | none => false
      | some s =>
        if n < s.first then bisect spans n rounds lo mid
        else if s.last < n then bisect spans n rounds (mid + 1) hi
        else true
    else false

/-- Whether some span of an increasing table holds the character. -/
def inSpans (spans : Array Span) (c : Char) : Bool :=
  bisect spans c.toNat (spans.size + 1) 0 spans.size

end ChannelBinding.Text
