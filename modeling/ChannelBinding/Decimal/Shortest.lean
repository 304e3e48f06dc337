import ChannelBinding.Decimal.Reading

/-!
# The shortest decimal text of a double

A finite double is `m * 2 ^ q`.  The decimal numbers that read back as it are those between the
midpoints to its neighbours, the midpoints included when `m` is even.  Of the decimal numbers with
fewest digits among them the nearest one is chosen.  A `FloatStyle` decides where the point stands.
-/

namespace ChannelBinding.Decimal

/-- A power of two; one for a negative exponent. -/
def twoTo (e : Int) : Nat := Nat.pow 2 e.toNat

/-- A power of ten; one for a negative exponent. -/
def tenTo (e : Int) : Nat := Nat.pow 10 e.toNat

/-- A positive double as a fraction, with the bounds of what reads back as it: `value / unit`, between
`low / unit` and `high / unit`. -/
structure Rounding where
  low : Nat
  value : Nat
  high : Nat
  unit : Nat
  /-- Whether the bounds themselves read back as the double. -/
  closed : Bool
deriving Repr

/-- The rounding interval of the double with a biased exponent and a fraction field. -/
def Rounding.ofFields (biased fraction : Nat) : Rounding :=
  let m := if biased = 0 then fraction else fraction + twoTo 52
  let q : Int := (if biased = 0 then 1 else biased : Nat) - (1075 : Int)
  -- the gap below a power of two is half as wide
  let below := if fraction = 0 && 1 < biased then 1 else 2
  let scale := twoTo (q - 2)
  { low := (4 * m - below) * scale
    value := 4 * m * scale
    high := (4 * m + 2) * scale
    unit := twoTo (2 - q)
    closed := m % 2 = 0 }

namespace Rounding

/-- Whether `n * 10 ^ k` lies in the interval. -/
def holds (r : Rounding) (n : Nat) (k : Int) : Bool :=
  let x := n * tenTo k * r.unit
  let shift := tenTo (-k)
  if r.closed then r.low * shift ≤ x && x ≤ r.high * shift
  else r.low * shift < x && x < r.high * shift

/-- The distance of `n * 10 ^ k` from the value, in a unit that depends on `k` alone. -/
def distance (r : Rounding) (n : Nat) (k : Int) : Nat :=
  let x := n * tenTo k * r.unit
  let v := r.value * tenTo (-k)
  (x - v) + (v - x)

/-- The number of digits of the value before its point; for a value below one, as many fewer than
one as there are zeros after the point. -/
def magnitude (r : Rounding) : Int :=
  if r.unit ≤ r.value then digitCount (r.value / r.unit)
  else 1 - (leadingZeros 400 1 : Int)
where
  /-- The first `t` from the given one on with `value * 10 ^ t` at least one. -/
  leadingZeros : Nat → Nat → Nat
    | 0, t => t
    | rounds + 1, t => if r.unit ≤ r.value * tenTo t then t else leadingZeros rounds (t + 1)

/-- The shortest decimal that reads back with `digits` digits or more, as a whole number and a power
of ten; of two that are equally near, `tieUp` of the lower one tells whether the upper one is
taken. -/
def search (r : Rounding) (tieUp : Nat → Bool) : (rounds digits : Nat) → Nat × Int
  | 0, _ => (0, 0)
  | rounds + 1, digits =>
    let k := r.magnitude - digits
    let n := r.value * tenTo (-k) / (r.unit * tenTo k)
    match r.holds n k, r.holds (n + 1) k with
    | false, false => search r tieUp rounds (digits + 1)
    | true, false => (n, k)
    | false, true => (n + 1, k)
    | true, true =>
      let low := r.distance n k
      let high := r.distance (n + 1) k
      if high < low || (high = low && tieUp n) then (n + 1, k) else (n, k)

/-- The decimal without zeros at its end. -/
def stripZeros : (rounds : Nat) → Nat × Int → Nat × Int
  | 0, d => d
  | rounds + 1, (n, k) =>
    if n % 10 = 0 && n ≠ 0 then stripZeros rounds (n / 10, k + 1) else (n, k)

/-- The shortest decimal that reads back: `n * 10 ^ k`. -/
def shortest (r : Rounding) (tieUp : Nat → Bool) : Nat × Int :=
  stripZeros 20 (r.search tieUp 18 1)

end Rounding

/-- How a decimal number is chosen and where its point stands. -/
structure FloatStyle where
  /-- Whether a number with this many digits before its point, or fewer than none, is written without
  an exponent. -/
  positional : Int → Bool
  /-- Whether the number next above this one is chosen when both are equally near. -/
  tieUp : Nat → Bool

/-- Every number is written without an exponent; a tie goes up. -/
def FloatStyle.plain : FloatStyle := ⟨fun _ => true, fun _ => true⟩

/-- Numbers from 1e-5 up to 1e16 are written without an exponent; a tie goes to the even digit. -/
def FloatStyle.scientific : FloatStyle := ⟨fun p => -5 < p && p ≤ 16, fun n => n % 2 = 1⟩

/-- The text of `n * 10 ^ k`; an exponent always has its sign. -/
def FloatStyle.render (style : FloatStyle) (n : Nat) (k : Int) : String :=
  let digits := Nat.toDigits 10 n
  let p : Int := digits.length + k
  let zeros (count : Int) : List Char := List.replicate count.toNat '0'
  if style.positional p then
    if 0 ≤ k then String.ofList (digits ++ zeros k) ++ ".0"
    else if 0 < p then
      String.ofList (digits.take p.toNat) ++ "." ++ String.ofList (digits.drop p.toNat)
    else "0." ++ String.ofList (zeros (-p) ++ digits)
  else
    let fraction := digits.drop 1
    let mantissa :=
      if fraction.isEmpty then digits.take 1 else digits.take 1 ++ '.' :: fraction
    let sign := if 0 ≤ p - 1 then "+" else "-"
    String.ofList mantissa ++ "e" ++ sign ++ String.ofList (Nat.toDigits 10 (p - 1).natAbs)

/-- The text of a double; a whole number keeps a zero after its point. -/
def FloatStyle.format (style : FloatStyle) (x : Float) : String :=
  let bits := x.toBits.toNat
  let sign := if bits / twoTo 63 = 1 then "-" else ""
  let biased := bits / twoTo 52 % twoTo 11
  let fraction := bits % twoTo 52
  if biased = 2047 then if fraction = 0 then sign ++ "inf" else "NaN"
  else if biased = 0 && fraction = 0 then sign ++ "0.0"
  else
    let (n, k) := (Rounding.ofFields biased fraction).shortest style.tieUp
    sign ++ style.render n k

end ChannelBinding.Decimal
