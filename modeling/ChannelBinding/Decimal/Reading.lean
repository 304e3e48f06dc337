/-!
# Reading decimal numbers

The double nearest to a number written in decimal digits: an optional sign, digits with at most one
point among them, and an optional exponent.  Every text of another form has no reading.
-/

namespace ChannelBinding.Decimal

/-- The number that a sequence of decimal digits writes. -/
def digitsValue (ds : List Char) : Nat := ds.foldl (fun n c => 10 * n + (c.toNat - '0'.toNat)) 0

/-- The digits at the front, and what follows them. -/
def spanDigits (cs : List Char) : List Char × List Char := cs.span Char.isDigit

/-- The number of decimal digits of a natural number. -/
def digitCount (n : Nat) : Nat := (Nat.toDigits 10 n).length

/-- The double nearest to `mantissa * 10 ^ exponent`. -/
def scaled (mantissa : Nat) (exponent : Int) : Float :=
  -- beyond these bounds the nearest double is infinite or zero
  if mantissa = 0 || exponent + digitCount mantissa < -400 then 0.0
  else if exponent + digitCount mantissa > 400 then 1.0 / 0.0
  else Float.ofScientific mantissa (exponent < 0) exponent.natAbs

/-- The exponent that a text writes after its `e`, if it is one. -/
def readExponent : List Char → Option Int
  | '+' :: ds => natural ds
  | '-' :: ds => (natural ds).map (- ·)
  | ds => natural ds
where
  /-- The number that one or more digits write. -/
  natural (ds : List Char) : Option Int :=
    if !ds.isEmpty && ds.all Char.isDigit then some (digitsValue ds) else none

/-- The double nearest to an unsigned decimal number. -/
def readUnsigned (cs : List Char) : Option Float :=
  let (whole, rest) := spanDigits cs
  let (fraction, rest) :=
    match rest with
    | '.' :: rest => spanDigits rest
    | _ => ([], rest)
  if whole.isEmpty && fraction.isEmpty then none
  else
    let mantissa := digitsValue (whole ++ fraction)
    match rest with
    | [] => some (scaled mantissa (- fraction.length))
    | c :: rest =>
      if c = 'e' || c = 'E' then
        (readExponent rest).map fun exponent => scaled mantissa (exponent - fraction.length)
      else none

/-- The double nearest to a decimal number. -/
def readFloat (s : String) : Option Float :=
  match s.toList with
  | '+' :: cs => readUnsigned cs
  | '-' :: cs => (readUnsigned cs).map (- ·)
  | cs => readUnsigned cs

/-- The whole number that an optional sign and digits write. -/
def readInt (s : String) : Option Int :=
  readExponent s.toList

/-- The value of a hexadecimal digit. -/
def hexDigit? (c : Char) : Option Nat :=
  if c.isDigit then some (c.toNat - '0'.toNat)
  else if 'a' ≤ c ∧ c ≤ 'f' then some (c.toNat - 'a'.toNat + 10)
  else if 'A' ≤ c ∧ c ≤ 'F' then some (c.toNat - 'A'.toNat + 10)
  else none

/-- The number that one or more hexadecimal digits write. -/
def readHex (cs : List Char) : Option Nat :=
  if cs.isEmpty then none
  else cs.foldlM (fun n c => (hexDigit? c).map (16 * n + ·)) 0

end ChannelBinding.Decimal
