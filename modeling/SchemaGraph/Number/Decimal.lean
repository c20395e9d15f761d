import SchemaGraph.Number.Double

/-!
# Decimals

A decimal is a whole significand scaled by a power of ten. Reading one gives the nearest double;
writing a double chooses the fewest digits that read back, and of two such decimals the nearer.
-/

namespace SchemaGraph

/-- The number `significand * 10 ^ exponent`. -/
structure Decimal where
  significand : Nat
  exponent : Int
deriving DecidableEq, Repr

/-- A power of ten. -/
def tenTo (exponent : Nat) : Nat :=
  Nat.pow 10 exponent

/-! ### Reading -/

/-- The double of the given sign nearest to a decimal. The first two cases after zero only avoid
huge powers of ten: there the value is beyond the largest double, or far below half the smallest. -/
def Double.ofDecimal (negative : Bool) (d : Decimal) : Double :=
  if d.significand = 0 then .ofUnits negative 0 1
  else if 400 < d.exponent then .infinite negative
  else if d.exponent + d.significand.log2 < -401 then .ofUnits negative 0 1
  else if 0 ≤ d.exponent then
    .ofQuotient negative (d.significand * tenTo d.exponent.toNat) 1
  else .ofQuotient negative d.significand (tenTo (-d.exponent).toNat)

/-! ### Writing -/

namespace Double

/-- The exponent of the least power of ten above the magnitude of a positive rank. -/
def tensAbove (rank : Nat) : Int :=
  ((Nat.toDigits 10 (units rank * tenTo 400 / unitsPerOne)).length : Int) - 400

/-- The two decimals of the given number of places next to the magnitude of a rank, the nearer
one first; of two equally near ones the even one. -/
def neighbours (rank places : Nat) : List Decimal :=
  let exponent := tensAbove rank - places
  let num := units rank * tenTo (-exponent).toNat
  let den := unitsPerOne * tenTo exponent.toNat
  let low := num / den
  if roundHalfEven num den = low then [⟨low, exponent⟩, ⟨low + 1, exponent⟩]
  else [⟨low + 1, exponent⟩, ⟨low, exponent⟩]

/-- Whether a decimal reads as the magnitude of a rank. -/
def isReadFrom (rank : Fin rankCount) (d : Decimal) : Bool :=
  ofDecimal false d = .finite false rank

/-- The magnitude of a rank, digit for digit. A unit has 1074 decimal places. -/
def exactDecimal (rank : Nat) : Decimal :=
  ⟨units rank * (tenTo 1074 / unitsPerOne), -1074⟩

/-- The decimal with the fewest places that reads as the magnitude of a rank. Seventeen places
always suffice; the exact decimal stands behind them. -/
def shortest (rank : Fin rankCount) : Decimal :=
  ((List.range' 1 17).findSome? fun places => (neighbours rank places).find? (isReadFrom rank)).getD
    (exactDecimal rank)

end Double

/-! ### Layout -/

/-- How the digits of a double are laid out. -/
structure DecimalStyle where
  /-- The least power of ten of a leading digit that is written without an exponent. -/
  leastPositional : Int
  /-- The greatest power of ten of a leading digit that is written without an exponent. -/
  greatestPositional : Int
  /-- The least number of digits of an exponent. -/
  exponentWidth : Nat

namespace DecimalStyle

/-- A whole number with leading zeros up to a width. -/
def padded (width n : Nat) : List Char :=
  let digits := Nat.toDigits 10 n
  List.replicate (width - digits.length) '0' ++ digits

/-- The exponent mark, its sign and at least the style's number of digits. -/
def exponentText (style : DecimalStyle) (power : Int) : List Char :=
  'e' :: (if power < 0 then '-' else '+') :: padded style.exponentWidth power.natAbs

/-- Digits with a point after the first `whole` of them; each side has at least one digit. -/
def pointed (digits : List Char) (whole : Nat) : List Char :=
  let fraction := digits.drop whole
  digits.take whole ++ List.replicate (whole - digits.length) '0' ++
    '.' :: (if fraction.isEmpty then ['0'] else fraction)

/-- Digits without the zeros at their end. -/
def significant (digits : List Char) : List Char :=
  (digits.reverse.dropWhile (· == '0')).reverse

/-- The text of a positive decimal. -/
def magnitudeText (style : DecimalStyle) (d : Decimal) : List Char :=
  let written := Nat.toDigits 10 d.significand
  let digits := significant written
  let power := d.exponent + (written.length : Int) - 1
  if power < style.leastPositional ∨ style.greatestPositional < power then
    match digits with
    | [only] => only :: style.exponentText power
    | first :: rest => first :: '.' :: rest ++ style.exponentText power
    | [] => style.exponentText power
  else if 0 ≤ power then pointed digits (power.toNat + 1)
  else '0' :: '.' :: List.replicate ((-power).toNat - 1) '0' ++ digits

/-- The text of a double, if it is finite. -/
def finiteText? (style : DecimalStyle) : Double → Option String
  | .finite negative rank =>
    let magnitude :=
      if rank.val = 0 then ['0', '.', '0'] else style.magnitudeText (Double.shortest rank)
    some (String.ofList (if negative then '-' :: magnitude else magnitude))
  | _ => none

end DecimalStyle

end SchemaGraph
