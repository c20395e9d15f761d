import SchemaGraph.Json.Reader
import SchemaGraph.Text.Blank

/-!
# Numbers given as texts

A coordinate may be written as a text: decimal digits with an optional sign, point and exponent, or
one of the words for infinity and for no number at all, in any case of letters. Single underscores
may group the digits.
-/

namespace SchemaGraph

/-- Text in small letters, as far as ASCII goes. -/
def lowerAscii (text : List Char) : List Char :=
  text.map Char.toLower

namespace Double

/-- The number written by digits with an optional point and exponent, without a sign. There is a
digit on one side of the point at least. -/
def ofUnsigned? (negative : Bool) (text : List Char) : Option Double :=
  let (whole, rest) := Json.spanDigits text
  let (fraction, rest) : List Char × List Char :=
    match rest with
    | '.' :: rest => Json.spanDigits rest
    | rest => ([], rest)
  if whole.isEmpty && fraction.isEmpty then none
  else
    match Json.readExponent rest with
    | (exponent, []) =>
      some (.ofDecimal negative
        ⟨Json.digitsValue (whole ++ fraction), exponent.getD 0 - (fraction.length : Int)⟩)
    | _ => none

/-- The number written by a text with an optional sign. -/
def ofSigned? (text : List Char) : Option Double :=
  let (negative, body) : Bool × List Char :=
    match text with
    | '-' :: body => (true, body)
    | '+' :: body => (false, body)
    | body => (false, body)
  let word := lowerAscii body
  if word = "inf".toList ∨ word = "infinity".toList then some (.infinite negative)
  else if word = "nan".toList then some .nan
  else ofUnsigned? negative body

/-- The text without the underscores that group its digits: there are some, none at either end,
and no two together. -/
def ungrouped? (text : List Char) : Option (List Char) :=
  if text.head? = some '_' ∨ text.getLast? = some '_' ∨ ¬ text.contains '_' ∨
      (text.zip text.tail).contains ('_', '_') then none
  else some (text.filter (· != '_'))

/-- The number written by a text, blanks at its ends aside, or else by its ungrouped form. -/
def ofText? (s : String) : Option Double :=
  match ofSigned? (trim isSpace s.toList) with
  | some x => some x
  | none => (ungrouped? s.toList).bind ofSigned?

/-- The whole number that a finite double is, if it is one. -/
def whole? : Double → Option Int
  | .finite negative rank =>
    if units rank % unitsPerOne = 0 then
      let magnitude : Int := ((units rank / unitsPerOne : Nat) : Int)
      some (if negative then -magnitude else magnitude)
    else none
  | _ => none

end Double

end SchemaGraph
