import SchemaGraph.Json.Value
import SchemaGraph.Number.Decimal
import SchemaGraph.Text.Printable

/-!
# Values in messages

A message shows a value on one line. A text stands as it is when it is the whole value, and between
quotes inside lists and objects: double quotes if it holds a single quote and no double one, single
quotes otherwise. Characters without a visible form are shown by their code points.
-/

namespace SchemaGraph

/-- Shown numbers are written without an exponent from `0.0001` to below `10 ^ 16`. -/
def shownNumbers : DecimalStyle where
  leastPositional := -4
  greatestPositional := 15
  exponentWidth := 2

/-- A number as a message shows it. -/
def Double.shown (x : Double) : String :=
  match shownNumbers.finiteText? x, x with
  | some text, _ => text
  | none, .infinite false => "inf"
  | none, .infinite true => "-inf"
  | none, _ => "nan"

namespace Json

/-- A number in hexadecimal digits, with leading zeros up to a width. -/
def hexText (width n : Nat) : List Char :=
  let digits := Nat.toDigits 16 n
  List.replicate (width - digits.length) '0' ++ digits

/-- A character between the given quotes. -/
def shownChar (quote c : Char) : List Char :=
  if c = quote ∨ c = '\\' then ['\\', c]
  else if c = '\n' then ['\\', 'n']
  else if c = '\r' then ['\\', 'r']
  else if c = '\t' then ['\\', 't']
  else if isPrintable c then [c]
  else if c.toNat < 0x100 then '\\' :: 'x' :: hexText 2 c.toNat
  else if c.toNat < 0x10000 then '\\' :: 'u' :: hexText 4 c.toNat
  else '\\' :: 'U' :: hexText 8 c.toNat

/-- A text between quotes. -/
def shownText (s : String) : String :=
  let quote := if s.contains '\'' && !s.contains '"' then '"' else '\''
  String.ofList (quote :: s.toList.flatMap (shownChar quote) ++ [quote])

mutual

/-- A value inside a list or an object. -/
def shownInside : Json → String
  | .null => "None"
  | .bool true => "True"
  | .bool false => "False"
  | .int i => toString i
  | .float x => x.shown
  | .str s => shownText s
  | .arr items => "[" ++ ", ".intercalate (shownItems items) ++ "]"
  | .obj members => "\x7b" ++ ", ".intercalate (shownMembers members) ++ "\x7d"

/-- The items of a list. -/
def shownItems : List Json → List String
  | [] => []
  | item :: items => shownInside item :: shownItems items

/-- The members of an object. -/
def shownMembers : List (String × Json) → List String
  | [] => []
  | (name, value) :: members =>
    (shownText name ++ ": " ++ shownInside value) :: shownMembers members

end

/-- A value as the whole of what a message shows. -/
def shown : Json → String
  | .str s => s
  | value => shownInside value

end Json

end SchemaGraph
