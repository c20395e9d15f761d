import SchemaGraph.Json.Value
import SchemaGraph.Number.Decimal

/-!
# Writing JSON

Values are written over several lines, two spaces deeper at each level, and without a final line
break. Everything but quotes, backslashes and control characters is written as it is. A number that
is not finite has no form and is written as null.
-/

namespace SchemaGraph.Json

/-- Saved numbers are written without an exponent from `0.00001` to below `10 ^ 16`. -/
def savedNumbers : DecimalStyle where
  leastPositional := -5
  greatestPositional := 15
  exponentWidth := 1

/-- A character as it stands inside a written text. -/
def escape (c : Char) : List Char :=
  match c with
  | '"' => ['\\', '"']
  | '\\' => ['\\', '\\']
  | '\n' => ['\\', 'n']
  | '\r' => ['\\', 'r']
  | '\t' => ['\\', 't']
  | '\x08' => ['\\', 'b']
  | '\x0c' => ['\\', 'f']
  | c =>
    if c.toNat < 0x20 then
      ['\\', 'u', '0', '0', Nat.digitChar (c.toNat / 16), Nat.digitChar (c.toNat % 16)]
    else [c]

/-- A text between quotes. -/
def writeText (s : String) : List Char :=
  '"' :: s.toList.flatMap escape ++ ['"']

/-- A number, or null if it is not finite. -/
def writeDouble (x : Double) : List Char :=
  match savedNumbers.finiteText? x with
  | some text => text.toList
  | none => "null".toList

/-- A line break and the blanks before the text of a level. -/
def lineBreak (level : Nat) : List Char :=
  '\n' :: List.replicate (2 * level) ' '

mutual

/-- A value as it is written at some depth. -/
def writeAt (level : Nat) : Json → List Char
  | .null => "null".toList
  | .bool true => "true".toList
  | .bool false => "false".toList
  | .int i => (toString i).toList
  | .float x => writeDouble x
  | .str s => writeText s
  | .arr [] => ['[', ']']
  | .arr (item :: items) =>
    '[' :: lineBreak (level + 1) ++ writeAt (level + 1) item ++ writeItems (level + 1) items ++
      lineBreak level ++ [']']
  | .obj [] => ['{', '}']
  | .obj ((name, value) :: members) =>
    '{' :: lineBreak (level + 1) ++ writeText name ++ ':' :: ' ' :: writeAt (level + 1) value ++
      writeMembers (level + 1) members ++ lineBreak level ++ ['}']

/-- The items after the first one. -/
def writeItems (level : Nat) : List Json → List Char
  | [] => []
  | item :: items => ',' :: lineBreak level ++ writeAt level item ++ writeItems level items

/-- The members after the first one. -/
def writeMembers (level : Nat) : List (String × Json) → List Char
  | [] => []
  | (name, value) :: members =>
    ',' :: lineBreak level ++ writeText name ++ ':' :: ' ' :: writeAt level value ++
      writeMembers level members

end

/-- The text of a value. -/
def write (value : Json) : String :=
  String.ofList (value.writeAt 0)

end SchemaGraph.Json
