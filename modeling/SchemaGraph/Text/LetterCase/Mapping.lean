/-!
# Case mappings

A case mapping sends a character to a text. Most characters move by a fixed distance, often whole
runs of neighbours by the same one; a few expand to several characters. A mapping is therefore a
list of shifts and a list of expansions, and a character in neither stands for itself.
-/

namespace SchemaGraph.LetterCase

/-- The characters `first`, `first + step`, …, `last`, all moved by the same distance. -/
structure Shift where
  first : Nat
  last : Nat
  step : Nat
  distance : Int

/-- Whether a code point is moved by a shift. -/
def Shift.moves (s : Shift) (code : Nat) : Bool :=
  s.first ≤ code && code ≤ s.last && (code - s.first) % s.step == 0

/-- A case mapping of characters to texts. -/
structure Mapping where
  shifts : List Shift
  expansions : List (Nat × List Nat)

/-- The image of one character. -/
def Mapping.image (m : Mapping) (c : Char) : List Char :=
  match m.expansions.find? (·.1 == c.toNat) with
  | some (_, codes) => codes.map Char.ofNat
  | none =>
    match m.shifts.find? (·.moves c.toNat) with
    | some s => [Char.ofNat ((c.toNat : Int) + s.distance).toNat]
    | none => [c]

end SchemaGraph.LetterCase
