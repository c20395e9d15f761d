import SchemaGraph.Text.Range

/-!
# Blanks

Two sets of blank characters are in use. Spaces are the characters of the Unicode property
`White_Space`; blanks are those and the four information separators. Text is trimmed of either at
both ends.
-/

namespace SchemaGraph

/-- The characters of the Unicode property `White_Space`. -/
def spaceRanges : List (Nat × Nat) := [
  (0x9, 0xD), (0x20, 0x20), (0x85, 0x85), (0xA0, 0xA0), (0x1680, 0x1680), (0x2000, 0x200A),
  (0x2028, 0x2029), (0x202F, 0x202F), (0x205F, 0x205F), (0x3000, 0x3000)]

/-- Whether a character has the property `White_Space`. -/
def isSpace (c : Char) : Bool :=
  inRanges spaceRanges c

/-- Whether a character is a space or an information separator. -/
def isBlank (c : Char) : Bool :=
  isSpace c || inRanges [(0x1C, 0x1F)] c

/-- Text without the characters of a kind at its end. -/
def trimEnd (p : Char → Bool) (text : List Char) : List Char :=
  (text.reverse.dropWhile p).reverse

/-- Text without the characters of a kind at either end. -/
def trim (p : Char → Bool) (text : List Char) : List Char :=
  trimEnd p (text.dropWhile p)

end SchemaGraph
