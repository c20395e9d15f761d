import SchemaGraph.Text.Range
import SchemaGraph.Text.LetterCase.Capitals
import SchemaGraph.Text.LetterCase.Smalls

/-!
# Letter case of texts

Upper-casing maps each character on its own. Lower-casing does too, except that a capital sigma at
the end of a word becomes the final small sigma.
-/

namespace SchemaGraph

/-- The text in capitals. -/
def upperCase (s : String) : String :=
  String.ofList (s.toList.flatMap LetterCase.capitals.image)

namespace LetterCase

/-- Whether a character is skipped when the case of a neighbour is asked for. -/
def isIgnorable (c : Char) : Bool :=
  inRanges ignorableRanges c

/-- Whether the first character that is not ignorable has a case. -/
def startsCased (text : List Char) : Bool :=
  match text.dropWhile isIgnorable with
  | [] => false
  | c :: _ => inRanges casedRanges c

/-- The image of a text in small letters; `before` is the text already passed, last character
first. -/
def lowerAfter (before : List Char) : List Char → List Char
  | [] => []
  | c :: rest =>
    let image :=
      if c = 'Σ' then [if startsCased before && !startsCased rest then 'ς' else 'σ']
      else smalls.image c
    image ++ lowerAfter (c :: before) rest

end LetterCase

/-- The text in small letters. -/
def lowerCase (s : String) : String :=
  String.ofList (LetterCase.lowerAfter [] s.toList)

end SchemaGraph
