import SchemaGraph.Document.Basic
import SchemaGraph.Document.EditorExport
import SchemaGraph.Json.Reader
import SchemaGraph.Json.Writer
import SchemaGraph.Text.Blank

/-!
# Schema files

A schema file holds one JSON object: an ordinary document or an editor export. Line breaks of other
systems are read as plain ones, and blanks around the object are ignored.
-/

namespace SchemaGraph

/-- Why a schema file cannot be loaded. -/
inductive LoadError
  | notFound (path : String)
  | undecodable
  | empty (path : String)
  | malformed (path : String) (fault : JsonFault) (position : Json.Position)
  | longInteger (digits : Nat)
  | tooDeep
  | notObject (path : String)
  | badExport (fault : ExportFault)
  | invalid (mode : Mode) (path : String) (issues : List Issue)
deriving Repr

namespace LoadError

/-- What a schema of a mode is called in messages. -/
def noun : Mode → String
  | .logical => "schema"
  | .conceptual => "conceptual schema"

/-- The name of the model that a file of a mode describes. -/
def model : Mode → String
  | .logical => "Schema"
  | .conceptual => "ConceptualSchema"

/-- A number of validation errors, in words. -/
def count (n : Nat) : String :=
  toString n ++ if n = 1 then " validation error" else " validation errors"

/-- The wording of an error. -/
def message : LoadError → String
  | .notFound path => "Schema file not found: " ++ path
  | .undecodable => "invalid text encoding"
  | .empty path => "Schema file is empty: " ++ path
  | .malformed path fault position =>
    "Schema file " ++ path ++ " is not valid JSON: " ++ fault.message ++ ": line " ++
      toString position.line ++ " column " ++ toString position.column ++ " (char " ++
      toString position.offset ++ ")"
  | .longInteger digits =>
    "Exceeds the limit (" ++ toString Json.integerLimit ++
      " digits) for integer string conversion: value has " ++ toString digits ++ " digits"
  | .tooDeep => "too many lists and objects within each other"
  | .notObject path => "Schema file " ++ path ++ " must contain a JSON object"
  | .badExport (.notPair index length) =>
    "dictionary update sequence element #" ++ toString index ++ " has length " ++
      toString length ++ "; 2 is required"
  | .badExport _ => "malformed editor export"
  | .invalid mode path issues =>
    "Failed to load " ++ noun mode ++ " from " ++ path ++ ": " ++ count issues.length ++ " for " ++
      model mode

end LoadError

/-! ### Text -/

/-- Text with `\n` for every line break: `\r\n` and a lone `\r` become one. -/
def plainLineBreaks : List Char → List Char
  | [] => []
  | '\r' :: '\n' :: rest => '\n' :: plainLineBreaks rest
  | '\r' :: rest => '\n' :: plainLineBreaks rest
  | c :: rest => c :: plainLineBreaks rest

/-- The text that the bytes of a file encode. -/
def decodeBytes (bytes : ByteArray) : Except LoadError String :=
  match String.fromUTF8? bytes with
  | some text => .ok text
  | none => .error .undecodable

/-! ### Loading and saving -/

namespace Document

/-- What counts of the text of a file. -/
def content (text : String) : List Char :=
  trim isBlank (plainLineBreaks text.toList)

/-- The members of the object in the text of a file, if so many levels are enough to read it. -/
def readMembers (levels : Nat) (path text : String) : Except LoadError Members :=
  match content text with
  | [] => .error (.empty path)
  | content =>
    match Json.readWithin levels (String.ofList content) with
    | .error (.malformed fault position) => .error (.malformed path fault position)
    | .error (.longInteger digits) => .error (.longInteger digits)
    | .error .tooDeep => .error .tooDeep
    | .ok (.obj members) => .ok members
    | .ok _ => .error (.notObject path)

/-- What the text of a file of a mode describes, by the given check of its members. -/
def loadWith {α : Type} (levels : Nat) (mode : Mode) (check : Members → Checked α)
    (path text : String) : Except LoadError α := do
  let members ← readMembers levels path text
  let members ← (EditorExport.unfold mode members).mapError .badExport
  (check members).toExcept.mapError (.invalid mode path)

/-- The schema of a mode that the text of a file describes. -/
def load (mode : Mode) : (path text : String) → Except LoadError Document :=
  loadWith Json.nestingLimit mode (ofMembers mode)

/-- The text of a file that holds the schema. -/
def save (d : Document) : String :=
  d.toJson.write

end Document

/-- The logical schema that the text of a file describes, if so many levels are enough to read it.
-/
def Schema.loadWithin (levels : Nat) : (path text : String) → Except LoadError Schema :=
  Document.loadWith levels .logical Schema.ofMembers

/-- The logical schema that the text of a file describes. -/
def Schema.load : (path text : String) → Except LoadError Schema :=
  Schema.loadWithin Json.nestingLimit

/-- The conceptual schema that the text of a file describes, if so many levels are enough to read
it. -/
def ConceptualSchema.loadWithin (levels : Nat) :
    (path text : String) → Except LoadError ConceptualSchema :=
  Document.loadWith levels .conceptual ConceptualSchema.ofMembers

/-- The conceptual schema that the text of a file describes. -/
def ConceptualSchema.load : (path text : String) → Except LoadError ConceptualSchema :=
  ConceptualSchema.loadWithin Json.nestingLimit

end SchemaGraph
