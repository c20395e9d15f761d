import SchemaGraph.Document.Logical
import SchemaGraph.ForeignKey.Resolution
import SchemaGraph.Json.Display
import SchemaGraph.Settings

/-!
# Editing

Drawing a relationship between two columns and removing a table. A drawn relationship brings its
foreign key column along, the same one that resolving the schema would add.
-/

namespace SchemaGraph

namespace Schema

/-! ### Connecting tables -/

/-- The schema with one more relationship and its foreign key column, if both tables exist. -/
def link? (s : Schema) (naming : Naming) (r : Relationship) : Option Schema :=
  if s.hasTable r.sourceTable && s.hasTable r.targetTable then
    some { s.addForeignKey naming r with relationships := s.relationships ++ [r] }
  else none

/-- The schema without the tables of an id and without the relationships that touch them. -/
def deleteTable (s : Schema) (table : String) : Schema where
  tables := s.tables.filter (·.id != table)
  relationships := s.relationships.filter fun r =>
    r.sourceTable != table && r.targetTable != table

end Schema

/-! ### Requests -/

/-- A relationship to be drawn, as a caller describes it. What is absent or says nothing is taken
from the settings; without an id, a fresh one is used. -/
structure Connection where
  sourceTable : Json
  sourceColumn : Json
  targetTable : Json
  targetColumn : Json
  cardinality : Option Json
  relationship : Option Json
  naming : Option Json

/-- Why a relationship cannot be drawn. -/
inductive ConnectionError
  /-- A list or an object stands where the id of a table is needed. -/
  | unusableId
  | invalid (issues : List Issue)
deriving DecidableEq, Repr

namespace Connection

/-- The value of an argument, unless it is absent or says nothing. -/
def filled? (argument : Option Json) : Option Json :=
  argument.filter (!·.isVoid)

/-- Whether a fresh id is needed. -/
def needsId (c : Connection) : Bool :=
  (filled? c.relationship).isNone

/-- The naming policy of the foreign key column. -/
def namingOf (c : Connection) (settings : Settings) : Naming :=
  match filled? c.naming with
  | none => settings.naming
  | some (.str text) => .ofText text
  | some _ => .bare

/-- The members of the object that describes the relationship. Both sides start as required. -/
def members (c : Connection) (settings : Settings) (fresh : String) : Members := [
  (Member.id.other, (filled? c.relationship).getD (.str fresh)),
  (Member.sourceTable.other, c.sourceTable),
  (Member.sourceColumn.other, c.sourceColumn),
  (Member.targetTable.other, c.targetTable),
  (Member.targetColumn.other, c.targetColumn),
  (Member.cardinality.other, (filled? c.cardinality).getD (.str (spell settings.cardinality))),
  (Member.onDelete.other, .str (spell settings.onDelete)),
  (Member.onUpdate.other, .str (spell settings.onUpdate))]

/-- The relationship that a request describes. -/
def check (c : Connection) (settings : Settings) (fresh : String) : Checked Relationship :=
  Relationship.ofMembers (c.members settings fresh)

/-- Whether a value is the id of a table. Only a simple value can be asked for. -/
def isTable (s : Schema) : Json → Except ConnectionError Bool
  | .str id => .ok (s.hasTable id)
  | .arr _ => .error .unusableId
  | .obj _ => .error .unusableId
  | _ => .ok false

/-- Whether both ends of a request are tables; without a source the target is not looked at. -/
def endsExist (c : Connection) (s : Schema) : Except ConnectionError Bool := do
  if ← isTable s c.sourceTable then isTable s c.targetTable else return false

end Connection

namespace Schema

/-- The schema with the relationship of a request, or nothing if one of its tables does not
exist. -/
def connect (s : Schema) (settings : Settings) (fresh : String) (c : Connection) :
    Except ConnectionError (Option Schema) := do
  if ← c.endsExist s then
    match c.check settings fresh with
    | .valid r => return s.link? (c.namingOf settings) r
    | .invalid issues => .error (.invalid issues)
  else return none

/-- Whether a request uses up a fresh id. -/
def usesFreshId (s : Schema) (c : Connection) : Bool :=
  match c.endsExist s with
  | .ok true => c.needsId
  | _ => false

/-! ### Records -/

/-- What the drawing of a relationship tells. -/
def linkRecords (s : Schema) (naming : Naming) (r : Relationship) : List Record :=
  s.placeRecords naming r ++
    match s.resolution naming r with
    | .added p => [⟨.debug, .connections,
        "Added FK column '" ++ p.columnName ++ "' to table '" ++ p.holder.name ++ "'"⟩]
    | _ => []

/-- What a request tells. -/
def connectRecords (s : Schema) (settings : Settings) (fresh : String) (c : Connection) :
    List Record :=
  match c.endsExist s with
  | .error _ => []
  | .ok false => [⟨.warning, .connections, "Cannot connect " ++ c.sourceTable.shown ++ " -> " ++
      c.targetTable.shown ++ ": table not found"⟩]
  | .ok true =>
    match c.check settings fresh with
    | .valid r => s.linkRecords (c.namingOf settings) r
    | .invalid _ => []

end Schema

end SchemaGraph
