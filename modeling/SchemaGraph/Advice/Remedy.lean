import SchemaGraph.Advice.Analysis
import SchemaGraph.Json.Display
import SchemaGraph.Junction

/-!
# Remedies

The action of a finding can be applied to a schema. Making a junction table and adding a key change
a logical schema; all other actions only say what to do. An action can also be asked for by name and
parameters; a parameter that is no text names nothing.
-/

namespace SchemaGraph

/-! ### Adding a key -/

/-- The columns with the first one as the only key; only it may go on counting, and all others
become nullable. -/
def keyOnFirst : List Column → List Column
  | [] => []
  | first :: rest =>
    { first with primaryKey := true, nullable := false } ::
      rest.map fun c => { c with primaryKey := false, nullable := true, autoIncrement := false }

/-- The schema whose tables of an id have their first column as only key. -/
def Schema.addPrimaryKey (s : Schema) (table : String) : Schema where
  tables := s.tables.map fun t =>
    if t.id = table then { t with columns := keyOnFirst t.columns } else t
  relationships := s.relationships

/-! ### Remedies -/

/-- What can be done about a finding, with parameters as a caller gives them. -/
inductive Remedy
  | createJunctionTable (relationship source target : Option Json)
  | addPrimaryKey (table : Option Json)
  | renameDuplicateColumns
  | addIndex
  | checkLength
  | addPrimaryAttribute

namespace Remedy

/-- The remedy of a name and parameters. -/
def ofRequest? (kind : String) (params : Members) : Option Remedy :=
  if kind = "create_junction_table" then
    some (.createJunctionTable (params.get? "relationship_id") (params.get? "source_table_id")
      (params.get? "target_table_id"))
  else if kind = "add_primary_key" then some (.addPrimaryKey (params.get? "table_id"))
  else if kind = "rename_duplicate_columns" then some .renameDuplicateColumns
  else if kind = "add_index" then some .addIndex
  else if kind = "check_length" then some .checkLength
  else if kind = "add_primary_attribute" then some .addPrimaryAttribute
  else none

end Remedy

/-- The remedy that an action suggests. -/
def Action.remedy : Action → Remedy
  | .createJunctionTable relationship source target =>
    .createJunctionTable (some (.str relationship)) (some (.str source)) (some (.str target))
  | .addPrimaryKey table => .addPrimaryKey (some (.str table))
  | .renameDuplicateColumns .. => .renameDuplicateColumns
  | .addIndex .. => .addIndex
  | .checkLength .. => .checkLength
  | .addPrimaryAttribute .. => .addPrimaryAttribute

/-- The text that a parameter gives. -/
def parameterText? (parameter : Option Json) : Option String :=
  parameter.bind Json.text?

/-- The choice of a relationship by parameters. -/
def junctionChoice (relationship source target : Option Json) : JunctionChoice :=
  ⟨parameterText? relationship, parameterText? source, parameterText? target⟩

/-- Whether following a choice leads to tables. A conceptual schema has none, so there the choice
cannot be followed; otherwise it finds nothing. -/
def ConceptualSchema.needsTables (s : ConceptualSchema) (choice : JunctionChoice) : Bool :=
  s.associations.any (fun a => choice.relationship == some a.id) ||
    (choice.source.isSome && choice.target.isSome &&
      s.associations.any (·.cardinality == .manyToMany))

/-- A parameter as a message shows it. -/
def shownParameter (parameter : Option Json) : String :=
  (parameter.getD .null).shown

/-! ### Applying remedies -/

/-- What came of a remedy: the changed schema, or nothing, and a message. -/
inductive Outcome
  | changed (document : Document) (message : String)
  | unchanged (message : String)
deriving DecidableEq, Repr

namespace Outcome

/-- Whether the remedy was applied. -/
def applied : Outcome → Bool
  | .changed .. => true
  | .unchanged _ => false

/-- The message of an outcome. -/
def message : Outcome → String
  | .changed _ message => message
  | .unchanged message => message

/-- The schema after a remedy was applied to the given one. -/
def result (d : Document) : Outcome → Document
  | .changed document _ => document
  | .unchanged _ => d

end Outcome

/-- Why a remedy cannot be carried out at all. -/
inductive RemedyError
  | unknown (kind : String)
  | missingParameter (name : String)
deriving DecidableEq, Repr

/-- The wording of an error. -/
def RemedyError.message : RemedyError → String
  | .unknown kind => "Unknown remediation action: " ++ kind
  | .missingParameter name => "missing parameter " ++ name

namespace Schema

/-- The outcome of making a junction table. -/
def junctionOutcome (s : Schema) (naming : Naming) (choice : JunctionChoice) : Outcome :=
  match s.materialize naming choice with
  | .error _ => .unchanged "Junction table could not be created"
  | .ok result =>
    match result.tables.getLast? with
    | none => .unchanged "Junction table could not be created"
    | some junction =>
      .changed (.logical result) <|
        "Created junction table \"" ++ junction.name ++ "\" with columns " ++
          ", ".intercalate (junction.columns.map fun c => c.name ++ " (" ++ c.type ++ ")")

/-- The outcome of adding a key to a table. -/
def keyOutcome (s : Schema) (table : Option String) : Outcome :=
  match table.bind s.table? with
  | none => .unchanged "Table not found"
  | some t =>
    if t.columns.isEmpty then .unchanged ("Table \"" ++ t.name ++ "\" has no columns")
    else .changed (.logical (s.addPrimaryKey t.id))
      ("Added primary key to table \"" ++ t.name ++ "\"")

end Schema

namespace Document

/-- The outcome of a remedy. -/
def apply (d : Document) (naming : Naming) : Remedy → Except RemedyError Outcome
  | .createJunctionTable relationship source target =>
    match d with
    | .logical s => .ok (s.junctionOutcome naming (junctionChoice relationship source target))
    | .conceptual _ =>
      .ok (.unchanged "Junction tables can only be created in logical mode")
  | .addPrimaryKey table =>
    match d, table with
    | .conceptual _, _ => .ok (.unchanged "Table not found")
    | .logical _, none => .error (.missingParameter "table_id")
    | .logical s, some value => .ok (s.keyOutcome value.text?)
  | .renameDuplicateColumns => .ok (.unchanged "Rename the duplicate columns manually")
  | .addIndex => .ok (.unchanged "Create an index on the foreign key column manually")
  | .checkLength => .ok (.unchanged "Set a maximum length on the text columns manually")
  | .addPrimaryAttribute => .ok (.unchanged "Add a primary key attribute to the entity")

/-- The outcome of a remedy asked for by name and parameters. -/
def applyRequest (d : Document) (naming : Naming) (kind : String) (params : Members) :
    Except RemedyError Outcome :=
  match Remedy.ofRequest? kind params with
  | none => .error (.unknown kind)
  | some remedy => d.apply naming remedy

/-! ### Records -/

/-- What a remedy tells. -/
def applyRecords (d : Document) (naming : Naming) : Remedy → List Record
  | .createJunctionTable relationship source target =>
    match d with
    | .logical s =>
      s.materializeRecords naming (junctionChoice relationship source target)
        (shownParameter relationship)
    | .conceptual _ => []
  | _ => []

/-- What a remedy asked for by name and parameters tells. -/
def applyRequestRecords (d : Document) (naming : Naming) (kind : String) (params : Members) :
    List Record :=
  match Remedy.ofRequest? kind params with
  | none => [⟨.warning, .remedies, "No handler for remediation action '" ++ kind ++ "'"⟩]
  | some remedy => d.applyRecords naming remedy

/-! ### Acting on a report -/

/-- The outcome of the action of a finding. -/
def act (d : Document) (naming : Naming) (action : Action) : Outcome :=
  match d.apply naming action.remedy with
  | .ok outcome => outcome
  | .error e => .unchanged e.message

/-- The outcomes of some actions, each applied to the result of the one before; every outcome goes
with the id of its finding. -/
def actAll (d : Document) (naming : Naming) : List (String × Action) → List (String × Outcome)
  | [] => []
  | (id, action) :: rest =>
    let outcome := d.act naming action
    (id, outcome) :: actAll (outcome.result d) naming rest

/-- The schema after some actions. -/
def afterActions (d : Document) (naming : Naming) (actions : List (String × Action)) : Document :=
  actions.foldl (fun d a => (d.act naming a.2).result d) d

/-- What some actions tell. -/
def actRecords (d : Document) (naming : Naming) : List (String × Action) → List Record
  | [] => []
  | (_, action) :: rest =>
    d.applyRecords naming action.remedy ++
      actRecords ((d.act naming action).result d) naming rest

end Document

end SchemaGraph
