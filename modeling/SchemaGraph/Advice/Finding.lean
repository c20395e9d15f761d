import SchemaGraph.Json.Value
import SchemaGraph.Vocabulary

/-!
# Findings

An analysis reports findings: issues that should be settled, and recommendations. A finding may
carry an action that settles it or says what to do.
-/

namespace SchemaGraph

/-! ### Actions -/

/-- A suggested remedy with what it is about. -/
inductive Action
  | createJunctionTable (relationship source target : String)
  | addPrimaryKey (table : String)
  | renameDuplicateColumns (table : String) (names : List String)
  | addIndex (table column : String)
  | checkLength (table : String) (columns : List String)
  | addPrimaryAttribute (entity : String)
deriving DecidableEq, Repr

namespace Action

/-- The name by which an action is asked for. -/
def kind : Action → String
  | .createJunctionTable .. => "create_junction_table"
  | .addPrimaryKey .. => "add_primary_key"
  | .renameDuplicateColumns .. => "rename_duplicate_columns"
  | .addIndex .. => "add_index"
  | .checkLength .. => "check_length"
  | .addPrimaryAttribute .. => "add_primary_attribute"

/-- The caption of an action. -/
def label : Action → String
  | .createJunctionTable .. => "Create junction table"
  | .addPrimaryKey .. => "Add primary key"
  | .renameDuplicateColumns .. => "Fix"
  | .addIndex .. => "Add index"
  | .checkLength .. => "Add length limits"
  | .addPrimaryAttribute .. => "Add primary key"

/-- The parameters of an action. -/
def params : Action → Members
  | .createJunctionTable relationship source target =>
    [("relationship_id", .str relationship), ("source_table_id", .str source),
      ("target_table_id", .str target)]
  | .addPrimaryKey table => [("table_id", .str table)]
  | .renameDuplicateColumns table names =>
    [("table_id", .str table), ("column_names", .arr (names.map .str))]
  | .addIndex table column => [("table_id", .str table), ("column_id", .str column)]
  | .checkLength table columns =>
    [("table_id", .str table), ("column_ids", .arr (columns.map .str))]
  | .addPrimaryAttribute entity => [("entity_id", .str entity)]

end Action

/-! ### Findings -/

/-- How urgent a finding is. -/
inductive Severity
  | high
  | medium
  | low
  | info
deriving DecidableEq, Repr

/-- The severities are listed with the most urgent one first. -/
instance : Vocabulary Severity where
  words := [.high, .medium, .low, .info]
  spell
    | .high => "high"
    | .medium => "medium"
    | .low => "low"
    | .info => "info"

/-- What a finding is about. -/
inductive FindingKind
  | manyToMany
  | noPrimaryKey
  | duplicateColumns
  | missingIndex
  | textLength
deriving DecidableEq, Repr

instance : Vocabulary FindingKind where
  words := [.manyToMany, .noPrimaryKey, .duplicateColumns, .missingIndex, .textLength]
  spell
    | .manyToMany => "n_m_relationship"
    | .noPrimaryKey => "no_primary_key"
    | .duplicateColumns => "duplicate_columns"
    | .missingIndex => "missing_index"
    | .textLength => "text_length"

/-- An issue or a recommendation. -/
structure Finding where
  id : String
  kind : FindingKind
  title : String
  description : String
  severity : Severity
  action : Option Action
deriving DecidableEq, Repr

/-! ### Reports -/

/-- What an analysis found. -/
structure Report where
  issues : List Finding
  recommendations : List Finding
deriving DecidableEq, Repr

namespace Report

/-- All findings, the issues first. -/
def findings (r : Report) : List Finding :=
  r.issues ++ r.recommendations

/-- Whether some finding is of high severity. -/
def hasHighPriority (r : Report) : Bool :=
  r.findings.any (·.severity == .high)

/-- The actions of the findings, with the id of each finding. -/
def actions (r : Report) : List (String × Action) :=
  r.findings.filterMap fun f => f.action.map (f.id, ·)

end Report

end SchemaGraph
