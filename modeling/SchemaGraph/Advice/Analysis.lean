import SchemaGraph.Advice.Finding
import SchemaGraph.Conversion
import SchemaGraph.Text.LetterCase

/-!
# Structural analysis

The analysis of a logical schema looks for tables without a key, columns that share a name, junction
tables to be made, relationships without an index and texts without a length. That of a conceptual
schema looks for entities without a primary attribute and associations that will need a junction.
-/

namespace SchemaGraph

/-! ### Checks of logical schemas -/

/-- The finding of a table without a key. -/
def Table.missingKeyFinding (t : Table) : Finding where
  id := "val-nopk-" ++ t.id
  kind := .noPrimaryKey
  title := "Table without primary key"
  description := "Table \"" ++ t.name ++ "\" has no primary key."
  severity := .high
  action := some (.addPrimaryKey t.id)

/-- The texts that occur again, each once, in the order of their second occurrence; `seen` are those
that have occurred before. -/
def repeatedAfter (seen found : List String) : List String → List String
  | [] => found
  | s :: rest =>
    repeatedAfter (s :: seen) (if s ∈ seen ∧ s ∉ found then found ++ [s] else found) rest

/-- The texts of a list that occur more than once, each once. -/
def repeatedTexts (texts : List String) : List String :=
  repeatedAfter [] [] texts

/-- The column names of a table that occur more than once, in small letters. -/
def Table.duplicateNames (t : Table) : List String :=
  repeatedTexts (t.columns.map fun c => lowerCase c.name)

/-- The finding of a table with columns of the same name. -/
def Table.duplicateFinding? (t : Table) : Option Finding :=
  match t.duplicateNames with
  | [] => none
  | names => some {
      id := "val-dupcol-" ++ t.id
      kind := .duplicateColumns
      title := "Duplicate column names"
      description := "Table \"" ++ t.name ++ "\" has columns with the same name: " ++
        ", ".intercalate names ++ "."
      severity := .medium
      action := some (.renameDuplicateColumns t.id names) }

/-- Whether one text occurs within another. -/
def occursIn (part : List Char) : List Char → Bool
  | [] => part.isEmpty
  | text@(_ :: rest) => part.isPrefixOf text || occursIn part rest

/-- The parts of a column name that tell of a length already. -/
def lengthHints : List String := ["length", "size"]

/-- Whether a column holds text of any length, as far as its type and its name tell. -/
def Column.isUnbounded (c : Column) : Bool :=
  c.type == "TEXT" &&
    !lengthHints.any fun hint => occursIn hint.toList (lowerCase c.name).toList

/-- The finding of a table with texts of any length. -/
def Table.textLengthFinding? (t : Table) : Option Finding :=
  match t.columns.filter (·.isUnbounded) with
  | [] => none
  | columns => some {
      id := "rec-textlen-" ++ t.id
      kind := .textLength
      title := "Text columns without length limit"
      description := "Table \"" ++ t.name ++ "\" has text columns without a maximum length: " ++
        ", ".intercalate (columns.map (·.name)) ++ "."
      severity := .low
      action := some (.checkLength t.id (columns.map (·.id))) }

namespace Schema

/-- The finding of a many-to-many relationship between two tables. -/
def manyToManyFinding? (s : Schema) (r : Relationship) : Option Finding :=
  if !r.isManyToMany then none
  else
    match s.table? r.sourceTable, s.table? r.targetTable with
    | some source, some target => some {
        id := "rec-nm-" ++ r.id
        kind := .manyToMany
        title := "Many-to-many relationship found"
        description := "The relationship between \"" ++ source.name ++ "\" and \"" ++
          target.name ++ "\" is N:M. A junction table is recommended."
        severity := .high
        action := some (.createJunctionTable r.id source.id target.id) }
    | _, _ => none

/-- The finding of a relationship that starts at a column without an index. -/
def indexFinding? (s : Schema) (r : Relationship) : Option Finding :=
  match s.table? r.sourceTable with
  | none => none
  | some source =>
    match source.column? r.sourceColumn with
    | none => none
    | some column =>
      if column.unique then none
      else some {
        id := "rec-index-" ++ r.id
        kind := .missingIndex
        title := "Foreign key without index"
        description := "Column \"" ++ column.name ++ "\" in table \"" ++ source.name ++
          "\" takes part in a relationship but has no index."
        severity := .medium
        action := some (.addIndex source.id column.id) }

/-- The report on a logical schema. -/
def analyze (s : Schema) : Report where
  issues :=
    (s.tables.filter (·.primaryKey?.isNone)).map Table.missingKeyFinding ++
      s.tables.filterMap Table.duplicateFinding?
  recommendations :=
    s.relationships.filterMap s.manyToManyFinding? ++
      s.relationships.filterMap s.indexFinding? ++
      s.tables.filterMap Table.textLengthFinding?

end Schema

/-! ### Checks of conceptual schemas -/

/-- The finding of an entity without a primary attribute. -/
def Entity.missingKeyFinding (e : Entity) : Finding where
  id := "conc-nopk-" ++ e.id
  kind := .noPrimaryKey
  title := "Entity without primary key"
  description := "Entity \"" ++ e.name ++ "\" has no primary key attribute."
  severity := .high
  action := some (.addPrimaryAttribute e.id)

namespace ConceptualSchema

/-- The finding of a many-to-many association between two entities. There is nothing to be done
about it before the conversion to tables. -/
def manyToManyFinding? (s : ConceptualSchema) (a : Association) : Option Finding :=
  if a.cardinality ≠ .manyToMany then none
  else
    match s.entity? a.sourceEntity, s.entity? a.targetEntity with
    | some source, some target => some {
        id := "conc-nm-" ++ a.id
        kind := .manyToMany
        title := "Many-to-many relationship in conceptual schema"
        description := "The relationship between \"" ++ source.name ++ "\" and \"" ++
          target.name ++
          "\" is N:M. Converting to a logical schema will require a junction table."
        severity := .info
        action := none }
    | _, _ => none

/-- The report on a conceptual schema. -/
def analyze (s : ConceptualSchema) : Report where
  issues := (s.entities.filter (·.primaryAttribute?.isNone)).map Entity.missingKeyFinding
  recommendations := s.associations.filterMap s.manyToManyFinding?

end ConceptualSchema

/-! ### Analysis in a mode -/

namespace Document

/-- The report on a schema in a mode; a schema of the other mode is converted first. -/
def analyze (d : Document) : Mode → Report
  | .logical => d.asLogical.analyze
  | .conceptual => d.asConceptual.analyze

/-- The mode that a text asks for, in any case of letters, or the text in capitals if it asks for
none. Without a text it is the mode of the schema. -/
def analysisMode (d : Document) : Option String → Except String Mode
  | none => .ok d.mode
  | some text =>
    match Vocabulary.read? (upperCase text) with
    | some mode => .ok mode
    | none => .error (upperCase text)

/-- The wording of the refusal of an unknown mode. -/
def unknownMode (text : String) : String :=
  "Unknown analysis mode: " ++ text

/-- The name of a mode at the head of a record. -/
def modeTitle : Mode → String
  | .logical => "Logical"
  | .conceptual => "Conceptual"

/-- What the conversion before an analysis tells. -/
def conversionRecords : Document → Mode → List Record
  | .conceptual s, .logical => s.toLogicalRecords
  | .logical s, .conceptual => s.toConceptualRecords
  | _, _ => []

/-- What an analysis tells. -/
def analyzeRecords (d : Document) (mode : Mode) : List Record :=
  let report := d.analyze mode
  let recommendations := toString report.recommendations.length ++ " recommendation(s)"
  d.conversionRecords mode ++
    if report.issues.isEmpty then
      [⟨.info, .analysis, modeTitle mode ++ " analysis passed with " ++ recommendations⟩]
    else
      [⟨.warning, .analysis, modeTitle mode ++ " analysis found " ++
        toString report.issues.length ++ " issue(s) and " ++ recommendations⟩]

end Document

end SchemaGraph
