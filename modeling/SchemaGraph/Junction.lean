import SchemaGraph.ForeignKey.Placement

/-!
# Junction tables

A many-to-many relationship is kept by a junction table: one column for the key of either side,
both together its key. A script makes such tables on its own. A schema can also be given one for
good: the junction joins the tables, and two one-to-many relationships take the place of the
relationship that it stands for.
-/

namespace SchemaGraph

/-! ### Synthesis -/

/-- Why a relationship gets no junction table. -/
inductive JunctionGap
  | notManyToMany
  | missingTable
  | missingKey
deriving DecidableEq, Repr

namespace Junction

/-- The id of the junction table of a relationship. -/
def id (r : Relationship) : String :=
  "junction-" ++ r.id

/-- A column that repeats the key of a table. -/
def column (naming : Naming) (id : String) (referenced : Table) (key : Column) : Column where
  id
  name := naming.columnName referenced key
  type := key.type
  primaryKey := true
  nullable := false
  unique := true
  autoIncrement := false
  isForeignKey := true
  referencesTable := some referenced.name
  referencesColumn := some key.name

/-- The first column: the key of the source. -/
def sourceColumn (naming : Naming) (r : Relationship) (source : Table) (key : Column) : Column :=
  column naming (id r ++ "-col-1") source key

/-- The second column: the key of the target. -/
def targetColumn (naming : Naming) (r : Relationship) (target : Table) (key : Column) : Column :=
  column naming (id r ++ "-col-2") target key

/-- The junction table of a relationship, halfway between the tables that it joins. -/
def table (naming : Naming) (r : Relationship) (source target : Table)
    (sourceKey targetKey : Column) : Table where
  id := id r
  name := source.name ++ "_" ++ target.name
  columns := [sourceColumn naming r source sourceKey, targetColumn naming r target targetKey]
  x := source.x.midpoint target.x
  y := source.y.midpoint target.y

end Junction

/-- The two ends of a many-to-many relationship with their keys. -/
structure JunctionEnds where
  source : Table
  target : Table
  sourceKey : Column
  targetKey : Column
deriving DecidableEq, Repr

namespace Schema

/-- The tables that a junction of the relationship joins, with their keys. -/
def junctionEnds (s : Schema) (r : Relationship) : Except JunctionGap JunctionEnds :=
  if !r.isManyToMany then .error .notManyToMany
  else
    match s.index.get? r.sourceTable, s.index.get? r.targetTable with
    | some source, some target =>
      match source.primaryKey?, target.primaryKey? with
      | some sourceKey, some targetKey => .ok ⟨source, target, sourceKey, targetKey⟩
      | _, _ => .error .missingKey
    | _, _ => .error .missingTable

/-- The junction table of a relationship. -/
def synthesize (s : Schema) (naming : Naming) (r : Relationship) : Except JunctionGap Table :=
  (s.junctionEnds r).map fun e => Junction.table naming r e.source e.target e.sourceKey e.targetKey

end Schema

/-! ### Materialization -/

/-- Which relationship is to be replaced: the one with an id, or failing that the first
many-to-many one between two tables. -/
structure JunctionChoice where
  relationship : Option String
  source : Option String
  target : Option String
deriving DecidableEq, Repr

/-- Why a relationship is not replaced. -/
inductive MaterializeGap
  | notFound
  | noJunction (relationship : Relationship) (gap : JunctionGap)
  | nameTaken (name : String)
deriving DecidableEq, Repr

namespace Junction

/-- A required relationship from an end of a junction to one of its columns. -/
def link (r : Relationship) (number : String) (endpoint : Table) (key column : Column) :
    Relationship where
  id := id r ++ "-rel-" ++ number
  sourceTable := endpoint.id
  sourceColumn := key.id
  targetTable := id r
  targetColumn := column.id
  cardinality := .oneToMany
  sourceOptional := false
  targetOptional := false
  onDelete := .cascade
  onUpdate := .cascade

/-- The two relationships that take the place of a many-to-many one. -/
def links (naming : Naming) (r : Relationship) (e : JunctionEnds) : List Relationship :=
  [link r "1" e.source e.sourceKey (sourceColumn naming r e.source e.sourceKey),
   link r "2" e.target e.targetKey (targetColumn naming r e.target e.targetKey)]

end Junction

namespace Schema

/-- The first relationship with an id. -/
def relationship? (s : Schema) (id : String) : Option Relationship :=
  s.relationships.find? (·.id == id)

/-- The first many-to-many relationship from one table to another. -/
def manyToManyBetween? (s : Schema) (source target : String) : Option Relationship :=
  s.relationships.find? fun r =>
    r.isManyToMany && r.sourceTable == source && r.targetTable == target

/-- The chosen relationship. -/
def choose? (s : Schema) (choice : JunctionChoice) : Option Relationship :=
  (choice.relationship.bind s.relationship?).or <|
    match choice.source, choice.target with
    | some source, some target => s.manyToManyBetween? source target
    | _, _ => none

/-- The schema in which a junction table and its two links stand for a many-to-many relationship,
and for every other relationship of its id. -/
def withJunction (s : Schema) (naming : Naming) (r : Relationship) (e : JunctionEnds) : Schema where
  tables := s.tables ++ [Junction.table naming r e.source e.target e.sourceKey e.targetKey]
  relationships := s.relationships.filter (·.id != r.id) ++ Junction.links naming r e

/-- The schema with the chosen relationship replaced by a junction table, unless there is none to
replace, it has no junction, or the name of the junction is taken. -/
def materialize (s : Schema) (naming : Naming) (choice : JunctionChoice) :
    Except MaterializeGap Schema :=
  match s.choose? choice with
  | none => .error .notFound
  | some r =>
    match s.junctionEnds r with
    | .error gap => .error (.noJunction r gap)
    | .ok e =>
      let name := e.source.name ++ "_" ++ e.target.name
      if s.tables.any (·.name == name) then .error (.nameTaken name)
      else .ok (s.withJunction naming r e)

end Schema

/-! ### Records -/

/-- Why there is no junction table, in words; of another relationship nothing is told. -/
def JunctionGap.reason? : JunctionGap → Option String
  | .notManyToMany => none
  | .missingTable => some "endpoint table missing, no junction table"
  | .missingKey => some "endpoint without primary key, no junction table"

/-- What it tells that no relationship was found; `asked` shows the id that was asked for. -/
def MaterializeGap.notFoundRecord (asked : String) : Record :=
  ⟨.warning, .junction, "Cannot materialize junction: relationship " ++ asked ++ " not found"⟩

/-- What a missing junction table tells. -/
def JunctionGap.records (r : Relationship) (gap : JunctionGap) : List Record :=
  gap.reason?.toList.map fun reason =>
    ⟨.debug, .junction, "Relationship " ++ r.id ++ ": " ++ reason⟩

namespace Schema

/-- What the synthesis of a junction table tells. -/
def synthesizeRecords (s : Schema) (r : Relationship) : List Record :=
  match s.junctionEnds r with
  | .ok _ => []
  | .error gap => gap.records r

/-- What the replacement of a relationship tells; `asked` shows the id that was asked for. -/
def materializeRecords (s : Schema) (naming : Naming) (choice : JunctionChoice) (asked : String) :
    List Record :=
  match s.materialize naming choice with
  | .error .notFound => [MaterializeGap.notFoundRecord asked]
  | .error (.noJunction r gap) =>
    gap.records r ++
      [⟨.warning, .junction, "Cannot materialize junction for relationship " ++ r.id⟩]
  | .error (.nameTaken name) =>
    [⟨.warning, .junction,
      "Cannot materialize junction: table '" ++ name ++ "' already exists"⟩]
  | .ok result =>
    result.tables.getLast?.toList.map fun junction =>
      ⟨.info, .junction, "Materialized junction table '" ++ junction.name ++ "' (" ++
        ", ".intercalate (junction.columns.map (·.name)) ++ ")"⟩

end Schema

end SchemaGraph
