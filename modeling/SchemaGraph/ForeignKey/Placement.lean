import SchemaGraph.Journal
import SchemaGraph.Schema

/-!
# Placement of foreign keys

A relationship other than a many-to-many one is kept by a foreign key: a column on one side that
repeats the key of the other side. This module decides which side holds the column and what the
column is called. Everything that deals with foreign keys asks here, so a relationship gets the same
column however it came into the schema.
-/

namespace SchemaGraph

/-- The two ends of a relationship. -/
inductive Side
  | source
  | target
deriving DecidableEq, Repr

/-- The end that holds the foreign key: the side of the many, and for one-to-one the optional side,
the target first. -/
def Relationship.holder? (r : Relationship) : Option Side :=
  match r.cardinality with
  | .oneToMany => some .target
  | .manyToOne => some .source
  | .oneToOne =>
    if r.targetOptional then some .target
    else if r.sourceOptional then some .source
    else none
  | .manyToMany => none

/-- The name of a column that refers to a key of a table. -/
def Naming.columnName (naming : Naming) (referenced : Table) (key : Column) : String :=
  match naming with
  | .bare => key.name
  | .prefixed => referenced.name ++ "_" ++ key.name

/-! ### Placements -/

/-- Where the foreign key of a relationship lives and what it points at. -/
structure Placement where
  relationship : Relationship
  /-- The table that holds the foreign key. -/
  holder : Table
  /-- The table whose key is repeated. -/
  referenced : Table
  /-- The repeated key. -/
  key : Column
  columnName : String
deriving DecidableEq, Repr

/-- The column that a placement calls for. Its type is the type of the repeated key, as it is. -/
def Placement.column (p : Placement) : Column where
  id := "fk-" ++ p.relationship.id ++ "-" ++ p.holder.id
  name := p.columnName
  type := p.key.type
  primaryKey := false
  nullable := p.relationship.sourceOptional || p.relationship.targetOptional
  unique := p.relationship.cardinality == .oneToOne
  autoIncrement := false
  isForeignKey := true
  referencesTable := some p.referenced.name
  referencesColumn := some p.key.name

/-- Why a relationship gets no foreign key. -/
inductive PlacementGap
  | manyToMany
  | missingTable
  | missingColumn
  | missingKey
  | bothRequired
deriving DecidableEq, Repr

/-- The placement of a relationship between two tables with their keys, by the side that holds the
foreign key. -/
def Relationship.placementAt (r : Relationship) (naming : Naming) (source target : Table)
    (sourceKey targetKey : Column) : Side → Placement
  | .target => ⟨r, target, source, sourceKey, naming.columnName source sourceKey⟩
  | .source => ⟨r, source, target, targetKey, naming.columnName target targetKey⟩

/-- The placement of a relationship among tables under their ids. Both tables, both columns and both
keys have to be there, whichever of them the foreign key uses. -/
def Relationship.placeIn (r : Relationship) (naming : Naming) (tables : Dictionary Table) :
    Except PlacementGap Placement :=
  if r.isManyToMany then .error .manyToMany
  else
    match tables.get? r.sourceTable, tables.get? r.targetTable with
    | some source, some target =>
      match source.column? r.sourceColumn, target.column? r.targetColumn with
      | some _, some _ =>
        match source.primaryKey?, target.primaryKey? with
        | some sourceKey, some targetKey =>
          match r.holder? with
          | some side => .ok (r.placementAt naming source target sourceKey targetKey side)
          | none => .error .bothRequired
        | _, _ => .error .missingKey
      | _, _ => .error .missingColumn
    | _, _ => .error .missingTable

/-- The placement of a relationship among the tables of a schema. -/
def Schema.place (s : Schema) (naming : Naming) (r : Relationship) :
    Except PlacementGap Placement :=
  r.placeIn naming s.index

/-! ### Records -/

/-- Why a relationship was passed over, in words; of a many-to-many one nothing is told. -/
def PlacementGap.reason? : PlacementGap → Option String
  | .manyToMany => none
  | .missingTable => some "endpoint table missing, skipped"
  | .missingColumn => some "column reference no longer resolves, skipped"
  | .missingKey => some "endpoint without primary key, skipped"
  | .bothRequired => some "1:1 with both sides required, no FK placed"

/-- What the placement of a relationship among tables under their ids tells. -/
def Relationship.placeRecords (r : Relationship) (naming : Naming) (tables : Dictionary Table) :
    List Record :=
  match r.placeIn naming tables with
  | .ok _ => []
  | .error gap =>
    gap.reason?.toList.map fun reason =>
      ⟨.debug, .keys, "Relationship " ++ r.id ++ ": " ++ reason⟩

/-- What the placement of a relationship among the tables of a schema tells. -/
def Schema.placeRecords (s : Schema) (naming : Naming) (r : Relationship) : List Record :=
  r.placeRecords naming s.index

end SchemaGraph
