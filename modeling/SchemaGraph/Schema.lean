import SchemaGraph.Dictionary
import SchemaGraph.Number.Double
import SchemaGraph.Vocabulary

/-!
# Logical schemas

A logical schema is a list of tables and a list of relationships between their columns. Nothing
forces ids to be distinct or references to resolve; every lookup takes the first match.
-/

namespace SchemaGraph

/-! ### Columns -/

/-- A column of a table, with its key flags and the marks of a foreign key. -/
structure Column where
  id : String
  name : String
  type : String
  primaryKey : Bool
  nullable : Bool
  unique : Bool
  autoIncrement : Bool
  isForeignKey : Bool
  referencesTable : Option String
  referencesColumn : Option String
deriving DecidableEq, Repr

/-- The key flags made consistent: a counting column is a unique key, and a key is never null. -/
def Column.normalize (c : Column) : Column :=
  let primaryKey := c.primaryKey || c.autoIncrement
  { c with
    primaryKey
    unique := c.unique || c.autoIncrement
    nullable := c.nullable && !primaryKey }

@[simp] theorem Column.normalize_normalize (c : Column) : c.normalize.normalize = c.normalize := by
  simp [Column.normalize]

/-! ### Tables -/

/-- A table and its position on the canvas. -/
structure Table where
  id : String
  name : String
  columns : List Column
  x : Double
  y : Double
deriving DecidableEq, Repr

namespace Table

/-- The first key column, which stands for the key of the table. -/
def primaryKey? (t : Table) : Option Column :=
  t.columns.find? (·.primaryKey)

/-- The first column with an id. -/
def column? (t : Table) (id : String) : Option Column :=
  t.columns.find? (·.id == id)

/-- Whether some column has a name. -/
def hasColumnNamed (t : Table) (name : String) : Bool :=
  t.columns.any (·.name == name)

/-- The table with one more column at its end. -/
def append (t : Table) (c : Column) : Table :=
  { t with columns := t.columns ++ [c] }

@[simp] theorem append_id (t : Table) (c : Column) : (t.append c).id = t.id := rfl

@[simp] theorem append_name (t : Table) (c : Column) : (t.append c).name = t.name := rfl

@[simp] theorem append_columns (t : Table) (c : Column) :
    (t.append c).columns = t.columns ++ [c] := rfl

@[simp] theorem hasColumnNamed_append (t : Table) (c : Column) (name : String) :
    (t.append c).hasColumnNamed name = (t.hasColumnNamed name || c.name == name) := by
  simp [hasColumnNamed]

end Table

/-- The tables under their ids; of several tables with one id the first counts. -/
def indexTables (tables : List Table) : Dictionary Table :=
  .ofFirst (tables.map fun t => (t.id, t))

theorem get?_indexTables (tables : List Table) (id : String) :
    (indexTables tables).get? id = tables.find? (·.id == id) := by
  rw [indexTables, Dictionary.get?_ofFirst, Dictionary.lookup_map_entry]

/-! ### Relationships -/

/-- A relationship between a column of a source table and one of a target table. -/
structure Relationship where
  id : String
  sourceTable : String
  sourceColumn : String
  targetTable : String
  targetColumn : String
  cardinality : Cardinality
  sourceOptional : Bool
  targetOptional : Bool
  onDelete : ReferentialAction
  onUpdate : ReferentialAction
deriving DecidableEq, Repr

/-- Whether the relationship needs a junction table. -/
def Relationship.isManyToMany (r : Relationship) : Bool :=
  r.cardinality == .manyToMany

/-! ### Schemas -/

/-- Tables and the relationships between them. -/
structure Schema where
  tables : List Table
  relationships : List Relationship
deriving DecidableEq, Repr

namespace Schema

/-- The first table with an id. -/
def table? (s : Schema) (id : String) : Option Table :=
  s.tables.find? (·.id == id)

/-- The tables under their ids. -/
def index (s : Schema) : Dictionary Table :=
  indexTables s.tables

@[simp] theorem get?_index (s : Schema) (id : String) : s.index.get? id = s.table? id :=
  get?_indexTables s.tables id

/-- Whether some table has an id. -/
def hasTable (s : Schema) (id : String) : Bool :=
  s.tables.any (·.id == id)

/-- The schema with its first table of an id changed. -/
def modifyTable (s : Schema) (id : String) (f : Table → Table) : Schema :=
  { s with tables := s.tables.modify (s.tables.findIdx (·.id == id)) f }

@[simp] theorem modifyTable_relationships (s : Schema) (id : String) (f : Table → Table) :
    (s.modifyTable id f).relationships = s.relationships := rfl

theorem hasTable_eq_isSome (s : Schema) (id : String) : s.hasTable id = (s.table? id).isSome := by
  simp [hasTable, table?, List.isSome_find?]

/-- The tables that lookups can reach: the first of each id, in order. -/
def reachable (s : Schema) : List Table :=
  s.index.entries.map (·.2)

end Schema

end SchemaGraph
