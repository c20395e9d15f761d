import SchemaGraph.Schema
import SchemaGraph.Validation

/-!
# Documents of logical schemas

How tables and relationships are written in a document, and which documents are accepted. Members
have camel-case names and may be given in snake case. After its members have been checked, the key
flags of a column are made consistent.
-/

namespace SchemaGraph

/-! ### Names of members

The usual name of each member, and the snake-case name that is accepted in its place. -/

namespace Member

def id : MemberName := .only "id"
def name : MemberName := .only "name"
def type : MemberName := .only "type"
def primaryKey : MemberName := ⟨"primaryKey", "primary_key"⟩
def nullable : MemberName := .only "nullable"
def unique : MemberName := .only "unique"
def autoIncrement : MemberName := ⟨"autoIncrement", "auto_increment"⟩
def isForeignKey : MemberName := ⟨"isForeignKey", "is_foreign_key"⟩
def referencesTable : MemberName := ⟨"referencesTable", "references_table"⟩
def referencesColumn : MemberName := ⟨"referencesColumn", "references_column"⟩
def columns : MemberName := .only "columns"
def x : MemberName := .only "x"
def y : MemberName := .only "y"
def sourceTable : MemberName := ⟨"sourceTableId", "source_table_id"⟩
def sourceColumn : MemberName := ⟨"sourceColumnId", "source_column_id"⟩
def targetTable : MemberName := ⟨"targetTableId", "target_table_id"⟩
def targetColumn : MemberName := ⟨"targetColumnId", "target_column_id"⟩
def cardinality : MemberName := .only "cardinality"
def sourceOptional : MemberName := ⟨"sourceOptional", "source_optional"⟩
def targetOptional : MemberName := ⟨"targetOptional", "target_optional"⟩
def onDelete : MemberName := ⟨"onDelete", "on_delete"⟩
def onUpdate : MemberName := ⟨"onUpdate", "on_update"⟩
def tables : MemberName := .only "tables"
def relationships : MemberName := .only "relationships"

end Member

namespace Json

/-- An optional text, null when absent. -/
def optionalText : Option String → Json
  | some s => .str s
  | none => .null

end Json

/-! ### Columns -/

/-- The column that an object describes. -/
def Column.ofMembers (m : Members) : Checked Column :=
  .map Column.normalize <|
    Column.mk
      <$> m.required Member.id Json.checkText
      <*> m.required Member.name Json.checkText
      <*> m.optional Member.type "TEXT" Json.checkText
      <*> m.optional Member.primaryKey false Json.checkFlag
      <*> m.optional Member.nullable true Json.checkFlag
      <*> m.optional Member.unique false Json.checkFlag
      <*> m.optional Member.autoIncrement false Json.checkFlag
      <*> m.optional Member.isForeignKey false Json.checkFlag
      <*> m.optional Member.referencesTable none Json.checkOptionalText
      <*> m.optional Member.referencesColumn none Json.checkOptionalText

/-- The column that a value describes. -/
def Column.ofJson : Json → Checked Column :=
  Json.checkModel "Column" Column.ofMembers

/-- The object that describes a column. -/
def Column.toJson (c : Column) : Json :=
  .obj [
    (Member.id.usual, .str c.id),
    (Member.name.usual, .str c.name),
    (Member.type.usual, .str c.type),
    (Member.primaryKey.usual, .bool c.primaryKey),
    (Member.nullable.usual, .bool c.nullable),
    (Member.unique.usual, .bool c.unique),
    (Member.autoIncrement.usual, .bool c.autoIncrement),
    (Member.isForeignKey.usual, .bool c.isForeignKey),
    (Member.referencesTable.usual, .optionalText c.referencesTable),
    (Member.referencesColumn.usual, .optionalText c.referencesColumn)]

/-! ### Tables -/

/-- The table that an object describes. -/
def Table.ofMembers (m : Members) : Checked Table :=
  Table.mk
    <$> m.required Member.id Json.checkText
    <*> m.required Member.name Json.checkText
    <*> m.optional Member.columns [] (Json.checkList Column.ofJson)
    <*> m.optional Member.x .zero Json.checkNumber
    <*> m.optional Member.y .zero Json.checkNumber

/-- The table that a value describes. -/
def Table.ofJson : Json → Checked Table :=
  Json.checkModel "Table" Table.ofMembers

/-- The object that describes a table. -/
def Table.toJson (t : Table) : Json :=
  .obj [
    (Member.id.usual, .str t.id),
    (Member.name.usual, .str t.name),
    (Member.columns.usual, .arr (t.columns.map Column.toJson)),
    (Member.x.usual, .float t.x),
    (Member.y.usual, .float t.y)]

/-! ### Relationships -/

/-- The relationship that an object describes. -/
def Relationship.ofMembers (m : Members) : Checked Relationship :=
  Relationship.mk
    <$> m.required Member.id Json.checkText
    <*> m.required Member.sourceTable Json.checkText
    <*> m.required Member.sourceColumn Json.checkText
    <*> m.required Member.targetTable Json.checkText
    <*> m.required Member.targetColumn Json.checkText
    <*> m.optional Member.cardinality .oneToMany Json.checkWord
    <*> m.optional Member.sourceOptional false Json.checkFlag
    <*> m.optional Member.targetOptional false Json.checkFlag
    <*> m.optional Member.onDelete .cascade Json.checkWord
    <*> m.optional Member.onUpdate .cascade Json.checkWord

/-- The relationship that a value describes. -/
def Relationship.ofJson : Json → Checked Relationship :=
  Json.checkModel "Relationship" Relationship.ofMembers

/-- The object that describes a relationship. -/
def Relationship.toJson (r : Relationship) : Json :=
  .obj [
    (Member.id.usual, .str r.id),
    (Member.sourceTable.usual, .str r.sourceTable),
    (Member.sourceColumn.usual, .str r.sourceColumn),
    (Member.targetTable.usual, .str r.targetTable),
    (Member.targetColumn.usual, .str r.targetColumn),
    (Member.cardinality.usual, .str (spell r.cardinality)),
    (Member.sourceOptional.usual, .bool r.sourceOptional),
    (Member.targetOptional.usual, .bool r.targetOptional),
    (Member.onDelete.usual, .str (spell r.onDelete)),
    (Member.onUpdate.usual, .str (spell r.onUpdate))]

/-! ### Schemas -/

/-- The schema that an object describes; missing lists are empty. -/
def Schema.ofMembers (m : Members) : Checked Schema :=
  Schema.mk
    <$> m.optional Member.tables [] (Json.checkList Table.ofJson)
    <*> m.optional Member.relationships [] (Json.checkList Relationship.ofJson)

/-- The schema that a value describes. -/
def Schema.ofJson : Json → Checked Schema :=
  Json.checkModel "Schema" Schema.ofMembers

/-- The object that describes a schema. -/
def Schema.toJson (s : Schema) : Json :=
  .obj [
    (Member.tables.usual, .arr (s.tables.map Table.toJson)),
    (Member.relationships.usual, .arr (s.relationships.map Relationship.toJson))]

end SchemaGraph
