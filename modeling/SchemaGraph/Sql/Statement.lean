import SchemaGraph.ForeignKey.Placement
import SchemaGraph.Sql.Dialect

/-!
# SQL statements

The statements of a script as data, and the one way in which each is written. Identifiers stand
between brackets and are written as they are.
-/

namespace SchemaGraph

/-! ### Columns and constraints -/

/-- The definition of a column in a statement. -/
structure ColumnDefinition where
  name : String
  type : String
  /-- What stands after the type of a counting column. -/
  mark : Option String
  notNull : Bool
  unique : Bool
deriving DecidableEq, Repr

/-- The definition of a column in a dialect. Keys are unique without saying so. -/
def Column.define (c : Column) (d : Dialect) : ColumnDefinition where
  name := c.name
  type := d.columnType c.type c.autoIncrement
  mark :=
    if c.autoIncrement ∧ DataType.ofName? c.type = some .autoincrement then d.countingMark else none
  notNull := !c.nullable
  unique := c.unique && !c.primaryKey

/-- A constraint on a table. -/
inductive TableConstraint
  | primaryKey (name : String) (columns : List String)
  | foreignKey (name column referencedTable referencedColumn : String)
deriving DecidableEq, Repr

/-- The key constraint of a table over all its key columns, if it has any. -/
def Table.keyConstraint? (t : Table) : Option TableConstraint :=
  match t.columns.filter (·.primaryKey) with
  | [] => none
  | keys => some (.primaryKey ("PK_" ++ t.name) (keys.map (·.name)))

/-- The constraint that the foreign key marks of a column call for. -/
def Table.foreignKeyConstraint? (t : Table) (c : Column) : Option TableConstraint :=
  match c.isForeignKey, c.referencesTable, c.referencesColumn with
  | true, some table, some column =>
    if table.isEmpty || column.isEmpty then none
    else some (.foreignKey ("FK_" ++ t.name ++ "_" ++ table) c.name table column)
  | _, _, _ => none

/-! ### Statements -/

/-- A statement of a script. -/
inductive Statement
  /-- The comment at the head of a script. -/
  | header (dialect : DialectName) (generatedAt : String)
  /-- The creation of a table. -/
  | createTable (name : String) (columns : List ColumnDefinition)
      (constraints : List TableConstraint)
  /-- The addition of a foreign key to a table. -/
  | addForeignKey (table constraint column referencedTable referencedColumn : String)
      (onDelete onUpdate : ReferentialAction)
deriving DecidableEq, Repr

/-- The statement that creates a table. -/
def Table.create (t : Table) (d : Dialect) : Statement :=
  .createTable t.name (t.columns.map (·.define d)) t.keyConstraint?.toList

/-- The statement that creates a junction table, with the foreign keys that its columns call for. -/
def Table.createJunction (t : Table) (d : Dialect) : Statement :=
  .createTable t.name (t.columns.map (·.define d))
    (t.keyConstraint?.toList ++ t.columns.filterMap t.foreignKeyConstraint?)

/-- The statement that adds a placed foreign key. -/
def Placement.statement (p : Placement) : Statement :=
  .addForeignKey p.holder.name ("FK_" ++ p.holder.name ++ "_" ++ p.referenced.name) p.columnName
    p.referenced.name p.key.name p.relationship.onDelete p.relationship.onUpdate

/-! ### Writing -/

/-- An identifier between brackets. -/
def bracketed (identifier : String) : String :=
  "[" ++ identifier ++ "]"

/-- The blanks before the inner lines of a statement. -/
def indent : String := "    "

/-- The text of a column definition. -/
def ColumnDefinition.render (c : ColumnDefinition) : String :=
  " ".intercalate <|
    [bracketed c.name, c.type] ++ c.mark.toList ++
      (if c.notNull then ["NOT NULL"] else []) ++ (if c.unique then ["UNIQUE"] else [])

/-- The text of a constraint. -/
def TableConstraint.render : TableConstraint → String
  | .primaryKey name columns =>
    "CONSTRAINT " ++ bracketed name ++ " PRIMARY KEY (" ++
      ", ".intercalate (columns.map bracketed) ++ ")"
  | .foreignKey name column table key =>
    "CONSTRAINT " ++ bracketed name ++ " FOREIGN KEY (" ++ bracketed column ++ ") REFERENCES " ++
      bracketed table ++ "(" ++ bracketed key ++ ")"

/-- The line of a referential action; doing nothing is not written. -/
def ReferentialAction.lines (event : String) (action : ReferentialAction) : List String :=
  if action = .noAction then [] else [indent ++ event ++ " " ++ spell action]

/-- The text of a statement. -/
def Statement.render : Statement → String
  | .header dialect generatedAt =>
    "-- SQL Schema Generated by schemabuilder\n-- Dialect: " ++ spell dialect ++
      "\n-- Generated: " ++ generatedAt
  | .createTable name columns constraints =>
    let lines := columns.map (·.render) ++ constraints.map (·.render)
    "CREATE TABLE " ++ bracketed name ++ " (\n" ++
      ",\n".intercalate (lines.map (indent ++ ·)) ++ "\n);"
  | .addForeignKey table constraint column referencedTable referencedColumn onDelete onUpdate =>
    let lines := [
      "ALTER TABLE " ++ bracketed table,
      indent ++ "ADD CONSTRAINT " ++ bracketed constraint ++ " FOREIGN KEY (" ++
        bracketed column ++ ")",
      indent ++ "REFERENCES " ++ bracketed referencedTable ++ "(" ++
        bracketed referencedColumn ++ ")"]
    "\n".intercalate
      (lines ++ onDelete.lines "ON DELETE" ++ onUpdate.lines "ON UPDATE") ++ ";"

end SchemaGraph
