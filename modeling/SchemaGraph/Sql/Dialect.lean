import SchemaGraph.Journal
import SchemaGraph.Text.LetterCase
import SchemaGraph.Vocabulary

/-!
# SQL dialects

A dialect says how the data types of columns are written and how counting columns are marked. Data
types are known by their names in any case of letters; every other name gets the fallback type.
-/

namespace SchemaGraph

/-! ### Data types -/

/-- The data types that every dialect can write. -/
inductive DataType
  | text
  | integer
  | long
  | double
  | currency
  | datetime
  | boolean
  | autoincrement
  | memo
  | ole
deriving DecidableEq, Repr

instance : Vocabulary DataType where
  words := [.text, .integer, .long, .double, .currency, .datetime, .boolean, .autoincrement, .memo,
    .ole]
  spell
    | .text => "TEXT"
    | .integer => "INTEGER"
    | .long => "LONG"
    | .double => "DOUBLE"
    | .currency => "CURRENCY"
    | .datetime => "DATETIME"
    | .boolean => "BOOLEAN"
    | .autoincrement => "AUTOINCREMENT"
    | .memo => "MEMO"
    | .ole => "OLE"

/-- The data type that a name means, whatever the case of its letters. -/
def DataType.ofName? (name : String) : Option DataType :=
  Vocabulary.read? (upperCase name)

/-! ### Dialects -/

/-- The dialects that scripts are written in. -/
inductive DialectName
  | access
  | sqlite
  | mysql
  | postgresql
deriving DecidableEq, Repr

instance : Vocabulary DialectName where
  words := [.access, .sqlite, .mysql, .postgresql]
  spell
    | .access => "ACCESS"
    | .sqlite => "SQLITE"
    | .mysql => "MYSQL"
    | .postgresql => "POSTGRESQL"

/-- The type table and the treatment of counting columns of a dialect. -/
structure Dialect where
  name : DialectName
  /-- How a data type is written. -/
  typeText : DataType → String
  /-- How every other type is written. -/
  fallback : String
  /-- What stands after the type of a counting column. -/
  countingMark : Option String
  /-- What stands in place of the type of a counting column. -/
  countingType : Option String

namespace Dialect

/-- Access counts by a mark of its own, which is also the name of the counting type. -/
def access : Dialect where
  name := .access
  typeText
    | .text => "VARCHAR(255)"
    | .integer => "INTEGER"
    | .long => "LONG"
    | .double => "DOUBLE"
    | .currency => "CURRENCY"
    | .datetime => "DATETIME"
    | .boolean => "BIT"
    | .autoincrement => "COUNTER"
    | .memo => "LONGTEXT"
    | .ole => "OLEOBJECT"
  fallback := "VARCHAR(255)"
  countingMark := some "COUNTER"
  countingType := none

/-- SQLite has few types and no mark for counting. -/
def sqlite : Dialect where
  name := .sqlite
  typeText
    | .text => "TEXT"
    | .integer => "INTEGER"
    | .long => "INTEGER"
    | .double => "REAL"
    | .currency => "NUMERIC"
    | .datetime => "DATETIME"
    | .boolean => "INTEGER"
    | .autoincrement => "INTEGER"
    | .memo => "TEXT"
    | .ole => "BLOB"
  fallback := "TEXT"
  countingMark := none
  countingType := none

/-- MySQL counts by a mark after the type. -/
def mysql : Dialect where
  name := .mysql
  typeText
    | .text => "VARCHAR(255)"
    | .integer => "INT"
    | .long => "BIGINT"
    | .double => "DOUBLE"
    | .currency => "DECIMAL(19,4)"
    | .datetime => "DATETIME"
    | .boolean => "TINYINT(1)"
    | .autoincrement => "INT"
    | .memo => "LONGTEXT"
    | .ole => "LONGBLOB"
  fallback := "VARCHAR(255)"
  countingMark := some "AUTO_INCREMENT"
  countingType := none

/-- PostgreSQL counts by a type of its own. -/
def postgresql : Dialect where
  name := .postgresql
  typeText
    | .text => "VARCHAR(255)"
    | .integer => "INTEGER"
    | .long => "BIGINT"
    | .double => "DOUBLE PRECISION"
    | .currency => "NUMERIC(19,4)"
    | .datetime => "TIMESTAMP"
    | .boolean => "BOOLEAN"
    | .autoincrement => "INTEGER"
    | .memo => "TEXT"
    | .ole => "BYTEA"
  fallback := "VARCHAR(255)"
  countingMark := none
  countingType := some "SERIAL"

/-- The dialect of a name. -/
def named : DialectName → Dialect
  | .access => access
  | .sqlite => sqlite
  | .mysql => mysql
  | .postgresql => postgresql

/-- The name that a text means, whatever the case of its letters. -/
def name? (text : String) : Option DialectName :=
  Vocabulary.read? (upperCase text)

/-- The dialect that a text means; Access stands for every unknown one. -/
def ofText (text : String) : Dialect :=
  named ((name? text).getD .access)

/-- What the choice of a dialect tells. -/
def ofTextRecords (text : String) : List Record :=
  if (name? text).isSome then []
  else [⟨.warning, .dialects, "Unknown SQL dialect '" ++ text ++ "', using ACCESS"⟩]

/-! ### Types of columns -/

/-- How the type of a column is written. -/
def mapType (d : Dialect) (type : String) : String :=
  ((DataType.ofName? type).map d.typeText).getD d.fallback

/-- How the type of a column is written if the column may count. -/
def columnType (d : Dialect) (type : String) (counting : Bool) : String :=
  if counting ∧ DataType.ofName? type = some .autoincrement then
    d.countingType.getD (d.mapType type)
  else d.mapType type

end Dialect

end SchemaGraph
