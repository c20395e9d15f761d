import SchemaGraph.Environment.File
import SchemaGraph.Sql.Dialect
import SchemaGraph.Validation

/-!
# Settings

Settings come from three places: a value that a caller gives wins, then a variable of the
environment, then the default. Before the environment is looked at, the nearest environment file
(`EnvironmentFile.nearest?`) adds the variables that are not set yet.
-/

namespace SchemaGraph

/-- The choices that operations fall back to, and where and how much is logged. -/
structure Settings where
  dialect : DialectName
  naming : Naming
  cardinality : Cardinality
  onDelete : ReferentialAction
  onUpdate : ReferentialAction
  logLevel : LogLevel
  logFile : Option Path
deriving DecidableEq, Repr

/-- Checks a path that may be absent. -/
def Json.checkOptionalPath : Json → Checked (Option Path)
  | .null => .valid none
  | .str s => .valid (some (.ofText s))
  | _ => .complain .notPath

namespace Settings

/-- What the names of variables begin with. -/
def variablePrefix : String := "SCHEMABUILDER_"

/-- Checks a setting: the given value, else the variable of the environment, else the default. -/
def choose {α : Type} (given : Members) (e : Environment) (name : String) (default : α)
    (check : Json → Checked α) : Checked α :=
  match given.get? name with
  | some value => (check value).within (.member name)
  | none =>
    match e.find? (variablePrefix ++ name) with
    | some text => (check (.str text)).within (.member name)
    | none => .valid default

/-- The settings of given values and an environment. -/
def check (given : Members) (e : Environment) : Checked Settings :=
  Settings.mk
    <$> choose given e "default_dialect" .access Json.checkWord
    <*> choose given e "fk_naming" .bare Json.checkWord
    <*> choose given e "default_cardinality" .oneToMany Json.checkWord
    <*> choose given e "default_on_delete" .cascade Json.checkWord
    <*> choose given e "default_on_update" .cascade Json.checkWord
    <*> choose given e "log_level" .info Json.checkWord
    <*> choose given e "log_file" none Json.checkOptionalPath

/-- Why there are no settings. -/
inductive Error
  | invalid (issues : List Issue)
  /-- The environment file cannot be loaded. -/
  | badVariable (cause : EnvironmentFile.Fault)
  | logDirectory (error : FileError)
deriving DecidableEq, Repr

end Settings

/-! ### Worlds -/

/-- What surrounds a program: variables and files. -/
structure World where
  environment : Environment
  store : Store
deriving DecidableEq, Repr

namespace World

/-- The settings of given values in a world, for a program that is installed in some directory, and
the world after they were made: the environment file is loaded, and the directory of the log file is
there. -/
def settingsFrom (root : Location) (w : World) (given : Members) :
    Except Settings.Error Settings × World :=
  let (environment, bad) := EnvironmentFile.loadNearestFrom root w.store w.environment
  let w := { w with environment }
  match bad with
  | some cause => (.error (.badVariable cause), w)
  | none =>
    match Settings.check given environment with
    | .invalid issues => (.error (.invalid issues), w)
    | .valid s =>
      match s.logFile with
      | none => (.ok s, w)
      | some file =>
        match w.store.makeDirectories file.parent with
        | .ok store => (.ok s, { w with store })
        | .error e => (.error (.logDirectory e), w)

/-- The settings of given values in a world, and the world after they were made. -/
def settings : World → (given : Members) → Except Settings.Error Settings × World :=
  settingsFrom EnvironmentFile.installation

end World

end SchemaGraph
