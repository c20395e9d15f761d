import SchemaGraph.Settings

/-!
# Log output

Where records go. All loggers of the library stand below one root logger, which has a level and
sends what passes it to the console and, if there is one, to a file.
-/

namespace SchemaGraph

namespace LogOutput

/-! ### Loggers -/

/-- The name of the root logger. -/
def rootLogger : String := "schemabuilder"

/-- The name of the logger that is asked for by a name. -/
def loggerName (name : String) : String :=
  if name.startsWith rootLogger then name else rootLogger ++ "." ++ name

/-- Whether a logger stands below the root logger, or is it. -/
def isBelowRoot (logger : String) : Bool :=
  logger == rootLogger || logger.startsWith (rootLogger ++ ".")

/-! ### Levels -/

/-- The names of levels, with their numbers; where a number has two names the first one is
printed. -/
def levels : List (String × Nat) := [
  ("CRITICAL", 50), ("FATAL", 50), ("ERROR", 40), ("WARNING", 30), ("WARN", 30), ("INFO", 20),
  ("DEBUG", 10), ("NOTSET", 0)]

/-- The number of a level, by its name in any case of letters. -/
def levelNumber? (name : String) : Option Nat :=
  levels.lookup (upperCase name)

/-- The name of a level, by its number. -/
def levelName (number : Int) : String :=
  match levels.find? fun l => (l.2 : Int) == number with
  | some (name, _) => name
  | none => "Level " ++ toString number

/-- The least level that passes when none is set. -/
def defaultLevel : Nat := 30

/-! ### Lines -/

/-- A record as it reaches the output. -/
structure Entry where
  logger : String
  level : Int
  text : String
deriving DecidableEq, Repr

/-- A record as the library sends it. -/
def Entry.ofRecord (r : Record) : Entry :=
  ⟨r.channel.name, (levelNumber? (spell r.level)).getD 0, r.text⟩

/-- The format of lines where none is given. -/
def defaultFormat : String := "%(name)s - %(levelname)s - %(message)s"

/-- A format of lines with its three fields replaced; everything else stands for itself. The bound
is the length of the text. -/
def formatWith (e : Entry) : Nat → List Char → List Char
  | 0, text => text
  | _, [] => []
  | bound + 1, c :: rest =>
    let fields := [("%(levelname)s", levelName e.level), ("%(name)s", e.logger),
      ("%(message)s", e.text)]
    match fields.find? fun f => f.1.toList.isPrefixOf (c :: rest) with
    | some (field, value) => value.toList ++ formatWith e bound (rest.drop (field.length - 1))
    | none => c :: formatWith e bound rest

/-- The line of an entry. -/
def Entry.line (e : Entry) (format : String) : String :=
  String.ofList (formatWith e format.length format.toList) ++ "\n"

end LogOutput

/-- An output for records: the level of the root logger, and the file that gets the lines. -/
structure LogOutput where
  level : Nat
  file : Option Path
deriving DecidableEq, Repr

namespace LogOutput

/-- Whether an entry passes. -/
def accepts (o : LogOutput) (e : Entry) : Bool :=
  isBelowRoot e.logger && ((if o.level = 0 then defaultLevel else o.level) : Int) ≤ e.level

/-- Why there is no output. -/
inductive Error
  | settings (error : Settings.Error)
  | unknownLevel (name : String)
  | file (error : FileError)
deriving DecidableEq, Repr

/-- The output with a level and a file, either of them taken from the settings unless given. The
file is there afterwards. -/
def openIn (w : World) (level : Option String) (file : Option String) :
    Except Error LogOutput × World :=
  let (settings, w) := w.settings []
  match settings with
  | .error e => (.error (.settings e), w)
  | .ok s =>
    let name := (level.filter (!·.isEmpty)).getD (spell s.logLevel)
    match levelNumber? name with
    | none => (.error (.unknownLevel name), w)
    | some level =>
      match ((file.filter (!·.isEmpty)).map Path.ofText).or s.logFile with
      | none => (.ok ⟨level, none⟩, w)
      | some file =>
        match w.store.append file.collapsed "" with
        | .ok store => (.ok ⟨level, some file.collapsed⟩, { w with store })
        | .error e => (.error (.file e), w)

/-- The lines of those entries that pass. -/
def lines (o : LogOutput) (format : String) (entries : List Entry) : String :=
  String.join ((entries.filter o.accepts).map (·.line format))

/-- The world after some entries were sent to an output. -/
def send (o : LogOutput) (format : String) (entries : List Entry) (w : World) : World :=
  match o.file with
  | none => w
  | some file =>
    match w.store.append file (o.lines format entries) with
    | .ok store => { w with store }
    | .error _ => w

end LogOutput

end SchemaGraph
