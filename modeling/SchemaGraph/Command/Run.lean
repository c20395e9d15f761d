import SchemaGraph.Advice.Analysis
import SchemaGraph.Command.Basic
import SchemaGraph.Document.File
import SchemaGraph.LogOutput
import SchemaGraph.Sql.Script

/-!
# Running commands

A command runs in a world and gives back an outcome and the world after it. Whatever a user can set
right ends with a message and a failing exit code; other errors end the program.
-/

namespace SchemaGraph.Command

/-! ### Outcomes -/

/-- Why a command breaks off. -/
inductive Failure
  | log (error : LogOutput.Error)
  | file (error : FileError)
  | load (error : LoadError)
deriving Repr

/-- What a command leaves behind. -/
structure Outcome where
  exitCode : Nat
  output : String
  errors : String
  failure : Option Failure

namespace Outcome

/-- The outcome of a command that went well. -/
def success (output errors : String) : Outcome :=
  ⟨0, output, errors, none⟩

/-- The outcome of a command that ends with a message. -/
def error (message : String) : Outcome :=
  ⟨1, "", "Error: " ++ message ++ "\n", none⟩

/-- The outcome of a command that breaks off. -/
def broken (failure : Failure) : Outcome :=
  ⟨1, "", "", some failure⟩

end Outcome

/-! ### Parts of commands -/

/-- The text of a schema file. -/
def readFile (w : World) (path : Path) : Except Outcome String :=
  match w.store.read path with
  | .ok text => .ok text
  | .error .isDirectory => .error (.broken (.file .isDirectory))
  | .error .notText => .error (.error LoadError.undecodable.message)
  | .error _ => .error (.error (LoadError.message (.notFound path.text)))

/-- Whether an error of loading is told to the user. A text that is nested too deep is not, nor is a
malformed export, unless one of its entries has the wrong length. -/
def isTold : LoadError → Bool
  | .tooDeep => false
  | .badExport (.notPair ..) => true
  | .badExport _ => false
  | _ => true

/-- What the text of a file describes, by the given way of loading it. -/
def loadFile {α : Type} (w : World) (file : String)
    (load : (path text : String) → Except LoadError α) : Except Outcome α := do
  let path := Path.ofText file
  let text ← readFile w path
  (load path.text text).mapError fun e =>
    if isTold e then .error e.message else .broken (.load e)

/-- The world with a text in a file, whose directory is made if need be. -/
def writeFile (w : World) (path : Path) (text : String) : Except Outcome World :=
  match w.store.save path text with
  | .ok store => .ok { w with store }
  | .error e => .error (.broken (.file e))

/-- The lines of a finding in a report. -/
def findingLines (f : Finding) : String :=
  "  [" ++ upperCase (spell f.severity) ++ "] " ++ f.title ++ ": " ++ f.description ++ "\n" ++
    match f.action with
    | some a => "      -> " ++ a.label ++ " (" ++ a.kind ++ ")\n"
    | none => ""

/-- The findings under a heading, the most urgent first. -/
def findingSection (heading : String) (findings : List Finding) : String :=
  let severities : List Severity := Vocabulary.words
  let sorted := severities.flatMap fun s => findings.filter (·.severity == s)
  heading ++ ": " ++ toString findings.length ++ "\n" ++ String.join (sorted.map findingLines)

/-- The text of a report. -/
def reportText (r : Report) : String :=
  findingSection "Issues" r.issues ++ findingSection "Recommendations" r.recommendations ++
    if r.findings.isEmpty then "✓ No issues or recommendations\n" else ""

/-! ### Commands -/

/-- The outcome of a command in a world with settings, and the world after it. -/
def runWith (w : World) (settings : Settings) (stamp : String) :
    Command → Except Outcome (Outcome × World)
  | .generate file dialect out => do
    let schema ← loadFile w file Schema.load
    let dialect :=
      match dialect.filter (!·.isEmpty) with
      | some text => Dialect.ofText text
      | none => Dialect.named settings.dialect
    let script := schema.script dialect settings.naming stamp
    match out with
    | none => return (.success script "", w)
    | some out =>
      let path := Path.ofText out
      let w ← writeFile w path script
      return (.success "" ("✓ DDL written to " ++ path.text ++ "\n"), w)
  | .analyze file mode => do
    match Vocabulary.read? (upperCase mode) with
    | none => throw (.error ("unknown mode '" ++ upperCase mode ++ "'"))
    | some mode =>
      let document ← loadFile w file (Document.load mode)
      return (.success (reportText (document.analyze mode)) "", w)
  | .convert file out target => do
    let path := Path.ofText out
    let summary (count : Nat) (noun : String) :=
      "✓ Wrote " ++ toString count ++ " " ++ noun ++ " to " ++ path.text ++ "\n"
    if lowerCase target = "conceptual" then
      let converted := (← loadFile w file Schema.load).toConceptual
      let w ← writeFile w path (Document.conceptual converted).save
      return (.success (summary converted.entities.length "entities") "", w)
    else if lowerCase target = "logical" then
      let schema ← loadFile w file ConceptualSchema.load
      let converted := schema.toLogical settings.onDelete settings.onUpdate
      let w ← writeFile w path (Document.logical converted).save
      return (.success (summary converted.tables.length "tables") "", w)
    else throw (.error ("unknown target mode '" ++ target ++ "'"))

/-! ### Records -/

/-- What a command tells of a file that loads; of any other it tells nothing. -/
def ofLoaded {α : Type} (loaded : Except Outcome α) (records : α → List Record) : List Record :=
  match loaded with
  | .ok a => records a
  | .error _ => []

/-- What a command tells. -/
def records (w : World) (settings : Settings) : Command → List Record
  | .generate file dialect _ =>
    ofLoaded (loadFile w file Schema.load) fun schema =>
      let name := (dialect.filter (!·.isEmpty)).getD (spell settings.dialect)
      Dialect.ofTextRecords name ++ schema.scriptRecords (.ofText name) settings.naming
  | .analyze file mode =>
    match Vocabulary.read? (upperCase mode) with
    | none => []
    | some mode => ofLoaded (loadFile w file (Document.load mode)) (·.analyzeRecords mode)
  | .convert file _ target =>
    if lowerCase target = "conceptual" then
      ofLoaded (loadFile w file Schema.load) Schema.toConceptualRecords
    else if lowerCase target = "logical" then
      ofLoaded (loadFile w file ConceptualSchema.load) ConceptualSchema.toLogicalRecords
    else []

/-! ### Running -/

/-- The outcome of a command in a world, and the world after it. Before anything else the settings
are made and the log file is opened; `stamp` is the time in the head of scripts. What passes the log
output comes before the errors of the command itself. -/
def run (w : World) (stamp : String) (command : Command) : Outcome × World :=
  let (opened, w) := LogOutput.openIn w none none
  match opened with
  | .error e => (.broken (.log e), w)
  | .ok log =>
    match (w.settings []).1 with
    | .error e => (.broken (.log (.settings e)), w)
    | .ok settings =>
      let entries := (records w settings command).map LogOutput.Entry.ofRecord
      let (outcome, w) :=
        match runWith w settings stamp command with
        | .ok result => result
        | .error outcome => (outcome, w)
      let lines := log.lines LogOutput.defaultFormat entries
      ({ outcome with errors := lines ++ outcome.errors },
        log.send LogOutput.defaultFormat entries w)

end SchemaGraph.Command
