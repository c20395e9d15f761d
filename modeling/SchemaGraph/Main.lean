import SchemaGraph.Command.Run
import SchemaGraph.Timestamp

/-!
# The program

The command line around `Command.run`: it takes a snapshot of the variables and of the files that a
command can touch, runs the command on it, and carries out what has changed.
-/

namespace SchemaGraph.Program

/-- What is printed about the use of the program. -/
def usage : String :=
  "Usage: schemabuilder COMMAND\n\n" ++
    "  generate FILE [--dialect|-d NAME] [--out|-o FILE]\n" ++
    "  analyze FILE [--mode|-m MODE]\n" ++
    "  convert FILE OUT --to MODE"

/-- The text of the path to a place. -/
def pathText (l : Location) : String :=
  let names := "/".intercalate l.names
  if l.absolute then "/" ++ names else String.join (List.replicate l.levelsUp "../") ++ names

/-- What is at a place, if anything. -/
def look (l : Location) : IO (Option Node) := do
  let path := (← IO.currentDir) / pathText l
  if ← path.isDir then return some .directory
  if ← path.pathExists then
    return some ((String.fromUTF8? (← IO.FS.readBinFile path)).elim .binary .file)
  return none

/-- The store with what is found on the way along a path. -/
def explore (s : Store) (p : Path) : IO Store := do
  let mut store := s
  let mut place := Location.start p
  for name in p.names do
    place := if name = ".." then place.up else place.child name
    if let some node ← look place then
      unless place.names.isEmpty do store := store.put place node
  return store

/-- The variables around the program. -/
def currentEnvironment : IO Environment := do
  let content ← IO.FS.readFile ((← IO.currentDir) / "/proc/self/environ")
  let pairs := (content.splitOn "\x00").filterMap fun line =>
    match line.toList.span (· != '=') with
    | (name, _ :: value) => some (String.ofList name, String.ofList value)
    | _ => none
  return ⟨pairs⟩

/-- The time in the head of scripts. -/
def stamp : IO String := do
  let now ← ((← IO.currentDir) / "/proc/self/stat").metadata
  return (Timestamp.ofSeconds now.modified.sec.toNat).text

/-- The paths that a command names. -/
def paths : Command → List Path
  | .generate file _ out => (file :: out.toList).map .ofText
  | .analyze file _ => [.ofText file]
  | .convert file out _ => [.ofText file, .ofText out]

/-- The world of a command: the variables, the environment files, the files that it names and the
log file. -/
def snapshot (command : Command) : IO World := do
  let mut store : Store := ⟨[]⟩
  for level in List.range 4 do
    for start in [Location.here, EnvironmentFile.installation] do
      let place := EnvironmentFile.place start level
      if let some node ← look place then store := store.put place node
  for path in paths command do
    store ← explore store path
  let world : World := ⟨← currentEnvironment, store⟩
  match (world.settings []).1 with
  | .ok ⟨_, _, _, _, _, _, some file⟩ =>
    return { world with store := ← explore (← explore store file) file.collapsed }
  | _ => return world

/-- Carries out what has changed in a store. -/
def commit (before after : Store) : IO Unit := do
  for (place, node) in after.nodes do
    if before.node? place ≠ some node then
      let path := (← IO.currentDir) / pathText place
      match node with
      | .directory => IO.FS.createDirAll path
      | .file text => IO.FS.writeFile path text
      | .binary => pure ()

end SchemaGraph.Program

open SchemaGraph SchemaGraph.Program in
/-- Runs a command line. -/
def main (arguments : List String) : IO UInt32 := do
  match Command.parse arguments with
  | .unusable => IO.eprintln usage; return 2
  | .help => IO.println usage; return 0
  | .command command =>
    let before ← snapshot command
    let (outcome, after) := Command.run before (← stamp) command
    commit before.store after.store
    IO.print outcome.output
    IO.eprint outcome.errors
    if outcome.failure.isSome then IO.eprintln "The command broke off."
    return outcome.exitCode.toUInt32
