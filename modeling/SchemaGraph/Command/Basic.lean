import SchemaGraph.Command.Arguments

/-!
# Commands

The three commands of the program and how they are given on a command line.
-/

namespace SchemaGraph

/-- A command of the program. -/
inductive Command
  /-- Writes the script of a schema file, to a file or to the output. -/
  | generate (file : String) (dialect out : Option String)
  /-- Prints the report on a schema file. -/
  | analyze (file mode : String)
  /-- Converts a schema file to the other mode. -/
  | convert (file out target : String)
deriving DecidableEq, Repr

namespace Command

/-- What a command line asks for. -/
inductive Call
  | command (command : Command)
  | help
  | unusable
deriving DecidableEq, Repr

/-- The options of a command, by its name. -/
def options? : String → Option (List OptionSpec)
  | "generate" => some [⟨"--dialect", some 'd'⟩, ⟨"--out", some 'o'⟩]
  | "analyze" => some [⟨"--mode", some 'm'⟩]
  | "convert" => some [⟨"--to", none⟩]
  | _ => none

/-- The command of a name with sorted arguments. -/
def ofArguments? (name : String) (a : Arguments) : Option Command :=
  match name, a.positional with
  | "generate", [file] => some (.generate file (a.option? "--dialect") (a.option? "--out"))
  | "analyze", [file] => some (.analyze file ((a.option? "--mode").getD "LOGICAL"))
  | "convert", [file, out] => (a.option? "--to").map (.convert file out)
  | _, _ => none

/-- The call of a command by its name. -/
def callNamed (name : String) (arguments : List String) : Call :=
  match (options? name).bind (Arguments.sort? · arguments) with
  | none => .unusable
  | some a =>
    if a.help then .help
    else
      match ofArguments? name a with
      | some command => .command command
      | none => .unusable

/-- What a command line asks for. Before the name of the command there is no option but help. -/
def parse : List String → Call
  | [] => .unusable
  | name :: rest =>
    match Arguments.readOne [] name with
    | .positional => callNamed name rest
    | .help => .help
    | .endOfOptions =>
      match rest with
      | [] => .unusable
      | name :: rest => callNamed name rest
    | _ => .unusable

end Command

end SchemaGraph
