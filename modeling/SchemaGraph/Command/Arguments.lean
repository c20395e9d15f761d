/-!
# Command line arguments

Options may stand anywhere among the other arguments. The value of a long option follows it or an
equals sign; the value of a short one follows it directly or as the next argument. After a double
dash nothing is an option. Of repeated options the last one counts.
-/

namespace SchemaGraph

/-- An option with a value: its long name, and a letter if it has a short one. -/
structure OptionSpec where
  long : String
  short : Option Char

/-- The arguments of a command, sorted. -/
structure Arguments where
  positional : List String
  options : List (String × String)
  help : Bool
deriving DecidableEq, Repr

namespace Arguments

/-- No arguments. -/
def none : Arguments := ⟨[], [], false⟩

/-- The arguments with one more in front that is no option. -/
def addPositional (a : Arguments) (argument : String) : Arguments :=
  { a with positional := argument :: a.positional }

/-- The arguments with one more option in front. -/
def addOption (a : Arguments) (long value : String) : Arguments :=
  { a with options := (long, value) :: a.options }

/-- The value of an option. -/
def option? (a : Arguments) (long : String) : Option String :=
  a.options.reverse.lookup long

/-- What a single argument is. -/
inductive Reading
  | positional
  | endOfOptions
  | help
  /-- An option whose value is the next argument. -/
  | awaiting (long : String)
  | complete (long value : String)
  | unknown
deriving DecidableEq, Repr

/-- Reads an argument as a long option. -/
def readLong? (specs : List OptionSpec) (argument : String) : Option Reading :=
  let (name, rest) := argument.toList.span (· != '=')
  if String.ofList name = "--help" then some (if rest.isEmpty then .help else .unknown)
  else
    (specs.find? fun o => o.long == String.ofList name).map fun o =>
      match rest with
      | [] => .awaiting o.long
      | _ :: value => .complete o.long (String.ofList value)

/-- Reads an argument as a short option. -/
def readShort (specs : List OptionSpec) (letter : Char) (rest : List Char) : Reading :=
  match specs.find? fun o => o.short == some letter with
  | some o => if rest.isEmpty then .awaiting o.long else .complete o.long (String.ofList rest)
  | .none => .unknown

/-- Reads an argument. A single dash is no option. -/
def readOne (specs : List OptionSpec) (argument : String) : Reading :=
  match argument.toList with
  | '-' :: letter :: rest =>
    if argument = "--" then .endOfOptions
    else
      match readLong? specs argument with
      | some reading => reading
      | .none => if letter = '-' then .unknown else readShort specs letter rest
  | _ => .positional

/-- Sorts the arguments of a command, or fails at an unknown option or a missing value. -/
def sort? (specs : List OptionSpec) : List String → Option Arguments
  | [] => some .none
  | argument :: rest =>
    match readOne specs argument with
    | .positional => (sort? specs rest).map (·.addPositional argument)
    | .endOfOptions => some { Arguments.none with positional := rest }
    | .help => (sort? specs rest).map fun a => { a with help := true }
    | .awaiting long =>
      match rest with
      | [] => .none
      | value :: rest => (sort? specs rest).map (·.addOption long value)
    | .complete long value => (sort? specs rest).map (·.addOption long value)
    | .unknown => .none

end Arguments

end SchemaGraph
