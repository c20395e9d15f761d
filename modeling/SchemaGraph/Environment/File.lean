import SchemaGraph.Document.File
import SchemaGraph.Environment.Basic
import SchemaGraph.Store
import SchemaGraph.Text.Blank

/-!
# Environment files

An environment file holds lines of the form `NAME=value`. Blanks around the name and the sign do not
count, `export` may stand before the name, and a number sign starts a comment. A quoted value goes
on over line breaks. A line of another form is skipped. In every value `${NAME}` and
`${NAME:-default}` stand for variables.

A file named `.env` is looked for twice: from the working directory upwards, and if there is none
nearby, from the directory upwards that the program is installed in. Only the first one that is
found is loaded.
-/

namespace SchemaGraph

/-- A line of an environment file: a name, and a value if there is a sign after the name. -/
structure Binding where
  name : String
  value : Option String
deriving DecidableEq, Repr

namespace EnvironmentFile

/-- Whether a character ends a line. -/
def isLineEnd (c : Char) : Bool :=
  c == '\n' || c == '\r'

/-- Whether a character is a blank within a line. -/
def isInlineBlank (c : Char) : Bool :=
  isBlank c && !isLineEnd c

/-! ### Quoted values -/

/-- The text up to the first quote without a backslash before it, and the text after that quote. -/
def untilQuote? (quote : Char) : List Char → Option (List Char × List Char)
  | [] => none
  | '\\' :: c :: rest =>
    if c = quote then (untilQuote? quote rest).map fun r => ('\\' :: c :: r.1, r.2)
    else (untilQuote? quote (c :: rest)).map fun r => ('\\' :: r.1, r.2)
  | c :: rest =>
    if c = quote then some ([], rest) else (untilQuote? quote rest).map fun r => (c :: r.1, r.2)

/-- The text up to the last quote of all, and the text after it. -/
def untilLastQuote? (quote : Char) (text : List Char) : Option (List Char × List Char) :=
  match text.reverse.dropWhile (· != quote) with
  | [] => none
  | _ :: before => some (before.reverse, (text.reverse.takeWhile (· != quote)).reverse)

/-- The body of a quoted value after its first quote, and the text after the value. -/
def quotedBody? (quote : Char) (text : List Char) : Option (List Char × List Char) :=
  (untilQuote? quote text).or (untilLastQuote? quote text)

/-- Text with its escapes replaced; a backslash before any other character stays. -/
def unescape (escape? : Char → Option Char) : List Char → List Char
  | [] => []
  | '\\' :: c :: rest =>
    match escape? c with
    | some d => d :: unescape escape? rest
    | none => '\\' :: unescape escape? (c :: rest)
  | c :: rest => c :: unescape escape? rest

/-- The escapes between single quotes. -/
def singleEscape? : Char → Option Char
  | '\\' => some '\\'
  | '\'' => some '\''
  | _ => none

/-- The escapes between double quotes. -/
def doubleEscape? : Char → Option Char
  | '\\' => some '\\'
  | '\'' => some '\''
  | '"' => some '"'
  | 'a' => some '\x07'
  | 'b' => some '\x08'
  | 'f' => some '\x0c'
  | 'n' => some '\n'
  | 'r' => some '\r'
  | 't' => some '\t'
  | 'v' => some '\x0b'
  | _ => none

/-! ### Lines -/

/-- What was read and the text after it, or the text at which reading failed. -/
abbrev Reading (α : Type) := Except (List Char) (α × List Char)

/-- The text after the word `export`, if blanks follow that word. -/
def skipExport (text : List Char) : List Char :=
  match text with
  | 'e' :: 'x' :: 'p' :: 'o' :: 'r' :: 't' :: c :: rest =>
    if isInlineBlank c then rest.dropWhile isInlineBlank else text
  | _ => text

/-- Reads a name, quoted or not. At a comment there is none. -/
def readName (text : List Char) : Reading (Option String) :=
  match text with
  | '#' :: _ => .ok (none, text)
  | '\'' :: rest =>
    match rest.span (· != '\'') with
    | (name@(_ :: _), _ :: after) => .ok (some (String.ofList name), after)
    | _ => .error text
  | _ =>
    match text.span fun c => c != '=' && c != '#' && !isBlank c with
    | ([], _) => .error text
    | (name, after) => .ok (some (String.ofList name), after)

/-- A line without the comment that blanks and a number sign introduce. -/
def dropComment : List Char → List Char
  | [] => []
  | c :: rest =>
    if isBlank c && (rest.dropWhile isBlank).head? == some '#' then [] else c :: dropComment rest

/-- Reads a value after the sign and the blanks that follow it. -/
def readValue (text : List Char) : Reading String :=
  match text with
  | '\'' :: rest =>
    match quotedBody? '\'' rest with
    | some (body, after) => .ok (String.ofList (unescape singleEscape? body), after)
    | none => .error text
  | '"' :: rest =>
    match quotedBody? '"' rest with
    | some (body, after) => .ok (String.ofList (unescape doubleEscape? body), after)
    | none => .error text
  | _ =>
    let (line, after) := text.span (!isLineEnd ·)
    .ok (String.ofList (trimEnd isBlank (dropComment line)), after)

/-- The text after a comment, if one comes next in the line. -/
def skipComment (text : List Char) : List Char :=
  match text.dropWhile isInlineBlank with
  | '#' :: rest => rest.dropWhile (!isLineEnd ·)
  | _ => text

/-- The text after the end of the line, if nothing but blanks comes before it. -/
def endLine (text : List Char) : Except (List Char) (List Char) :=
  match text.dropWhile isInlineBlank with
  | [] => .ok []
  | '\r' :: '\n' :: rest => .ok rest
  | '\r' :: rest => .ok rest
  | '\n' :: rest => .ok rest
  | _ => .error text

/-- Reads a line that starts with no blank. -/
def readLine (text : List Char) : Except (List Char) (Option Binding × List Char) := do
  let (name, text) ← readName (skipExport text)
  let (value, text) ←
    match text.dropWhile isInlineBlank with
    | '=' :: rest => (fun r => (some r.1, r.2)) <$> readValue (rest.dropWhile isInlineBlank)
    | rest => .ok (none, rest)
  let text ← endLine (skipComment text)
  return (name.map (⟨·, value⟩), text)

/-- The text after the end of the line. -/
def skipLine (text : List Char) : List Char :=
  (text.dropWhile (!isLineEnd ·)).drop 1

/-- The bindings of a text; the bound is at least its length. -/
def readLines : Nat → List Char → List Binding
  | 0, _ => []
  | bound + 1, text =>
    match text.dropWhile isBlank with
    | [] => []
    | text =>
      match readLine text with
      | .ok (binding, rest) => binding.toList ++ readLines bound rest
      | .error rest => readLines bound (skipLine rest)

/-- The bindings of an environment file. -/
def bindings (text : String) : List Binding :=
  let text := plainLineBreaks text.toList
  readLines text.length text

/-! ### Variables in values -/

/-- A reference to a variable: its name and the default behind it. -/
structure Reference where
  name : String
  fallback : String

/-- The reference that a text goes on with after its opening brace, and the text after it. -/
def readReference? (text : List Char) : Option (Reference × List Char) :=
  match text.span fun c => c != '\x7d' && c != ':' with
  | (name, '\x7d' :: after) => some (⟨String.ofList name, ""⟩, after)
  | (name, ':' :: '-' :: rest) =>
    match rest.span (· != '\x7d') with
    | (fallback, _ :: after) => some (⟨String.ofList name, String.ofList fallback⟩, after)
    | _ => none
  | _ => none

/-- Text with its references replaced by what they stand for; the bound is at least its length. -/
def expandWith (resolve : Reference → String) : Nat → List Char → List Char
  | 0, text => text
  | _, [] => []
  | bound + 1, '$' :: '\x7b' :: rest =>
    match readReference? rest with
    | some (reference, after) => (resolve reference).toList ++ expandWith resolve bound after
    | none => '$' :: expandWith resolve bound ('\x7b' :: rest)
  | bound + 1, c :: rest => c :: expandWith resolve bound rest

/-- What a reference stands for: the variable of the environment, else the last value that the file
has given the name before, else the default. A name without a value stands for nothing. -/
def Reference.resolve (e : Environment) (earlier : List Binding) (r : Reference) : String :=
  match e.get? r.name, earlier.reverse.find? (·.name == r.name) with
  | some value, _ => value
  | none, some b => b.value.getD ""
  | none, none => r.fallback

/-- A value with its references replaced. -/
def expand (e : Environment) (earlier : List Binding) (value : String) : String :=
  String.ofList (expandWith (Reference.resolve e earlier) value.length value.toList)

/-- The bindings with all references replaced, given those that come before. -/
def expandAll (e : Environment) (earlier : List Binding) : List Binding → List Binding
  | [] => earlier
  | b :: rest => expandAll e (earlier ++ [{ b with value := b.value.map (expand e earlier) }]) rest

/-! ### Loading -/

/-- One binding for each name, in the order of first mention; of repeated names the last value
counts. -/
def merge (bindings : List Binding) : List Binding :=
  bindings.foldl
    (fun merged b =>
      if merged.any (·.name == b.name) then merged.map fun m => if m.name = b.name then b else m
      else merged ++ [b])
    []

/-- Whether a variable of a name and a value can be set. -/
def isSettable (name value : String) : Bool :=
  !name.contains '=' && !name.contains '\x00' && !value.contains '\x00'

/-- Why an environment file cannot be loaded. -/
inductive Fault
  /-- The bytes of the file are no text. -/
  | undecodable
  /-- A variable of this name cannot be set. -/
  | unsettable (name : String)
deriving DecidableEq, Repr

/-- The environment with those bindings of a list that it does not have yet. Loading stops at the
first variable that cannot be set; those before it stay. -/
def setMissing (e : Environment) : List Binding → Environment × Option Fault
  | [] => (e, none)
  | ⟨name, value⟩ :: rest =>
    if (e.get? name).isSome then setMissing e rest
    else
      match value with
      | none => setMissing e rest
      | some value =>
        if isSettable name value then setMissing (e.set name value) rest
        else (e, some (.unsettable name))

/-- The environment after a file was loaded. -/
def load (e : Environment) (text : String) : Environment × Option Fault :=
  setMissing e (merge (expandAll e [] (bindings text)))

/-! ### Finding -/

/-- The place of the environment file so many levels above a directory. -/
def place (start : Location) (level : Nat) : Location :=
  (start.above level).child ".env"

/-- How many levels above a directory the nearest environment file is. Files more than three levels
up are not looked for from there. -/
def nearestLevelAbove? (start : Location) (s : Store) : Option Nat :=
  (List.range 4).find? fun level => (s.node? (place start level)).isSome

/-- The place of the environment file so many levels above the working directory. -/
def location : (level : Nat) → Location :=
  place .here

/-- How many levels above the working directory the nearest environment file is. -/
def nearestLevel? : Store → Option Nat :=
  nearestLevelAbove? .here

/-- The place of the environment file that is taken: the nearest to the working directory, or else
the nearest to the directory that the program is installed in. -/
def nearest? (root : Location) (s : Store) : Option Location :=
  ((nearestLevel? s).map location).or ((nearestLevelAbove? root s).map (place root))

/-- The environment after the nearest environment file was loaded, for a program that is installed
in some directory. In a directory of the name of a file there are no variables. -/
def loadNearestFrom (root : Location) (s : Store) (e : Environment) : Environment × Option Fault :=
  match (nearest? root s).bind s.node? with
  | some (.file text) => load e text
  | some .binary => (e, some .undecodable)
  | some .directory => (e, none)
  | none => (e, none)

/-- The directory that the program is installed in. -/
def installation : Location :=
  ⟨true, 0, ["usr", "local", "lib", "schemabuilder"]⟩

/-- The environment after the nearest environment file was loaded. -/
def loadNearest : Store → Environment → Environment × Option Fault :=
  loadNearestFrom installation

end EnvironmentFile

end SchemaGraph
