import SchemaGraph.Path

/-!
# Stores

A store is the part of a file system that a command sees: directories and text files, found from a
working directory or from the root.
-/

namespace SchemaGraph

/-- A place in a store: so many levels above the working directory, or at the root, and names that
lead on from there. -/
structure Location where
  absolute : Bool
  levelsUp : Nat
  names : List String
deriving DecidableEq, Repr

namespace Location

/-- The working directory. -/
def here : Location := ⟨false, 0, []⟩

/-- The place of a name in a directory. -/
def child (l : Location) (name : String) : Location :=
  { l with names := l.names ++ [name] }

/-- The enclosing directory; the root encloses itself. -/
def up (l : Location) : Location :=
  if l.names.isEmpty then (if l.absolute then l else { l with levelsUp := l.levelsUp + 1 })
  else { l with names := l.names.dropLast }

/-- The directory so many levels above a directory. -/
def above (l : Location) : (levels : Nat) → Location
  | 0 => l
  | levels + 1 => (l.above levels).up

/-- Where a path starts. -/
def start (p : Path) : Location :=
  if p.root.isEmpty then here else ⟨true, 0, []⟩

end Location

/-- What can be at a place. A binary file is one whose bytes are no text. -/
inductive Node
  | directory
  | file (text : String)
  | binary
deriving DecidableEq, Repr

/-- Why a file operation fails. -/
inductive FileError
  | notFound
  | isDirectory
  | notDirectory
  | alreadyExists
  | notText
deriving DecidableEq, Repr

/-- The files and directories of a store. -/
structure Store where
  nodes : List (Location × Node)
deriving DecidableEq, Repr

namespace Store

/-- What is at a place. The working directory, what encloses it and the root are directories. -/
def node? (s : Store) (l : Location) : Option Node :=
  if l.names.isEmpty then some .directory else s.nodes.lookup l

/-- The store with something at a place. -/
def put (s : Store) (l : Location) (n : Node) : Store where
  nodes :=
    if s.nodes.any (·.1 == l) then s.nodes.map fun e => if e.1 = l then (l, n) else e
    else s.nodes ++ [(l, n)]

/-! ### Finding -/

/-- The place that names lead to; all but the last must be directories. -/
def follow (s : Store) (l : Location) : List String → Except FileError Location
  | [] => .ok l
  | name :: names =>
    match s.node? l with
    | none => .error .notFound
    | some .directory => s.follow (if name = ".." then l.up else l.child name) names
    | some _ => .error .notDirectory

/-- The place that a path leads to. -/
def locate (s : Store) (p : Path) : Except FileError Location :=
  s.follow (.start p) p.names

/-- Whether there is something at the end of a path. -/
def contains (s : Store) (p : Path) : Bool :=
  match s.locate p with
  | .ok l => (s.node? l).isSome
  | .error _ => false

/-- The text of a file. -/
def read (s : Store) (p : Path) : Except FileError String := do
  match s.node? (← s.locate p) with
  | none => .error .notFound
  | some .directory => .error .isDirectory
  | some (.file text) => .ok text
  | some .binary => .error .notText

/-! ### Changing -/

/-- The store with the text of a file changed by what it was, if it was there. -/
def update (s : Store) (p : Path) (f : Option String → String) : Except FileError Store := do
  let l ← s.locate p
  match s.node? l with
  | some .directory => .error .isDirectory
  | some (.file text) => .ok (s.put l (.file (f (some text))))
  | some .binary => .ok (s.put l (.file (f none)))
  | none =>
    match s.node? l.up with
    | some .directory => .ok (s.put l (.file (f none)))
    | _ => .error .notFound

/-- The store with a text in a file. -/
def write (s : Store) (p : Path) (text : String) : Except FileError Store :=
  s.update p fun _ => text

/-- The store with a text added to a file. -/
def append (s : Store) (p : Path) (text : String) : Except FileError Store :=
  s.update p fun old => old.getD "" ++ text

/-- The store with all directories that names lead through. -/
def makeFrom (s : Store) (l : Location) : List String → Except FileError Store
  | [] => .ok s
  | name :: names =>
    let next := if name = ".." then l.up else l.child name
    match s.node? next with
    | some .directory => s.makeFrom next names
    | none => (s.put next .directory).makeFrom next names
    | some _ => .error (if names.isEmpty then .alreadyExists else .notDirectory)

/-- The store with the directory at the end of a path, and all that lead to it. -/
def makeDirectories (s : Store) (p : Path) : Except FileError Store :=
  s.makeFrom (.start p) p.names

/-- The store with a text in a file, whose directory is made if need be. -/
def save (s : Store) (p : Path) (text : String) : Except FileError Store := do
  (← s.makeDirectories p.parent).write p text

end Store

end SchemaGraph
