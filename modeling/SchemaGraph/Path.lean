/-!
# File paths

A path is a root, which is empty for a relative path, and the names that lead on from it. Empty
names and single dots are dropped when a path is read; double dots stay.
-/

namespace SchemaGraph

/-- A file path. -/
structure Path where
  root : String
  names : List String
deriving DecidableEq, Repr

namespace Path

/-- Text cut at every slash. -/
def splitSlashes : List Char → List (List Char)
  | [] => [[]]
  | '/' :: rest => [] :: splitSlashes rest
  | c :: rest =>
    match splitSlashes rest with
    | [] => [[c]]
    | name :: names => (c :: name) :: names

/-- The root of a path by the number of slashes at its front; two are a root of their own. -/
def rootOf : Nat → String
  | 0 => ""
  | 2 => "//"
  | _ => "/"

/-- The path that a text describes. -/
def ofText (text : String) : Path where
  root := rootOf (text.toList.takeWhile (· == '/')).length
  names := ((splitSlashes text.toList).map String.ofList).filter fun n => n ≠ "" ∧ n ≠ "."

/-- The text of a path; the empty relative path is a dot. -/
def text (p : Path) : String :=
  if p.root.isEmpty ∧ p.names.isEmpty then "." else p.root ++ "/".intercalate p.names

/-- The path of the enclosing directory. -/
def parent (p : Path) : Path :=
  { p with names := p.names.dropLast }

/-- The path without its double dots, as far as names stand before them. -/
def collapsed (p : Path) : Path :=
  { p with
    names := (p.names.foldl
      (fun passed name =>
        match name, passed with
        | "..", last :: before => if last = ".." then name :: passed else before
        | _, _ => name :: passed)
      []).reverse }

end Path

end SchemaGraph
