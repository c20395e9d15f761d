import SchemaGraph.Text.LetterCase

/-!
# Environments

The variables that a program finds around it, in the order in which they were set. Names are told
apart letter by letter when variables are set, but can be looked up in any case of letters.
-/

namespace SchemaGraph

/-- Named variables in the order in which they were first set. -/
structure Environment where
  entries : List (String × String)
deriving DecidableEq, Repr

namespace Environment

/-- The value of a variable. -/
def get? (e : Environment) (name : String) : Option String :=
  e.entries.lookup name

/-- The value of the last variable whose name differs from the given one in the case of letters
only. -/
def find? (e : Environment) (name : String) : Option String :=
  (e.entries.reverse.find? fun v => lowerCase v.1 == lowerCase name).map (·.2)

/-- The environment with a variable set; one that was set before keeps its place. -/
def set (e : Environment) (name value : String) : Environment where
  entries :=
    if (e.get? name).isSome then
      e.entries.map fun v => if v.1 = name then (name, value) else v
    else e.entries ++ [(name, value)]

/-- The environment without a variable. -/
def unset (e : Environment) (name : String) : Environment where
  entries := e.entries.filter (·.1 ≠ name)

end Environment

end SchemaGraph
