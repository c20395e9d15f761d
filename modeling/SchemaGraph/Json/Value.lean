import SchemaGraph.Number.Double

/-!
# JSON values

Whole numbers and numbers with a fraction or an exponent are kept apart, and an object is a list of
named members in the order of their first mention.
-/

namespace SchemaGraph

/-- A JSON value. -/
inductive Json
  | null
  | bool (value : Bool)
  | int (value : Int)
  | float (value : Double)
  | str (text : String)
  | arr (items : List Json)
  | obj (members : List (String × Json))

instance : Inhabited Json := ⟨.null⟩

/-- The members of an object. -/
abbrev Members := List (String × Json)

namespace Members

/-- The value of the member with a name. -/
def get? (members : Members) (name : String) : Option Json :=
  members.lookup name

/-- The members with one of them set; a new one goes to the end. -/
def set : Members → String → Json → Members
  | [], name, value => [(name, value)]
  | m :: rest, name, value =>
    if m.1 = name then (name, value) :: rest else m :: set rest name value

@[simp] theorem get?_nil (name : String) : get? [] name = none := rfl

theorem get?_cons (m : String × Json) (rest : Members) (name : String) :
    get? (m :: rest) name = if name = m.1 then some m.2 else get? rest name := by
  obtain ⟨first, value⟩ := m
  by_cases h : name = first
  · subst h
    simp [get?, List.lookup_cons_self]
  · simp only [get?, List.lookup_cons, beq_false_of_ne h, if_neg h]

theorem get?_set (members : Members) (name : String) (value : Json) (other : String) :
    (members.set name value).get? other =
      if other = name then some value else members.get? other := by
  induction members with
  | nil => simp [set, get?_cons]
  | cons m rest ih =>
    by_cases h : m.1 = name
    · simp only [set, h, if_true, get?_cons]
      split <;> rfl
    · simp only [set, h, if_false, get?_cons, ih]
      grind

/-- The members that a list of mentions describes: of repeated names the last value counts. -/
def ofMentions (mentions : List (String × Json)) : Members :=
  mentions.foldl (fun members m => members.set m.1 m.2) []

end Members

namespace Json

/-- Whether a value says nothing: null, false, zero, or an empty text, list or object. -/
def isVoid : Json → Bool
  | .null => true
  | .bool value => !value
  | .int value => value == 0
  | .float (.finite _ rank) => rank.val == 0
  | .float _ => false
  | .str text => text.isEmpty
  | .arr items => items.isEmpty
  | .obj members => members.isEmpty

/-- The text of a textual value. -/
def text? : Json → Option String
  | .str text => some text
  | _ => none

end Json

end SchemaGraph
