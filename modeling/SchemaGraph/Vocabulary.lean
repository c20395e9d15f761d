/-!
# Vocabularies

The closed word lists of schema documents and settings. A word is a constructor; its spelling is
the exact text that stands for it in documents, scripts and messages. Spellings are told apart
letter by letter, so no two cases of a letter are identified.
-/

namespace SchemaGraph

/-- A closed list of words, each with its spelling. -/
class Vocabulary (α : Type) where
  /-- All words, in the order in which they are offered. -/
  words : List α
  /-- The exact text of a word. -/
  spell : α → String
  /-- Every word is offered, and no two words are spelled alike. -/
  find_spell : ∀ word, (words.find? fun w => spell w == spell word) = some word := by
    intro word; cases word <;> rfl

export Vocabulary (spell)

namespace Vocabulary

variable {α : Type} [Vocabulary α]

/-- The word with the given spelling. -/
def read? (text : String) : Option α :=
  words.find? fun word => spell word == text

@[simp] theorem read?_spell (word : α) : read? (spell word) = some word :=
  find_spell word

theorem spell_of_read? {text : String} {word : α} (h : read? text = some word) :
    spell word = text := by
  simpa using List.find?_some h

theorem read?_eq_some_iff {text : String} {word : α} :
    read? text = some word ↔ text = spell word :=
  ⟨fun h => (spell_of_read? h).symm, fun h => h ▸ read?_spell word⟩

variable (α) in
/-- The spellings of all words of a vocabulary. -/
def spellings : List String :=
  (words : List α).map spell

end Vocabulary

/-! ### Relationships -/

/-- How many rows of either side of a relationship go with one row of the other. -/
inductive Cardinality
  | oneToOne
  | oneToMany
  | manyToOne
  | manyToMany
deriving DecidableEq, Repr

instance : Vocabulary Cardinality where
  words := [.oneToOne, .oneToMany, .manyToOne, .manyToMany]
  spell
    | .oneToOne => "1:1"
    | .oneToMany => "1:N"
    | .manyToOne => "N:1"
    | .manyToMany => "N:M"

/-- What happens to referencing rows when a referenced row goes away or changes its key. -/
inductive ReferentialAction
  | cascade
  | setNull
  | restrict
  | noAction
deriving DecidableEq, Repr

instance : Vocabulary ReferentialAction where
  words := [.cascade, .setNull, .restrict, .noAction]
  spell
    | .cascade => "CASCADE"
    | .setNull => "SET NULL"
    | .restrict => "RESTRICT"
    | .noAction => "NO ACTION"

/-! ### Attributes -/

/-- The role of an attribute of an entity. -/
inductive AttributeKind
  | primary
  | normal
  | multivalued
  | derived
deriving DecidableEq, Repr

instance : Vocabulary AttributeKind where
  words := [.primary, .normal, .multivalued, .derived]
  spell
    | .primary => "PRIMARY"
    | .normal => "NORMAL"
    | .multivalued => "MULTIVALUED"
    | .derived => "DERIVED"

/-! ### Policies -/

/-- How a foreign key column is named: like the key it refers to, or with the name of the
referenced table before it. -/
inductive Naming
  | bare
  | prefixed
deriving DecidableEq, Repr

instance : Vocabulary Naming where
  words := [.bare, .prefixed]
  spell
    | .bare => "bare"
    | .prefixed => "prefixed"

/-- The policy that a text asks for: any text other than `prefixed` means bare names. -/
def Naming.ofText (text : String) : Naming :=
  if text = "prefixed" then .prefixed else .bare

/-- The two kinds of schema: tables with columns, or entities with attributes. -/
inductive Mode
  | logical
  | conceptual
deriving DecidableEq, Repr

instance : Vocabulary Mode where
  words := [.logical, .conceptual]
  spell
    | .logical => "LOGICAL"
    | .conceptual => "CONCEPTUAL"

end SchemaGraph
