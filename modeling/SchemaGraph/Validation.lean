import SchemaGraph.Json.Value
import SchemaGraph.Vocabulary
import SchemaGraph.Number.Text

/-!
# Validation

A document is checked as a whole: every part that is wrong is reported with the way that leads to
it, in the order of the parts. A member of an object may be named in either of two styles; when both
names are present the first one counts, and an issue names the style that was used.
-/

namespace SchemaGraph

/-! ### Issues -/

/-- One step on the way to a part of a document. -/
inductive PathStep
  | member (name : String)
  | item (index : Nat)
deriving DecidableEq, Repr

/-- What is wrong with a part of a document. -/
inductive Complaint
  | missing
  | notModel (model : String)
  | notText
  | notFlag
  | unreadableFlag
  | notNumber
  | unreadableNumber
  | notList
  | notOneOf (words : List String)
  | notPath
deriving DecidableEq, Repr

namespace Complaint

/-- The short name of a complaint. -/
def code : Complaint → String
  | .missing => "missing"
  | .notModel _ => "model_type"
  | .notText => "string_type"
  | .notFlag => "bool_type"
  | .unreadableFlag => "bool_parsing"
  | .notNumber => "float_type"
  | .unreadableNumber => "float_parsing"
  | .notList => "list_type"
  | .notOneOf _ => "literal_error"
  | .notPath => "path_type"

/-- Alternatives in words: commas, and an `or` before the last one. -/
def alternatives : List String → String
  | [] => ""
  | [only] => only
  | [first, last] => first ++ " or " ++ last
  | first :: rest => first ++ ", " ++ alternatives rest

/-- The wording of a complaint. -/
def message : Complaint → String
  | .missing => "Field required"
  | .notModel model => "Input should be a valid dictionary or instance of " ++ model
  | .notText => "Input should be a valid string"
  | .notFlag => "Input should be a valid boolean"
  | .unreadableFlag => "Input should be a valid boolean, unable to interpret input"
  | .notNumber => "Input should be a valid number"
  | .unreadableNumber => "Input should be a valid number, unable to parse string as a number"
  | .notList => "Input should be a valid list"
  | .notOneOf words => "Input should be " ++ alternatives (words.map fun w => "'" ++ w ++ "'")
  | .notPath => "Input is not a valid path for <class 'pathlib.Path'>"

end Complaint

/-- A complaint about the part of a document that a way leads to. -/
structure Issue where
  path : List PathStep
  complaint : Complaint
deriving DecidableEq, Repr

/-! ### Checked values -/

/-- A value, or all that is wrong with its document. -/
inductive Checked (α : Type)
  | valid (value : α)
  | invalid (issues : List Issue)
deriving Repr

namespace Checked

variable {α β : Type}

/-- A complaint about the whole document. -/
def complain (c : Complaint) : Checked α :=
  .invalid [⟨[], c⟩]

/-- The checked value with a function applied. -/
def map (f : α → β) : Checked α → Checked β
  | .valid a => .valid (f a)
  | .invalid issues => .invalid issues

/-- A checked function applied to a checked value; the issues of both are kept. -/
def apply (f : Checked (α → β)) (a : Checked α) : Checked β :=
  match f, a with
  | .valid f, .valid a => .valid (f a)
  | .valid _, .invalid issues => .invalid issues
  | .invalid issues, .valid _ => .invalid issues
  | .invalid issues, .invalid more => .invalid (issues ++ more)

instance : Applicative Checked where
  pure := .valid
  map := map
  seq f a := apply f (a ())

@[simp] theorem map_valid (f : α → β) (a : α) : f <$> valid a = valid (f a) := rfl

@[simp] theorem seq_valid (f : α → β) (a : α) : valid f <*> valid a = valid (f a) := rfl

theorem map_eq_valid_iff {f : α → β} {x : Checked α} {b : β} :
    x.map f = valid b ↔ ∃ a, x = valid a ∧ f a = b := by
  cases x <;> simp [map]

theorem functorMap_eq_valid_iff {f : α → β} {x : Checked α} {b : β} :
    f <$> x = valid b ↔ ∃ a, x = valid a ∧ f a = b :=
  map_eq_valid_iff

theorem seq_eq_valid_iff {f : Checked (α → β)} {x : Checked α} {b : β} :
    f <*> x = valid b ↔ ∃ g a, f = valid g ∧ x = valid a ∧ g a = b := by
  show f.apply x = valid b ↔ _
  cases f <;> cases x <;> simp [apply]

/-- The checked value as a part of a larger document. -/
def within (step : PathStep) : Checked α → Checked α
  | .valid a => .valid a
  | .invalid issues => .invalid (issues.map fun i => { i with path := step :: i.path })

@[simp] theorem within_valid (step : PathStep) (a : α) : (valid a).within step = valid a := rfl

@[simp] theorem within_eq_valid_iff {step : PathStep} {x : Checked α} {a : α} :
    x.within step = valid a ↔ x = valid a := by
  cases x <;> simp [within]

/-- The value, if nothing is wrong. -/
def toExcept : Checked α → Except (List Issue) α
  | .valid a => .ok a
  | .invalid issues => .error issues

theorem toExcept_eq_ok_iff {x : Checked α} {a : α} : x.toExcept = .ok a ↔ x = valid a := by
  cases x <;> simp [toExcept]

end Checked

/-! ### Simple values -/

namespace Json

/-- Checks a text. -/
def checkText : Json → Checked String
  | .str s => .valid s
  | _ => .complain .notText

/-- Checks a text that may be absent. -/
def checkOptionalText : Json → Checked (Option String)
  | .null => .valid none
  | .str s => .valid (some s)
  | _ => .complain .notText

/-- The texts that mean yes. -/
def yesTexts : List String := ["1", "true", "t", "yes", "y", "on"]

/-- The texts that mean no. -/
def noTexts : List String := ["0", "false", "f", "no", "n", "off"]

/-- The end of the 64-bit range: `2 ^ 63`. -/
def flagLimit : Int := 9223372036854775808

/-- Checks a flag given as a whole number. -/
def checkFlagNumber (i : Int) : Checked Bool :=
  if i = 0 then .valid false
  else if i = 1 then .valid true
  else .complain .unreadableFlag

/-- Checks a flag: truth values, zero and one, and some texts in any case of ASCII letters. Other
whole numbers of the 64-bit range are unreadable; beyond it they are no flags at all. A fractional
number with a whole value counts as whole strictly inside that range. -/
def checkFlag : Json → Checked Bool
  | .bool b => .valid b
  | .int i => if -flagLimit ≤ i ∧ i < flagLimit then checkFlagNumber i else .complain .notFlag
  | .float x =>
    match x.whole? with
    | some i => if -flagLimit < i ∧ i < flagLimit then checkFlagNumber i else .complain .notFlag
    | none => .complain .notFlag
  | .str s =>
    let text := s.map Char.toLower
    if yesTexts.contains text then .valid true
    else if noTexts.contains text then .valid false
    else .complain .unreadableFlag
  | _ => .complain .notFlag

/-- Checks a number: any number that fits a double, a truth value as one or zero, or a text. -/
def checkNumber : Json → Checked Double
  | .bool b => .valid (.ofInt (if b then 1 else 0))
  | .int i =>
    let x := Double.ofInt i
    if x.isFinite then .valid x else .complain .notNumber
  | .float x => .valid x
  | .str s =>
    match Double.ofText? s with
    | some x => .valid x
    | none => .complain .unreadableNumber
  | _ => .complain .notNumber

/-- Checks a word of a vocabulary, given by its exact spelling. -/
def checkWord {α : Type} [Vocabulary α] (value : Json) : Checked α :=
  match value.text?.bind Vocabulary.read? with
  | some word => .valid word
  | none => .complain (.notOneOf (Vocabulary.spellings α))

/-! ### Compound values -/

/-- Checks the items of a list; the first one has the given index. -/
def checkItems {α : Type} (check : Json → Checked α) : Nat → List Json → Checked (List α)
  | _, [] => .valid []
  | index, item :: items =>
    List.cons <$> (check item).within (.item index) <*> checkItems check (index + 1) items

/-- Checks a list. -/
def checkList {α : Type} (check : Json → Checked α) : Json → Checked (List α)
  | .arr items => checkItems check 0 items
  | _ => .complain .notList

/-- What is in an accepted list is what was accepted for one of its items. -/
theorem exists_of_mem_checkItems {α : Type} {check : Json → Checked α} {index : Nat}
    {items : List Json} {values : List α} (h : checkItems check index items = .valid values)
    {a : α} (ha : a ∈ values) : ∃ item, check item = .valid a := by
  induction items generalizing index values with
  | nil =>
    cases h
    cases ha
  | cons item items ih =>
    obtain ⟨g, rest, hg, hrest, rfl⟩ := Checked.seq_eq_valid_iff.mp h
    obtain ⟨first, hfirst, rfl⟩ := Checked.functorMap_eq_valid_iff.mp hg
    cases ha with
    | head => exact ⟨item, Checked.within_eq_valid_iff.mp hfirst⟩
    | tail _ ha => exact ih hrest ha

theorem exists_of_mem_checkList {α : Type} {check : Json → Checked α} {value : Json}
    {values : List α} (h : checkList check value = .valid values) {a : α} (ha : a ∈ values) :
    ∃ item, check item = .valid a := by
  cases value with
  | arr items => exact exists_of_mem_checkItems h ha
  | _ => cases h

/-- Checks an object that describes a model. -/
def checkModel {α : Type} (model : String) (check : Members → Checked α) : Json → Checked α
  | .obj members => check members
  | _ => .complain (.notModel model)

end Json

/-! ### Members -/

/-- The two names of a member: the usual one and the one that is accepted in its place. -/
structure MemberName where
  usual : String
  other : String

/-- A member with one name only. -/
def MemberName.only (name : String) : MemberName := ⟨name, name⟩

namespace Members

variable {α : Type}

/-- The value of a member and the name under which it was given. -/
def find? (members : Members) (name : MemberName) : Option (String × Json) :=
  match members.get? name.usual with
  | some value => some (name.usual, value)
  | none => (members.get? name.other).map fun value => (name.other, value)

/-- Checks a member that must be present. -/
def required (members : Members) (name : MemberName) (check : Json → Checked α) : Checked α :=
  match members.find? name with
  | some (used, value) => (check value).within (.member used)
  | none => (Checked.complain .missing).within (.member name.usual)

/-- Checks a member that has a default. -/
def optional (members : Members) (name : MemberName) (default : α) (check : Json → Checked α) :
    Checked α :=
  match members.find? name with
  | some (used, value) => (check value).within (.member used)
  | none => .valid default

theorem eq_default_or_of_optional {members : Members} {name : MemberName} {default a : α}
    {check : Json → Checked α} (h : members.optional name default check = .valid a) :
    a = default ∨ ∃ value, check value = .valid a := by
  unfold optional at h
  split at h
  · exact .inr ⟨_, Checked.within_eq_valid_iff.mp h⟩
  · cases h
    exact .inl rfl

end Members

end SchemaGraph
