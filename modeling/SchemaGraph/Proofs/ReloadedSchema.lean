import SchemaGraph.Proofs.SavedSchema

/-!
# Loaded schemas and what saving them loses

Documents are read more freely than they are written: members may be missing or have other names,
and texts can stand for numbers. A schema that was loaded is written in one way only, with null for
each coordinate that is not finite, and null is no coordinate. `load_save_of_load` says that this is
all that saving can lose: a loaded schema that is saved loads back as itself just when all its
coordinates are finite, and otherwise the file is refused for each one that is not.
-/

namespace SchemaGraph

/-! ### Values as they are written -/

namespace Json

mutual

/-- The value that the text of a value describes: null stands in it for each number that is not
finite. -/
def asWritten : Json → Json
  | .float x => if x.isFinite then .float x else .null
  | .arr items => .arr (itemsAsWritten items)
  | .obj members => .obj (membersAsWritten members)
  | .null => .null
  | .bool b => .bool b
  | .int i => .int i
  | .str s => .str s

/-- The items that the texts of some items describe. -/
def itemsAsWritten : List Json → List Json
  | [] => []
  | item :: items => item.asWritten :: itemsAsWritten items

/-- The members that the texts of some members describe. -/
def membersAsWritten : List (String × Json) → Members
  | [] => []
  | (name, value) :: members => (name, value.asWritten) :: membersAsWritten members

end

lemma itemsAsWritten_map {α : Type} (write : α → Json) (values : List α) :
    itemsAsWritten (values.map write) = values.map fun a => (write a).asWritten := by
  induction values with
  | nil => rfl
  | cons a values ih => rw [List.map_cons, List.map_cons, itemsAsWritten, ih]

lemma writeDouble_of_not_isFinite {x : Double} (h : ¬x.isFinite = true) :
    writeDouble x = "null".toList := by
  cases x with
  | finite => exact absurd rfl h
  | _ => rfl

mutual

/-- A value is written as the value that its text describes. -/
lemma writeAt_asWritten (level : Nat) (v : Json) : v.asWritten.writeAt level = v.writeAt level := by
  match v with
  | .null | .bool _ | .int _ | .str _ => rfl
  | .float x =>
    rw [asWritten]
    split_ifs with hfinite
    · rfl
    · rw [writeAt, writeAt, writeDouble_of_not_isFinite hfinite]
  | .arr [] => rfl
  | .arr (item :: items) =>
    rw [asWritten, itemsAsWritten, writeAt, writeAt, writeAt_asWritten (level + 1) item,
      writeItems_asWritten (level + 1) items]
  | .obj [] => rfl
  | .obj ((name, value) :: members) =>
    rw [asWritten, membersAsWritten, writeAt, writeAt, writeAt_asWritten (level + 1) value,
      writeMembers_asWritten (level + 1) members]

lemma writeItems_asWritten (level : Nat) (items : List Json) :
    writeItems level (itemsAsWritten items) = writeItems level items := by
  match items with
  | [] => rfl
  | item :: items =>
    rw [itemsAsWritten, writeItems, writeItems, writeAt_asWritten level item,
      writeItems_asWritten level items]

lemma writeMembers_asWritten (level : Nat) (members : Members) :
    writeMembers level (membersAsWritten members) = writeMembers level members := by
  match members with
  | [] => rfl
  | (name, value) :: members =>
    rw [membersAsWritten, writeMembers, writeMembers, writeAt_asWritten level value,
      writeMembers_asWritten level members]

end

lemma write_asWritten (v : Json) : v.asWritten.write = v.write := by
  rw [write, write, writeAt_asWritten]

lemma writable_asWritten_float (x : Double) {levels : Nat} :
    (float x).asWritten.Writable levels := by
  rw [asWritten]
  split_ifs with hfinite
  · exact writable_float hfinite
  · exact .null

end Json

/-! ### Loading what was written -/

lemma eq_ok_of_toOption {ε α : Type} {x : Except ε α} {a : α} (h : x.toOption = some a) :
    x = .ok a := by
  cases x with
  | error e => cases h
  | ok b => exact congrArg Except.ok (Option.some.inj h)

namespace Document

variable {α : Type} {levels : Nat} {mode : Mode} {check : Members → Checked α} {path text : String}

/-- The file of an object loads as whatever the object describes in its written form. -/
lemma loadWith_write_asWritten {members : Members}
    (h : (Json.obj members).asWritten.Writable levels)
    (hplain : Members.get? (Json.membersAsWritten members) "nodes" = none) :
    loadWith levels mode check path (Json.obj members).write =
      (check (Json.membersAsWritten members)).toExcept.mapError (.invalid mode path) := by
  have hunfold : EditorExport.unfold mode (Json.membersAsWritten members) =
      .ok (Json.membersAsWritten members) := by
    simp [EditorExport.unfold, hplain]
  rw [Json.asWritten] at h
  rw [← Json.write_asWritten, Json.asWritten]
  exact loadWith_eq (readMembers_write path h) hunfold

/-- What was loaded is what some members describe. -/
lemma exists_of_loadWith {a : α} (h : loadWith levels mode check path text = .ok a) :
    ∃ members, check members = .valid a := by
  rw [loadWith] at h
  cases hmembers : readMembers levels path text with
  | error e =>
    rw [hmembers] at h
    cases h
  | ok members =>
    simp only [hmembers, bind, Except.bind] at h
    cases hunfold : EditorExport.unfold mode members with
    | error fault =>
      rw [hunfold] at h
      cases h
    | ok members' =>
      simp only [hunfold, Except.mapError] at h
      split at h
      · cases h
      · next hchecked =>
        cases h
        exact ⟨members', Checked.toExcept_eq_ok_iff.mp hchecked⟩

end Document

/-! ### Values with issues -/

/-- An issue of a part of a document as one of the document. -/
def Issue.within (step : PathStep) (i : Issue) : Issue :=
  { i with path := step :: i.path }

namespace Checked

variable {α β : Type} {issues more : List Issue}

/-- A value that is valid if there are no issues. -/
def ofIssues (issues : List Issue) (a : α) : Checked α :=
  if issues = [] then .valid a else .invalid issues

@[simp] lemma ofIssues_nil (a : α) : ofIssues [] a = .valid a := rfl

lemma map_ofIssues (f : α → β) (a : α) : f <$> ofIssues issues a = ofIssues issues (f a) := by
  unfold ofIssues
  split_ifs <;> rfl

lemma seq_ofIssues (f : α → β) (a : α) :
    ofIssues issues f <*> ofIssues more a = ofIssues (issues ++ more) (f a) := by
  show apply _ _ = _
  cases issues <;> cases more <;> simp [ofIssues, apply]

lemma within_ofIssues (step : PathStep) (a : α) :
    (ofIssues issues a).within step = ofIssues (issues.map (·.within step)) a := by
  cases issues <;> simp [ofIssues, within, Issue.within]

lemma toExcept_ofIssues (a : α) :
    (ofIssues issues a).toExcept = if issues = [] then .ok a else .error issues := by
  unfold ofIssues
  split_ifs <;> rfl

end Checked

/-- The issues of the items of a list, the first of which has the given index. -/
def itemIssues {α : Type} (issues : α → List Issue) : Nat → List α → List Issue
  | _, [] => []
  | index, a :: values =>
    (issues a).map (·.within (.item index)) ++ itemIssues issues (index + 1) values

lemma itemIssues_eq_nil_iff {α : Type} {issues : α → List Issue} {index : Nat} {values : List α} :
    itemIssues issues index values = [] ↔ ∀ a ∈ values, issues a = [] := by
  induction values generalizing index with
  | nil => simp [itemIssues]
  | cons a values ih => simp [itemIssues, ih]

namespace Json

variable {α : Type} {check : Json → Checked α} {write : α → Json} {issues : α → List Issue}

lemma checkItems_ofIssues (index : Nat) {values : List α}
    (h : ∀ a ∈ values, check (write a) = .ofIssues (issues a) a) :
    checkItems check index (values.map write) =
      .ofIssues (itemIssues issues index values) values := by
  induction values generalizing index with
  | nil => rfl
  | cons a values ih =>
    rw [List.map_cons, checkItems, h a List.mem_cons_self, Checked.within_ofIssues,
      Checked.map_ofIssues, ih (index + 1) fun a ha => h a (List.mem_cons_of_mem _ ha),
      Checked.seq_ofIssues, itemIssues]

lemma checkList_ofIssues (values : List α)
    (h : ∀ a ∈ values, check (write a) = .ofIssues (issues a) a) :
    checkList check (.arr (values.map write)) = .ofIssues (itemIssues issues 0 values) values :=
  checkItems_ofIssues 0 h

end Json

/-! ### Lost coordinates -/

/-- The issue of a coordinate that is written as null. -/
def Double.lost (axis : MemberName) (x : Double) : List Issue :=
  if x.isFinite then [] else [⟨[.member axis.usual], .notNumber⟩]

lemma Double.lost_eq_nil_iff {axis : MemberName} {x : Double} :
    x.lost axis = [] ↔ x.isFinite = true := by
  unfold lost
  split_ifs with hfinite <;> simp [hfinite]

lemma Json.checkNumber_asWritten (axis : MemberName) (x : Double) :
    (checkNumber (float x).asWritten).within (.member axis.usual) = .ofIssues (x.lost axis) x := by
  rw [asWritten, Double.lost]
  split_ifs with hfinite
  · rfl
  · rfl

lemma Json.asWritten_optionalText (s : Option String) :
    (optionalText s).asWritten = optionalText s := by
  cases s <;> rfl

/-! ### Logical schemas -/

lemma Column.asWritten_toJson (c : Column) : c.toJson.asWritten = c.toJson := by
  simp only [toJson, Json.asWritten, Json.membersAsWritten, Json.asWritten_optionalText]

lemma Relationship.asWritten_toJson (r : Relationship) : r.toJson.asWritten = r.toJson := by
  simp only [toJson, Json.asWritten, Json.membersAsWritten]

namespace Table

/-- The issues of the coordinates of a table that get lost. -/
def lost (t : Table) : List Issue :=
  t.x.lost Member.x ++ t.y.lost Member.y

lemma lost_eq_nil_iff {t : Table} : t.lost = [] ↔ t.Positioned := by
  simp [lost, Positioned, Double.lost_eq_nil_iff]

lemma asWritten_toJson (t : Table) :
    t.toJson.asWritten = .obj [
      (Member.id.usual, .str t.id),
      (Member.name.usual, .str t.name),
      (Member.columns.usual, .arr (t.columns.map Column.toJson)),
      (Member.x.usual, (Json.float t.x).asWritten),
      (Member.y.usual, (Json.float t.y).asWritten)] := by
  simp only [toJson, Json.asWritten, Json.membersAsWritten, Json.itemsAsWritten_map,
    Column.asWritten_toJson]

lemma writable_asWritten (t : Table) (levels : Nat) :
    t.toJson.asWritten.Writable (levels + 3) := by
  rw [asWritten_toJson]
  refine .obj (by simp only [List.map_cons, List.map_nil]; decide) ?_
  have hcolumns := Json.writable_map t.columns fun c _ => c.writable_toJson levels
  simp [Json.Writable.str, Json.writable_asWritten_float, hcolumns]

/-- A table is refused for its lost coordinates only. -/
lemma ofJson_asWritten {t : Table} (h : t.Normalized) :
    ofJson t.toJson.asWritten = .ofIssues t.lost t := by
  have hcolumns := Json.checkList_map t.columns fun c hc => Column.ofJson_toJson (h c hc)
  have hx := Json.checkNumber_asWritten Member.x t.x
  have hy := Json.checkNumber_asWritten Member.y t.y
  have hread : ofJson t.toJson.asWritten =
      Checked.ofIssues [] (Table.mk t.id t.name t.columns) <*>
        Checked.ofIssues (t.x.lost Member.x) t.x <*> Checked.ofIssues (t.y.lost Member.y) t.y := by
    rw [asWritten_toJson, ← hx, ← hy]
    simp [ofJson, Json.checkModel, ofMembers, Members.required, Members.optional, Members.find?,
      Members.get?_cons, Member.id, Member.name, Member.columns, Member.x, Member.y,
      MemberName.only, Json.checkText, hcolumns]
  rw [hread, Checked.seq_ofIssues, Checked.seq_ofIssues]
  rfl

end Table

namespace Schema

variable {s : Schema} {path : String}

/-- The issues of the coordinates of a schema that get lost. -/
def lost (s : Schema) : List Issue :=
  (itemIssues Table.lost 0 s.tables).map (·.within (.member Member.tables.usual))

lemma lost_eq_nil_iff : s.lost = [] ↔ s.Positioned := by
  simp [lost, Positioned, itemIssues_eq_nil_iff, Table.lost_eq_nil_iff]

lemma asWritten_toJson (s : Schema) :
    s.toJson.asWritten = .obj [
      (Member.tables.usual, .arr (s.tables.map fun t => t.toJson.asWritten)),
      (Member.relationships.usual, .arr (s.relationships.map Relationship.toJson))] := by
  simp only [toJson, Json.asWritten, Json.membersAsWritten, Json.itemsAsWritten_map,
    Relationship.asWritten_toJson]

lemma writable_asWritten (s : Schema) (levels : Nat) :
    s.toJson.asWritten.Writable (levels + 5) := by
  rw [asWritten_toJson]
  refine .obj (by simp only [List.map_cons, List.map_nil]; decide) ?_
  have htables := Json.writable_map s.tables fun t _ => t.writable_asWritten levels
  have hrelationships := Json.writable_map s.relationships
    fun r _ => r.writable_toJson (levels + 2)
  simp [htables, hrelationships]

/-- A schema is refused for its lost coordinates only. -/
lemma ofJson_asWritten (h : s.Normalized) : ofJson s.toJson.asWritten = .ofIssues s.lost s := by
  have htables := Json.checkList_ofIssues s.tables fun t ht =>
    Table.ofJson_asWritten (h t ht)
  have hrelationships := Json.checkList_map s.relationships fun r _ => r.ofJson_toJson
  have hread : ofJson s.toJson.asWritten =
      Schema.mk <$> Checked.ofIssues s.lost s.tables <*> Checked.ofIssues [] s.relationships := by
    rw [asWritten_toJson, lost, ← Checked.within_ofIssues, ← htables]
    simp [ofJson, Json.checkModel, ofMembers, Members.optional, Members.find?, Members.get?_cons,
      Member.tables, Member.relationships, MemberName.only, hrelationships]
  rw [hread, Checked.map_ofIssues, Checked.seq_ofIssues, List.append_nil]

/-- The file of a schema loads as the schema, or is refused for the coordinates that it lost. -/
lemma load_saved_eq (h : s.Normalized) (path : String) :
    Schema.load path (Document.logical s).save =
      if s.lost = [] then .ok s else .error (.invalid .logical path s.lost) := by
  have hload : Schema.load path (Document.logical s).save =
      (ofJson s.toJson.asWritten).toExcept.mapError (.invalid .logical path) :=
    Document.loadWith_write_asWritten (s.writable_asWritten 988) rfl
  rw [hload, ofJson_asWritten h, Checked.toExcept_ofIssues]
  split_ifs <;> rfl

lemma normalized_of_load {text : String} (h : Schema.load path text = .ok s) : s.Normalized := by
  obtain ⟨members, hmembers⟩ := Document.exists_of_loadWith h
  have hread : ofJson (.obj members) = .valid s := hmembers
  exact normalized_ofJson hread

end Schema

/-! ### Conceptual schemas -/

lemma Attribute.asWritten_toJson (a : Attribute) : a.toJson.asWritten = a.toJson := by
  simp only [toJson, Json.asWritten, Json.membersAsWritten, Json.asWritten_optionalText]

lemma Association.asWritten_toJson (a : Association) : a.toJson.asWritten = a.toJson := by
  simp only [toJson, Json.asWritten, Json.membersAsWritten]

namespace Entity

/-- The issues of the coordinates of an entity that get lost. -/
def lost (e : Entity) : List Issue :=
  e.x.lost Member.x ++ e.y.lost Member.y

lemma lost_eq_nil_iff {e : Entity} : e.lost = [] ↔ e.Positioned := by
  simp [lost, Positioned, Double.lost_eq_nil_iff]

lemma asWritten_toJson (e : Entity) :
    e.toJson.asWritten = .obj [
      (Member.id.usual, .str e.id),
      (Member.name.usual, .str e.name),
      (Member.attributes.usual, .arr (e.attributes.map Attribute.toJson)),
      (Member.x.usual, (Json.float e.x).asWritten),
      (Member.y.usual, (Json.float e.y).asWritten)] := by
  simp only [toJson, Json.asWritten, Json.membersAsWritten, Json.itemsAsWritten_map,
    Attribute.asWritten_toJson]

lemma writable_asWritten (e : Entity) (levels : Nat) :
    e.toJson.asWritten.Writable (levels + 3) := by
  rw [asWritten_toJson]
  refine .obj (by simp only [List.map_cons, List.map_nil]; decide) ?_
  have hattributes := Json.writable_map e.attributes fun a _ => a.writable_toJson levels
  simp [Json.Writable.str, Json.writable_asWritten_float, hattributes]

/-- An entity is refused for its lost coordinates only. -/
lemma ofJson_asWritten (e : Entity) : ofJson e.toJson.asWritten = .ofIssues e.lost e := by
  have hattributes := Json.checkList_map e.attributes fun a _ => a.ofJson_toJson
  have hx := Json.checkNumber_asWritten Member.x e.x
  have hy := Json.checkNumber_asWritten Member.y e.y
  have hread : ofJson e.toJson.asWritten =
      Checked.ofIssues [] (Entity.mk e.id e.name e.attributes) <*>
        Checked.ofIssues (e.x.lost Member.x) e.x <*> Checked.ofIssues (e.y.lost Member.y) e.y := by
    rw [asWritten_toJson, ← hx, ← hy]
    simp [ofJson, Json.checkModel, ofMembers, Members.required, Members.optional, Members.find?,
      Members.get?_cons, Member.id, Member.name, Member.attributes, Member.x, Member.y,
      MemberName.only, Json.checkText, hattributes]
  rw [hread, Checked.seq_ofIssues, Checked.seq_ofIssues]
  rfl

end Entity

namespace ConceptualSchema

variable {s : ConceptualSchema}

/-- The issues of the coordinates of a schema that get lost. -/
def lost (s : ConceptualSchema) : List Issue :=
  (itemIssues Entity.lost 0 s.entities).map (·.within (.member Member.entities.usual))

lemma lost_eq_nil_iff : s.lost = [] ↔ s.Positioned := by
  simp [lost, Positioned, itemIssues_eq_nil_iff, Entity.lost_eq_nil_iff]

lemma asWritten_toJson (s : ConceptualSchema) :
    s.toJson.asWritten = .obj [
      (Member.entities.usual, .arr (s.entities.map fun e => e.toJson.asWritten)),
      (Member.relationships.usual, .arr (s.associations.map Association.toJson))] := by
  simp only [toJson, Json.asWritten, Json.membersAsWritten, Json.itemsAsWritten_map,
    Association.asWritten_toJson]

lemma writable_asWritten (s : ConceptualSchema) (levels : Nat) :
    s.toJson.asWritten.Writable (levels + 5) := by
  rw [asWritten_toJson]
  refine .obj (by simp only [List.map_cons, List.map_nil]; decide) ?_
  have hentities := Json.writable_map s.entities fun e _ => e.writable_asWritten levels
  have hassociations := Json.writable_map s.associations
    fun a _ => a.writable_toJson (levels + 2)
  simp [hentities, hassociations]

/-- A schema is refused for its lost coordinates only. -/
lemma ofJson_asWritten (s : ConceptualSchema) : ofJson s.toJson.asWritten = .ofIssues s.lost s := by
  have hentities := Json.checkList_ofIssues s.entities fun e _ => e.ofJson_asWritten
  have hassociations := Json.checkList_map s.associations fun a _ => a.ofJson_toJson
  have hread : ofJson s.toJson.asWritten = ConceptualSchema.mk <$>
      Checked.ofIssues s.lost s.entities <*> Checked.ofIssues [] s.associations := by
    rw [asWritten_toJson, lost, ← Checked.within_ofIssues, ← hentities]
    simp [ofJson, Json.checkModel, ofMembers, Members.optional, Members.find?, Members.get?_cons,
      Member.entities, Member.relationships, MemberName.only, hassociations]
  rw [hread, Checked.map_ofIssues, Checked.seq_ofIssues, List.append_nil]

/-- The file of a schema loads as the schema, or is refused for the coordinates that it lost. -/
lemma load_saved_eq (s : ConceptualSchema) (path : String) :
    ConceptualSchema.load path (Document.conceptual s).save =
      if s.lost = [] then .ok s else .error (.invalid .conceptual path s.lost) := by
  have hload : ConceptualSchema.load path (Document.conceptual s).save =
      (ofJson s.toJson.asWritten).toExcept.mapError (.invalid .conceptual path) :=
    Document.loadWith_write_asWritten (s.writable_asWritten 988) rfl
  rw [hload, ofJson_asWritten, Checked.toExcept_ofIssues]
  split_ifs <;> rfl

end ConceptualSchema

/-! ### Loading, saving and loading -/

/-- A schema that was loaded from a file of any kind and is saved loads back as itself just when all
its coordinates are finite. Otherwise its file is refused, with one issue for each coordinate that
is not. -/
theorem load_save_of_load (path path' : String) (bytes : ByteArray) :
    (∀ s : Schema, (decodeBytes bytes >>= Schema.load path) = .ok s →
      ((decodeBytes (Document.logical s).save.toUTF8 >>= Schema.load path') = .ok s ↔
          s.Positioned) ∧
        (¬s.Positioned → (decodeBytes (Document.logical s).save.toUTF8 >>= Schema.load path') =
          .error (.invalid .logical path' s.lost))) ∧
    (∀ s : ConceptualSchema, (decodeBytes bytes >>= ConceptualSchema.load path) = .ok s →
      ((decodeBytes (Document.conceptual s).save.toUTF8 >>= ConceptualSchema.load path') = .ok s ↔
          s.Positioned) ∧
        (¬s.Positioned →
          (decodeBytes (Document.conceptual s).save.toUTF8 >>= ConceptualSchema.load path') =
            .error (.invalid .conceptual path' s.lost))) := by
  constructor
  · intro s hs
    have hnormalized : s.Normalized := by
      cases htext : decodeBytes bytes with
      | error e =>
        rw [htext] at hs
        cases hs
      | ok text =>
        rw [htext] at hs
        exact Schema.normalized_of_load hs
    rw [decodeBytes_toUTF8_bind, Schema.load_saved_eq hnormalized, ← Schema.lost_eq_nil_iff]
    refine ⟨?_, fun hlost => if_neg hlost⟩
    split_ifs with hlost <;> simp [hlost]
  · intro s _
    rw [decodeBytes_toUTF8_bind, ConceptualSchema.load_saved_eq, ← ConceptualSchema.lost_eq_nil_iff]
    refine ⟨?_, fun hlost => if_neg hlost⟩
    split_ifs with hlost <;> simp [hlost]

/-- An export with a flag, coordinates and a name of a member that are not written so, beside a node
that is no table. -/
private def looseExport : String :=
  "\r\n \x7b\"nodes\": [\x7b\"type\": \"note\"\x7d, " ++
    "\x7b\"position\": \x7b\"x\": \"1_0.5\", \"y\": true\x7d, " ++
      "\"data\": \x7b\"id\": \"t\", \"name\": \"T\", \"x\": NaN, \"columns\": [" ++
        "\x7b\"id\": \"c\", \"name\": \"n\", \"primary_key\": \"YES\"\x7d]\x7d\x7d]\x7d"

private def looseTable : Schema where
  tables := [⟨"t", "T", [⟨"c", "n", "TEXT", true, false, false, false, false, none, none⟩],
    .ofDecimal false ⟨105, -1⟩, .ofInt 1⟩]
  relationships := []

/-- An entity with a coordinate that is too large for a number and one that is none. -/
private def boundless : String :=
  "\x7b\"entities\": [\x7b\"id\": \"e\", \"name\": \"E\", \"x\": 1e999, \"y\": \"nan\"\x7d]\x7d"

private def boundlessEntity : ConceptualSchema where
  entities := [⟨"e", "E", [], .infinite false, .nan⟩]
  associations := []

theorem load_save_of_load_loose :
    (decodeBytes looseExport.toUTF8 >>= Schema.load "a.json") = .ok looseTable ∧
      (decodeBytes (Document.logical looseTable).save.toUTF8 >>= Schema.load "b.json") =
        .ok looseTable ∧
      (decodeBytes boundless.toUTF8 >>= ConceptualSchema.load "a.json") = .ok boundlessEntity ∧
      (decodeBytes (Document.conceptual boundlessEntity).save.toUTF8 >>=
        ConceptualSchema.load "b.json") = .error (.invalid .conceptual "b.json" [
          ⟨[.member "entities", .item 0, .member "x"], .notNumber⟩,
          ⟨[.member "entities", .item 0, .member "y"], .notNumber⟩]) := by
  have hloose : (decodeBytes looseExport.toUTF8 >>= Schema.load "a.json") = .ok looseTable := by
    rw [decodeBytes_toUTF8_bind]
    exact eq_ok_of_toOption (by decide +kernel)
  have hboundless : (decodeBytes boundless.toUTF8 >>= ConceptualSchema.load "a.json") =
      .ok boundlessEntity := by
    rw [decodeBytes_toUTF8_bind]
    exact eq_ok_of_toOption (by decide +kernel)
  have hpositioned : looseTable.Positioned := by
    show ∀ t ∈ looseTable.tables, t.x.isFinite = true ∧ t.y.isFinite = true
    decide +kernel
  have hunpositioned : ¬boundlessEntity.Positioned := by
    show ¬∀ e ∈ boundlessEntity.entities, e.x.isFinite = true ∧ e.y.isFinite = true
    decide
  have hloaded := (load_save_of_load "a.json" "b.json" looseExport.toUTF8).1 looseTable hloose
  have hrefused :=
    (load_save_of_load "a.json" "b.json" boundless.toUTF8).2 boundlessEntity hboundless
  exact ⟨hloose, hloaded.1.mpr hpositioned, hboundless, hrefused.2 hunpositioned⟩

/-- A table at an infinite distance. -/
private def distant : String :=
  "\x7b\"tables\": [\x7b\"id\": \"t\", \"name\": \"T\", \"x\": \"inf\"\x7d]\x7d"

private def distantTable : Schema :=
  ⟨[⟨"t", "T", [], .infinite false, .zero⟩], []⟩

/-- The distant table is accepted, but the file that it is saved to does not load. -/
theorem not_load_save_distant :
    (Schema.load "s.json" distant).toOption = some distantTable ∧
      (Schema.load "s.json" (Document.logical distantTable).save).toOption = none := by
  have hnormalized : distantTable.Normalized := by
    intro t ht c hc
    obtain rfl := List.mem_singleton.mp ht
    cases hc
  have hlost : distantTable.lost ≠ [] := by decide
  refine ⟨by decide +kernel, ?_⟩
  rw [Schema.load_saved_eq hnormalized, if_neg hlost]
  rfl

end SchemaGraph
