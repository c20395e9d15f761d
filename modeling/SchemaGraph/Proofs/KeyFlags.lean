import SchemaGraph.Document.Logical
import SchemaGraph.Proofs.Edits
import SchemaGraph.Proofs.References

/-!
# Key flags stay consistent

A counting column is a unique key, and a key is never null. Only documents have their columns made
so; every edit sets flags of its own. `editAll_normalized` says that the flags are consistent all
the same, after every run of edits of a schema that was read or converted, and that its scripts
therefore declare each column of a key constraint as not null and leave uniqueness to the
constraint.
-/

namespace SchemaGraph

/-! ### Columns -/

/-- The key flags of a column are consistent. -/
structure Column.Normalized (c : Column) : Prop where
  key_of_counting : c.autoIncrement = true → c.primaryKey = true
  unique_of_counting : c.autoIncrement = true → c.unique = true
  notNull_of_key : c.primaryKey = true → c.nullable = false

namespace Column

lemma normalized_iff {c : Column} : c.Normalized ↔ c.normalize = c := by
  obtain ⟨id, name, type, key, nullable, unique, counting, foreign, table, column⟩ := c
  constructor
  · rintro ⟨hkey, hunique, hnull⟩
    cases counting <;> cases key <;> simp_all [normalize]
  · intro h
    constructor <;> cases counting <;> cases key <;> simp_all [normalize]

instance (c : Column) : Decidable c.Normalized :=
  decidable_of_iff _ normalized_iff.symm

lemma normalized_normalize (c : Column) : c.normalize.Normalized :=
  normalized_iff.mpr c.normalize_normalize

lemma normalized_ofJson {document : Json} {c : Column} (h : ofJson document = .valid c) :
    c.Normalized := by
  cases document with
  | obj members =>
    obtain ⟨c', -, rfl⟩ := Checked.map_eq_valid_iff.mp (show ofMembers members = .valid c from h)
    exact normalized_normalize c'
  | _ => cases h

lemma normalized_of_placement (p : Placement) : p.column.Normalized := by
  constructor <;> intro h <;> cases h

lemma normalized_of_junction (naming : Naming) (id : String) (t : Table) (key : Column) :
    (Junction.column naming id t key).Normalized := by
  constructor
  · intro h
    cases h
  · intro h
    cases h
  · intro _
    rfl

lemma normalized_of_attribute (a : Attribute) : a.toColumn.Normalized := by
  constructor
  · exact fun h => h
  · exact fun h => h
  · intro h
    simpa [Attribute.toColumn] using h

end Column

lemma normalized_of_mem_keyOnFirst {columns : List Column} (h : ∀ c ∈ columns, c.Normalized)
    {c : Column} (hc : c ∈ keyOnFirst columns) : c.Normalized := by
  cases columns with
  | nil => cases hc
  | cons first rest =>
    rcases List.mem_cons.mp hc with rfl | hc
    · -- the first column goes on counting only if it was a unique key before
      have hfirst := h first List.mem_cons_self
      exact ⟨fun _ => rfl, hfirst.unique_of_counting, fun _ => rfl⟩
    · obtain ⟨c', -, rfl⟩ := List.mem_map.mp hc
      constructor <;> intro h <;> cases h

/-! ### Tables -/

/-- The key flags of all columns of a table are consistent. -/
def Table.Normalized (t : Table) : Prop :=
  ∀ c ∈ t.columns, c.Normalized

namespace Table

lemma Normalized.append {t : Table} (h : t.Normalized) {c : Column} (hc : c.Normalized) :
    (t.append c).Normalized := by
  intro c' hc'
  rcases List.mem_append.mp hc' with hc' | hc'
  · exact h c' hc'
  · exact List.mem_singleton.mp hc' ▸ hc

lemma normalized_ofJson {document : Json} {t : Table} (h : ofJson document = .valid t) :
    t.Normalized := by
  cases document with
  | obj members =>
    change ofMembers members = .valid t at h
    simp only [ofMembers, Checked.seq_eq_valid_iff, Checked.functorMap_eq_valid_iff] at h
    obtain ⟨-, -, ⟨-, -, ⟨-, columns, ⟨-, -, ⟨-, -, rfl⟩, -, rfl⟩, hcolumns, rfl⟩, -, rfl⟩, -, rfl⟩
      := h
    intro c hc
    obtain rfl | ⟨value, hvalue⟩ := Members.eq_default_or_of_optional hcolumns
    · cases hc
    · obtain ⟨item, hitem⟩ := Json.exists_of_mem_checkList hvalue hc
      exact Column.normalized_ofJson hitem
  | _ => cases h

lemma normalized_of_junction (naming : Naming) (r : Relationship) (source target : Table)
    (sourceKey targetKey : Column) :
    (Junction.table naming r source target sourceKey targetKey).Normalized := by
  intro c hc
  rcases List.mem_pair.mp hc with rfl | rfl
  · exact Column.normalized_of_junction ..
  · exact Column.normalized_of_junction ..

lemma normalized_of_entity (e : Entity) : e.toTable.Normalized := by
  intro c hc
  obtain ⟨a, -, rfl⟩ := List.mem_map.mp hc
  exact Column.normalized_of_attribute a

end Table

/-! ### Schemas -/

/-- The key flags of all columns of a schema are consistent. -/
def Schema.Normalized (s : Schema) : Prop :=
  ∀ t ∈ s.tables, t.Normalized

namespace Schema

variable {s s' : Schema} {naming : Naming} {r : Relationship}

lemma normalized_ofJson {document : Json} (h : ofJson document = .valid s) : s.Normalized := by
  cases document with
  | obj members =>
    change ofMembers members = .valid s at h
    simp only [ofMembers, Checked.seq_eq_valid_iff, Checked.functorMap_eq_valid_iff] at h
    obtain ⟨-, -, ⟨tables, htables, rfl⟩, -, rfl⟩ := h
    intro t ht
    obtain rfl | ⟨value, hvalue⟩ := Members.eq_default_or_of_optional htables
    · cases ht
    · obtain ⟨item, hitem⟩ := Json.exists_of_mem_checkList hvalue ht
      exact Table.normalized_ofJson hitem
  | _ => cases h

lemma normalized_toLogical (c : ConceptualSchema) (onDelete onUpdate : ReferentialAction) :
    (c.toLogical onDelete onUpdate).Normalized := by
  intro t ht
  obtain ⟨e, -, rfl⟩ := List.mem_map.mp ht
  exact Table.normalized_of_entity e

lemma Normalized.addForeignKey (h : s.Normalized) (r : Relationship) :
    (s.addForeignKey naming r).Normalized := by
  obtain ⟨hsame, -⟩ | ⟨p, hp, -, hadded⟩ := addForeignKey_cases naming s r
  · rwa [hsame]
  · intro t ht
    rw [hadded, modifyTable_tables _ (table?_holder hp)] at ht
    rcases List.mem_or_eq_of_mem_set ht with ht | rfl
    · exact h t ht
    · have hholder := h p.holder (mem_of_table? (table?_holder hp))
      exact hholder.append (Column.normalized_of_placement p)

lemma Normalized.addForeignKeys (h : s.Normalized) (rs : List Relationship) :
    (s.addForeignKeys naming rs).Normalized := by
  induction rs generalizing s with
  | nil => exact h
  | cons r rs ih => exact ih (h.addForeignKey r)

lemma Normalized.resolve (h : s.Normalized) : (s.resolve naming).Normalized := by
  rw [resolve_eq]
  exact h.addForeignKeys s.relationships

/-- However a schema changes, its key flags stay consistent. -/
lemma Normalized.of_edited (h : s.Normalized) (hs' : s.Edited s') : s'.Normalized := by
  cases hs' with
  | unchanged => exact h
  | resolved naming => exact h.resolve
  | linked naming r _ _ => exact h.addForeignKey r
  | joined naming r e _ =>
    intro t ht
    rcases List.mem_append.mp ht with ht | ht
    · exact h t ht
    · exact List.mem_singleton.mp ht ▸ Table.normalized_of_junction naming r _ _ _ _
  | deleted table =>
    intro t ht
    exact h t (List.mem_of_mem_filter ht)
  | keyed table =>
    intro t ht
    obtain ⟨u, hu, rfl⟩ := List.mem_map.mp ht
    split
    · intro c hc
      exact normalized_of_mem_keyOnFirst (h u hu) hc
    · exact h u hu
  | converted onDelete onUpdate => exact normalized_toLogical s.toConceptual onDelete onUpdate

/-- A schema that is read from a document or converted from a conceptual schema. -/
inductive Obtained : Schema → Prop
  | validated {s : Schema} {document : Json} (h : ofJson document = .valid s) : Obtained s
  | converted {s : Schema} {c : ConceptualSchema} {actions : ActionRequest}
      (h : c.toLogicalWith actions = .valid s) : Obtained s

lemma Obtained.normalized (h : s.Obtained) : s.Normalized := by
  cases h with
  | validated h => exact normalized_ofJson h
  | converted h =>
    obtain ⟨onDelete, onUpdate, rfl⟩ := ConceptualSchema.exists_eq_toLogical h
    exact normalized_toLogical _ onDelete onUpdate

end Schema

/-! ### Scripts -/

/-- A statement that creates a table from some columns lists just the keys among them in its key
constraint, and it writes each key with `NOT NULL` at the end and without `UNIQUE`. -/
def Statement.RequiresKeys (d : Dialect) (statement : Statement) : Prop :=
  match statement with
  | .createTable _ definitions _ =>
    ∃ columns : List Column,
      definitions = columns.map (·.define d) ∧
        statement.keyColumns = (columns.filter (·.primaryKey)).map (·.name) ∧
        ∀ c ∈ columns, c.primaryKey = true →
          (c.define d).render = " ".intercalate
            ([bracketed c.name, (c.define d).type] ++ (c.define d).mark.toList ++ ["NOT NULL"])
  | _ => True

/-- The foreign keys of a junction add nothing to its key constraint. -/
lemma Statement.keyColumns_createJunction (t : Table) (d : Dialect) :
    (t.createJunction d).keyColumns = (t.create d).keyColumns := by
  simp only [Table.createJunction, Table.create, keyColumns, List.flatMap_append]
  refine List.append_right_eq_self.mpr (List.flatMap_eq_nil_iff.mpr fun constraint h => ?_)
  obtain ⟨c, -, hc⟩ := List.mem_filterMap.mp h
  unfold Table.foreignKeyConstraint? at hc
  split at hc
  · split at hc
    · cases hc
    · cases hc
      rfl
  · cases hc

lemma Column.Normalized.render_define {c : Column} (h : c.Normalized) (hkey : c.primaryKey = true)
    (d : Dialect) :
    (c.define d).render = " ".intercalate
      ([bracketed c.name, (c.define d).type] ++ (c.define d).mark.toList ++ ["NOT NULL"]) := by
  have hnull := h.notNull_of_key hkey
  simp [ColumnDefinition.render, define, hkey, hnull]

namespace Table.Normalized

variable {t : Table}

lemma requiresKeys_create (h : t.Normalized) (d : Dialect) : (t.create d).RequiresKeys d :=
  ⟨t.columns, rfl, Statement.keyColumns_create t d, fun c hc hkey => (h c hc).render_define hkey d⟩

lemma requiresKeys_createJunction (h : t.Normalized) (d : Dialect) :
    (t.createJunction d).RequiresKeys d := by
  refine ⟨t.columns, rfl, ?_, fun c hc hkey => (h c hc).render_define hkey d⟩
  exact (Statement.keyColumns_createJunction t d).trans (Statement.keyColumns_create t d)

end Table.Normalized

namespace Schema

lemma Normalized.requiresKeys {s : Schema} (h : s.Normalized) {d : Dialect} {naming : Naming}
    {generatedAt : String} {statement : Statement}
    (hstatement : statement ∈ s.statements d naming generatedAt) : statement.RequiresKeys d := by
  simp only [statements, List.mem_append, List.mem_cons, List.mem_map] at hstatement
  rcases hstatement with ((rfl | ⟨t, ht, rfl⟩) | ⟨t, ht, rfl⟩) | ⟨p, -, rfl⟩
  · trivial
  · obtain ⟨r, -, hr⟩ := List.mem_filterMap.mp ht
    rw [synthesize] at hr
    cases hends : s.junctionEnds r with
    | error gap =>
      rw [hends] at hr
      cases hr
    | ok e =>
      rw [hends] at hr
      cases hr
      exact (Table.normalized_of_junction naming r _ _ _ _).requiresKeys_createJunction d
  · have hprepared : (s.prepared naming).Normalized :=
      Normalized.resolve (s := { s with relationships := s.others }) h
    exact (hprepared t ht).requiresKeys_create d
  · trivial

/-- After any run of edits of a schema that was read or converted, the key flags of all columns are
consistent, and in every script of it the columns of the key constraints are required and are not
declared as unique. -/
theorem editAll_normalized {s : Schema} (h : s.Obtained) (edits : List Edit) :
    (s.editAll edits).Normalized ∧
      ∀ (d : Dialect) (naming : Naming) (generatedAt : String),
        ∀ statement ∈ (s.editAll edits).statements d naming generatedAt,
          statement.RequiresKeys d := by
  have hnormalized := editAll_keeps (fun _ _ hs' hs => Normalized.of_edited hs hs') edits
    h.normalized
  exact ⟨hnormalized, fun d naming generatedAt statement hstatement =>
    hnormalized.requiresKeys hstatement⟩

/-- A table with a counting column and one without a key, joined many to many. -/
private def unkeyedDocument : Json :=
  .obj [
    ("tables", .arr [
      .obj [("id", .str "a"), ("name", .str "A"), ("columns", .arr [
        .obj [("id", .str "a1"), ("name", .str "id"), ("auto_increment", .bool true)]])],
      .obj [("id", .str "b"), ("name", .str "B"), ("columns", .arr [
        .obj [("id", .str "b1"), ("name", .str "n"), ("unique", .str "yes")]])]]),
    ("relationships", .arr [
      .obj [("id", .str "r"), ("sourceTableId", .str "a"), ("sourceColumnId", .str "a1"),
        ("targetTableId", .str "b"), ("targetColumnId", .str "b1"),
        ("cardinality", .str "N:M")]])]

private def unkeyed : Schema where
  tables := [
    ⟨"a", "A", [⟨"a1", "id", "TEXT", true, false, true, true, false, none, none⟩], .zero, .zero⟩,
    ⟨"b", "B", [⟨"b1", "n", "TEXT", false, true, true, false, false, none, none⟩], .zero, .zero⟩]
  relationships := [
    ⟨"r", "a", "a1", "b", "b1", .manyToMany, false, false, .cascade, .cascade⟩]

/-- The second table gets a key, the junction becomes a table, and its links are resolved. -/
private def keyingEdits : List Edit := [
  .remedy .bare "add_primary_key" [("table_id", .str "b")],
  .materialize .prefixed ⟨some "r", none, none⟩,
  .resolve .bare,
  .switchModes .default]

theorem editAll_normalized_unkeyed :
    ofJson unkeyedDocument = .valid unkeyed ∧ (unkeyed.editAll keyingEdits).Normalized ∧
      (∀ statement ∈ (unkeyed.editAll keyingEdits).statements Dialect.access .bare "",
        statement.RequiresKeys Dialect.access) ∧
      ((unkeyed.editAll keyingEdits).statements Dialect.access .bare "").map (·.keyColumns) =
        [[], ["id"], ["n"], ["A_id", "B_n"], [], []] := by
  have hread : ofJson unkeyedDocument = .valid unkeyed :=
    Checked.toExcept_eq_ok_iff.mp (by decide +kernel)
  obtain ⟨hnormalized, hscript⟩ := editAll_normalized (.validated hread) keyingEdits
  exact ⟨hread, hnormalized, hscript Dialect.access .bare "", by decide +kernel⟩

end Schema

end SchemaGraph
