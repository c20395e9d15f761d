import SchemaGraph.Proofs.Edits
import SchemaGraph.Proofs.Materialization

/-!
# No relationship loses its ends

A relationship names the two tables that it joins, and nothing forces them to exist. Edits add and
remove tables and relationships each in its own way. `editAll_endsExist` says that none of them
leaves a relationship without an end: where all ends exist they exist after every run of edits, and
a schema converted from a conceptual one has them from the start.
-/

namespace SchemaGraph

namespace Schema

/-- Both ends of every relationship are tables of the schema. -/
def EndsExist (s : Schema) : Prop :=
  ∀ r ∈ s.relationships, s.hasTable r.sourceTable = true ∧ s.hasTable r.targetTable = true

instance (s : Schema) : Decidable s.EndsExist :=
  inferInstanceAs (Decidable (∀ _ ∈ _, _))

variable {s s' : Schema} {naming : Naming} {r : Relationship} {id : String}

/-! ### Tables that stay -/

lemma hasTable_iff : s.hasTable id = true ↔ ∃ t ∈ s.tables, t.id = id := by
  simp [hasTable]

lemma hasTable_of_table? {t : Table} (h : s.table? id = some t) : s.hasTable id = true := by
  rw [hasTable_eq_isSome, h]
  rfl

lemma hasTable_addForeignKeys (s : Schema) (rs : List Relationship) (id : String) :
    (s.addForeignKeys naming rs).hasTable id = s.hasTable id := by
  induction rs generalizing s with
  | nil => rfl
  | cons r rs ih => rw [addForeignKeys_cons, ih, hasTable_addForeignKey]

lemma hasTable_addPrimaryKey (s : Schema) (table id : String) :
    (s.addPrimaryKey table).hasTable id = s.hasTable id := by
  rw [hasTable, addPrimaryKey, List.any_map]
  congr 1
  funext t
  rw [Function.comp_apply]
  split <;> rfl

lemma hasTable_deleteTable {table : String} (h : s.hasTable id = true) (hid : id ≠ table) :
    (s.deleteTable table).hasTable id = true := by
  obtain ⟨t, ht, rfl⟩ := hasTable_iff.mp h
  exact hasTable_iff.mpr ⟨t, List.mem_filter.mpr ⟨ht, bne_iff_ne.mpr hid⟩, rfl⟩

lemma hasTable_withJunction (h : s.hasTable id = true) (r : Relationship) (e : JunctionEnds) :
    (s.withJunction naming r e).hasTable id = true := by
  obtain ⟨t, ht, rfl⟩ := hasTable_iff.mp h
  exact hasTable_iff.mpr ⟨t, List.mem_append_left _ ht, rfl⟩

lemma hasTable_junction (s : Schema) (r : Relationship) (e : JunctionEnds) :
    (s.withJunction naming r e).hasTable (Junction.id r) = true :=
  hasTable_iff.mpr ⟨e.junction naming r, List.mem_append_right _ (List.mem_singleton_self _), rfl⟩

/-! ### Single changes -/

/-- Relationships with unknown ends are dropped by the conversion, so all others have theirs. -/
lemma endsExist_toLogical (c : ConceptualSchema) (onDelete onUpdate : ReferentialAction) :
    (c.toLogical onDelete onUpdate).EndsExist := by
  have hentity {id : String} {e : Entity} (he : c.entity? id = some e) :
      (c.toLogical onDelete onUpdate).hasTable e.id = true :=
    hasTable_iff.mpr ⟨e.toTable, List.mem_map_of_mem (List.mem_of_find?_eq_some he), rfl⟩
  intro r hr
  obtain ⟨a, -, ha⟩ := List.mem_filterMap.mp hr
  simp only [ConceptualSchema.relationship?, ConceptualSchema.ends?,
    ConceptualSchema.get?_index] at ha
  split at ha
  · next source target hs ht =>
    cases ha
    exact ⟨hentity hs, hentity ht⟩
  · cases ha

/-- The two links of a junction join it to the ends of the relationship that it stands for. -/
lemma endsExist_links {e : JunctionEnds} (h : s.junctionEnds r = .ok e) {q : Relationship}
    (hq : q ∈ Junction.links naming r e) :
    s.hasTable q.sourceTable = true ∧ q.targetTable = Junction.id r := by
  obtain ⟨-, ⟨hs, -⟩, ht, -⟩ := junctionEnds_eq_ok h
  rcases List.mem_pair.mp hq with rfl | rfl
  · exact ⟨hasTable_of_table? (table?_id hs ▸ hs), rfl⟩
  · exact ⟨hasTable_of_table? (table?_id ht ▸ ht), rfl⟩

namespace EndsExist

lemma resolve (h : s.EndsExist) : (s.resolve naming).EndsExist := by
  intro r hr
  rw [resolve_eq, hasTable_addForeignKeys, hasTable_addForeignKeys]
  exact h r hr

lemma linked (h : s.EndsExist) (hs : s.hasTable r.sourceTable = true)
    (ht : s.hasTable r.targetTable = true) : (s.linked naming r).EndsExist := by
  intro q hq
  rw [hasTable_linked, hasTable_linked]
  rcases List.mem_append.mp hq with hq | hq
  · exact h q hq
  · obtain rfl := List.mem_singleton.mp hq
    exact ⟨hs, ht⟩

lemma withJunction (h : s.EndsExist) {e : JunctionEnds} (he : s.junctionEnds r = .ok e) :
    (s.withJunction naming r e).EndsExist := by
  intro q hq
  rcases List.mem_append.mp hq with hq | hq
  · obtain ⟨hs, ht⟩ := h q (List.mem_of_mem_filter hq)
    exact ⟨hasTable_withJunction hs r e, hasTable_withJunction ht r e⟩
  · obtain ⟨hs, ht⟩ := endsExist_links he hq
    exact ⟨hasTable_withJunction hs r e, ht ▸ hasTable_junction s r e⟩

lemma deleteTable (h : s.EndsExist) (table : String) : (s.deleteTable table).EndsExist := by
  intro r hr
  obtain ⟨hr, hapart⟩ := List.mem_filter.mp hr
  rw [Bool.and_eq_true, bne_iff_ne, bne_iff_ne] at hapart
  obtain ⟨hs, ht⟩ := h r hr
  exact ⟨hasTable_deleteTable hs hapart.1, hasTable_deleteTable ht hapart.2⟩

lemma addPrimaryKey (h : s.EndsExist) (table : String) : (s.addPrimaryKey table).EndsExist := by
  intro r hr
  rw [hasTable_addPrimaryKey, hasTable_addPrimaryKey]
  exact h r hr

/-- However a schema changes, the ends of its relationships still exist. -/
lemma of_edited (h : s.EndsExist) (hs' : s.Edited s') : s'.EndsExist := by
  cases hs' with
  | unchanged => exact h
  | resolved naming => exact h.resolve
  | linked naming r source target => exact h.linked source target
  | joined naming r e ends => exact h.withJunction ends
  | deleted table => exact h.deleteTable table
  | keyed table => exact h.addPrimaryKey table
  | converted onDelete onUpdate => exact endsExist_toLogical s.toConceptual onDelete onUpdate

end EndsExist

/-- Where the ends of all relationships exist they exist after every run of edits, and so they do
after every run of edits of a schema that was converted from a conceptual one. -/
theorem editAll_endsExist (edits : List Edit) :
    (∀ s : Schema, s.EndsExist → (s.editAll edits).EndsExist) ∧
      ∀ (c : ConceptualSchema) (actions : ActionRequest) (s : Schema),
        c.toLogicalWith actions = .valid s → (s.editAll edits).EndsExist := by
  have hkeeps : ∀ s : Schema, s.EndsExist → (s.editAll edits).EndsExist := fun s =>
    editAll_keeps (fun _ _ hs' hs => EndsExist.of_edited hs hs') edits
  refine ⟨hkeeps, fun c actions s hs => ?_⟩
  obtain ⟨onDelete, onUpdate, rfl⟩ := ConceptualSchema.exists_eq_toLogical hs
  exact hkeeps _ (endsExist_toLogical c onDelete onUpdate)

/-- Two tables with one id and a third one, joined by three relationships of which two share an id.
-/
private def sharedEnds : Schema where
  tables := [.withKey "a" "A" "id", .withKey "a" "C" "id", .withKey "b" "B" "id"]
  relationships := [
    ⟨"r1", "a", "a-id", "b", "b-id", .manyToMany, false, false, .cascade, .cascade⟩,
    ⟨"r1", "b", "b-id", "b", "b-id", .oneToOne, false, true, .cascade, .cascade⟩,
    ⟨"r2", "b", "gone", "a", "gone", .manyToMany, false, false, .cascade, .cascade⟩]

/-- The third relationship is chosen by its tables, since the given id is stale; the deletion takes
both tables of the id and leaves the junction without one of its links. -/
private def removingEdits : List Edit := [
  .remedy .bare "create_junction_table" [("relationship_id", .str "stale"),
    ("source_table_id", .str "b"), ("target_table_id", .str "a")],
  .deleteTable "a",
  .switchModes .default]

/-- A conceptual schema with an association to an unknown entity. -/
private def halfUnknown : ConceptualSchema where
  entities := [⟨"e", "E", [⟨"k", "key", .primary, none⟩], .zero, .zero⟩]
  associations := [
    ⟨"s1", "e", "unknown", .oneToMany, false, false, ""⟩,
    ⟨"s2", "e", "e", .manyToOne, false, false, ""⟩]

theorem editAll_endsExist_sharedEnds :
    (sharedEnds.EndsExist ∧ (sharedEnds.editAll removingEdits).EndsExist ∧
        (sharedEnds.editAll removingEdits).relationships.map (·.id) =
          ["r1", "junction-r2-rel-1"]) ∧
      ∃ s, halfUnknown.toLogicalWith .default = .valid s ∧ (s.editAll removingEdits).EndsExist ∧
        (s.editAll removingEdits).relationships.map (·.id) = ["s2"] := by
  have hends : sharedEnds.EndsExist := by decide
  have hconverted : halfUnknown.toLogicalWith .default =
      .valid (halfUnknown.toLogical .cascade .cascade) := rfl
  obtain ⟨hkeeps, hkeeps'⟩ := editAll_endsExist removingEdits
  exact ⟨⟨hends, hkeeps _ hends, by decide +kernel⟩, _, hconverted, hkeeps' _ _ _ hconverted,
    by decide +kernel⟩

end Schema

end SchemaGraph
