import SchemaGraph.Proofs.CleanReport
import SchemaGraph.Proofs.Renaming

/-!
# Relationships seen from the other end

A relationship is written down from one of its ends: many-to-one from here is one-to-many from
there. Which end it is matters for a junction table, which is named after the source and then the
target, and for a one-to-one relationship in which either row may be missing, since then the target
comes first. For all others it tells nothing: the foreign key is the same column of the same table
(`Relationship.Reversible.placeIn_reversed`). `Schema.resolve_reoriented` says that a schema in
which such relationships have been turned around has the same resolved tables and the same script.
-/

namespace SchemaGraph

/-! ### The other end -/

/-- The cardinality as it reads from the other end. -/
def Cardinality.reversed : Cardinality → Cardinality
  | .oneToMany => .manyToOne
  | .manyToOne => .oneToMany
  | c => c

@[simp] lemma Cardinality.reversed_reversed (c : Cardinality) : c.reversed.reversed = c := by
  cases c <;> rfl

def Side.opposite : Side → Side
  | .source => .target
  | .target => .source

namespace Relationship

variable {r r' : Relationship} {tables : Dictionary Table} {naming : Naming}
  {source target : Table} {sourceKey targetKey : Column} {side : Side} {p : Placement}

/-- The relationship as it reads from the other end. -/
def reversed (r : Relationship) : Relationship :=
  { r with
    sourceTable := r.targetTable
    sourceColumn := r.targetColumn
    targetTable := r.sourceTable
    targetColumn := r.sourceColumn
    cardinality := r.cardinality.reversed
    sourceOptional := r.targetOptional
    targetOptional := r.sourceOptional }

@[simp] lemma reversed_reversed (r : Relationship) : r.reversed.reversed = r := by
  simp [reversed]

@[simp] lemma isManyToMany_reversed (r : Relationship) :
    r.reversed.isManyToMany = r.isManyToMany := by
  simp only [isManyToMany, reversed]
  cases r.cardinality <;> rfl

/-- The direction of a relationship tells nothing: no junction is named after its ends, and it does
not have to choose which of two rows that may be missing refers to the other. -/
structure Reversible (r : Relationship) : Prop where
  notManyToMany : r.cardinality ≠ .manyToMany
  notBothOptional : r.cardinality = .oneToOne → ¬(r.sourceOptional = true ∧ r.targetOptional = true)

/-- A relationship has been kept, or it has been turned around where its direction tells nothing. -/
def Reoriented (r r' : Relationship) : Prop :=
  r' = r ∨ r.Reversible ∧ r' = r.reversed

lemma Reoriented.isManyToMany_eq (h : r.Reoriented r') : r'.isManyToMany = r.isManyToMany := by
  rcases h with rfl | ⟨-, rfl⟩
  · rfl
  · exact r.isManyToMany_reversed

/-- Many-to-many relationships are kept. -/
lemma Reoriented.eq_of_isManyToMany (h : r.Reoriented r') (hr : r.isManyToMany = true) :
    r' = r := by
  rcases h with rfl | ⟨hreversible, -⟩
  · rfl
  · exact absurd (beq_iff_eq.mp hr) hreversible.notManyToMany

namespace Reversible

lemma reversed (h : r.Reversible) : r.reversed.Reversible := by
  obtain ⟨hmany, hone⟩ := h
  constructor
  · intro hc
    apply hmany
    rw [← r.cardinality.reversed_reversed, show r.cardinality.reversed = .manyToMany from hc]
    rfl
  · intro hc hboth
    refine hone ?_ hboth.symm
    rw [← r.cardinality.reversed_reversed, show r.cardinality.reversed = .oneToOne from hc]
    rfl

/-- From the other end the foreign key is on the opposite side. -/
lemma holder?_reversed (h : r.Reversible) :
    r.reversed.holder? = r.holder?.map (·.opposite) := by
  obtain ⟨hmany, hone⟩ := h
  simp only [holder?, Relationship.reversed]
  cases hc : r.cardinality with
  | oneToMany => rfl
  | manyToOne => rfl
  | manyToMany => exact absurd hc hmany
  | oneToOne =>
    have hboth := hone hc
    by_cases hs : r.sourceOptional = true
    · have ht : r.targetOptional = false := by simpa [hs] using hboth
      simp [Cardinality.reversed, Side.opposite, hs, ht]
    · by_cases ht : r.targetOptional = true
      · simp [Cardinality.reversed, Side.opposite, hs, ht]
      · simp [Cardinality.reversed, hs, ht]

/-- Where both rows may be missing, it is on the side of the target from either end. -/
example :
    let r : Relationship := ⟨"r", "a", "", "b", "", .oneToOne, true, true, .cascade, .cascade⟩
    r.holder? = some .target ∧ r.reversed.holder? = some .target := by
  decide

lemma joins_reversed (hr : r.Reversible)
    (h : r.Joins tables source target sourceKey targetKey side) :
    r.reversed.Joins tables target source targetKey sourceKey side.opposite where
  source_eq := h.target_eq
  target_eq := h.source_eq
  sourceKey_eq := h.targetKey_eq
  targetKey_eq := h.sourceKey_eq
  side_eq := by
    rw [hr.holder?_reversed, h.side_eq]
    rfl

end Reversible

end Relationship

/-! ### Placements -/

/-- The placement for the relationship as it reads from the other end. -/
def Placement.reversed (p : Placement) : Placement :=
  { p with relationship := p.relationship.reversed }

/-- The column is the same from the other end. -/
lemma Placement.column_reversed (p : Placement) : p.reversed.column = p.column := by
  have hone : (p.relationship.cardinality.reversed == .oneToOne) =
      (p.relationship.cardinality == .oneToOne) := by
    cases p.relationship.cardinality <;> rfl
  simp only [column, reversed, Relationship.reversed, hone, Bool.or_comm]

namespace Relationship

variable {r r' : Relationship} {tables : Dictionary Table} {naming : Naming} {p : Placement}

lemma placementAt_reversed (naming : Naming) (r : Relationship) (source target : Table)
    (sourceKey targetKey : Column) (side : Side) :
    r.reversed.placementAt naming target source targetKey sourceKey side.opposite =
      (r.placementAt naming source target sourceKey targetKey side).reversed := by
  cases side <;> rfl

lemma findsColumns_reversed (r : Relationship) (source target : Table) :
    r.reversed.findsColumns target source = r.findsColumns source target :=
  Bool.and_comm ..

/-- A relationship that can be placed can be placed from the other end, between the same tables. -/
lemma Reversible.placeIn_reversed (hr : r.Reversible) (h : r.placeIn naming tables = .ok p) :
    r.reversed.placeIn naming tables = .ok p.reversed := by
  obtain ⟨source, target, sourceKey, targetKey, side, hj, hfinds, rfl⟩ :=
    exists_joins_of_placeIn h
  rw [(hr.joins_reversed hj).placeIn_eq naming, findsColumns_reversed, if_pos hfinds,
    placementAt_reversed]

lemma Reversible.toOption_placeIn_reversed (hr : r.Reversible) (naming : Naming)
    (tables : Dictionary Table) :
    (r.reversed.placeIn naming tables).toOption =
      (r.placeIn naming tables).toOption.map (·.reversed) := by
  cases h : r.placeIn naming tables with
  | ok p =>
    rw [hr.placeIn_reversed h]
    rfl
  | error gap =>
    cases h' : r.reversed.placeIn naming tables with
    | error gap' => rfl
    | ok p' =>
      have hback := hr.reversed.placeIn_reversed h'
      rw [reversed_reversed, h] at hback
      cases hback

end Relationship

/-! ### Schemas -/

namespace Schema

variable {s s' : Schema} {naming : Naming} {r r' : Relationship} {rs rs' : List Relationship}

/-- The tables of a schema are kept, and of the relationships some may have been turned around whose
direction tells nothing. -/
structure Reoriented (s s' : Schema) : Prop where
  tables_eq : s'.tables = s.tables
  relationships : List.Forall₂ Relationship.Reoriented s.relationships s'.relationships

/-- The turn of a relationship adds the same column from both ends. -/
lemma addForeignKey_reoriented (h : r.Reoriented r') (naming : Naming) (s : Schema) :
    s.addForeignKey naming r' = s.addForeignKey naming r := by
  rcases h with rfl | ⟨hr, rfl⟩
  · rfl
  · rw [addForeignKey_eq, addForeignKey_eq, place, hr.toOption_placeIn_reversed, ← place]
    cases (s.place naming r).toOption with
    | none => rfl
    | some p =>
      simp only [Option.map_some, Option.elim_some, p.column_reversed]
      rfl

/-- So does a run of turns. -/
lemma addForeignKeys_reoriented (h : List.Forall₂ Relationship.Reoriented rs rs')
    (naming : Naming) (s : Schema) : s.addForeignKeys naming rs' = s.addForeignKeys naming rs := by
  induction h generalizing s with
  | nil => rfl
  | cons hr _ ih => rw [addForeignKeys_cons, addForeignKeys_cons, addForeignKey_reoriented hr, ih]

namespace Reoriented

lemma resolve_tables (h : s.Reoriented s') (naming : Naming) :
    (s'.resolve naming).tables = (s.resolve naming).tables := by
  rw [resolve_eq, resolve_eq, addForeignKeys_tables_congr h.tables_eq,
    addForeignKeys_reoriented h.relationships]

lemma manyToMany_eq (h : s.Reoriented s') : s'.manyToMany = s.manyToMany := by
  have hall := h.relationships
  rw [manyToMany, manyToMany]
  generalize s.relationships = rs, s'.relationships = rs' at hall ⊢
  induction hall with
  | nil => rfl
  | @cons r r' rs rs' hr _ ih =>
    by_cases hmany : r.isManyToMany = true
    · rw [hr.eq_of_isManyToMany hmany, List.filter_cons_of_pos hmany,
        List.filter_cons_of_pos hmany, ih]
    · have hmany' : ¬r'.isManyToMany = true := by rwa [hr.isManyToMany_eq]
      rw [List.filter_cons_of_neg hmany, List.filter_cons_of_neg hmany', ih]

lemma junctions_eq (h : s.Reoriented s') (naming : Naming) :
    s'.junctions naming = s.junctions naming := by
  rw [junctions, junctions, h.manyToMany_eq]
  refine List.filterMap_congr fun r _ => ?_
  rw [synthesize, synthesize, junctionEnds, junctionEnds, index, index, h.tables_eq]

/-- The script adds the same foreign key for a relationship from both ends. -/
lemma alteration?_eq (h : s.Reoriented s') (hr : r.Reoriented r') (naming : Naming) :
    s'.alteration? naming r' = s.alteration? naming r := by
  have htables : (s'.prepared naming).tables = (s.prepared naming).tables := by
    rw [prepared_tables_eq_resolve, prepared_tables_eq_resolve, h.resolve_tables]
  rw [alteration?, alteration?, place_congr htables]
  rcases hr with rfl | ⟨hr, rfl⟩
  · rfl
  · rw [place, hr.toOption_placeIn_reversed, Option.map_map, ← place]
    rfl

lemma map_placements (h : s.Reoriented s') (naming : Naming) :
    (s'.placements naming).map (·.statement) = (s.placements naming).map (·.statement) := by
  have hall := h.relationships
  rw [placements_eq_filterMap, placements_eq_filterMap]
  generalize s.relationships = rs, s'.relationships = rs' at hall
  induction hall with
  | nil => rfl
  | cons hr _ ih => rw [List.filterMap_cons, List.filterMap_cons, h.alteration?_eq hr, ih]

end Reoriented

/-- A schema in which some relationships have been turned around whose direction tells nothing has
the same resolved tables and the same script. -/
theorem resolve_reoriented (h : s.Reoriented s') (naming : Naming) :
    (s'.resolve naming).tables = (s.resolve naming).tables ∧
      ∀ d generatedAt, s'.script d naming generatedAt = s.script d naming generatedAt := by
  refine ⟨h.resolve_tables naming, fun d generatedAt => ?_⟩
  rw [script, script, statements, statements, h.junctions_eq, h.map_placements,
    prepared_tables_eq_resolve, prepared_tables_eq_resolve, h.resolve_tables]

/-- Two tables and relationships of all kinds between them. The first one leads from a table to
itself, and the second names the foreign key column of the third. -/
private def writtenOneWay : Schema where
  tables := [.withKey "a" "A" "a", .withKey "b" "B" "b"]
  relationships := [
    ⟨"r1", "a", "a-a", "a", "a-a", .manyToOne, true, false, .setNull, .cascade⟩,
    ⟨"r2", "b", "b-b", "a", "fk-r3-a", .manyToOne, false, true, .cascade, .noAction⟩,
    ⟨"r3", "a", "a-a", "b", "b-b", .oneToOne, true, false, .restrict, .cascade⟩,
    ⟨"r4", "b", "b-b", "a", "a-a", .oneToOne, true, true, .cascade, .cascade⟩,
    ⟨"r5", "b", "b-b", "a", "a-a", .manyToMany, false, false, .cascade, .cascade⟩]

/-- The same with the first three written down from their other ends. -/
private def writtenOtherWay : Schema where
  tables := writtenOneWay.tables
  relationships := [
    ⟨"r1", "a", "a-a", "a", "a-a", .oneToMany, false, true, .setNull, .cascade⟩,
    ⟨"r2", "a", "fk-r3-a", "b", "b-b", .oneToMany, true, false, .cascade, .noAction⟩,
    ⟨"r3", "b", "b-b", "a", "a-a", .oneToOne, false, true, .restrict, .cascade⟩,
    ⟨"r4", "b", "b-b", "a", "a-a", .oneToOne, true, true, .cascade, .cascade⟩,
    ⟨"r5", "b", "b-b", "a", "a-a", .manyToMany, false, false, .cascade, .cascade⟩]

theorem resolve_reoriented_writtenOtherWay :
    writtenOneWay.Reoriented writtenOtherWay ∧
      (writtenOtherWay.resolve .prefixed).tables = (writtenOneWay.resolve .prefixed).tables ∧
      writtenOtherWay.script .mysql .prefixed "" = writtenOneWay.script .mysql .prefixed "" ∧
      (writtenOneWay.resolve .prefixed).tables.map (·.columns.map (·.name)) =
        [["a", "A_a", "B_b"], ["b"]] ∧
      (writtenOneWay.placements .prefixed).map (fun p => (p.holder.id, p.columnName)) =
        [("a", "A_a"), ("b", "A_a"), ("a", "B_b"), ("a", "B_b")] := by
  have h : writtenOneWay.Reoriented writtenOtherWay := by
    refine ⟨rfl, .cons ?_ (.cons ?_ (.cons ?_ (.cons (.inl rfl) (.cons (.inl rfl) .nil))))⟩
    · exact .inr ⟨⟨by decide, by decide⟩, by decide⟩
    · exact .inr ⟨⟨by decide, by decide⟩, by decide⟩
    · exact .inr ⟨⟨by decide, by decide⟩, by decide⟩
  obtain ⟨htables, hscript⟩ := resolve_reoriented h .prefixed
  exact ⟨h, htables, hscript .mysql "", by decide +kernel, by decide +kernel⟩

end Schema

end SchemaGraph
