import SchemaGraph.Proofs.Findings
import SchemaGraph.Proofs.ScriptNames

/-!
# What a clean report promises

The analysis of a schema looks tables up one by one among those that it is given; the script looks
them up in an index, and decides about foreign keys only after resolution. So that a report and a
script agree takes proof. `Schema.statements_of_keyed` says that they do where no table is reported
to lack a key: the junctions that are recommended are those that the script creates, in the same
order, and each relationship that joins two tables and finds its columns in them has its foreign
key, except where both sides are required to have just one row.
-/

namespace SchemaGraph

namespace Schema

variable {s : Schema} {naming : Naming} {r : Relationship}

/-! ### Reports -/

/-- Every table has a key. -/
def Keyed (s : Schema) : Prop :=
  ∀ t ∈ s.tables, t.primaryKey?.isSome = true

/-- A report without a missing key is one on tables with keys. -/
lemma keyed_of_issues (h : ∀ f ∈ s.analyze.issues, f.kind ≠ .noPrimaryKey) : s.Keyed := by
  intro t ht
  by_contra hkey
  have hissue : t.missingKeyFinding ∈ s.analyze.issues := by
    refine List.mem_append_left _ (List.mem_map_of_mem (List.mem_filter.mpr ⟨ht, ?_⟩))
    simpa using hkey
  exact h _ hissue rfl

/-- The recommendations of junctions come from the many-to-many relationships. -/
lemma filter_recommendations :
    s.analyze.recommendations.filter (·.kind == .manyToMany) =
      s.manyToMany.filterMap s.manyToManyFinding? := by
  rw [filter_kind_recommendations, if_pos rfl, if_neg (by decide), if_neg (by decide),
    List.append_nil, List.append_nil, manyToMany, List.filterMap_filter]
  refine List.filterMap_congr fun r _ => ?_
  cases hr : r.isManyToMany with
  | true => rfl
  | false => simp [manyToManyFinding?, hr]

/-! ### Junctions -/

/-- A recommendation and a statement are about a junction for one and the same relationship: the
finding names the two tables that it joins, and the created table is named after them. -/
def Recommends (s : Schema) (f : Finding) (statement : Statement) : Prop :=
  ∃ r ∈ s.manyToMany, ∃ source target,
    s.table? r.sourceTable = some source ∧ s.table? r.targetTable = some target ∧
      f.description = "The relationship between \"" ++ source.name ++ "\" and \"" ++ target.name ++
        "\" is N:M. A junction table is recommended." ∧
      f.action = some (.createJunctionTable r.id source.id target.id) ∧
      statement.createdName? = some (source.name ++ "_" ++ target.name)

/-- Where tables have keys, a junction is recommended for a relationship just when it is created. -/
lemma Keyed.recommends (h : s.Keyed) (naming : Naming) (d : Dialect) (hr : r ∈ s.manyToMany) :
    Option.Rel (fun f t => s.Recommends f (t.createJunction d)) (s.manyToManyFinding? r)
      (s.synthesize naming r).toOption := by
  have hmany : r.isManyToMany = true := (List.mem_filter.mp hr).2
  cases hsource : s.table? r.sourceTable with
  | none => simp [manyToManyFinding?, synthesize, junctionEnds, hmany, hsource, Except.map,
      Except.toOption]
  | some source =>
    cases htarget : s.table? r.targetTable with
    | none => simp [manyToManyFinding?, synthesize, junctionEnds, hmany, hsource, htarget,
        Except.map, Except.toOption]
    | some target =>
      obtain ⟨sourceKey, hsourceKey⟩ :=
        Option.isSome_iff_exists.mp (h source (mem_of_table? hsource))
      obtain ⟨targetKey, htargetKey⟩ :=
        Option.isSome_iff_exists.mp (h target (mem_of_table? htarget))
      simp only [manyToManyFinding?, synthesize, junctionEnds, hmany, hsource, htarget, hsourceKey,
        htargetKey, get?_index, Except.map, Except.toOption]
      exact .some ⟨r, hr, source, target, hsource, htarget, rfl, rfl, rfl⟩

lemma Keyed.forall₂_recommends (h : s.Keyed) (naming : Naming) (d : Dialect) :
    List.Forall₂ s.Recommends (s.analyze.recommendations.filter (·.kind == .manyToMany))
      ((s.junctions naming).map (·.createJunction d)) := by
  rw [filter_recommendations, junctions, List.forall₂_map_right_iff]
  exact forall₂_filterMap fun r hr => h.recommends naming d hr

/-! ### Foreign keys -/

/-- A relationship joins two tables and finds its columns in them, and of two single rows one may be
missing. -/
structure Intact (s : Schema) (r : Relationship) : Prop where
  notManyToMany : r.isManyToMany = false
  findsColumns : ∃ source target, s.table? r.sourceTable = some source ∧
    s.table? r.targetTable = some target ∧ r.findsColumns source target = true
  optional : r.cardinality = .oneToOne → r.sourceOptional = true ∨ r.targetOptional = true

lemma Intact.exists_holder? (h : s.Intact r) : ∃ side, r.holder? = some side := by
  have hmany := h.notManyToMany
  rw [Relationship.isManyToMany] at hmany
  cases hc : r.cardinality with
  | oneToMany => exact ⟨.target, by simp [Relationship.holder?, hc]⟩
  | manyToOne => exact ⟨.source, by simp [Relationship.holder?, hc]⟩
  | oneToOne =>
    by_cases htarget : r.targetOptional = true
    · exact ⟨.target, by simp [Relationship.holder?, hc, htarget]⟩
    · have hsource : r.sourceOptional = true := (h.optional hc).resolve_right htarget
      exact ⟨.source, by simp [Relationship.holder?, hc, htarget, hsource]⟩
  | manyToMany => simp [hc] at hmany

/-- Where tables have keys, a relationship that is intact can be placed before resolution. -/
lemma Keyed.place (h : s.Keyed) (hr : s.Intact r) (naming : Naming) :
    ∃ p, s.place naming r = .ok p := by
  obtain ⟨source, target, hsource, htarget, hfinds⟩ := hr.findsColumns
  obtain ⟨side, hside⟩ := hr.exists_holder?
  obtain ⟨sourceKey, hsourceKey⟩ := Option.isSome_iff_exists.mp (h source (mem_of_table? hsource))
  obtain ⟨targetKey, htargetKey⟩ := Option.isSome_iff_exists.mp (h target (mem_of_table? htarget))
  have hj := Relationship.Joins.of_table? hsource htarget hsourceKey htargetKey hside
  exact ⟨_, (hj.placeIn_eq naming).trans (if_pos hfinds)⟩

/-- The statement that adds the foreign key of a relationship to the tables of the script. -/
def alteration? (s : Schema) (naming : Naming) (r : Relationship) : Option Statement :=
  ((s.prepared naming).place naming r).toOption.map (·.statement)

lemma placements_eq_filterMap :
    (s.placements naming).map (·.statement) = s.relationships.filterMap (s.alteration? naming) := by
  rw [placements, others, List.map_filterMap, List.filterMap_filter]
  refine List.filterMap_congr fun r _ => ?_
  cases hr : r.isManyToMany with
  | true => simp [alteration?, Schema.place, Relationship.placeIn, hr, Except.toOption]
  | false => rfl

end Schema

/-- Growth does not show in the foreign key of a placement. -/
lemma Placement.Grows.statement_eq {p p' : Placement} (h : p.Grows p') :
    p'.statement = p.statement := by
  rw [Placement.statement, Placement.statement, h.relationship_eq, h.holder.name_eq,
    h.referenced.name_eq, h.key_eq, h.columnName_eq]

namespace Schema

variable {s : Schema}

/-- Resolution makes the foreign key of an intact relationship no other than it is before. -/
lemma Keyed.alteration? (h : s.Keyed) {r : Relationship} (hr : s.Intact r) (naming : Naming) :
    ∃ p, s.place naming r = .ok p ∧ s.alteration? naming r = some p.statement := by
  obtain ⟨p, hp⟩ := h.place hr naming
  obtain ⟨p', hp', hgrows⟩ := (grows_prepared naming s).place hp
  refine ⟨p, hp, ?_⟩
  rw [Schema.alteration?, hp', ← hgrows.statement_eq]
  rfl

/-! ### Scripts of schemas with clean reports -/

/-- Where no table is reported to lack a key, the recommended junctions and those of the script
agree one by one, and of the statements that add foreign keys, in the order of their relationships,
none that an intact relationship calls for is left out. -/
theorem statements_of_keyed (h : ∀ f ∈ s.analyze.issues, f.kind ≠ .noPrimaryKey) (d : Dialect)
    (naming : Naming) (generatedAt : String) :
    s.statements d naming generatedAt =
        .header d.name generatedAt :: (s.junctions naming).map (·.createJunction d) ++
          (s.prepared naming).tables.map (·.create d) ++
          s.relationships.filterMap (s.alteration? naming) ∧
      List.Forall₂ s.Recommends (s.analyze.recommendations.filter (·.kind == .manyToMany))
        ((s.junctions naming).map (·.createJunction d)) ∧
      ∀ r ∈ s.relationships, s.Intact r →
        ∃ p, s.place naming r = .ok p ∧ s.alteration? naming r = some p.statement := by
  have hkeyed := keyed_of_issues h
  refine ⟨?_, hkeyed.forall₂_recommends naming d, ?_⟩
  · rw [← placements_eq_filterMap]
    rfl
  · intro r _ hr
    exact hkeyed.alteration? hr naming

/-- A one-to-one relationship whose target may be missing. -/
private def mayLackTarget : Relationship :=
  ⟨"r7", "b", "b-b", "a", "a-a", .oneToOne, false, true, .cascade, .noAction⟩

/-- Tables with keys, the last of which is hidden behind the first. Of the relationships one lacks a
table, one names a column of the hidden table, and one requires both sides. -/
private def reportedClean : Schema where
  tables := [.withKey "a" "A" "a", .withKey "b" "B" "b", .withKey "a" "Hidden" "h"]
  relationships := [
    ⟨"r1", "a", "a-a", "b", "b-b", .manyToMany, false, false, .cascade, .cascade⟩,
    ⟨"r1", "b", "", "b", "", .manyToMany, false, false, .cascade, .cascade⟩,
    ⟨"r3", "a", "a-a", "missing", "m", .manyToMany, false, false, .cascade, .cascade⟩,
    ⟨"r4", "a", "a-h", "b", "b-b", .oneToMany, false, false, .cascade, .cascade⟩,
    ⟨"r5", "a", "a-a", "b", "b-b", .oneToOne, false, false, .cascade, .cascade⟩,
    mayLackTarget]

theorem statements_of_keyed_reportedClean :
    (∀ f ∈ reportedClean.analyze.issues, f.kind ≠ .noPrimaryKey) ∧
      (∃ f g statement statement', List.Forall₂ reportedClean.Recommends [f, g]
        [statement, statement'] ∧ statement.createdName? = some "A_B" ∧
          statement'.createdName? = some "B_B") ∧
      mayLackTarget ∈ reportedClean.relationships ∧ reportedClean.Intact mayLackTarget ∧
      reportedClean.alteration? .prefixed mayLackTarget =
        some (.addForeignKey "A" "FK_A_B" "B_b" "B" "b" .cascade .noAction) := by
  have h : ∀ f ∈ reportedClean.analyze.issues, f.kind ≠ .noPrimaryKey := by decide +kernel
  have hintact : reportedClean.Intact mayLackTarget :=
    ⟨by decide, ⟨.withKey "b" "B" "b", .withKey "a" "A" "a", by decide, by decide, by decide⟩,
      by decide⟩
  have hmem : mayLackTarget ∈ reportedClean.relationships := by decide
  obtain ⟨-, hjunctions, hforeign⟩ := statements_of_keyed h .access .prefixed ""
  obtain ⟨p, hp, halteration⟩ := hforeign _ hmem hintact
  refine ⟨h, ⟨_, _, _, _, hjunctions, rfl, rfl⟩, hmem, hintact, halteration.trans ?_⟩
  have hplaced : (reportedClean.place .prefixed mayLackTarget).map (·.statement) =
      .ok (.addForeignKey "A" "FK_A_B" "B_b" "B" "b" .cascade .noAction) := by
    decide +kernel
  rw [hp] at hplaced
  exact congrArg some (Except.ok.inj hplaced)

end Schema

end SchemaGraph
