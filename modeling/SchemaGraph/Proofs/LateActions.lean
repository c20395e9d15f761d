import SchemaGraph.Proofs.AnalysisModes
import SchemaGraph.Proofs.JunctionFindings
import SchemaGraph.Proofs.KeyFindings

/-!
# Acting on findings late

A finding is about the schema as it was when it was analyzed. Until its action is asked for, tables,
relationships and keys may have come and gone, or the schema may have become conceptual.
`Document.answers_finding` says that the action is answered all the same, whatever the schema has
become: either it is refused and the schema stays as it is, or it makes one of two whole changes
(`Schema.ChangedBy`), and the guards of these changes say when it does so.
-/

namespace SchemaGraph

/-! ### Changes -/

/-- What an action makes of a logical schema when it is applied, with all that has to hold for it.
-/
inductive Schema.ChangedBy (s : Schema) (naming : Naming) : Action → Schema → Prop
  /-- A relationship is found, by its id or by its ends. Both its tables have keys, and the name of
  its junction is free. -/
  | joined {relationship source target : String} {r : Relationship} {e : JunctionEnds}
      (chosen : s.choose? ⟨some relationship, some source, some target⟩ = some r)
      (ends : s.junctionEnds r = .ok e)
      (free : ∀ t ∈ s.tables, t.name ≠ e.source.name ++ "_" ++ e.target.name) :
      ChangedBy s naming (.createJunctionTable relationship source target)
        (s.withJunction naming r e)
  /-- A table is found, and it has columns. -/
  | keyed {id : String} {t : Table} (found : s.table? id = some t) (nonempty : t.columns ≠ []) :
      ChangedBy s naming (.addPrimaryKey id) (s.addPrimaryKey id)

namespace Schema

variable {s s' : Schema} {naming : Naming} {a : Action} {d : Document}
  {relationship source target id : String}

lemma changedBy_createJunctionTable_iff :
    s.ChangedBy naming (.createJunctionTable relationship source target) s' ↔
      s.materialize naming ⟨some relationship, some source, some target⟩ = .ok s' := by
  rw [materialize_eq_ok_iff]
  constructor
  · rintro ⟨chosen, ends, free⟩
    exact ⟨_, _, chosen, ends, free, rfl⟩
  · rintro ⟨r, e, chosen, ends, free, rfl⟩
    exact .joined chosen ends free

lemma changedBy_addPrimaryKey_iff :
    s.ChangedBy naming (.addPrimaryKey id) s' ↔
      ∃ t, s.table? id = some t ∧ t.columns ≠ [] ∧ s' = s.addPrimaryKey id := by
  constructor
  · rintro ⟨⟩
    next t nonempty found => exact ⟨t, found, nonempty, rfl⟩
  · rintro ⟨t, found, nonempty, rfl⟩
    exact .keyed found nonempty

/-! ### Actions on logical schemas -/

lemma applies_createJunctionTable_iff :
    (Document.logical s).Applies naming (.createJunctionTable relationship source target) d ↔
      ∃ s', s.ChangedBy naming (.createJunctionTable relationship source target) s' ∧
        .logical s' = d := by
  simp only [changedBy_createJunctionTable_iff]
  have happly : (Document.logical s).apply naming
      (Action.createJunctionTable relationship source target).remedy =
        .ok (s.junctionOutcome naming ⟨some relationship, some source, some target⟩) := rfl
  cases hok : s.materialize naming ⟨some relationship, some source, some target⟩ with
  | error gap =>
    rw [junctionOutcome_of_error hok] at happly
    simpa using (Document.refuses_of_unchanged happly).not_applies
  | ok s' =>
    obtain ⟨message, hchanged⟩ := exists_junctionOutcome_of_ok hok
    rw [hchanged] at happly
    rw [Document.applies_iff_of_changed happly]
    simp

lemma applies_addPrimaryKey_iff_changedBy :
    (Document.logical s).Applies naming (.addPrimaryKey id) d ↔
      ∃ s', s.ChangedBy naming (.addPrimaryKey id) s' ∧ .logical s' = d := by
  simp only [changedBy_addPrimaryKey_iff]
  cases hfound : s.table? id with
  | none =>
    have hunchanged : s.keyOutcome (some id) = .unchanged "Table not found" := by
      simp [keyOutcome, hfound]
    have hrefused : (Document.logical s).Refuses naming (.addPrimaryKey id) := by
      apply Document.refuses_of_unchanged
      rw [apply_addPrimaryKey, hunchanged]
    simpa using hrefused.not_applies
  | some t =>
    obtain rfl : t.id = id := table?_id hfound
    rw [applies_addPrimaryKey_iff hfound]
    simp [eq_comm]

end Schema

/-! ### Actions on any schema -/

namespace Document

variable {d d' : Document} {naming : Naming} {a : Action}

/-- On a conceptual schema every action is refused. -/
lemma refuses_conceptual (c : ConceptualSchema) (naming : Naming) (a : Action) :
    (conceptual c).Refuses naming a := by
  cases a <;> exact refuses_of_unchanged rfl

/-- An action is applied just when it can change the schema, and then it makes this change. -/
lemma applies_iff_changedBy :
    d.Applies naming a d' ↔ ∃ s s', d = .logical s ∧ s.ChangedBy naming a s' ∧ .logical s' = d' := by
  cases d with
  | conceptual c => simpa using (refuses_conceptual c naming a).not_applies
  | logical s =>
    simp only [logical.injEq, exists_and_left, exists_eq_left']
    cases a with
    | createJunctionTable relationship source target => exact Schema.applies_createJunctionTable_iff
    | addPrimaryKey id => exact Schema.applies_addPrimaryKey_iff_changedBy
    | renameDuplicateColumns | addIndex | checkLength | addPrimaryAttribute =>
      refine iff_of_false (Refuses.not_applies (refuses_of_unchanged rfl)) ?_
      rintro ⟨s', ⟨⟩, -⟩

/-- No action that a finding can carry is unknown, and none lacks a parameter. -/
lemma exists_outcome (d : Document) (naming : Naming) (a : Action) :
    ∃ outcome, d.applyRequest naming a.kind a.params = .ok outcome := by
  rw [applyRequest_action]
  cases d <;> cases a <;> exact ⟨_, rfl⟩

end Document

/-! ### What findings suggest -/

/-- The kind of the findings that suggest an action. -/
def Action.findingKind : Action → FindingKind
  | .createJunctionTable .. => .manyToMany
  | .addPrimaryKey _ => .noPrimaryKey
  | .renameDuplicateColumns .. => .duplicateColumns
  | .addIndex .. => .missingIndex
  | .checkLength .. => .textLength
  | .addPrimaryAttribute _ => .noPrimaryKey

/-- A finding suggests an action that goes with its kind. -/
def Finding.SuggestsInKind (f : Finding) : Prop :=
  ∃ a, f.action = some a ∧ a.findingKind = f.kind

lemma Table.suggestsInKind_of_duplicateFinding? {t : Table} {f : Finding}
    (h : t.duplicateFinding? = some f) : f.SuggestsInKind := by
  rw [duplicateFinding?] at h
  split at h
  · cases h
  · cases h
    exact ⟨_, rfl, rfl⟩

lemma Table.suggestsInKind_of_textLengthFinding? {t : Table} {f : Finding}
    (h : t.textLengthFinding? = some f) : f.SuggestsInKind := by
  rw [textLengthFinding?] at h
  split at h
  · cases h
  · cases h
    exact ⟨_, rfl, rfl⟩

namespace Schema

variable {s s' : Schema} {r : Relationship} {f : Finding} {a : Action} {naming : Naming}

lemma suggestsInKind_of_manyToManyFinding? (h : s.manyToManyFinding? r = some f) :
    f.SuggestsInKind := by
  have hkind := (isAbout_of_manyToManyFinding? h).kind_eq
  exact ⟨r.junctionAction, action_of_manyToManyFinding? h, hkind.symm⟩

lemma suggestsInKind_of_indexFinding? (h : s.indexFinding? r = some f) : f.SuggestsInKind := by
  rw [indexFinding?] at h
  split at h
  · cases h
  · split at h
    · cases h
    · split at h
      · cases h
      · cases h
        exact ⟨_, rfl, rfl⟩

/-- In logical mode every finding suggests an action. -/
lemma suggestsInKind_of_mem_findings (h : f ∈ s.analyze.findings) : f.SuggestsInKind := by
  simp only [Report.findings, analyze, List.mem_append, List.mem_map, List.mem_filterMap] at h
  rcases h with (⟨t, -, rfl⟩ | ⟨t, -, ht⟩) | (⟨r, -, hr⟩ | ⟨r, -, hr⟩) | ⟨t, -, ht⟩
  · exact ⟨_, rfl, rfl⟩
  · exact Table.suggestsInKind_of_duplicateFinding? ht
  · exact suggestsInKind_of_manyToManyFinding? hr
  · exact suggestsInKind_of_indexFinding? hr
  · exact Table.suggestsInKind_of_textLengthFinding? ht

lemma ChangedBy.kind_eq (h : s.ChangedBy naming a s') :
    a.findingKind = .manyToMany ∧ a.kind = "create_junction_table" ∨
      a.findingKind = .noPrimaryKey ∧ a.kind = "add_primary_key" := by
  cases h with
  | joined chosen ends free => exact .inl ⟨rfl, rfl⟩
  | keyed found nonempty => exact .inr ⟨rfl, rfl⟩

end Schema

/-- In conceptual mode the only action that is suggested changes nothing. -/
lemma ConceptualSchema.not_changedBy_of_mem_findings {c : ConceptualSchema} {s s' : Schema}
    {f : Finding} {a : Action} {naming : Naming} (hf : f ∈ c.analyze.findings)
    (ha : f.action = some a) : ¬s.ChangedBy naming a s' := by
  simp only [Report.findings, analyze, List.mem_append, List.mem_map, List.mem_filterMap] at hf
  rcases hf with ⟨e, -, rfl⟩ | ⟨association, -, hassociation⟩
  · cases ha
    rintro ⟨⟩
  · rw [manyToManyFinding?] at hassociation
    split at hassociation
    · cases hassociation
    · split at hassociation
      · cases hassociation
        cases ha
      · cases hassociation

namespace Document

variable {d : Document} {mode : Mode} {f : Finding} {a : Action} {naming : Naming} {s s' : Schema}

/-- Only the findings of two checks, both of them in logical mode, suggest something that changes a
schema. -/
lemma kind_eq_of_mem_findings (hf : f ∈ (d.analyze mode).findings) (ha : f.action = some a)
    (h : s.ChangedBy naming a s') :
    mode = .logical ∧ (f.kind = .manyToMany ∧ a.kind = "create_junction_table" ∨
      f.kind = .noPrimaryKey ∧ a.kind = "add_primary_key") := by
  cases mode with
  | logical =>
    obtain ⟨b, hb, hkind⟩ := Schema.suggestsInKind_of_mem_findings hf
    obtain rfl : a = b := Option.some.inj (ha.symm.trans hb)
    rw [← hkind]
    exact ⟨rfl, h.kind_eq⟩
  | conceptual => exact absurd h (ConceptualSchema.not_changedBy_of_mem_findings hf ha)

/-- The action of a finding is answered for every schema, whatever it has to do with the one that
was analyzed. If it is not applied the schema stays as it is. It is applied just when it can change
the schema, and then it makes the whole change; so the schema is a logical one, and the action makes
a junction table or adds a key. -/
theorem answers_finding (hf : f ∈ (d.analyze mode).findings) (ha : f.action = some a)
    (d' : Document) (naming : Naming) :
    ∃ outcome, d'.applyRequest naming a.kind a.params = .ok outcome ∧
      (outcome.applied = false → outcome.result d' = d') ∧
      (outcome.applied = true → mode = .logical ∧
        (f.kind = .manyToMany ∧ a.kind = "create_junction_table" ∨
          f.kind = .noPrimaryKey ∧ a.kind = "add_primary_key")) ∧
      ∀ d'', outcome.applied = true ∧ outcome.result d' = d'' ↔
        ∃ s s', d' = .logical s ∧ s.ChangedBy naming a s' ∧ .logical s' = d'' := by
  obtain ⟨outcome, houtcome⟩ := d'.exists_outcome naming a
  have happlies : ∀ d'', outcome.applied = true ∧ outcome.result d' = d'' ↔
      ∃ s s', d' = .logical s ∧ s.ChangedBy naming a s' ∧ .logical s' = d'' := by
    intro d''
    rw [← applies_iff_changedBy]
    simp [Applies, houtcome]
  refine ⟨outcome, houtcome, ?_, ?_, happlies⟩
  · intro hrefused
    cases outcome with
    | changed document message => cases hrefused
    | unchanged message => rfl
  · intro happlied
    obtain ⟨s, s', -, hchanged, -⟩ := (happlies _).mp ⟨happlied, rfl⟩
    exact kind_eq_of_mem_findings hf ha hchanged

/-- Two entities that go together in a way that calls for a junction table. -/
private def planned : ConceptualSchema where
  entities := [⟨"a", "A", [⟨"k", "key", .primary, none⟩], .zero, .zero⟩,
    ⟨"b", "B", [⟨"l", "label", .normal, some "TEXT"⟩], .zero, .zero⟩]
  associations := [⟨"r1", "a", "b", .manyToMany, false, false, ""⟩]

/-- A schema in which the relationship has been drawn anew, under another id. -/
private def redrawn : Schema where
  tables := [.withKey "b" "B" "id", .withKey "a" "A" "id"]
  relationships := [⟨"r2", "a", "gone", "b", "gone", .manyToMany, true, false, .cascade, .cascade⟩]

theorem answers_finding_redrawn :
    ∃ f ∈ ((conceptual planned).analyze .logical).findings,
      f.action = some (.createJunctionTable "r1" "a" "b") ∧
      (∃ outcome s', (logical redrawn).applyRequest .prefixed "create_junction_table"
          [("relationship_id", .str "r1"), ("source_table_id", .str "a"),
            ("target_table_id", .str "b")] = .ok outcome ∧
        outcome.applied = true ∧ outcome.result (.logical redrawn) = .logical s' ∧
        s'.tables.map (·.name) = ["B", "A", "A_B"]) ∧
      ∃ outcome, (conceptual planned).applyRequest .bare "create_junction_table"
          [("relationship_id", .str "r1"), ("source_table_id", .str "a"),
            ("target_table_id", .str "b")] = .ok outcome ∧
        outcome.applied = false ∧ outcome.result (conceptual planned) = conceptual planned := by
  let action := Action.createJunctionTable "r1" "a" "b"
  obtain ⟨f, hf, ha⟩ :
      ∃ f ∈ ((conceptual planned).analyze .logical).findings, f.action = some action := by
    decide +kernel
  refine ⟨f, hf, ha, ?_, ?_⟩
  · obtain ⟨outcome, houtcome, -, -, happlies⟩ := answers_finding hf ha (logical redrawn) .prefixed
    obtain ⟨e, hends⟩ : ∃ e, redrawn.junctionEnds redrawn.relationships[0] = .ok e := ⟨_, rfl⟩
    have hchanged : redrawn.ChangedBy .prefixed action
        (redrawn.withJunction .prefixed redrawn.relationships[0] e) :=
      .joined rfl hends (by cases hends; decide)
    obtain ⟨happlied, hresult⟩ := (happlies _).mpr ⟨_, _, rfl, hchanged, rfl⟩
    exact ⟨outcome, _, houtcome, happlied, hresult, by cases hends; rfl⟩
  · obtain ⟨outcome, houtcome, hrefused, -, happlies⟩ :=
      answers_finding hf ha (conceptual planned) .bare
    have hnot : outcome.applied = false := by
      rw [Bool.eq_false_iff]
      intro happlied
      obtain ⟨s, s', hlogical, -⟩ := (happlies _).mp ⟨happlied, rfl⟩
      cases hlogical
    exact ⟨outcome, houtcome, hnot, hrefused hnot⟩

end Document

end SchemaGraph
