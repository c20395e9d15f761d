import SchemaGraph.Proofs.Findings
import SchemaGraph.Proofs.Materialization
import SchemaGraph.Proofs.UniqueIds

/-!
# Acting on the finding of a junction

A many-to-many relationship between two tables is reported, and the action of its finding puts a
junction table in its place. `Schema.act_on_manyToMany` says when the action is applied, what it
does to the report, and that it is refused from then on. The id that it asks for is stale by then,
and it falls back to other many-to-many relationships between the same two tables; but the junctions
of all of these have the same name, and the first junction has taken it.
-/

namespace SchemaGraph

/-! ### What the action asks for -/

/-- The relationship that the action of its finding chooses: by its id, or else by its ends. -/
def Relationship.choice (r : Relationship) : JunctionChoice :=
  ⟨some r.id, some r.sourceTable, some r.targetTable⟩

/-- The action of the finding about a relationship. -/
def Relationship.junctionAction (r : Relationship) : Action :=
  .createJunctionTable r.id r.sourceTable r.targetTable

namespace Schema

variable {s s' : Schema} {naming : Naming} {r q : Relationship} {e : JunctionEnds}
  {source target : Table} {f : Finding} {d : Document}

lemma action_of_manyToManyFinding? (hf : s.manyToManyFinding? r = some f) :
    f.action = some r.junctionAction := by
  obtain ⟨-, source, target, hsource, htarget, haction⟩ := exists_of_manyToManyFinding? hf
  rw [haction, table?_id hsource, table?_id htarget]
  rfl

lemma junctionOutcome_of_error {choice : JunctionChoice} {gap : MaterializeGap}
    (h : s.materialize naming choice = .error gap) :
    s.junctionOutcome naming choice = .unchanged "Junction table could not be created" := by
  simp only [junctionOutcome, h]

/-- The junction is the last table of the schema that has got it. -/
lemma exists_junctionOutcome_of_ok {choice : JunctionChoice}
    (h : s.materialize naming choice = .ok s') :
    ∃ message, s.junctionOutcome naming choice = .changed (.logical s') message := by
  obtain ⟨r, e, -, -, rfl⟩ := exists_of_materialize h
  have hlast : (s.withJunction naming r e).tables.getLast? = some (e.junction naming r) :=
    List.getLast?_concat
  simp only [junctionOutcome, h, hlast]
  exact ⟨_, rfl⟩

lemma apply_junctionAction (s : Schema) (naming : Naming) (r : Relationship) :
    (Document.logical s).apply naming r.junctionAction.remedy =
      .ok (s.junctionOutcome naming r.choice) := rfl

lemma refuses_junctionAction (h : ∀ s', s.materialize naming r.choice ≠ .ok s') :
    (Document.logical s).Refuses naming r.junctionAction := by
  cases hok : s.materialize naming r.choice with
  | error gap =>
    apply Document.refuses_of_unchanged
    rw [apply_junctionAction, junctionOutcome_of_error hok]
  | ok s' => exact absurd hok (h s')

/-- The action is applied just when the relationship can be replaced. -/
lemma applies_junctionAction_iff :
    (Document.logical s).Applies naming r.junctionAction d ↔
      ∃ s', s.materialize naming r.choice = .ok s' ∧ Document.logical s' = d := by
  cases hok : s.materialize naming r.choice with
  | error gap =>
    have hrefused : (Document.logical s).Refuses naming r.junctionAction :=
      refuses_junctionAction (by simp [hok])
    simpa using hrefused.not_applies
  | ok s' =>
    obtain ⟨message, hchanged⟩ := exists_junctionOutcome_of_ok hok
    have happly := apply_junctionAction s naming r
    rw [hchanged] at happly
    rw [Document.applies_iff_of_changed happly]
    simp

/-! ### When the action is applied -/

/-- A junction between two tables can become a table: both of them have a key, and no table has the
name of the junction. -/
structure AllowsJunction (s : Schema) (source target : Table) : Prop where
  sourceKey : source.primaryKey?.isSome
  targetKey : target.primaryKey?.isSome
  free : ∀ t ∈ s.tables, t.name ≠ source.name ++ "_" ++ target.name

lemma choose?_choice (h : s.DistinctRelationships) (hr : r ∈ s.relationships) :
    s.choose? r.choice = some r := by
  simp [choose?, Relationship.choice, relationship?_of_distinct h hr]

lemma AllowsJunction.exists_junctionEnds (h : s.AllowsJunction source target)
    (hmany : r.isManyToMany = true) (hsource : s.table? r.sourceTable = some source)
    (htarget : s.table? r.targetTable = some target) :
    ∃ sourceKey targetKey, s.junctionEnds r = .ok ⟨source, target, sourceKey, targetKey⟩ := by
  obtain ⟨sourceKey, hsourceKey⟩ := Option.isSome_iff_exists.mp h.sourceKey
  obtain ⟨targetKey, htargetKey⟩ := Option.isSome_iff_exists.mp h.targetKey
  refine ⟨sourceKey, targetKey, ?_⟩
  simp [junctionEnds, hmany, hsource, htarget, hsourceKey, htargetKey]

/-- A relationship that is replaced by its own choice joins tables that allow it. -/
lemma exists_of_materialize_choice (h : s.DistinctRelationships) (hr : r ∈ s.relationships)
    (hsource : s.table? r.sourceTable = some source)
    (htarget : s.table? r.targetTable = some target)
    (hok : s.materialize naming r.choice = .ok s') :
    s.AllowsJunction source target ∧
      ∃ e, s.junctionEnds r = .ok e ∧ s' = s.withJunction naming r e := by
  obtain ⟨q, e, hq, hends, hfree, hs'⟩ := materialize_eq_ok_iff.mp hok
  obtain rfl : r = q := Option.some.inj ((choose?_choice h hr).symm.trans hq)
  refine ⟨?_, e, hends, hs'⟩
  obtain ⟨-, ⟨hsource', hsourceKey⟩, htarget', htargetKey⟩ := junctionEnds_eq_ok hends
  obtain rfl : source = e.source := Option.some.inj (hsource.symm.trans hsource')
  obtain rfl : target = e.target := Option.some.inj (htarget.symm.trans htarget')
  exact ⟨Option.isSome_of_eq_some hsourceKey, Option.isSome_of_eq_some htargetKey, hfree⟩

lemma exists_materialize_choice_iff (h : s.DistinctRelationships) (hr : r ∈ s.relationships)
    (hmany : r.isManyToMany = true) (hsource : s.table? r.sourceTable = some source)
    (htarget : s.table? r.targetTable = some target) :
    (∃ s', s.materialize naming r.choice = .ok s') ↔ s.AllowsJunction source target := by
  constructor
  · rintro ⟨s', hok⟩
    exact (exists_of_materialize_choice h hr hsource htarget hok).1
  · intro hallows
    obtain ⟨_, _, hends⟩ := hallows.exists_junctionEnds hmany hsource htarget
    exact ⟨_, materialize_eq_ok_iff.mpr ⟨r, _, choose?_choice h hr, hends, hallows.free, rfl⟩⟩

/-! ### What the action does to the report -/

/-- What becomes of a schema and its report when a junction settles a finding. -/
structure SettledByJunction (s s' : Schema) (f : Finding) : Prop where
  oneLess : s'.manyToMany.length + 1 = s.manyToMany.length
  gone : ∀ g ∈ s'.analyze.findings, g.id ≠ f.id
  kept : ∀ g ∈ s.analyze.ofKind .manyToMany, g ≠ f → g ∈ s'.analyze.ofKind .manyToMany
  missingKeys_eq : s'.analyze.ofKind .noPrimaryKey = s.analyze.ofKind .noPrimaryKey

lemma addsTable_withJunction (s : Schema) (naming : Naming) (r : Relationship)
    (e : JunctionEnds) : s.AddsTable (s.withJunction naming r e) (e.junction naming r) := rfl

/-- The ids of the two links are longer than the id that they are made of. -/
lemma id_ne_of_mem_withJunction (hq : q ∈ (s.withJunction naming r e).relationships) :
    q.id ≠ r.id := by
  rcases List.mem_append.mp hq with hq | hq
  · simpa using (List.mem_filter.mp hq).2
  · intro hid
    have hlength := congrArg (·.toList.length) hid
    rcases List.mem_pair.mp hq with rfl | rfl
    all_goals
      simp [Junction.link, Junction.id] at hlength
      omega

lemma ofKind_noPrimaryKey_withJunction :
    (s.withJunction naming r e).analyze.ofKind .noPrimaryKey =
      s.analyze.ofKind .noPrimaryKey := by
  have hkeyed : (e.junction naming r).primaryKey?.isNone = false := rfl
  rw [ofKind_noPrimaryKey, ofKind_noPrimaryKey, addsTable_withJunction s naming r e,
    List.filter_append, List.filter_singleton, hkeyed]
  simp

/-- Nothing is found under the id of the finding any more, since no relationship has the id of the
replaced one. -/
lemma id_ne_of_mem_analyze_withJunction (hf : f.IsAbout .manyToMany r.id) {g : Finding}
    (hg : g ∈ (s.withJunction naming r e).analyze.findings) : g.id ≠ f.id := by
  intro hid
  have habout := isAbout_of_id_eq hg (hid.trans hf.id_eq)
  obtain ⟨q, hq, hfinding⟩ :=
    mem_ofKind_manyToMany.mp (Report.mem_ofKind.mpr ⟨hg, habout.kind_eq⟩)
  exact id_ne_of_mem_withJunction hq ((isAbout_of_manyToManyFinding? hfinding).subject_eq habout)

/-- What is found about another relationship is still found, for both of its tables are still
there. -/
lemma mem_ofKind_manyToMany_withJunction (hq : q ∈ s.relationships) (hid : q.id ≠ r.id)
    (hf : s.manyToManyFinding? q = some f) :
    f ∈ (s.withJunction naming r e).analyze.ofKind .manyToMany := by
  have hadds := addsTable_withJunction s naming r e
  obtain ⟨-, source, target, hsource, htarget, -⟩ := exists_of_manyToManyFinding? hf
  apply mem_ofKind_manyToMany.mpr
  refine ⟨q, List.mem_append_left _ (List.mem_filter.mpr ⟨hq, by simpa using hid⟩), ?_⟩
  rw [← hf]
  apply manyToManyFinding?_congr
  · rw [hsource, hadds.table?_of_eq_some hsource]
  · rw [htarget, hadds.table?_of_eq_some htarget]

lemma settledByJunction_withJunction (h : s.DistinctRelationships) (hr : r ∈ s.relationships)
    (hf : s.manyToManyFinding? r = some f) :
    s.SettledByJunction (s.withJunction naming r e) f where
  oneLess := by
    obtain ⟨hmany, -⟩ := exists_of_manyToManyFinding? hf
    obtain ⟨before, after, hbefore, hafter⟩ := exists_manyToMany h hr hmany naming e
    simp [hbefore, hafter]
    omega
  gone g hg := id_ne_of_mem_analyze_withJunction (isAbout_of_manyToManyFinding? hf) hg
  kept g hg hne := by
    obtain ⟨q, hq, hgq⟩ := mem_ofKind_manyToMany.mp hg
    apply mem_ofKind_manyToMany_withJunction hq _ hgq
    intro hid
    obtain rfl : q = r := List.inj_on_of_nodup_map h hq hr hid
    exact hne (Option.some.inj (hgq.symm.trans hf))
  missingKeys_eq := ofKind_noPrimaryKey_withJunction

/-! ### Acting again -/

/-- The id of the replaced relationship is stale, so only its ends are left to choose by. -/
lemma choose?_choice_withJunction :
    (s.withJunction naming r e).choose? r.choice =
      (s.withJunction naming r e).manyToManyBetween? r.sourceTable r.targetTable := by
  have hstale : (s.withJunction naming r e).relationship? r.id = none := by
    apply List.find?_eq_none.mpr
    intro q hq
    simpa using id_ne_of_mem_withJunction hq
  simp [choose?, Relationship.choice, hstale]

lemma ends_of_manyToManyBetween? {source target : String}
    (h : s.manyToManyBetween? source target = some q) :
    q.sourceTable = source ∧ q.targetTable = target := by
  have hq := List.find?_some h
  simp only [Bool.and_eq_true, beq_iff_eq] at hq
  exact ⟨hq.1.2, hq.2⟩

/-- Whatever is chosen instead joins the same two tables, so its junction would have the name that
the first one has. -/
lemma materialize_withJunction_ne_ok (hends : s.junctionEnds r = .ok e) (naming' : Naming) :
    (s.withJunction naming r e).materialize naming' r.choice ≠ .ok s' := by
  have hadds := addsTable_withJunction s naming r e
  obtain ⟨-, ⟨hsource, -⟩, htarget, -⟩ := junctionEnds_eq_ok hends
  intro hok
  obtain ⟨q, e', hq, hends', hfree, -⟩ := materialize_eq_ok_iff.mp hok
  rw [choose?_choice_withJunction] at hq
  obtain ⟨hqs, hqt⟩ := ends_of_manyToManyBetween? hq
  obtain ⟨-, ⟨hsource', -⟩, htarget', -⟩ := junctionEnds_eq_ok hends'
  rw [hqs, hadds.table?_of_eq_some hsource] at hsource'
  rw [hqt, hadds.table?_of_eq_some htarget] at htarget'
  apply hfree (e.junction naming r) (List.mem_append_right _ (List.mem_singleton_self _))
  rw [← Option.some.inj hsource', ← Option.some.inj htarget']
  rfl

/-! ### Acting on a finding -/

/-- Where the ids of relationships are distinct, the finding about a many-to-many relationship
suggests an action. It is applied just when both tables have a key and no table has the name of the
junction, and it is refused otherwise. When it is applied there is one many-to-many relationship
less; the report has lost the finding, but no other one about a many-to-many relationship, and the
same keys are missing. From then on it is refused, whatever its stale id falls back to. -/
theorem act_on_manyToMany (h : s.DistinctRelationships) (hf : f ∈ s.analyze.ofKind .manyToMany)
    (naming : Naming) :
    ∃ r ∈ s.manyToMany, ∃ source target action, f.IsAbout .manyToMany r.id ∧
      s.table? r.sourceTable = some source ∧ s.table? r.targetTable = some target ∧
      f.action = some action ∧
      ((∃ d, (Document.logical s).Applies naming action d) ↔ s.AllowsJunction source target) ∧
      (¬s.AllowsJunction source target → (Document.logical s).Refuses naming action) ∧
      ∀ d, (Document.logical s).Applies naming action d → ∃ s', d = .logical s' ∧
        s.SettledByJunction s' f ∧
        s'.choose? r.choice = s'.manyToManyBetween? r.sourceTable r.targetTable ∧
        ∀ naming', (Document.logical s').Refuses naming' action := by
  obtain ⟨r, hr, hfinding⟩ := mem_ofKind_manyToMany.mp hf
  obtain ⟨hmany, source, target, hsource, htarget, -⟩ := exists_of_manyToManyFinding? hfinding
  have hallows : (∃ s', s.materialize naming r.choice = .ok s') ↔ s.AllowsJunction source target :=
    exists_materialize_choice_iff h hr hmany hsource htarget
  refine ⟨r, List.mem_filter.mpr ⟨hr, hmany⟩, source, target, r.junctionAction,
    isAbout_of_manyToManyFinding? hfinding, hsource, htarget,
    action_of_manyToManyFinding? hfinding, ?_, ?_, ?_⟩
  · rw [← hallows]
    simp [applies_junctionAction_iff]
  · intro hnot
    apply refuses_junctionAction
    intro s' hok
    exact hnot (hallows.mp ⟨s', hok⟩)
  · intro d hd
    obtain ⟨s', hok, rfl⟩ := applies_junctionAction_iff.mp hd
    obtain ⟨-, e, hends, rfl⟩ := exists_of_materialize_choice h hr hsource htarget hok
    refine ⟨_, rfl, settledByJunction_withJunction h hr hfinding, choose?_choice_withJunction, ?_⟩
    intro naming'
    apply refuses_junctionAction
    intro s'
    exact materialize_withJunction_ne_ok hends naming'

/-- Two tables that are joined twice, one of which is also joined to itself and hides a third. -/
private def joinedInParallel : Schema where
  tables := [.withKey "a" "A" "id", .withKey "b" "B" "id", ⟨"a", "C", [], .zero, .zero⟩]
  relationships := [
    ⟨"r1", "a", "a-id", "b", "b-id", .manyToMany, false, false, .cascade, .cascade⟩,
    ⟨"r2", "a", "a-id", "b", "b-id", .manyToMany, true, false, .cascade, .cascade⟩,
    ⟨"r3", "a", "a-id", "a", "a-id", .manyToMany, false, false, .cascade, .cascade⟩]

theorem act_on_manyToMany_joinedInParallel :
    joinedInParallel.DistinctRelationships ∧
      ∃ f ∈ joinedInParallel.analyze.ofKind .manyToMany, ∃ action s',
        f.action = some action ∧
        (Document.logical joinedInParallel).Applies .prefixed action (.logical s') ∧
        joinedInParallel.SettledByJunction s' f ∧
        (s'.manyToManyBetween? "a" "b").map (·.id) = some "r2" ∧
        (Document.logical s').Refuses .bare action := by
  have hdistinct : joinedInParallel.DistinctRelationships := by decide
  let action := Action.createJunctionTable "r1" "a" "b"
  obtain ⟨f, hf, hsuggests⟩ :
      ∃ f ∈ joinedInParallel.analyze.ofKind .manyToMany, f.action = some action := by
    decide +kernel
  obtain ⟨_, -, _, _, suggested, -, -, -, haction, -, -, hresult⟩ :=
    act_on_manyToMany hdistinct hf .prefixed
  obtain rfl : action = suggested := Option.some.inj (hsuggests.symm.trans haction)
  have happlied : (Document.logical joinedInParallel).Applies .prefixed action
      (.logical (joinedInParallel.edit (.materialize .prefixed ⟨some "r1", some "a", some "b"⟩))) :=
    ⟨_, rfl, by decide +kernel, by decide +kernel⟩
  obtain ⟨s', hs', hsettled, -, hrefused⟩ := hresult _ happlied
  cases hs'
  exact ⟨hdistinct, f, hf, action, _, hsuggests, happlied, hsettled, by decide +kernel,
    hrefused .bare⟩

end Schema

end SchemaGraph
