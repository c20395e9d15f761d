import SchemaGraph.Proofs.Findings
import SchemaGraph.Proofs.UniqueIds

/-!
# Acting on the finding of a missing key

A table without a key is reported, and the action of its finding makes a key of its first column.
`Schema.act_on_noPrimaryKey` says when the action is applied and what it does: the first column
becomes the only key, nothing else changes but the flags that go with it, and the report loses this
one finding. The other checks look at none of these flags, so they find the same in a schema whose
flags have been cleared (`Schema.withoutFlags`), and the action changes nothing in that one.
-/

namespace SchemaGraph

/-! ### Cleared flags -/

/-- The column with the flags cleared that go with being a key. -/
def Column.withoutFlags (c : Column) : Column :=
  { c with primaryKey := false, nullable := false, autoIncrement := false }

/-- The table with the flags of its columns cleared. -/
def Table.withoutFlags (t : Table) : Table :=
  { t with columns := t.columns.map Column.withoutFlags }

/-- The schema with the flags of all its columns cleared. -/
def Schema.withoutFlags (s : Schema) : Schema :=
  { s with tables := s.tables.map Table.withoutFlags }

lemma Table.textLengthFinding?_withoutFlags (t : Table) :
    t.withoutFlags.textLengthFinding? = t.textLengthFinding? := by
  have hunbounded : t.withoutFlags.columns.filter (·.isUnbounded) =
      (t.columns.filter (·.isUnbounded)).map Column.withoutFlags := by
    rw [withoutFlags, List.filter_map]
    rfl
  rw [textLengthFinding?, textLengthFinding?, hunbounded]
  cases t.columns.filter (·.isUnbounded) with
  | nil => rfl
  | cons c cs =>
    simp only [List.map_cons, List.map_map]
    rfl

namespace Schema

/-- What is recommended for a schema hangs on none of the flags. -/
lemma recommendations_withoutFlags (s : Schema) :
    s.withoutFlags.analyze.recommendations = s.analyze.recommendations := by
  have htexts : s.withoutFlags.tables.filterMap Table.textLengthFinding? =
      s.tables.filterMap Table.textLengthFinding? := by
    rw [withoutFlags, List.filterMap_map]
    exact List.filterMap_congr fun t _ => t.textLengthFinding?_withoutFlags
  have hjunctions : s.withoutFlags.manyToManyFinding? = s.manyToManyFinding? :=
    s.manyToManyFinding?_mapColumns
  have hindexes : s.withoutFlags.indexFinding? = s.indexFinding? :=
    s.indexFinding?_mapColumns (f := Column.withoutFlags) (fun _ => rfl) (fun _ => rfl) fun _ => rfl
  simp only [analyze, htexts, hjunctions, hindexes]
  rfl

lemma duplicateFindings_withoutFlags (s : Schema) :
    s.withoutFlags.tables.filterMap Table.duplicateFinding? =
      s.tables.filterMap Table.duplicateFinding? :=
  s.duplicateFindings_mapColumns (f := Column.withoutFlags) fun _ => rfl

end Schema

/-! ### A key for a table -/

lemma map_withoutFlags_keyOnFirst (columns : List Column) :
    (keyOnFirst columns).map Column.withoutFlags = columns.map Column.withoutFlags := by
  cases columns with
  | nil => rfl
  | cons first rest =>
    rw [keyOnFirst, List.map_cons, List.map_map]
    rfl

/-- A table has got a key: its first column is the only one, and the columns differ from those that
it had in the flags alone that go with being a key. -/
structure Table.GetsKey (t t' : Table) : Prop where
  sameTable : t' = { t with columns := t'.columns }
  onlyFirst : ∃ first rest, t'.columns = first :: rest ∧ first.primaryKey = true ∧
    ∀ c ∈ rest, c.primaryKey = false
  sameColumns : t'.columns.map Column.withoutFlags = t.columns.map Column.withoutFlags

namespace Table

/-- The table with its first column as only key. -/
def keyed (t : Table) : Table :=
  { t with columns := keyOnFirst t.columns }

variable {t t' : Table}

lemma getsKey_keyed (h : t.columns ≠ []) : t.GetsKey t.keyed where
  sameTable := rfl
  onlyFirst := by
    obtain ⟨first, rest, hcolumns⟩ := List.exists_cons_of_ne_nil h
    refine ⟨_, _, congrArg keyOnFirst hcolumns, rfl, ?_⟩
    intro c hc
    obtain ⟨_, -, rfl⟩ := List.mem_map.mp hc
    rfl
  sameColumns := map_withoutFlags_keyOnFirst t.columns

lemma GetsKey.primaryKey?_isNone (h : t.GetsKey t') : t'.primaryKey?.isNone = false := by
  obtain ⟨first, rest, hcolumns, hfirst, -⟩ := h.onlyFirst
  rw [primaryKey?, hcolumns, List.find?_cons_of_pos hfirst]
  rfl

end Table

namespace Schema

variable {s s' : Schema} {t t' : Table} {front back : List Table} {f : Finding} {d : Document}
  {naming : Naming}

lemma withoutFlags_addPrimaryKey (s : Schema) (table : String) :
    (s.addPrimaryKey table).withoutFlags = s.withoutFlags := by
  rw [withoutFlags, addPrimaryKey, List.map_map, withoutFlags]
  congr 1
  apply List.map_congr_left
  intro t _
  rw [Function.comp_apply]
  split
  · rw [Table.withoutFlags, map_withoutFlags_keyOnFirst]
    rfl
  · rfl

lemma addPrimaryKey_tables (h : s.DistinctTables) (ht : s.tables = front ++ t :: back) :
    (s.addPrimaryKey t.id).tables = front ++ t.keyed :: back := by
  obtain ⟨hfront, hback⟩ := ne_of_nodup_map h ht
  have hothers {ts : List Table} (hts : ∀ u ∈ ts, u.id ≠ t.id) :
      ts.map (fun u => if u.id = t.id then { u with columns := keyOnFirst u.columns } else u) =
        ts :=
    (List.map_congr_left fun u hu => if_neg (hts u hu)).trans (List.map_id ts)
  rw [addPrimaryKey, ht, List.map_append, List.map_cons, hothers hfront, hothers hback, if_pos rfl]
  rfl

/-! ### What the action does to the report -/

/-- What is recommended stays, for the action changes none but the cleared flags. -/
lemma recommendations_addPrimaryKey (s : Schema) (table : String) :
    (s.addPrimaryKey table).analyze.recommendations = s.analyze.recommendations := by
  rw [← recommendations_withoutFlags, withoutFlags_addPrimaryKey, recommendations_withoutFlags]

lemma duplicateFindings_addPrimaryKey (s : Schema) (table : String) :
    (s.addPrimaryKey table).tables.filterMap Table.duplicateFinding? =
      s.tables.filterMap Table.duplicateFinding? := by
  rw [← duplicateFindings_withoutFlags, withoutFlags_addPrimaryKey, duplicateFindings_withoutFlags]

lemma not_mem_issues_addPrimaryKey (h : s.DistinctTables) (ht : s.tables = front ++ t :: back)
    (hcolumns : t.columns ≠ []) :
    t.missingKeyFinding ∉ (s.addPrimaryKey t.id).analyze.issues := by
  obtain ⟨hfront, hback⟩ := ne_of_nodup_map h ht
  intro hmem
  have hkind : t.missingKeyFinding ∈ (s.addPrimaryKey t.id).analyze.ofKind .noPrimaryKey :=
    Report.mem_ofKind.mpr ⟨List.mem_append_left _ hmem, rfl⟩
  obtain ⟨u, hu, hnone, hsame⟩ := mem_ofKind_noPrimaryKey.mp hkind
  have hid : u.id = t.id :=
    (hsame ▸ u.isAbout_missingKeyFinding).subject_eq t.isAbout_missingKeyFinding
  rw [addPrimaryKey_tables h ht] at hu
  rcases List.mem_append.mp hu with hu | hu
  · exact hfront u hu hid
  · rcases List.mem_cons.mp hu with rfl | hu
    · have hkeyed := (Table.getsKey_keyed hcolumns).primaryKey?_isNone
      rw [hnone] at hkeyed
      cases hkeyed
    · exact hback u hu hid

/-- The issues lose the one about the table, and the others stay in their order. -/
lemma exists_issues_addPrimaryKey (h : s.DistinctTables) (ht : s.tables = front ++ t :: back)
    (hnone : t.primaryKey? = none) (hcolumns : t.columns ≠ []) :
    ∃ before after, s.analyze.issues = before ++ t.missingKeyFinding :: after ∧
      (s.addPrimaryKey t.id).analyze.issues = before ++ after := by
  have hkeyed := (Table.getsKey_keyed hcolumns).primaryKey?_isNone
  refine ⟨(front.filter (·.primaryKey?.isNone)).map Table.missingKeyFinding,
    (back.filter (·.primaryKey?.isNone)).map Table.missingKeyFinding ++
      s.tables.filterMap Table.duplicateFinding?, ?_, ?_⟩
  · rw [analyze, ht, List.filter_append, List.filter_cons_of_pos (by simp [hnone]),
      List.map_append, List.map_cons, List.append_assoc, List.cons_append]
  · rw [← duplicateFindings_addPrimaryKey s t.id, analyze, addPrimaryKey_tables h ht,
      List.filter_append, List.filter_cons_of_neg (by simp [hkeyed]), List.map_append,
      List.append_assoc]

/-- What becomes of a schema and its report when the finding of a table without a key is settled. -/
structure SettledByKey (s s' : Schema) (t : Table) (f : Finding) : Prop where
  oneTable : ∃ front t' back, s.tables = front ++ t :: back ∧ s'.tables = front ++ t' :: back ∧
    t.GetsKey t'
  relationships_eq : s'.relationships = s.relationships
  oneIssue : ∃ before after, s.analyze.issues = before ++ f :: after ∧
    s'.analyze.issues = before ++ after
  gone : f ∉ s'.analyze.issues
  recommendations_eq : s'.analyze.recommendations = s.analyze.recommendations

lemma settledByKey_addPrimaryKey (h : s.DistinctTables) (ht : t ∈ s.tables)
    (hnone : t.primaryKey? = none) (hcolumns : t.columns ≠ []) :
    s.SettledByKey (s.addPrimaryKey t.id) t t.missingKeyFinding := by
  obtain ⟨front, back, htables⟩ := List.append_of_mem ht
  constructor
  · exact ⟨front, t.keyed, back, htables, addPrimaryKey_tables h htables,
      Table.getsKey_keyed hcolumns⟩
  · rfl
  · exact exists_issues_addPrimaryKey h htables hnone hcolumns
  · exact not_mem_issues_addPrimaryKey h htables hcolumns
  · exact recommendations_addPrimaryKey s t.id

/-! ### Acting on a finding -/

lemma apply_addPrimaryKey (s : Schema) (naming : Naming) (table : String) :
    (Document.logical s).apply naming (Action.addPrimaryKey table).remedy =
      .ok (s.keyOutcome (some table)) := rfl

lemma refuses_addPrimaryKey (ht : s.table? t.id = some t) (hcolumns : t.columns = []) :
    (Document.logical s).Refuses naming (.addPrimaryKey t.id) := by
  have hunchanged : s.keyOutcome (some t.id) =
      .unchanged ("Table \"" ++ t.name ++ "\" has no columns") := by
    simp [keyOutcome, ht, hcolumns]
  apply Document.refuses_of_unchanged
  rw [apply_addPrimaryKey, hunchanged]

lemma applies_addPrimaryKey_iff (ht : s.table? t.id = some t) :
    (Document.logical s).Applies naming (.addPrimaryKey t.id) d ↔
      t.columns ≠ [] ∧ Document.logical (s.addPrimaryKey t.id) = d := by
  by_cases hcolumns : t.columns = []
  · have hrefused : (Document.logical s).Refuses naming (.addPrimaryKey t.id) :=
      refuses_addPrimaryKey ht hcolumns
    simpa [hcolumns] using hrefused.not_applies
  · have hchanged : s.keyOutcome (some t.id) = .changed (.logical (s.addPrimaryKey t.id))
        ("Added primary key to table \"" ++ t.name ++ "\"") := by
      simp [keyOutcome, ht, hcolumns]
    have happly := apply_addPrimaryKey s naming t.id
    rw [hchanged] at happly
    rw [Document.applies_iff_of_changed happly]
    exact (and_iff_right hcolumns).symm

/-- Where the ids of tables are distinct, the finding of a table without a key suggests an action.
It is applied just when the table has columns, and it is refused otherwise. When it is applied the
first column is the only key, and no column differs in more than the flags that go with that; all
other tables and the relationships stay; and the report has lost the finding and nothing else. -/
theorem act_on_noPrimaryKey (h : s.DistinctTables) (hf : f ∈ s.analyze.ofKind .noPrimaryKey)
    (naming : Naming) :
    ∃ t ∈ s.tables, ∃ action, f.IsAbout .noPrimaryKey t.id ∧ t.primaryKey? = none ∧
      f.action = some action ∧
      ((∃ d, (Document.logical s).Applies naming action d) ↔ t.columns ≠ []) ∧
      (t.columns = [] → (Document.logical s).Refuses naming action) ∧
      ∀ d, (Document.logical s).Applies naming action d →
        ∃ s', d = .logical s' ∧ s.SettledByKey s' t f := by
  obtain ⟨t, ht, hnone, rfl⟩ := mem_ofKind_noPrimaryKey.mp hf
  have hfound : s.table? t.id = some t := find?_of_nodup_map h ht
  refine ⟨t, ht, .addPrimaryKey t.id, t.isAbout_missingKeyFinding, hnone, rfl, ?_, ?_, ?_⟩
  · simp [applies_addPrimaryKey_iff hfound]
  · exact refuses_addPrimaryKey hfound
  · intro d hd
    obtain ⟨hcolumns, rfl⟩ := (applies_addPrimaryKey_iff hfound).mp hd
    exact ⟨_, rfl, settledByKey_addPrimaryKey h ht hnone hcolumns⟩

/-- A table without a key, with two columns of one name. -/
private def notes : Table where
  id := "a"
  name := "A"
  columns := [⟨"c1", "note", "TEXT", false, true, false, false, true, some "B", some "b"⟩,
    ⟨"c2", "NOTE", "TEXT", false, false, true, false, false, none, none⟩]
  x := .zero
  y := .zero

/-- A table without columns. -/
private def blank : Table :=
  ⟨"b", "B", [], .zero, .zero⟩

/-- Two tables without a key; the first one is joined to the second and to itself. -/
private def keyless : Schema where
  tables := [notes, blank]
  relationships := [
    ⟨"r1", "a", "c1", "b", "gone", .manyToMany, false, false, .cascade, .cascade⟩,
    ⟨"r2", "a", "c1", "a", "c2", .oneToOne, true, false, .cascade, .cascade⟩]

theorem act_on_noPrimaryKey_keyless :
    keyless.DistinctTables ∧
      notes.missingKeyFinding ∈ keyless.analyze.ofKind .noPrimaryKey ∧
      blank.missingKeyFinding ∈ keyless.analyze.ofKind .noPrimaryKey ∧
      (∃ t s', (Document.logical keyless).Applies .prefixed (.addPrimaryKey "a") (.logical s') ∧
        keyless.SettledByKey s' t notes.missingKeyFinding ∧
        s'.analyze.issues.length = 2 ∧ s'.analyze.recommendations.length = 4) ∧
      (Document.logical keyless).Refuses .prefixed (.addPrimaryKey "b") := by
  have hdistinct : keyless.DistinctTables := by decide
  have hreported : ∀ t ∈ keyless.tables,
      t.missingKeyFinding ∈ keyless.analyze.ofKind .noPrimaryKey := by
    decide +kernel
  have hnotes := hreported notes (by decide)
  have hblank := hreported blank (by decide)
  refine ⟨hdistinct, hnotes, hblank, ?_, ?_⟩
  · obtain ⟨t, -, action, -, -, haction, -, -, hresult⟩ :=
      act_on_noPrimaryKey hdistinct hnotes .prefixed
    cases haction
    have happlied : (Document.logical keyless).Applies .prefixed (.addPrimaryKey "a")
        (.logical (keyless.addPrimaryKey "a")) :=
      ⟨_, rfl, by decide +kernel, by decide +kernel⟩
    obtain ⟨s', hs', hsettled⟩ := hresult _ happlied
    cases hs'
    exact ⟨t, _, happlied, hsettled, by decide +kernel, by decide +kernel⟩
  · obtain ⟨t, ht, action, habout, -, haction, -, hrefused, -⟩ :=
      act_on_noPrimaryKey hdistinct hblank .prefixed
    cases haction
    have hid : t.id = "b" := habout.subject_eq blank.isAbout_missingKeyFinding
    have hempty : ∀ t ∈ keyless.tables, t.id = "b" → t.columns = [] := by decide
    exact hrefused (hempty t ht hid)

end Schema

end SchemaGraph
