import SchemaGraph.Proofs.Findings
import SchemaGraph.Proofs.UniqueIds
import SchemaGraph.Sql.Script

/-!
# The letters of types

A data type is known by its name in any case of letters, so two schemas whose types differ in the
case of ASCII letters alone declare the same tables. The analysis, however, takes a column for a
text only if its type is written in capitals. `Schema.analyze_recased` says that all other checks
find the same in two such schemas. Where ids are distinct the two reports agree just when the same
columns are taken for texts of any length, which need not be so (`Schema.analyze_recased_ne`).
-/

namespace SchemaGraph

/-! ### Texts in ASCII capitals -/

/-- The text with its ASCII letters in capitals. -/
def capitalize (s : String) : String :=
  String.ofList (s.toList.map Char.toUpper)

namespace LetterCase

/-- An ASCII letter goes to the same capital whether it is small or not. -/
lemma capitals_image_toUpper (c : Char) : capitals.image c.toUpper = capitals.image c := by
  have hletters : ∀ n < 26, capitals.image (Char.ofNat (97 + n)).toUpper =
      capitals.image (Char.ofNat (97 + n)) := by
    decide +kernel
  by_cases hc : 97 ≤ c.toNat ∧ c.toNat ≤ 122
  · obtain ⟨n, hn⟩ := Nat.exists_eq_add_of_le hc.1
    have hsmall : c = Char.ofNat (97 + n) := by rw [← hn, Char.ofNat_toNat]
    rw [hsmall]
    exact hletters n (by omega)
  · have hother : c.toUpper = c := dif_neg hc
    rw [hother]

end LetterCase

lemma upperCase_capitalize (s : String) : upperCase (capitalize s) = upperCase s := by
  have himage : LetterCase.capitals.image ∘ Char.toUpper = LetterCase.capitals.image :=
    funext LetterCase.capitals_image_toUpper
  simp only [upperCase, capitalize, String.toList_ofList, List.flatMap_map]
  congr 2

/-! ### Lists in step -/

section InStep

variable {α β γ δ : Type} {items items' : List α}

/-- Two lists that are in step under two functions are so under a third one that hangs on both. -/
lemma map_eq_map_of_step {f : α → β} {g : α → γ} {h : α → δ}
    (hstep : ∀ a ∈ items, ∀ a', f a = f a' → g a = g a' → h a = h a')
    (hf : items.map f = items'.map f) (hg : items.map g = items'.map g) :
    items.map h = items'.map h := by
  induction items generalizing items' with
  | nil =>
    obtain rfl : items' = [] := by simpa using hf.symm
    rfl
  | cons a items ih =>
    cases items' with
    | nil => cases hf
    | cons a' items' =>
      rw [List.map_cons, List.map_cons, List.cons.injEq] at hf hg ⊢
      rw [List.forall_mem_cons] at hstep
      exact ⟨hstep.1 a' hf.1 hg.1, ih hstep.2 hf.2 hg.2⟩

/-- What an item leaves is missed in another list if no item of that list has its key. -/
lemma filterMap_cons_ne {f : α → Option β} {key : α → γ} {a a' : α} {b : β}
    (hkey : ∀ a a' b, f a = some b → f a' = some b → key a = key a')
    (ha : f a = some b) (ha' : f a' = none) (hnew : key a ∉ items'.map key) :
    (a :: items).filterMap f ≠ (a' :: items').filterMap f := by
  intro heq
  rw [List.filterMap_cons_some ha, List.filterMap_cons_none ha'] at heq
  have hb : b ∈ items'.filterMap f := heq ▸ List.mem_cons_self
  obtain ⟨c, hc, hcb⟩ := List.mem_filterMap.mp hb
  exact hnew (List.mem_map.mpr ⟨c, hc, hkey _ _ _ hcb ha⟩)

/-- Where only items of one key leave the same, two lists with the same distinct keys leave the same
just when they do so item by item. -/
lemma filterMap_eq_iff_map_eq {f : α → Option β} {key : α → γ}
    (hkey : ∀ a a' b, f a = some b → f a' = some b → key a = key a')
    (hkeys : items.map key = items'.map key) (hdistinct : (items.map key).Nodup) :
    items.filterMap f = items'.filterMap f ↔ items.map f = items'.map f := by
  induction items generalizing items' with
  | nil =>
    obtain rfl : items' = [] := by simpa using hkeys.symm
    exact iff_of_true rfl rfl
  | cons a items ih =>
    cases items' with
    | nil => cases hkeys
    | cons a' items' =>
      simp only [List.map_cons, List.cons.injEq] at hkeys ⊢
      rw [List.map_cons, List.nodup_cons] at hdistinct
      obtain ⟨hsame, hrest⟩ := hkeys
      have hnew : key a' ∉ items.map key := hsame ▸ hdistinct.1
      have hnew' : key a ∉ items'.map key := hrest ▸ hdistinct.1
      specialize ih hrest hdistinct.2
      cases ha : f a with
      | none =>
        cases ha' : f a' with
        | none => simp [ha, ha', ih]
        | some b => exact iff_of_false (filterMap_cons_ne hkey ha' ha hnew).symm (by simp)
      | some b =>
        cases ha' : f a' with
        | none => exact iff_of_false (filterMap_cons_ne hkey ha ha' hnew') (by simp)
        | some b' => simp [ha, ha', ih]

end InStep

/-- What is picked out of a list, seen through a function, hangs on what is picked and on what the
function shows. -/
lemma map_filter_congr {α β : Type} {p : α → Bool} {f : α → β} {items items' : List α}
    (hpicked : items.map p = items'.map p) (hshown : items.map f = items'.map f) :
    (items.filter p).map f = (items'.filter p).map f := by
  have hzip (l : List α) :
      (l.filter p).map f = (((l.map p).zip (l.map f)).filter (·.1)).map (·.2) := by
    rw [List.zip_map', List.filter_map, List.map_map]
    rfl
  rw [hzip, hzip, hpicked, hshown]

/-! ### Types in ASCII capitals -/

/-- The column with its type in ASCII capitals. -/
def Column.capitalized (c : Column) : Column :=
  { c with type := capitalize c.type }

lemma Column.define_capitalized (c : Column) (d : Dialect) :
    c.capitalized.define d = c.define d := by
  have hname : DataType.ofName? (capitalize c.type) = DataType.ofName? c.type := by
    rw [DataType.ofName?, upperCase_capitalize]
    rfl
  simp only [define, capitalized, Dialect.columnType, Dialect.mapType, hname]

namespace Table

/-- The table with the types of its columns in ASCII capitals. -/
def capitalized (t : Table) : Table :=
  t.mapColumns Column.capitalized

/-- Which of the columns are taken for texts of any length, in their order. -/
def unbounded (t : Table) : List Bool :=
  t.columns.map (·.isUnbounded)

variable {t t' : Table}

lemma create_capitalized (t : Table) (d : Dialect) : t.capitalized.create d = t.create d := by
  have hkeys : (t.columns.map Column.capitalized).filter (·.primaryKey) =
      (t.columns.filter (·.primaryKey)).map Column.capitalized := by
    rw [List.filter_map]
    rfl
  have hconstraint : t.capitalized.keyConstraint? = t.keyConstraint? := by
    simp only [keyConstraint?, capitalized, mapColumns, hkeys]
    cases t.columns.filter (·.primaryKey) with
    | nil => rfl
    | cons c cs =>
      simp only [List.map_cons, List.map_map]
      rfl
  simp only [create, hconstraint]
  simp only [capitalized, mapColumns, List.map_map, Function.comp_def, Column.define_capitalized]

lemma map_columns_of_capitalized {β : Type} {f : Column → β} (hf : ∀ c, f c.capitalized = f c)
    (h : t.capitalized = t'.capitalized) : t.columns.map f = t'.columns.map f := by
  have hforget (l : List Column) : (l.map Column.capitalized).map f = l.map f := by
    rw [List.map_map]
    exact List.map_congr_left fun c _ => hf c
  rw [← hforget t.columns, ← hforget t'.columns]
  exact congrArg (fun t => t.columns.map f) h

/-- The finding about texts of any length hangs on the columns that are taken for such texts. -/
lemma textLengthFinding?_congr (h : t.capitalized = t'.capitalized)
    (hunbounded : t.unbounded = t'.unbounded) :
    t.textLengthFinding? = t'.textLengthFinding? := by
  have hid : t.id = t'.id := congrArg (·.id) h
  have hname : t.name = t'.name := congrArg (·.name) h
  have hids : (t.columns.filter (·.isUnbounded)).map (·.id) =
      (t'.columns.filter (·.isUnbounded)).map (·.id) :=
    map_filter_congr hunbounded (map_columns_of_capitalized (fun _ => rfl) h)
  have hnames : (t.columns.filter (·.isUnbounded)).map (·.name) =
      (t'.columns.filter (·.isUnbounded)).map (·.name) :=
    map_filter_congr hunbounded (map_columns_of_capitalized (fun _ => rfl) h)
  rw [textLengthFinding?, textLengthFinding?]
  cases hcolumns : t.columns.filter (·.isUnbounded) with
  | nil =>
    rw [hcolumns, List.map_nil, eq_comm, List.map_eq_nil_iff] at hids
    rw [hids]
  | cons c cs =>
    cases hcolumns' : t'.columns.filter (·.isUnbounded) with
    | nil =>
      rw [hcolumns, hcolumns'] at hids
      cases hids
    | cons c' cs' =>
      rw [hcolumns, hcolumns'] at hids hnames
      simp only [hid, hname, hids, hnames]

/-- The columns that the finding about texts of any length names are those taken for such texts. -/
lemma map_id_filter_of_textLengthFinding? (h : t.textLengthFinding? = t'.textLengthFinding?) :
    (t.columns.filter (·.isUnbounded)).map (·.id) =
      (t'.columns.filter (·.isUnbounded)).map (·.id) := by
  rw [textLengthFinding?, textLengthFinding?] at h
  cases hcolumns : t.columns.filter (·.isUnbounded) with
  | nil =>
    cases hcolumns' : t'.columns.filter (·.isUnbounded) with
    | nil => rfl
    | cons c' cs' => simp [hcolumns, hcolumns'] at h
  | cons c cs =>
    cases hcolumns' : t'.columns.filter (·.isUnbounded) with
    | nil => simp [hcolumns, hcolumns'] at h
    | cons c' cs' =>
      simp only [hcolumns, hcolumns', Option.some.injEq, Finding.mk.injEq,
        Action.checkLength.injEq] at h
      exact h.2.2.2.2.2.2

/-- Where the ids of columns are distinct, that finding tells which columns are taken for texts of
any length. -/
lemma unbounded_eq_of_textLengthFinding? (ht : t.Distinct) (h : t.capitalized = t'.capitalized)
    (hfinding : t.textLengthFinding? = t'.textLengthFinding?) : t.unbounded = t'.unbounded := by
  have hids := map_id_filter_of_textLengthFinding? hfinding
  rw [← List.filterMap_eq_filter, List.map_filterMap, List.map_filterMap] at hids
  have hid {c : Column} {id : String}
      (h : (Option.guard (·.isUnbounded) c).map (·.id) = some id) : c.id = id := by
    obtain ⟨c', hc', rfl⟩ := Option.map_eq_some_iff.mp h
    rw [(Option.guard_eq_some_iff.mp hc').1]
  have hkey (c c' : Column) (id : String)
      (hc : (Option.guard (·.isUnbounded) c).map (·.id) = some id)
      (hc' : (Option.guard (·.isUnbounded) c').map (·.id) = some id) : c.id = c'.id :=
    (hid hc).trans (hid hc').symm
  have hkept := (filterMap_eq_iff_map_eq hkey (map_columns_of_capitalized (fun _ => rfl) h) ht).mp
    hids
  have hmark (l : List Column) : l.map (·.isUnbounded) =
      (l.map fun c => (Option.guard (·.isUnbounded) c).map (·.id)).map (·.isSome) := by
    simp [Option.isSome_guard]
  rw [unbounded, unbounded, hmark, hmark, hkept]

end Table

/-! ### Schemas with recased types -/

namespace Schema

/-- The schema with all types in ASCII capitals. -/
def capitalized (s : Schema) : Schema :=
  s.mapColumns Column.capitalized

/-- Two schemas differ in the case of the ASCII letters of types alone. -/
def Recased (s s' : Schema) : Prop :=
  s.capitalized = s'.capitalized

instance (s s' : Schema) : Decidable (s.Recased s') :=
  inferInstanceAs (Decidable (_ = _))

namespace Recased

variable {s s' : Schema}

lemma relationships_eq (h : s.Recased s') : s.relationships = s'.relationships :=
  congrArg (·.relationships) h

lemma map_tables (h : s.Recased s') {β : Type} {f : Table → β}
    (hf : ∀ t, f t.capitalized = f t) : s.tables.map f = s'.tables.map f := by
  have hforget (l : List Table) : (l.map Table.capitalized).map f = l.map f := by
    rw [List.map_map]
    exact List.map_congr_left fun t _ => hf t
  rw [← hforget s.tables, ← hforget s'.tables]
  exact congrArg (fun s => s.tables.map f) h

lemma issues_eq (h : s.Recased s') : s.analyze.issues = s'.analyze.issues := by
  have hissues (s : Schema) : s.capitalized.analyze.issues = s.analyze.issues :=
    s.issues_mapColumns (f := Column.capitalized) (fun _ => rfl) fun _ => rfl
  rw [← hissues s, ← hissues s', h]

lemma manyToManyFinding?_eq (h : s.Recased s') : s.manyToManyFinding? = s'.manyToManyFinding? := by
  have hfinding (s : Schema) : s.capitalized.manyToManyFinding? = s.manyToManyFinding? :=
    s.manyToManyFinding?_mapColumns
  rw [← hfinding s, ← hfinding s', h]

lemma indexFinding?_eq (h : s.Recased s') : s.indexFinding? = s'.indexFinding? := by
  have hfinding (s : Schema) : s.capitalized.indexFinding? = s.indexFinding? :=
    s.indexFinding?_mapColumns (f := Column.capitalized) (fun _ => rfl) (fun _ => rfl) fun _ => rfl
  rw [← hfinding s, ← hfinding s', h]

lemma ofKind_eq (h : s.Recased s') {kind : FindingKind} (hkind : kind ≠ .textLength) :
    s.analyze.ofKind kind = s'.analyze.ofKind kind := by
  simp only [Report.ofKind, Report.findings, List.filter_append, filter_kind_recommendations,
    h.issues_eq, h.relationships_eq, h.manyToManyFinding?_eq, h.indexFinding?_eq,
    if_neg hkind.symm]

lemma analyze_eq_iff (h : s.Recased s') :
    s.analyze = s'.analyze ↔
      s.tables.filterMap Table.textLengthFinding? =
        s'.tables.filterMap Table.textLengthFinding? := by
  constructor
  · intro hreport
    rw [← ofKind_textLength, ← ofKind_textLength, hreport]
  · intro htexts
    have hrecommendations : s.analyze.recommendations = s'.analyze.recommendations := by
      simp only [analyze, h.relationships_eq, h.manyToManyFinding?_eq, h.indexFinding?_eq, htexts]
    exact congrArg₂ Report.mk h.issues_eq hrecommendations

/-- The reports agree where the same columns are taken for texts of any length. -/
lemma analyze_eq (h : s.Recased s')
    (hunbounded : s.tables.map (·.unbounded) = s'.tables.map (·.unbounded)) :
    s.analyze = s'.analyze := by
  have hfindings : s.tables.map (·.textLengthFinding?) = s'.tables.map (·.textLengthFinding?) :=
    map_eq_map_of_step (fun _ _ _ => Table.textLengthFinding?_congr) (congrArg (·.tables) h)
      hunbounded
  have hleft (tables : List Table) : tables.filterMap Table.textLengthFinding? =
      (tables.map (·.textLengthFinding?)).filterMap fun found => found := by
    rw [List.filterMap_map]
    rfl
  rw [h.analyze_eq_iff, hleft, hleft, hfindings]

/-- Where the ids of tables and columns are distinct, the reports tell which columns are taken for
texts of any length. -/
lemma unbounded_eq_of_analyze_eq (h : s.Recased s') (htables : s.DistinctTables)
    (hcolumns : s.DistinctColumns) (hreport : s.analyze = s'.analyze) :
    s.tables.map (·.unbounded) = s'.tables.map (·.unbounded) := by
  have hsubject (t t' : Table) (f : Finding) (hf : t.textLengthFinding? = some f)
      (hf' : t'.textLengthFinding? = some f) : t.id = t'.id :=
    (Table.isAbout_of_textLengthFinding? hf).subject_eq (Table.isAbout_of_textLengthFinding? hf')
  have hfindings := (filterMap_eq_iff_map_eq hsubject (h.map_tables fun _ => rfl) htables).mp
    (h.analyze_eq_iff.mp hreport)
  exact map_eq_map_of_step (fun t ht _ => Table.unbounded_eq_of_textLengthFinding? (hcolumns t ht))
    (congrArg (·.tables) h) hfindings

end Recased

/-- Where two schemas differ in the case of the ASCII letters of types alone, their tables are
created alike in every dialect, and they have the same findings other than those about texts of any
length. The reports agree if the same columns are taken for such texts, and where ids are distinct
only then. -/
theorem analyze_recased {s s' : Schema} (h : s.Recased s') :
    (∀ d : Dialect, s.tables.map (·.create d) = s'.tables.map (·.create d)) ∧
      s.analyze.issues = s'.analyze.issues ∧
      (∀ kind, kind ≠ .textLength → s.analyze.ofKind kind = s'.analyze.ofKind kind) ∧
      (s.tables.map (·.unbounded) = s'.tables.map (·.unbounded) → s.analyze = s'.analyze) ∧
      (s.DistinctTables → s.DistinctColumns → s.analyze = s'.analyze →
        s.tables.map (·.unbounded) = s'.tables.map (·.unbounded)) := by
  refine ⟨?_, h.issues_eq, ?_, h.analyze_eq, h.unbounded_eq_of_analyze_eq⟩
  · intro d
    exact h.map_tables fun t => t.create_capitalized d
  · intro kind hkind
    exact h.ofKind_eq hkind

/-- A table with a key, a text, and a text whose name tells of a length. -/
private def lettered (key text sized : String) : Schema where
  tables := [
    ⟨"t", "T", [⟨"t-k", "k", key, true, false, true, false, false, none, none⟩,
      ⟨"c", "note", text, false, true, false, false, false, none, none⟩,
      ⟨"d", "SizeHint", sized, false, true, false, false, false, none, none⟩], .zero, .zero⟩]
  relationships := []

theorem analyze_recased_lettered :
    let s := lettered "LONG" "TEXT" "Text"
    let s' := lettered "long" "TEXT" "TEXT"
    s.Recased s' ∧ s.DistinctTables ∧ s.DistinctColumns ∧
      s.tables.map (·.create Dialect.access) = s'.tables.map (·.create Dialect.access) ∧
      s.analyze = s'.analyze ∧ s.analyze.findings.map (·.id) = ["rec-textlen-t"] := by
  intro s s'
  have hrecased : s.Recased s' := by decide +kernel
  have htables : s.DistinctTables := by decide
  have hcolumns : s.DistinctColumns := by decide
  obtain ⟨hcreate, -, -, hreport, -⟩ := analyze_recased hrecased
  exact ⟨hrecased, htables, hcolumns, hcreate Dialect.access, hreport (by decide +kernel),
    by decide +kernel⟩

/-- A text whose type is written in small letters is not reported, though every dialect declares the
same column as for one that is. -/
theorem analyze_recased_ne :
    let s := lettered "LONG" "text" "TEXT"
    let s' := lettered "LONG" "TEXT" "TEXT"
    s.Recased s' ∧
      (∀ d : Dialect, s.tables.map (·.create d) = s'.tables.map (·.create d)) ∧
      s.analyze.findings = [] ∧ s'.analyze.findings.map (·.id) = ["rec-textlen-t"] ∧
      s.analyze ≠ s'.analyze := by
  intro s s'
  have hrecased : s.Recased s' := by decide +kernel
  refine ⟨hrecased, ?_, ?_, ?_, ?_⟩
  · intro d
    exact hrecased.map_tables fun t => t.create_capitalized d
  · decide +kernel
  · decide +kernel
  · decide +kernel

end Schema

end SchemaGraph
