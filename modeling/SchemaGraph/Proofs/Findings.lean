import Mathlib.Data.List.Forall2
import SchemaGraph.Advice.Remedy

/-!
# Findings and their actions

A report lists what several checks have found, one after the other. A finding tells by its kind, and
by the start of its id, which check it comes from (`Finding.IsAbout`), so the findings of a check
can be picked out of the report again; `Schema.ofKind_noPrimaryKey` and `Schema.ofKind_manyToMany`
do so for two of them. The action of a finding is asked for by its name and its parameters, and it
is either applied or refused; `Document.applyRequest_action` says that the request comes to the
remedy that the action suggests.
-/

namespace SchemaGraph

/-! ### Checks -/

/-- How the ids of the findings of a kind start. -/
def FindingKind.idStart : FindingKind → String
  | .manyToMany => "rec-nm-"
  | .noPrimaryKey => "val-nopk-"
  | .duplicateColumns => "val-dupcol-"
  | .missingIndex => "rec-index-"
  | .textLength => "rec-textlen-"

/-- A finding is of a kind, and about the table or the relationship of an id. -/
structure Finding.IsAbout (f : Finding) (kind : FindingKind) (subject : String) : Prop where
  kind_eq : f.kind = kind
  id_eq : f.id = kind.idStart ++ subject

/-- An id tells the kind of its finding, and what the finding is about. -/
lemma FindingKind.idStart_append_inj {kind kind' : FindingKind} {subject subject' : String}
    (h : kind.idStart ++ subject = kind'.idStart ++ subject') :
    kind = kind' ∧ subject = subject' := by
  have hletters := congrArg String.toList h
  cases kind <;> cases kind' <;> simp [idStart] at hletters ⊢
  all_goals exact String.toList_inj.mp hletters

lemma Finding.IsAbout.subject_eq {f : Finding} {kind kind' : FindingKind}
    {subject subject' : String} (h : f.IsAbout kind subject) (h' : f.IsAbout kind' subject') :
    subject = subject' :=
  (FindingKind.idStart_append_inj (h.id_eq.symm.trans h'.id_eq)).2

namespace Table

variable {t : Table} {f : Finding}

lemma isAbout_missingKeyFinding (t : Table) : t.missingKeyFinding.IsAbout .noPrimaryKey t.id :=
  ⟨rfl, rfl⟩

lemma isAbout_of_duplicateFinding? (h : t.duplicateFinding? = some f) :
    f.IsAbout .duplicateColumns t.id := by
  rw [duplicateFinding?] at h
  split at h
  · cases h
  · cases h
    exact ⟨rfl, rfl⟩

lemma isAbout_of_textLengthFinding? (h : t.textLengthFinding? = some f) :
    f.IsAbout .textLength t.id := by
  rw [textLengthFinding?] at h
  split at h
  · cases h
  · cases h
    exact ⟨rfl, rfl⟩

end Table

namespace Schema

variable {s s' : Schema} {r : Relationship} {f : Finding}

/-- A junction is recommended for a many-to-many relationship between two tables. -/
lemma exists_of_manyToManyFinding? (h : s.manyToManyFinding? r = some f) :
    r.isManyToMany = true ∧ ∃ source target, s.table? r.sourceTable = some source ∧
      s.table? r.targetTable = some target ∧
      f.action = some (.createJunctionTable r.id source.id target.id) := by
  rw [manyToManyFinding?] at h
  split at h
  · cases h
  · next hmany =>
    split at h
    · next source target hs ht =>
      cases h
      exact ⟨by simpa using hmany, source, target, hs, ht, rfl⟩
    · cases h

lemma isAbout_of_manyToManyFinding? (h : s.manyToManyFinding? r = some f) :
    f.IsAbout .manyToMany r.id := by
  rw [manyToManyFinding?] at h
  split at h
  · cases h
  · split at h
    · cases h
      exact ⟨rfl, rfl⟩
    · cases h

lemma isAbout_of_indexFinding? (h : s.indexFinding? r = some f) : f.IsAbout .missingIndex r.id := by
  rw [indexFinding?] at h
  split at h
  · cases h
  · split at h
    · cases h
    · split at h
      · cases h
      · cases h
        exact ⟨rfl, rfl⟩

/-- What is found about a relationship and a junction hangs on the two tables that it refers to. -/
lemma manyToManyFinding?_congr (hs : s.table? r.sourceTable = s'.table? r.sourceTable)
    (ht : s.table? r.targetTable = s'.table? r.targetTable) :
    s.manyToManyFinding? r = s'.manyToManyFinding? r := by
  simp only [manyToManyFinding?, hs, ht]

/-! ### Reports -/

/-- Every finding of a report is about something. -/
lemma exists_isAbout (h : f ∈ s.analyze.findings) : ∃ subject, f.IsAbout f.kind subject := by
  have hself {kind : FindingKind} {subject : String} (habout : f.IsAbout kind subject) :
      ∃ subject, f.IsAbout f.kind subject := ⟨subject, rfl, habout.kind_eq ▸ habout.id_eq⟩
  simp only [Report.findings, analyze, List.mem_append, List.mem_map, List.mem_filterMap] at h
  rcases h with (⟨t, -, rfl⟩ | ⟨t, -, ht⟩) | (⟨r, -, hr⟩ | ⟨r, -, hr⟩) | ⟨t, -, ht⟩
  · exact hself t.isAbout_missingKeyFinding
  · exact hself (Table.isAbout_of_duplicateFinding? ht)
  · exact hself (isAbout_of_manyToManyFinding? hr)
  · exact hself (isAbout_of_indexFinding? hr)
  · exact hself (Table.isAbout_of_textLengthFinding? ht)

/-- A finding whose id is that of a finding about something is of the same kind. -/
lemma isAbout_of_id_eq (h : f ∈ s.analyze.findings) {kind : FindingKind} {subject : String}
    (hid : f.id = kind.idStart ++ subject) : f.IsAbout kind subject := by
  obtain ⟨_, habout⟩ := exists_isAbout h
  obtain ⟨hkind, -⟩ := FindingKind.idStart_append_inj (habout.id_eq.symm.trans hid)
  exact ⟨hkind, hid⟩

end Schema

/-- The findings of a kind, in their order. -/
def Report.ofKind (r : Report) (kind : FindingKind) : List Finding :=
  r.findings.filter (·.kind == kind)

lemma Report.mem_ofKind {r : Report} {kind : FindingKind} {f : Finding} :
    f ∈ r.ofKind kind ↔ f ∈ r.findings ∧ f.kind = kind := by
  simp [ofKind]

/-- A check finds things of its own kind only. -/
lemma filter_kind_filterMap {α : Type} {check : α → Option Finding} {kind : FindingKind}
    (h : ∀ a f, check a = some f → f.kind = kind) (items : List α) (other : FindingKind) :
    (items.filterMap check).filter (·.kind == other) =
      if kind = other then items.filterMap check else [] := by
  have hkind : ∀ f ∈ items.filterMap check, f.kind = kind := by
    intro f hf
    obtain ⟨a, -, ha⟩ := List.mem_filterMap.mp hf
    exact h a f ha
  split
  · next heq =>
    apply List.filter_eq_self.mpr
    intro f hf
    simp [hkind f hf, heq]
  · next hne =>
    apply List.filter_eq_nil_iff.mpr
    intro f hf
    simp [hkind f hf, hne]

lemma filter_kind_map {α : Type} {make : α → Finding} {kind : FindingKind}
    (h : ∀ a, (make a).kind = kind) (items : List α) (other : FindingKind) :
    (items.map make).filter (·.kind == other) = if kind = other then items.map make else [] := by
  rw [← List.filterMap_eq_map]
  apply filter_kind_filterMap
  rintro a f ⟨⟩
  exact h a

namespace Schema

variable {s : Schema}

/-- The recommendations of a kind, check by check. -/
lemma filter_kind_recommendations (s : Schema) (kind : FindingKind) :
    s.analyze.recommendations.filter (·.kind == kind) =
      (if .manyToMany = kind then s.relationships.filterMap s.manyToManyFinding? else []) ++
      (if .missingIndex = kind then s.relationships.filterMap s.indexFinding? else []) ++
      if .textLength = kind then s.tables.filterMap Table.textLengthFinding? else [] := by
  simp only [analyze, List.filter_append,
    filter_kind_filterMap fun _ _ h => (isAbout_of_manyToManyFinding? h).kind_eq,
    filter_kind_filterMap fun _ _ h => (isAbout_of_indexFinding? h).kind_eq,
    filter_kind_filterMap fun _ _ h => (Table.isAbout_of_textLengthFinding? h).kind_eq]

/-- The issues of a kind, check by check. -/
lemma filter_kind_issues (s : Schema) (kind : FindingKind) :
    s.analyze.issues.filter (·.kind == kind) =
      (if .noPrimaryKey = kind then
        (s.tables.filter (·.primaryKey?.isNone)).map Table.missingKeyFinding else []) ++
      if .duplicateColumns = kind then s.tables.filterMap Table.duplicateFinding? else [] := by
  simp only [analyze, List.filter_append,
    filter_kind_map fun t : Table => t.isAbout_missingKeyFinding.kind_eq,
    filter_kind_filterMap fun _ _ h => (Table.isAbout_of_duplicateFinding? h).kind_eq]

/-- The findings about missing keys come from the tables without a key. -/
lemma ofKind_noPrimaryKey (s : Schema) :
    s.analyze.ofKind .noPrimaryKey =
      (s.tables.filter (·.primaryKey?.isNone)).map Table.missingKeyFinding := by
  simp [Report.ofKind, Report.findings, filter_kind_issues, filter_kind_recommendations]

/-- The findings about junctions come from the relationships that are recommended one. -/
lemma ofKind_manyToMany (s : Schema) :
    s.analyze.ofKind .manyToMany = s.relationships.filterMap s.manyToManyFinding? := by
  simp [Report.ofKind, Report.findings, filter_kind_issues, filter_kind_recommendations]

/-- The findings about names come from the tables with doubled ones. -/
lemma ofKind_duplicateColumns (s : Schema) :
    s.analyze.ofKind .duplicateColumns = s.tables.filterMap Table.duplicateFinding? := by
  simp [Report.ofKind, Report.findings, filter_kind_issues, filter_kind_recommendations]

/-- The findings about texts come from the tables with texts of any length. -/
lemma ofKind_textLength (s : Schema) :
    s.analyze.ofKind .textLength = s.tables.filterMap Table.textLengthFinding? := by
  simp [Report.ofKind, Report.findings, filter_kind_issues, filter_kind_recommendations]

lemma mem_ofKind_noPrimaryKey {f : Finding} :
    f ∈ s.analyze.ofKind .noPrimaryKey ↔
      ∃ t ∈ s.tables, t.primaryKey? = none ∧ t.missingKeyFinding = f := by
  simp [ofKind_noPrimaryKey, and_assoc]

lemma mem_ofKind_manyToMany {f : Finding} :
    f ∈ s.analyze.ofKind .manyToMany ↔ ∃ r ∈ s.relationships, s.manyToManyFinding? r = some f := by
  rw [ofKind_manyToMany, List.mem_filterMap]

end Schema

/-! ### Changed columns -/

/-- The table with its columns changed, each on its own. -/
def Table.mapColumns (f : Column → Column) (t : Table) : Table :=
  { t with columns := t.columns.map f }

/-- The schema with the columns of all its tables changed. -/
def Schema.mapColumns (f : Column → Column) (s : Schema) : Schema :=
  { s with tables := s.tables.map (·.mapColumns f) }

section MapColumns

variable {f : Column → Column} (hid : ∀ c, (f c).id = c.id) (hname : ∀ c, (f c).name = c.name)
  (hkey : ∀ c, (f c).primaryKey = c.primaryKey) (hunique : ∀ c, (f c).unique = c.unique)

namespace Table

include hid in
lemma column?_mapColumns (t : Table) (id : String) :
    (t.mapColumns f).column? id = (t.column? id).map f := by
  have hsame : (fun c : Column => c.id == id) ∘ f = (·.id == id) := by
    funext c
    rw [Function.comp_apply, hid]
  rw [column?, mapColumns, List.find?_map, hsame]
  rfl

include hkey in
lemma primaryKey?_mapColumns (t : Table) :
    (t.mapColumns f).primaryKey? = t.primaryKey?.map f := by
  have hsame : (·.primaryKey) ∘ f = (·.primaryKey) := funext hkey
  rw [primaryKey?, mapColumns, List.find?_map, hsame]
  rfl

include hname in
lemma duplicateFinding?_mapColumns (t : Table) :
    (t.mapColumns f).duplicateFinding? = t.duplicateFinding? := by
  have hnames : (t.mapColumns f).duplicateNames = t.duplicateNames := by
    rw [duplicateNames, duplicateNames, mapColumns, List.map_map]
    congr 2
    funext c
    rw [Function.comp_apply, hname]
  rw [duplicateFinding?, hnames]
  rfl

end Table

namespace Schema

lemma table?_mapColumns (s : Schema) (id : String) :
    (s.mapColumns f).table? id = (s.table? id).map (·.mapColumns f) := by
  rw [table?, mapColumns, List.find?_map]
  rfl

include hname in
lemma duplicateFindings_mapColumns (s : Schema) :
    (s.mapColumns f).tables.filterMap Table.duplicateFinding? =
      s.tables.filterMap Table.duplicateFinding? := by
  rw [mapColumns, List.filterMap_map]
  exact List.filterMap_congr fun t _ => t.duplicateFinding?_mapColumns hname

lemma manyToManyFinding?_mapColumns (s : Schema) :
    (s.mapColumns f).manyToManyFinding? = s.manyToManyFinding? := by
  funext r
  simp only [manyToManyFinding?, table?_mapColumns]
  cases s.table? r.sourceTable with
  | none => rfl
  | some source =>
    cases s.table? r.targetTable with
    | none => rfl
    | some target => rfl

include hid hname hunique in
lemma indexFinding?_mapColumns (s : Schema) :
    (s.mapColumns f).indexFinding? = s.indexFinding? := by
  funext r
  simp only [indexFinding?, table?_mapColumns]
  cases s.table? r.sourceTable with
  | none => rfl
  | some source =>
    simp only [Option.map_some, Table.column?_mapColumns hid]
    cases source.column? r.sourceColumn with
    | none => rfl
    | some column =>
      simp only [Option.map_some, hid, hname, hunique]
      rfl

include hname hkey in
/-- The issues hang on the names of columns, and on which of them are keys. -/
lemma issues_mapColumns (s : Schema) : (s.mapColumns f).analyze.issues = s.analyze.issues := by
  have hkeyless : (s.mapColumns f).tables.filter (·.primaryKey?.isNone) =
      (s.tables.filter (·.primaryKey?.isNone)).map (·.mapColumns f) := by
    rw [mapColumns, List.filter_map]
    congr 2
    funext t
    simp [t.primaryKey?_mapColumns hkey]
  simp only [analyze, hkeyless, s.duplicateFindings_mapColumns hname, List.map_map]
  rfl

end Schema

end MapColumns

/-! ### Lists in step -/

/-- Two lists that are made from the same items, with items left out, agree item by item. -/
lemma forall₂_filterMap {α β γ : Type} {R : β → γ → Prop} {f : α → Option β} {g : α → Option γ}
    {items : List α} (h : ∀ a ∈ items, Option.Rel R (f a) (g a)) :
    List.Forall₂ R (items.filterMap f) (items.filterMap g) := by
  have hsame : List.Forall₂ (fun a b => a = b ∧ a ∈ items) items items :=
    List.forall₂_same.mpr fun a ha => ⟨rfl, ha⟩
  refine List.rel_filterMap (R := fun a b => a = b ∧ a ∈ items) ?_ hsame
  rintro a b ⟨rfl, ha⟩
  exact h a ha

lemma forall₂_map_map {α β γ : Type} {R : β → γ → Prop} {f : α → β} {g : α → γ} {items : List α}
    (h : ∀ a ∈ items, R (f a) (g a)) : List.Forall₂ R (items.map f) (items.map g) := by
  rw [List.forall₂_map_left_iff, List.forall₂_map_right_iff]
  exact List.forall₂_same.mpr h

/-- Where a check finds something in the second of two items whenever another one finds something in
the first, the second check does not find less. -/
lemma length_filterMap_le_of_forall₂ {α β γ : Type} {f : α → Option γ} {g : β → Option γ}
    {items : List α} {items' : List β}
    (h : List.Forall₂ (fun a b => g b = none → f a = none) items items') :
    (items.filterMap f).length ≤ (items'.filterMap g).length := by
  induction h with
  | nil => exact Nat.le_refl 0
  | @cons a b items items' hab _ ih =>
    cases hg : g b with
    | none =>
      rw [List.filterMap_cons_none hg, List.filterMap_cons_none (hab hg)]
      exact ih
    | some c =>
      rw [List.filterMap_cons_some hg, List.length_cons]
      cases hf : f a with
      | none =>
        rw [List.filterMap_cons_none hf]
        exact Nat.le_succ_of_le ih
      | some d =>
        rw [List.filterMap_cons_some hf, List.length_cons]
        exact Nat.succ_le_succ ih

/-- Then they find the same altogether just when they find the same item by item. -/
lemma filterMap_eq_iff_forall₂ {α β γ : Type} {f : α → Option γ} {g : β → Option γ}
    {items : List α} {items' : List β}
    (h : List.Forall₂ (fun a b => g b = none → f a = none) items items') :
    items.filterMap f = items'.filterMap g ↔ List.Forall₂ (fun a b => f a = g b) items items' := by
  induction h with
  | nil => simp
  | @cons a b items items' hab hrest ih =>
    rw [List.forall₂_cons, ← ih]
    cases hg : g b with
    | none =>
      rw [List.filterMap_cons_none hg, List.filterMap_cons_none (hab hg)]
      exact (and_iff_right (hab hg)).symm
    | some c =>
      rw [List.filterMap_cons_some hg]
      cases hf : f a with
      | none =>
        have hle := length_filterMap_le_of_forall₂ hrest
        rw [List.filterMap_cons_none hf]
        refine iff_of_false (fun heq => ?_) (fun hboth => by cases hboth.1)
        rw [heq, List.length_cons] at hle
        omega
      | some d =>
        rw [List.filterMap_cons_some hf, List.cons.injEq, Option.some.injEq]

/-! ### Actions -/

/-- An action is asked for by its own name and parameters. -/
lemma Remedy.ofRequest?_action (a : Action) : ofRequest? a.kind a.params = some a.remedy := by
  cases a <;> simp [ofRequest?, Action.kind, Action.params, Action.remedy, Members.get?_cons]

namespace Document

/-- An action is applied to a schema, and leads to another one. -/
def Applies (d : Document) (naming : Naming) (a : Action) (d' : Document) : Prop :=
  ∃ outcome, d.applyRequest naming a.kind a.params = .ok outcome ∧ outcome.applied = true ∧
    outcome.result d = d'

/-- An action is refused, and the schema stays as it is. -/
def Refuses (d : Document) (naming : Naming) (a : Action) : Prop :=
  ∃ outcome, d.applyRequest naming a.kind a.params = .ok outcome ∧ outcome.applied = false ∧
    outcome.result d = d

variable {d d' d'' : Document} {naming : Naming} {a : Action} {message : String}

lemma applyRequest_action (d : Document) (naming : Naming) (a : Action) :
    d.applyRequest naming a.kind a.params = d.apply naming a.remedy := by
  rw [applyRequest, Remedy.ofRequest?_action]

lemma applies_iff_of_changed (h : d.apply naming a.remedy = .ok (.changed d' message)) :
    d.Applies naming a d'' ↔ d' = d'' := by
  simp [Applies, applyRequest_action, h, Outcome.applied, Outcome.result]

lemma refuses_of_unchanged (h : d.apply naming a.remedy = .ok (.unchanged message)) :
    d.Refuses naming a := by
  simp [Refuses, applyRequest_action, h, Outcome.applied, Outcome.result]

/-- What is refused is not applied. -/
lemma Refuses.not_applies (h : d.Refuses naming a) : ¬d.Applies naming a d' := by
  obtain ⟨outcome, houtcome, hrefused, -⟩ := h
  rintro ⟨outcome', houtcome', happlied, -⟩
  obtain rfl : outcome = outcome' := Except.ok.inj (houtcome.symm.trans houtcome')
  rw [hrefused] at happlied
  cases happlied

end Document

end SchemaGraph
