import SchemaGraph.Proofs.Drawing
import SchemaGraph.Proofs.Materialization

/-!
# Drawn schemas are resolved

A drawing brings its foreign key column along, so a schema that is drawn step by step needs no
resolution in the end. This can fail only where a drawing names a column that comes later.
`drawAll_resolved` says that it never fails where each drawing names columns that its tables have at
that moment, the foreign key columns of earlier drawings included: the drawn schema is a fixed point
of resolution, and its script is the one that the first tables have with the drawn relationships.
-/

namespace SchemaGraph

namespace Schema

variable {s s' : Schema} {naming : Naming} {r : Relationship}

/-! ### Scripts of resolved schemas -/

/-- Growth brings no keys and moves no tables, so junctions stay as they are. -/
lemma Grows.synthesize (h : s.Grows s') (naming : Naming) (r : Relationship) :
    s'.synthesize naming r = s.synthesize naming r := by
  have hs := h.table? r.sourceTable
  have ht := h.table? r.targetTable
  simp only [Schema.synthesize, junctionEnds, get?_index]
  generalize s.table? r.sourceTable = source, s'.table? r.sourceTable = source' at hs ⊢
  generalize s.table? r.targetTable = target, s'.table? r.targetTable = target' at ht ⊢
  cases hs with
  | none => rfl
  | some hsource =>
    cases ht with
    | none => rfl
    | some htarget =>
      simp only [hsource.primaryKey?_eq, htarget.primaryKey?_eq]
      obtain ⟨_, -, rfl⟩ := hsource
      obtain ⟨_, -, rfl⟩ := htarget
      split
      · rfl
      · split <;> rfl

lemma addForeignKey_of_isManyToMany (h : r.isManyToMany = true) :
    s.addForeignKey naming r = s := by
  simp [addForeignKey, resolution, place, Relationship.placeIn, h]

/-- Many-to-many relationships add nothing, so only the others count. -/
lemma addForeignKeys_filter (s : Schema) (rs : List Relationship) :
    s.addForeignKeys naming (rs.filter (!·.isManyToMany)) = s.addForeignKeys naming rs := by
  induction rs generalizing s with
  | nil => rfl
  | cons r rs ih =>
    by_cases hr : r.isManyToMany = true
    · rw [List.filter_cons_of_neg (by simp [hr]), addForeignKeys_cons,
        addForeignKey_of_isManyToMany hr, ih]
    · rw [List.filter_cons_of_pos (by simp [hr]), addForeignKeys_cons, addForeignKeys_cons, ih]

lemma prepared_tables_eq_resolve (s : Schema) :
    (s.prepared naming).tables = (s.resolve naming).tables := by
  rw [prepared_tables, others, addForeignKeys_filter, resolve_eq]

lemma place_congr (h : s.tables = s'.tables) (r : Relationship) :
    s.place naming r = s'.place naming r := by
  rw [place, place, index, index, h]

/-- Where resolution comes to an end at once, the script does not show whether it has taken
place. -/
lemma script_resolve (h : (s.resolve naming).resolve naming = s.resolve naming) (d : Dialect)
    (generatedAt : String) :
    (s.resolve naming).script d naming generatedAt = s.script d naming generatedAt := by
  have htables : ((s.resolve naming).prepared naming).tables = (s.prepared naming).tables := by
    rw [prepared_tables_eq_resolve, prepared_tables_eq_resolve, h]
  have hjunctions : (s.resolve naming).junctions naming = s.junctions naming := by
    simp only [junctions, (Grows.resolve naming s).synthesize]
    rfl
  have hplacements : (s.resolve naming).placements naming = s.placements naming := by
    simp only [placements, place_congr htables]
    rfl
  rw [script, script, statements, statements, hjunctions, htables, hplacements]

/-! ### Settled schemas -/

/-- The columns of a relationship are found in its tables, if these exist. -/
def Finds (s : Schema) (r : Relationship) : Prop :=
  ∀ source target, s.table? r.sourceTable = some source → s.table? r.targetTable = some target →
    r.findsColumns source target = true

lemma Finds.grows (h : s.Finds r) (hgrows : s.Grows s') : s'.Finds r := by
  intro source' target' hs' ht'
  obtain ⟨source, hsource, hs⟩ := hgrows.exists_table? hs'
  obtain ⟨target, htarget, ht⟩ := hgrows.exists_table? ht'
  exact Relationship.findsColumns_of_grows hsource htarget (h source target hs ht)

/-- What finds its columns and can be placed after growth could be placed before. -/
lemma Finds.place_of_grows (h : s.Finds r) (hgrows : s.Grows s') {p' : Placement}
    (hp : s'.place naming r = .ok p') : ∃ p, s.place naming r = .ok p ∧ p.Grows p' := by
  obtain ⟨_, _, _, _, _, hj', -, -⟩ := Relationship.exists_joins_of_placeIn hp
  obtain ⟨source, target, -, -, hj⟩ := hgrows.exists_joins hj'
  have hfinds := h source target hj.table?_source hj.table?_target
  have hplaced := (hj.placeIn_eq naming).trans (if_pos hfinds)
  obtain ⟨q, hq, hpq⟩ := hgrows.place hplaced
  obtain rfl : p' = q := by
    rw [hp] at hq
    exact Except.ok.inj hq
  exact ⟨_, hplaced, hpq⟩

lemma resolve_eq_self_iff :
    s.resolve naming = s ↔ ∀ r ∈ s.relationships, ∀ p, s.place naming r = .ok p →
      p.holder.hasColumnNamed p.columnName = true := by
  rw [resolve_eq, addForeignKeys_eq_iff, addForeignKeys_tables_eq_iff]

/-- The relationships between tables find their columns, and their foreign keys have been added. -/
structure Settled (naming : Naming) (s : Schema) : Prop where
  finds : s.FindsColumns
  resolved : s.resolve naming = s

lemma Settled.start (naming : Naming) (tables : List Table) :
    Schema.Settled naming ⟨tables, []⟩ where
  finds := fun _ hr => absurd hr List.not_mem_nil
  resolved := resolve_eq_self_iff.mpr fun _ hr => absurd hr List.not_mem_nil

/-- A relationship that finds its columns is drawn into a settled schema without unsettling it. -/
lemma Settled.linked (h : s.Settled naming) (hr : s.Finds r) :
    (s.linked naming r).Settled naming := by
  have hgrows : s.Grows (s.linked naming r) := Grows.addForeignKey naming s r
  refine ⟨?_, resolve_eq_self_iff.mpr ?_⟩
  · intro q hq hmany
    rcases List.mem_append.mp hq with hq | hq
    · exact Finds.grows (h.finds q hq hmany) hgrows
    · obtain rfl := List.mem_singleton.mp hq
      exact hr.grows hgrows
  · intro q hq p' hp'
    rcases List.mem_append.mp hq with hq | hq
    · -- an earlier relationship had its foreign key column before the drawing
      obtain ⟨_, _, _, _, _, hj, -, -⟩ := Relationship.exists_joins_of_placeIn hp'
      have hmany := Relationship.not_isManyToMany_of_holder? hj.side_eq
      obtain ⟨p, hp, hpp'⟩ := Finds.place_of_grows (h.finds q hq hmany) hgrows hp'
      rw [hpp'.columnName_eq]
      exact hpp'.holder.hasColumnNamed (resolve_eq_self_iff.mp h.resolved q hq p hp)
    · obtain rfl := List.mem_singleton.mp hq
      obtain ⟨p, hp, -⟩ := hr.place_of_grows hgrows hp'
      obtain ⟨p'', hp'', hthere⟩ := hasColumnNamed_after_turn hp
      obtain rfl : p' = p'' := Except.ok.inj (hp'.symm.trans hp'')
      exact hthere

end Schema

/-! ### Runs of drawings -/

/-- Whether a drawing names columns of the tables that it joins. -/
def Drawing.findsColumns (s : Schema) (d : Drawing) : Bool :=
  match s.table? d.sourceTable, s.table? d.targetTable with
  | some source, some target => d.relationship.findsColumns source target
  | _, _ => true

namespace Schema

variable {s : Schema} {naming : Naming}

/-- Whether each of some drawings names columns that are there when its turn comes. -/
def drawingsFindColumns (s : Schema) : List Drawing → Bool
  | [] => true
  | d :: ds =>
    d.findsColumns s &&
      match s.draw d with
      | .ok s' => s'.drawingsFindColumns ds
      | .error _ => true

lemma finds_of_findsColumns {d : Drawing} (h : d.findsColumns s = true) :
    s.Finds d.relationship := by
  intro source target hs ht
  rw [Drawing.findsColumns] at h
  have hs' : s.table? d.sourceTable = some source := hs
  have ht' : s.table? d.targetTable = some target := ht
  rwa [hs', ht'] at h

lemma Settled.drawAll (h : s.Settled naming) {ds : List Drawing}
    (hpolicy : ∀ d ∈ ds, d.policy = naming) (hcolumns : s.drawingsFindColumns ds = true) :
    ∃ f, s.drawAll ds = .ok f ∧ f.Settled naming := by
  induction ds generalizing s with
  | nil => exact ⟨s, rfl, h⟩
  | cons d ds ih =>
    obtain ⟨rfl, hds⟩ := List.forall_mem_cons.mp hpolicy
    rw [drawingsFindColumns, draw_eq, Bool.and_eq_true] at hcolumns
    obtain ⟨hd, hrest⟩ := hcolumns
    have hcons : s.drawAll (d :: ds) = s.draw d >>= fun s' => s'.drawAll ds := List.foldlM_cons
    rw [hcons, draw_eq]
    refine ih ?_ hds hrest
    split
    · exact h.linked (finds_of_findsColumns hd)
    · exact h

end Schema

/-- A run of drawings over some tables, each of which names columns that its tables have at that
moment, ends in a schema that resolution does not change and whose script is that of the first
tables with the drawn relationships. -/
theorem drawAll_resolved (naming : Naming) (tables : List Table) (ds : List Drawing)
    (hpolicy : ∀ d ∈ ds, d.policy = naming)
    (hcolumns : Schema.drawingsFindColumns ⟨tables, []⟩ ds = true) :
    ∃ f, Schema.drawAll ⟨tables, []⟩ ds = .ok f ∧ f.resolve naming = f ∧
      ∀ d generatedAt, f.script d naming generatedAt =
        Schema.script ⟨tables, f.relationships⟩ d naming generatedAt := by
  obtain ⟨f, hf, hsettled⟩ := (Schema.Settled.start naming tables).drawAll hpolicy hcolumns
  have hresolved : f = Schema.resolve naming ⟨tables, f.relationships⟩ := by
    rw [Schema.drawAll_eq _ ds hpolicy] at hf
    obtain rfl := Except.ok.inj hf
    rw [List.nil_append, Schema.resolve, Schema.resolver_tables ⟨tables, []⟩]
  refine ⟨f, hf, hsettled.resolved, fun d generatedAt => ?_⟩
  have hfixed := hsettled.resolved
  rw [hresolved] at hfixed
  conv_lhs => rw [hresolved]
  exact Schema.script_resolve hfixed d generatedAt

/-- Three tables with a key each. -/
private def keyedTables : List Table :=
  [.withKey "a" "A" "a", .withKey "b" "B" "b", .withKey "c" "C" "c"]

/-- The second drawing starts from the column that the first adds, and the third from the one that
the second adds; the last two add none. -/
private def chainedDrawings : List Drawing :=
  let settings : Settings := ⟨.sqlite, .bare, .oneToMany, .cascade, .noAction, .info, none⟩
  [⟨settings, "f1", "a", "a-a", "b", "b-b", none, some "r1", none⟩,
    ⟨settings, "f2", "b", "fk-r1-b", "c", "c-c", none, some "r2", none⟩,
    ⟨settings, "f3", "c", "fk-r2-c", "a", "a-a", none, some "", some "bare"⟩,
    ⟨settings, "f4", "missing", "x", "a", "a-a", some .manyToOne, none, none⟩,
    ⟨settings, "f5", "a", "fk-f3-a", "b", "fk-r1-b", some .manyToMany, none, none⟩,
    ⟨settings, "f6", "b", "fk-r1-b", "a", "a-a", some .manyToOne, some "r6", some ""⟩]

theorem drawAll_resolved_chained :
    (∀ d ∈ chainedDrawings, d.policy = .bare) ∧
      Schema.drawingsFindColumns ⟨keyedTables, []⟩ chainedDrawings = true ∧
      ∃ f, Schema.drawAll ⟨keyedTables, []⟩ chainedDrawings = .ok f ∧ f.resolve .bare = f ∧
        f.script .mysql .bare "" = Schema.script ⟨keyedTables, f.relationships⟩ .mysql .bare "" ∧
        f.tables.map (fun t => t.columns.map (·.name)) = [["a", "c"], ["b", "a"], ["c", "b"]] ∧
        f.relationships.map (·.id) = ["r1", "r2", "f3", "f5", "r6"] := by
  have hpolicy : ∀ d ∈ chainedDrawings, d.policy = .bare := by decide
  have hcolumns : Schema.drawingsFindColumns ⟨keyedTables, []⟩ chainedDrawings = true := by
    decide +kernel
  have hnames : (Schema.drawAll ⟨keyedTables, []⟩ chainedDrawings).map (fun f =>
      (f.tables.map fun t => t.columns.map (·.name), f.relationships.map (·.id))) =
        .ok ([["a", "c"], ["b", "a"], ["c", "b"]], ["r1", "r2", "f3", "f5", "r6"]) := by
    decide +kernel
  obtain ⟨f, hf, hresolved, hscript⟩ := drawAll_resolved .bare keyedTables chainedDrawings hpolicy
    hcolumns
  rw [hf] at hnames
  obtain ⟨htables, hrelationships⟩ := Prod.mk.inj (Except.ok.inj hnames)
  exact ⟨hpolicy, hcolumns, f, hf, hresolved, hscript _ _, htables, hrelationships⟩

end SchemaGraph
