import Mathlib.Data.List.Forall2
import SchemaGraph.Proofs.Resolver

/-!
# Tables only grow

Foreign keys are columns at the end of tables, and no keys. So while a schema is resolved its tables
grow: nothing that was found in them is lost, and their keys stay. `Schema.Grows.place` says that a
relationship that could be placed can still be placed, in the same way, and
`Schema.Grows.place_or_missingColumn` that growth lets a relationship be placed only by bringing a
column that it names.
-/

namespace SchemaGraph

/-! ### Tables -/

/-- A table has grown into another: columns that are no keys have been added at its end. -/
def Table.Grows (t t' : Table) : Prop :=
  ∃ added : List Column, (∀ c ∈ added, c.primaryKey = false) ∧
    t' = { t with columns := t.columns ++ added }

namespace Table.Grows

variable {t t' t'' : Table}

lemma refl (t : Table) : t.Grows t :=
  ⟨[], by simp, by simp⟩

lemma trans (h : t.Grows t') (h' : t'.Grows t'') : t.Grows t'' := by
  obtain ⟨added, hkeys, rfl⟩ := h
  obtain ⟨more, hmore, rfl⟩ := h'
  refine ⟨added ++ more, ?_, by simp⟩
  intro c hc
  rcases List.mem_append.mp hc with hc | hc
  · exact hkeys c hc
  · exact hmore c hc

lemma append (t : Table) {c : Column} (h : c.primaryKey = false) : t.Grows (t.append c) :=
  ⟨[c], by simpa using h, rfl⟩

lemma antisymm (h : t.Grows t') (h' : t'.Grows t) : t = t' := by
  obtain ⟨added, -, rfl⟩ := h
  obtain ⟨more, -, hback⟩ := h'
  have hlength := congrArg (fun u : Table => u.columns.length) hback
  simp only [List.length_append] at hlength
  obtain rfl : added = [] := List.eq_nil_of_length_eq_zero (by omega)
  simp

lemma id_eq (h : t.Grows t') : t'.id = t.id := by
  obtain ⟨_, -, rfl⟩ := h
  rfl

lemma name_eq (h : t.Grows t') : t'.name = t.name := by
  obtain ⟨_, -, rfl⟩ := h
  rfl

lemma primaryKey?_eq (h : t.Grows t') : t'.primaryKey? = t.primaryKey? := by
  obtain ⟨added, hkeys, rfl⟩ := h
  have hnone : added.find? (·.primaryKey) = none := by
    simpa [List.find?_eq_none] using hkeys
  simp [primaryKey?, List.find?_append, hnone]

lemma column?_isSome (h : t.Grows t') {id : String} (hid : (t.column? id).isSome) :
    (t'.column? id).isSome := by
  obtain ⟨added, -, rfl⟩ := h
  simp only [column?, List.find?_append] at hid ⊢
  simp [hid]

lemma hasColumnNamed (h : t.Grows t') {name : String} (hname : t.hasColumnNamed name = true) :
    t'.hasColumnNamed name = true := by
  obtain ⟨added, -, rfl⟩ := h
  simp only [Table.hasColumnNamed, List.any_append] at hname ⊢
  simp [hname]

end Table.Grows

/-! ### Schemas -/

/-- A schema has grown into another: each of its tables has. -/
def Schema.Grows (s s' : Schema) : Prop :=
  List.Forall₂ Table.Grows s.tables s'.tables

namespace Schema.Grows

variable {s s' s'' : Schema} {naming : Naming} {r : Relationship}

lemma refl (s : Schema) : s.Grows s :=
  List.forall₂_same.mpr fun t _ => .refl t

lemma trans (h : s.Grows s') (h' : s'.Grows s'') : s.Grows s'' := by
  rw [Grows] at h h' ⊢
  generalize s.tables = ts, s'.tables = ts', s''.tables = ts'' at h h' ⊢
  induction h generalizing ts'' with
  | nil => exact h'
  | cons ht _ ih =>
    cases h' with
    | cons ht' hts' => exact .cons (ht.trans ht') (ih _ hts')

lemma antisymm (h : s.Grows s') (h' : s'.Grows s) : s.tables = s'.tables := by
  rw [Grows] at h h'
  generalize s.tables = ts, s'.tables = ts' at h h' ⊢
  induction h with
  | nil => rfl
  | cons ht _ ih =>
    cases h' with
    | cons ht' hts' => rw [ht.antisymm ht', ih hts']

/-- What growth leaves alone in each table is the same in the list of them. -/
lemma map_tables {α : Type} {f : Table → α} (h : s.Grows s')
    (hf : ∀ {t t' : Table}, t.Grows t' → f t' = f t) : s'.tables.map f = s.tables.map f := by
  rw [Grows] at h
  generalize s.tables = ts, s'.tables = ts' at h ⊢
  induction h with
  | nil => rfl
  | cons ht _ ih => rw [List.map_cons, List.map_cons, hf ht, ih]

/-- The tables that an id finds in a schema and in what it has grown into. -/
lemma table? (h : s.Grows s') (id : String) :
    Option.Rel Table.Grows (s.table? id) (s'.table? id) := by
  rw [Grows] at h
  simp only [Schema.table?]
  generalize s.tables = ts, s'.tables = ts' at h ⊢
  induction h with
  | nil => exact .none
  | @cons t t' ts ts' ht _ ih =>
    rw [List.find?_cons, List.find?_cons, ht.id_eq]
    cases t.id == id with
    | true => exact .some ht
    | false => exact ih

lemma table?_of_eq_some (h : s.Grows s') {id : String} {t : Table} (ht : s.table? id = some t) :
    ∃ t', t.Grows t' ∧ s'.table? id = some t' := by
  have hrel := h.table? id
  rw [ht] at hrel
  generalize s'.table? id = found at hrel ⊢
  cases hrel with
  | some hgrows => exact ⟨_, hgrows, rfl⟩

lemma exists_table? (h : s.Grows s') {id : String} {t' : Table} (ht : s'.table? id = some t') :
    ∃ t, t.Grows t' ∧ s.table? id = some t := by
  have hrel := h.table? id
  rw [ht] at hrel
  generalize s.table? id = found at hrel ⊢
  cases hrel with
  | some hgrows => exact ⟨_, hgrows, rfl⟩

lemma modifyTable {id : String} {t : Table} {f : Table → Table} (hid : s.table? id = some t)
    (h : t.Grows (f t)) : s.Grows (s.modifyTable id f) := by
  rw [Grows]
  rw [modifyTable_tables f hid]
  rw [Schema.table?] at hid
  generalize s.tables = ts at hid ⊢
  induction ts with
  | nil => exact .nil
  | cons u us ih =>
    by_cases hu : u.id = id
    · have ht : u = t := by simpa [List.find?_cons, hu] using hid
      subst ht
      rw [List.findIdx_cons, beq_iff_eq.mpr hu]
      exact .cons h (List.forall₂_same.mpr fun v _ => .refl v)
    · rw [List.find?_cons, beq_eq_false_iff_ne.mpr hu] at hid
      rw [List.findIdx_cons, beq_eq_false_iff_ne.mpr hu]
      exact .cons (.refl u) (ih hid)

lemma addForeignKey (naming : Naming) (s : Schema) (r : Relationship) :
    s.Grows (s.addForeignKey naming r) := by
  obtain ⟨h, -⟩ | ⟨p, hp, -, h⟩ := addForeignKey_cases naming s r
  · rw [h]
    exact .refl s
  · rw [h]
    exact .modifyTable (table?_holder hp) (.append _ rfl)

lemma addForeignKeys (naming : Naming) (s : Schema) (rs : List Relationship) :
    s.Grows (s.addForeignKeys naming rs) := by
  induction rs generalizing s with
  | nil => exact .refl s
  | cons r rs ih => exact (addForeignKey naming s r).trans (ih _)

lemma resolve (naming : Naming) (s : Schema) : s.Grows (s.resolve naming) := by
  rw [resolve_eq]
  exact addForeignKeys ..

end Schema.Grows

/-! ### Placements -/

/-- A placement has grown into another: it is the same one between tables that have grown. -/
structure Placement.Grows (p p' : Placement) : Prop where
  relationship_eq : p'.relationship = p.relationship
  holder : p.holder.Grows p'.holder
  referenced : p.referenced.Grows p'.referenced
  key_eq : p'.key = p.key
  columnName_eq : p'.columnName = p.columnName

namespace Relationship

variable {r : Relationship} {source source' target target' : Table} {sourceKey targetKey : Column}
  {side : Side}

lemma placementAt_grows (naming : Naming) (r : Relationship) (sourceKey targetKey : Column)
    (side : Side) (hs : source.Grows source') (ht : target.Grows target') :
    (r.placementAt naming source target sourceKey targetKey side).Grows
      (r.placementAt naming source' target' sourceKey targetKey side) := by
  cases side with
  | source => exact ⟨rfl, hs, ht, rfl, by simp [placementAt, Naming.columnName, ht.name_eq]⟩
  | target => exact ⟨rfl, ht, hs, rfl, by simp [placementAt, Naming.columnName, hs.name_eq]⟩

lemma findsColumns_of_grows (hs : source.Grows source') (ht : target.Grows target')
    (h : r.findsColumns source target = true) : r.findsColumns source' target' = true := by
  simp only [findsColumns, Bool.and_eq_true] at h ⊢
  exact ⟨hs.column?_isSome h.1, ht.column?_isSome h.2⟩

end Relationship

namespace Schema.Grows

variable {s s' : Schema} {naming : Naming} {r : Relationship} {source target : Table}
  {sourceKey targetKey : Column} {side : Side}

/-- A relationship joins the tables that its tables have grown into. -/
lemma joins (h : s.Grows s') (hj : r.Joins s.index source target sourceKey targetKey side) :
    ∃ source' target', source.Grows source' ∧ target.Grows target' ∧
      r.Joins s'.index source' target' sourceKey targetKey side := by
  obtain ⟨source', hs, hsource⟩ := h.table?_of_eq_some hj.table?_source
  obtain ⟨target', ht, htarget⟩ := h.table?_of_eq_some hj.table?_target
  refine ⟨source', target', hs, ht, .of_table? hsource htarget ?_ ?_ hj.side_eq⟩
  · rw [hs.primaryKey?_eq, hj.sourceKey_eq]
  · rw [ht.primaryKey?_eq, hj.targetKey_eq]

/-- Only tables that have grown out of joined ones are joined. -/
lemma exists_joins (h : s.Grows s') {source' target' : Table}
    (hj : r.Joins s'.index source' target' sourceKey targetKey side) :
    ∃ source target, source.Grows source' ∧ target.Grows target' ∧
      r.Joins s.index source target sourceKey targetKey side := by
  obtain ⟨source, hs, hsource⟩ := h.exists_table? hj.table?_source
  obtain ⟨target, ht, htarget⟩ := h.exists_table? hj.table?_target
  refine ⟨source, target, hs, ht, .of_table? hsource htarget ?_ ?_ hj.side_eq⟩
  · rw [← hs.primaryKey?_eq, hj.sourceKey_eq]
  · rw [← ht.primaryKey?_eq, hj.targetKey_eq]

/-- A relationship that can be placed is still placed in the same way when tables have grown. -/
lemma place (h : s.Grows s') {p : Placement} (hp : s.place naming r = .ok p) :
    ∃ p', s'.place naming r = .ok p' ∧ p.Grows p' := by
  obtain ⟨source, target, sourceKey, targetKey, side, hj, hfinds, rfl⟩ :=
    Relationship.exists_joins_of_placeIn hp
  obtain ⟨source', target', hs, ht, hj'⟩ := h.joins hj
  refine ⟨_, ?_, Relationship.placementAt_grows naming r sourceKey targetKey side hs ht⟩
  exact (hj'.placeIn_eq naming).trans (if_pos (Relationship.findsColumns_of_grows hs ht hfinds))

/-- A relationship that can be placed when tables have grown could be placed before in the same way,
unless it names a column that was missing. -/
lemma place_or_missingColumn (h : s.Grows s') {p' : Placement}
    (hp : s'.place naming r = .ok p') :
    (∃ p, s.place naming r = .ok p ∧ p.Grows p') ∨
      s.place naming r = .error .missingColumn := by
  obtain ⟨source', target', sourceKey, targetKey, side, hj', -, rfl⟩ :=
    Relationship.exists_joins_of_placeIn hp
  obtain ⟨source, target, hs, ht, hj⟩ := h.exists_joins hj'
  by_cases hfinds : r.findsColumns source target = true
  · refine .inl ⟨_, (hj.placeIn_eq naming).trans (if_pos hfinds), ?_⟩
    exact Relationship.placementAt_grows naming r sourceKey targetKey side hs ht
  · exact .inr ((hj.placeIn_eq naming).trans (if_neg hfinds))

end Schema.Grows

end SchemaGraph
