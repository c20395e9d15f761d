import SchemaGraph.Proofs.Index
import SchemaGraph.Proofs.Placement

/-!
# The resolver works table by table

The resolver keeps an index of the tables and the place of each id beside the tables themselves, and
a drawn relationship looks both up afresh. `Resolver.Consistent` is the invariant that makes the two
agree: the index is that of the present tables, and the places are those of their ids. Every turn
keeps it, so the resolver adds to the tables what `Schema.addForeignKey` adds, one relationship
after the other (`Schema.resolve_eq`).
-/

namespace SchemaGraph

variable {naming : Naming}

/-! ### Adding foreign keys one by one -/

namespace Schema

/-- The schema with the foreign key columns of some relationships, in their order. -/
def addForeignKeys (naming : Naming) (s : Schema) (rs : List Relationship) : Schema :=
  rs.foldl (addForeignKey naming) s

@[simp] lemma addForeignKeys_nil (s : Schema) : s.addForeignKeys naming [] = s := rfl

@[simp] lemma addForeignKeys_cons (s : Schema) (r : Relationship) (rs : List Relationship) :
    s.addForeignKeys naming (r :: rs) = (s.addForeignKey naming r).addForeignKeys naming rs := rfl

lemma addForeignKeys_append (s : Schema) (rs rs' : List Relationship) :
    s.addForeignKeys naming (rs ++ rs') = (s.addForeignKeys naming rs).addForeignKeys naming rs' :=
  List.foldl_append

@[simp] lemma addForeignKeys_relationships (s : Schema) (rs : List Relationship) :
    (s.addForeignKeys naming rs).relationships = s.relationships := by
  induction rs generalizing s with
  | nil => rfl
  | cons r rs ih => rw [addForeignKeys_cons, ih, addForeignKey_relationships]

lemma place_of_resolution_added {s : Schema} {r : Relationship} {p : Placement}
    (h : s.resolution naming r = .added p) : s.place naming r = .ok p := by
  simp only [resolution] at h
  split at h
  · cases h
  · split at h
    · cases h
    · cases h
      assumption

/-- What can become of a schema at the turn of a relationship. -/
lemma addForeignKey_cases (naming : Naming) (s : Schema) (r : Relationship) :
    (s.addForeignKey naming r = s ∧
      ∀ p, s.place naming r = .ok p → p.holder.hasColumnNamed p.columnName = true) ∨
    ∃ p, s.place naming r = .ok p ∧ p.holder.hasColumnNamed p.columnName = false ∧
      s.addForeignKey naming r = s.modifyTable p.holder.id (·.append p.column) := by
  simp only [addForeignKey, resolution]
  cases hp : s.place naming r with
  | error gap => exact .inl ⟨rfl, fun p h => by cases h⟩
  | ok p =>
    cases hn : p.holder.hasColumnNamed p.columnName with
    | true =>
      refine .inl ⟨by simp [hn], fun q hq => ?_⟩
      cases hq
      exact hn
    | false => exact .inr ⟨p, rfl, hn, by simp [hn]⟩

lemma addForeignKey_tables_congr (s : Schema) (rs : List Relationship) (r : Relationship) :
    (addForeignKey naming ⟨s.tables, rs⟩ r).tables = (s.addForeignKey naming r).tables := by
  have hres : resolution ⟨s.tables, rs⟩ naming r = s.resolution naming r := rfl
  simp only [addForeignKey, hres]
  split <;> rfl

lemma addForeignKeys_tables_congr {s s' : Schema} (h : s.tables = s'.tables)
    (rs : List Relationship) :
    (s.addForeignKeys naming rs).tables = (s'.addForeignKeys naming rs).tables := by
  induction rs generalizing s s' with
  | nil => exact h
  | cons r rs ih =>
    refine ih ?_
    rw [← addForeignKey_tables_congr s [] r, h, addForeignKey_tables_congr]

/-- To change the table of an id is to put the changed table in its place. -/
lemma modifyTable_tables {s : Schema} {id : String} {t : Table} (f : Table → Table)
    (h : s.table? id = some t) :
    (s.modifyTable id f).tables = s.tables.set (s.tables.findIdx (·.id == id)) (f t) := by
  obtain ⟨tables, rs⟩ := s
  simp only [table?, modifyTable] at h ⊢
  induction tables with
  | nil => simp at h
  | cons u us ih =>
    by_cases hu : u.id = id
    · have ht : u = t := by simpa [List.find?_cons, hu] using h
      subst ht
      simp [List.findIdx_cons, hu]
    · rw [List.find?_cons, beq_eq_false_iff_ne.mpr hu] at h
      simp [List.findIdx_cons, beq_eq_false_iff_ne.mpr hu, ih h]

/-- A change of the table of an id is found under that id, and nothing else changes. -/
lemma table?_modifyTable {s : Schema} {id : String} {t : Table} {f : Table → Table}
    (h : s.table? id = some t) (hf : (f t).id = id) (id' : String) :
    (s.modifyTable id f).table? id' = if id' = id then some (f t) else s.table? id' := by
  simp only [table?] at h ⊢
  rw [modifyTable_tables f h]
  generalize s.tables = ts at h ⊢
  induction ts with
  | nil => cases h
  | cons u us ih =>
    rw [List.findIdx_cons]
    by_cases hu : u.id = id
    · by_cases hid : id' = id
      · simp [hu, hf, hid]
      · simp [hu, hf, hid, Ne.symm hid]
    · rw [List.find?_cons, beq_eq_false_iff_ne.mpr hu] at h
      rw [beq_eq_false_iff_ne.mpr hu, cond_false, List.set_cons_succ, List.find?_cons,
        List.find?_cons, ih h]
      by_cases hid : id' = id
      · simp [hid, beq_eq_false_iff_ne.mpr hu]
      · simp [hid]

lemma table?_modifyTable_self {s : Schema} {id : String} {t : Table} {f : Table → Table}
    (h : s.table? id = some t) (hf : (f t).id = id) :
    (s.modifyTable id f).table? id = some (f t) := by
  rw [table?_modifyTable h hf, if_pos rfl]

end Schema

/-! ### The invariant -/

namespace Resolver

/-- The index and the places of a resolver are those of its tables. -/
structure Consistent (w : Resolver) : Prop where
  index_eq : w.index = indexTables w.tables
  places_eq : w.places = firstPlaces (w.tables.map (·.id))

lemma start_consistent (tables : List Table) : (start tables).Consistent :=
  ⟨rfl, rfl⟩

/-- A table that has changed leaves a consistent state, as long as it keeps its id and its place. -/
lemma Consistent.update {w : Resolver} (h : w.Consistent) {t : Table}
    (ht : (w.tables.find? (·.id == t.id)).isSome) :
    (w.update (w.tables.findIdx (·.id == t.id)) t).Consistent where
  index_eq := by
    show w.index.set t.id t = _
    rw [h.index_eq, ← indexTables_set_findIdx ht rfl]
    rfl
  places_eq := by
    show w.places = _
    rw [h.places_eq]
    exact congrArg firstPlaces (map_id_set_findIdx rfl).symm

/-- The turn of a relationship in a consistent state: both lookups succeed, and they find the table
that holds the foreign key and its place. -/
lemma Consistent.step_eq {w : Resolver} (h : w.Consistent) (r : Relationship) :
    w.step naming r =
      match Schema.resolution ⟨w.tables, []⟩ naming r with
      | .added p => w.update (w.tables.findIdx (·.id == p.holder.id)) (p.holder.append p.column)
      | _ => w := by
  unfold step Schema.resolution
  have hplace : r.placeIn naming w.index = Schema.place ⟨w.tables, []⟩ naming r := by
    rw [h.index_eq]
    rfl
  rw [hplace]
  cases hp : Schema.place ⟨w.tables, []⟩ naming r with
  | error gap => rfl
  | ok p =>
    have hholder : w.tables.find? (·.id == p.holder.id) = some p.holder := Schema.table?_holder hp
    have hindex : w.index.get? p.holder.id = some p.holder := by
      rw [h.index_eq, get?_indexTables, hholder]
    have hat : w.places.get? p.holder.id =
        some (w.tables.findIdx (·.id == p.holder.id)) := by
      rw [h.places_eq, get?_firstPlaces]
      exact List.findIdx?_eq_some_of_exists
        ⟨p.holder, List.mem_of_find?_eq_some hholder, by simp⟩
    simp only [hindex, hat]
    cases p.holder.hasColumnNamed p.columnName <;> rfl

/-- Every turn keeps the index and the places in step with the tables. -/
lemma Consistent.step {w : Resolver} (h : w.Consistent) (r : Relationship) :
    (w.step naming r).Consistent := by
  rw [h.step_eq]
  split
  · next p hp =>
    have hholder := Schema.table?_holder (Schema.place_of_resolution_added hp)
    exact h.update (t := p.holder.append p.column) (Option.isSome_of_eq_some hholder)
  · exact h

/-- A turn changes the tables as a drawn relationship does. -/
lemma Consistent.step_tables {w : Resolver} (h : w.Consistent) (r : Relationship) :
    (w.step naming r).tables = (Schema.addForeignKey naming ⟨w.tables, []⟩ r).tables := by
  rw [h.step_eq]
  unfold Schema.addForeignKey
  cases hres : Schema.resolution ⟨w.tables, []⟩ naming r with
  | added p =>
    have hholder := Schema.table?_holder (Schema.place_of_resolution_added hres)
    exact (Schema.modifyTable_tables (·.append p.column) hholder).symm
  | _ => rfl

/-- So does a run of turns, which keeps the invariant throughout. -/
lemma Consistent.run {w : Resolver} (h : w.Consistent) (rs : List Relationship) :
    (w.run naming rs).Consistent ∧
      (w.run naming rs).tables = (Schema.addForeignKeys naming ⟨w.tables, []⟩ rs).tables := by
  induction rs generalizing w with
  | nil => exact ⟨h, rfl⟩
  | cons r rs ih =>
    obtain ⟨hrun, htables⟩ := ih (h.step r)
    refine ⟨hrun, htables.trans ?_⟩
    exact Schema.addForeignKeys_tables_congr (h.step_tables r) rs

end Resolver

namespace Schema

lemma resolver_tables (s : Schema) (rs : List Relationship) :
    ((Resolver.start s.tables).run naming rs).tables = (s.addForeignKeys naming rs).tables := by
  have hstart : (⟨(Resolver.start s.tables).tables, []⟩ : Schema).tables = s.tables := rfl
  rw [((Resolver.start_consistent s.tables).run rs).2, addForeignKeys_tables_congr hstart]

/-- The turn of a relationship comes when the foreign keys of those before it have been added. -/
lemma placeIn_resolver_index (s : Schema) (rs : List Relationship) (r : Relationship) :
    r.placeIn naming ((Resolver.start s.tables).run naming rs).index =
      (s.addForeignKeys naming rs).place naming r := by
  rw [((Resolver.start_consistent s.tables).run rs).1.index_eq, resolver_tables]
  rfl

/-- Resolving a schema is adding the foreign keys of its relationships one after the other. -/
theorem resolve_eq (s : Schema) :
    s.resolve naming = s.addForeignKeys naming s.relationships := by
  rw [resolve, resolver_tables]
  show _ = Schema.mk (s.addForeignKeys naming s.relationships).tables
    (s.addForeignKeys naming s.relationships).relationships
  rw [addForeignKeys_relationships]

end Schema

end SchemaGraph
