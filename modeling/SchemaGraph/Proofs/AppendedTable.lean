import SchemaGraph.Junction
import SchemaGraph.Proofs.Resolver

/-!
# A table at the end

A schema with one more table at its end looks the same to every relationship that does not refer to
the new table: it is placed as before, its junction joins the same tables, and its foreign key goes
to the same table. `Schema.AddsTable.addForeignKeys` says so for a whole run of relationships: the
new table stays at the end, and it stays as it is.
-/

namespace SchemaGraph

/-! ### Relationships that refer elsewhere -/

/-- A relationship refers to other tables than those of an id. -/
def Relationship.Avoids (r : Relationship) (id : String) : Prop :=
  r.sourceTable ≠ id ∧ r.targetTable ≠ id

instance (r : Relationship) (id : String) : Decidable (r.Avoids id) :=
  inferInstanceAs (Decidable (_ ∧ _))

/-- Where a relationship is placed hangs on the two tables that it refers to. -/
lemma Relationship.placeIn_congr {r : Relationship} {naming : Naming}
    {tables tables' : Dictionary Table}
    (hs : tables.get? r.sourceTable = tables'.get? r.sourceTable)
    (ht : tables.get? r.targetTable = tables'.get? r.targetTable) :
    r.placeIn naming tables = r.placeIn naming tables' := by
  simp only [placeIn, hs, ht]

/-! ### Schemas -/

/-- A schema has the tables of another and one more table at the end. -/
def Schema.AddsTable (s s' : Schema) (t : Table) : Prop :=
  s'.tables = s.tables ++ [t]

namespace Schema.AddsTable

variable {s s' : Schema} {t : Table} {naming : Naming} {r : Relationship}

lemma table?_of_ne (h : s.AddsTable s' t) {id : String} (hid : id ≠ t.id) :
    s'.table? id = s.table? id := by
  rw [AddsTable] at h
  simp [table?, h, List.find?_append, Ne.symm hid]

lemma table?_self (h : s.AddsTable s' t) (hfree : s.table? t.id = none) :
    s'.table? t.id = some t := by
  rw [AddsTable] at h
  rw [table?] at hfree
  simp [table?, h, List.find?_append, hfree]

/-- A table at the end hides no other table. -/
lemma table?_of_eq_some (h : s.AddsTable s' t) {id : String} {u : Table}
    (hu : s.table? id = some u) : s'.table? id = some u := by
  rw [AddsTable] at h
  rw [table?] at hu
  simp [table?, h, List.find?_append, hu]

lemma place (h : s.AddsTable s' t) (hr : r.Avoids t.id) :
    s'.place naming r = s.place naming r := by
  refine Relationship.placeIn_congr ?_ ?_
  · rw [get?_index, get?_index, h.table?_of_ne hr.1]
  · rw [get?_index, get?_index, h.table?_of_ne hr.2]

lemma junctionEnds (h : s.AddsTable s' t) (hr : r.Avoids t.id) :
    s'.junctionEnds r = s.junctionEnds r := by
  simp only [Schema.junctionEnds, get?_index, h.table?_of_ne hr.1, h.table?_of_ne hr.2]

lemma synthesize (h : s.AddsTable s' t) (hr : r.Avoids t.id) :
    s'.synthesize naming r = s.synthesize naming r := by
  rw [Schema.synthesize, h.junctionEnds hr, Schema.synthesize]

lemma modifyTable (h : s.AddsTable s' t) {id : String} {u : Table} {f : Table → Table}
    (hu : s.table? id = some u) (hu' : s'.table? id = some u) :
    (s.modifyTable id f).AddsTable (s'.modifyTable id f) t := by
  have hlt : s.tables.findIdx (·.id == id) < s.tables.length :=
    List.findIdx_lt_length.mpr ⟨u, mem_of_table? hu, by simp [table?_id hu]⟩
  rw [AddsTable] at h ⊢
  rw [modifyTable_tables f hu, modifyTable_tables f hu', h, List.findIdx_append, if_pos hlt,
    List.set_append_left _ _ hlt]

lemma addForeignKey (h : s.AddsTable s' t) (hr : r.Avoids t.id) :
    (s.addForeignKey naming r).AddsTable (s'.addForeignKey naming r) t := by
  have hres : s'.resolution naming r = s.resolution naming r := by
    simp only [resolution, h.place hr]
  simp only [Schema.addForeignKey, hres]
  cases hcase : s.resolution naming r with
  | skipped gap => exact h
  | present p => exact h
  | added p =>
    have hp := place_of_resolution_added hcase
    exact h.modifyTable (table?_holder hp) (table?_holder ((h.place hr).trans hp))

/-- A run of relationships that refer elsewhere leaves the new table at the end, as it is. -/
lemma addForeignKeys (h : s.AddsTable s' t) {rs : List Relationship}
    (hrs : ∀ r ∈ rs, r.Avoids t.id) :
    (s.addForeignKeys naming rs).AddsTable (s'.addForeignKeys naming rs) t := by
  induction rs generalizing s s' with
  | nil => exact h
  | cons r rs ih =>
    obtain ⟨hr, hrs⟩ := List.forall_mem_cons.mp hrs
    exact ih (h.addForeignKey hr) hrs

end Schema.AddsTable

end SchemaGraph
