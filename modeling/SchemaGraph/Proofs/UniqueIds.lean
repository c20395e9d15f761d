import Mathlib.Data.List.Nodup
import SchemaGraph.Proofs.Edits
import SchemaGraph.Proofs.FixedPoint

/-!
# Which ids can be given twice

Resolution, drawings and junctions make new ids out of the ids of relationships and tables, but what
they look at before they add something are names. `Schema.distinct_iff` says when the new ids are
nevertheless new. The ids of tables stay distinct unless a junction becomes a table whose id one of
the tables has already. The ids of columns stay distinct unless a foreign key column is added to a
table that has had a column of its id all along, one that goes by another name
(`Schema.Reuses`).
-/

namespace SchemaGraph

/-! ### Distinct ids -/

/-- The ids of the columns of a table are distinct. -/
def Table.Distinct (t : Table) : Prop :=
  (t.columns.map (·.id)).Nodup

instance (t : Table) : Decidable t.Distinct :=
  inferInstanceAs (Decidable (List.Nodup _))

lemma Table.distinct_append {t : Table} {c : Column} :
    (t.append c).Distinct ↔ t.Distinct ∧ t.column? c.id = none := by
  have hnone : t.column? c.id = none ↔ c.id ∉ t.columns.map (·.id) := by
    simp [column?, List.find?_eq_none]
  rw [hnone, Distinct, append_columns, List.map_append, List.map_singleton,
    ← List.concat_eq_append, List.nodup_concat]
  exact and_comm

namespace Schema

/-- The ids of the tables are distinct. -/
def DistinctTables (s : Schema) : Prop :=
  (s.tables.map (·.id)).Nodup

/-- The ids of the relationships are distinct. -/
def DistinctRelationships (s : Schema) : Prop :=
  (s.relationships.map (·.id)).Nodup

/-- The ids of the columns are distinct within each table. -/
def DistinctColumns (s : Schema) : Prop :=
  ∀ t ∈ s.tables, t.Distinct

instance (s : Schema) : Decidable s.DistinctTables :=
  inferInstanceAs (Decidable (List.Nodup _))

instance (s : Schema) : Decidable s.DistinctRelationships :=
  inferInstanceAs (Decidable (List.Nodup _))

instance (s : Schema) : Decidable s.DistinctColumns :=
  inferInstanceAs (Decidable (∀ _ ∈ _, _))

variable {s s' : Schema} {naming : Naming} {r : Relationship} {p : Placement}
  {before : List Relationship}

/-! ### The ids of tables -/

lemma Grows.distinctTables (h : s.Grows s') : s'.DistinctTables ↔ s.DistinctTables := by
  rw [DistinctTables, DistinctTables, h.map_tables Table.Grows.id_eq]

/-! ### The ids of columns -/

/-- A changed table stands where the first table of its id stood. -/
lemma exists_modifyTable_tables {id : String} {t : Table} {f : Table → Table}
    (h : s.table? id = some t) :
    ∃ front back, s.tables = front ++ t :: back ∧
      (s.modifyTable id f).tables = front ++ f t :: back := by
  obtain ⟨hid, front, back, htables, hfront⟩ := List.find?_eq_some_iff_append.mp h
  refine ⟨front, back, htables, ?_⟩
  have hplace : s.tables.findIdx (·.id == id) = front.length := by
    rw [htables, List.findIdx_append, List.findIdx_eq_length.mpr (by simpa using hfront)]
    simp [List.findIdx_cons, hid]
  rw [modifyTable_tables f h, hplace, htables]
  simp

/-- At the turn of a relationship the ids of columns stay distinct just when no column is added
whose id its table has. -/
lemma distinctColumns_addForeignKey :
    (s.addForeignKey naming r).DistinctColumns ↔
      s.DistinctColumns ∧ ∀ p, s.place naming r = .ok p →
        p.holder.hasColumnNamed p.columnName = false → p.holder.column? p.column.id = none := by
  obtain ⟨h, hpresent⟩ | ⟨p, hp, habsent, h⟩ := addForeignKey_cases naming s r
  · rw [h]
    refine ⟨fun hs => ⟨hs, fun p hp habsent => ?_⟩, fun hs => hs.1⟩
    rw [hpresent p hp] at habsent
    cases habsent
  · obtain ⟨front, back, htables, hchanged⟩ :=
      exists_modifyTable_tables (f := (·.append p.column)) (table?_holder hp)
    rw [h, DistinctColumns, DistinctColumns, hchanged, htables]
    simp only [List.forall_mem_append, List.forall_mem_cons, Table.distinct_append]
    constructor
    · rintro ⟨hfront, ⟨hholder, hnone⟩, hback⟩
      refine ⟨⟨hfront, hholder, hback⟩, fun q hq _ => ?_⟩
      obtain rfl : p = q := Except.ok.inj (hp.symm.trans hq)
      exact hnone
    · rintro ⟨⟨hfront, hholder, hback⟩, hnone⟩
      exact ⟨hfront, ⟨hholder, hnone p hp habsent⟩, hback⟩

/-! ### Columns that were there before -/

/-- After the turns of some others a foreign key column is added for a relationship, although its
table has had a column of the same id from the start. -/
structure Reuses (s : Schema) (naming : Naming) (before : List Relationship) (r : Relationship)
    (p : Placement) : Prop where
  placed : r.placeIn naming ((Resolver.start s.tables).run naming before).index = .ok p
  added : p.holder.hasColumnNamed p.columnName = false
  taken : ∃ t, s.table? p.holder.id = some t ∧ (t.column? p.column.id).isSome

/-- The foreign key columns of other relationships have other ids, so a column of the same id must
have been there from the start. -/
lemma column?_isSome_iff_of_turn (hr : r.id ∉ before.map (·.id))
    (hp : (s.addForeignKeys naming before).place naming r = .ok p) :
    (p.holder.column? p.column.id).isSome ↔
      ∃ t, s.table? p.holder.id = some t ∧ (t.column? p.column.id).isSome := by
  constructor
  · intro hsome
    obtain ⟨c, hc⟩ := Option.isSome_iff_exists.mp hsome
    have hid : c.id = p.column.id := by simpa using List.find?_some hc
    obtain ⟨t, ht, hct⟩ | ⟨q, hq, hadded⟩ :=
      mem_columns_addForeignKeys (table?_holder hp) (List.mem_of_find?_eq_some hc)
    · exact ⟨t, ht, hid ▸ Table.column?_isSome_of_mem hct⟩
    · -- only the relationship itself makes that id for the table
      rw [hid, Placement.column, relationship_of_place hp] at hadded
      have hsame : r.id = q.id := by simpa using hadded
      exact absurd (List.mem_map_of_mem hq) (hsame ▸ hr)
  · rintro ⟨t, ht, hsome⟩
    obtain ⟨t', hgrows, ht'⟩ := (Grows.addForeignKeys naming s before).table?_of_eq_some ht
    obtain rfl : p.holder = t' := Option.some.inj ((table?_holder hp).symm.trans ht')
    exact hgrows.column?_isSome hsome

lemma not_reuses_iff (hr : r.id ∉ before.map (·.id)) :
    (∀ p, ¬s.Reuses naming before r p) ↔
      ∀ p, (s.addForeignKeys naming before).place naming r = .ok p →
        p.holder.hasColumnNamed p.columnName = false → p.holder.column? p.column.id = none := by
  refine forall_congr' fun p => ?_
  constructor
  · intro h hp habsent
    by_contra hsome
    have htaken := (column?_isSome_iff_of_turn hr hp).mp (Option.isSome_iff_ne_none.mpr hsome)
    exact h ⟨(placeIn_resolver_index s before r).trans hp, habsent, htaken⟩
  · intro h hreuses
    have hp := (placeIn_resolver_index s before r).symm.trans hreuses.placed
    have hsome := (column?_isSome_iff_of_turn hr hp).mpr hreuses.taken
    rw [h hp hreuses.added] at hsome
    cases hsome

/-! ### Runs -/

/-- What holds of every split of a longer list holds of every split of the shorter one and of its
last item. -/
lemma forall_split_concat {α : Type} {P : List α → α → Prop} (xs : List α) (x : α) :
    (∀ before y after, xs ++ [x] = before ++ y :: after → P before y) ↔
      (∀ before y after, xs = before ++ y :: after → P before y) ∧ P xs x := by
  constructor
  · intro h
    exact ⟨fun before y after hxs => h before y (after ++ [x]) (by simp [hxs]), h xs x [] rfl⟩
  · rintro ⟨hshort, hlast⟩ before y after hxs
    obtain rfl | ⟨after', z, rfl⟩ := after.eq_nil_or_concat
    · obtain ⟨rfl, rfl⟩ := List.append_singleton_inj.mp hxs
      exact hlast
    · rw [List.concat_eq_append, ← List.cons_append, ← List.append_assoc] at hxs
      exact hshort before y after' (List.append_singleton_inj.mp hxs).1

/-- The ids of columns stay distinct along a run of turns just when none of the added columns has
the id of a column that was there from the start. -/
lemma distinctColumns_addForeignKeys {rs : List Relationship} (h : s.DistinctColumns)
    (hrs : (rs.map (·.id)).Nodup) :
    (s.addForeignKeys naming rs).DistinctColumns ↔
      ∀ before r after, rs = before ++ r :: after → ∀ p, ¬s.Reuses naming before r p := by
  induction rs using List.reverseRecOn with
  | nil => simpa using h
  | append_singleton rs r ih =>
    rw [List.map_append, List.map_singleton, ← List.concat_eq_append, List.nodup_concat] at hrs
    rw [forall_split_concat (P := fun before r => ∀ p, ¬s.Reuses naming before r p), ← ih hrs.2,
      addForeignKeys_append, addForeignKeys_cons, addForeignKeys_nil,
      distinctColumns_addForeignKey, not_reuses_iff hrs.1]

lemma distinctColumns_resolve (h : s.DistinctColumns) (hrs : s.DistinctRelationships) :
    (s.resolve naming).DistinctColumns ↔
      ∀ before r after, s.relationships = before ++ r :: after →
        ∀ p, ¬s.Reuses naming before r p := by
  rw [resolve_eq]
  exact distinctColumns_addForeignKeys h hrs

/-! ### Drawings -/

lemma distinctColumns_linked (h : s.DistinctColumns) :
    (s.linked naming r).DistinctColumns ↔ ∀ p, ¬s.Reuses naming [] r p := by
  have hturn : (s.linked naming r).DistinctColumns ↔ (s.addForeignKey naming r).DistinctColumns :=
    Iff.rfl
  rw [hturn, distinctColumns_addForeignKey, not_reuses_iff List.not_mem_nil]
  exact and_iff_right h

/-- A drawing keeps the ids of tables, and it keeps those of columns distinct just when its own
foreign key column does not get the id of another one. -/
lemma distinct_draw (ht : s.DistinctTables) (hc : s.DistinctColumns) (d : Drawing) :
    ∃ s', s.draw d = .ok s' ∧ s'.DistinctTables ∧
      (s'.DistinctColumns ↔
        (d.joins s = true → ∀ p, ¬s.Reuses d.policy [] d.relationship p)) := by
  refine ⟨_, s.draw_eq d, ?_⟩
  by_cases hd : d.joins s = true
  · rw [if_pos hd, distinctColumns_linked hc]
    refine ⟨?_, by simp [hd]⟩
    exact (Grows.addForeignKey d.policy s d.relationship).distinctTables.mpr ht
  · rw [if_neg hd]
    exact ⟨ht, by simp [hd, hc]⟩

/-! ### Junctions -/

lemma distinct_junction (naming : Naming) (r : Relationship) (e : JunctionEnds) :
    (Junction.table naming r e.source e.target e.sourceKey e.targetKey).Distinct := by
  simp [Table.Distinct, Junction.table, Junction.sourceColumn, Junction.targetColumn,
    Junction.column]

lemma DistinctColumns.withJunction (h : s.DistinctColumns) (r : Relationship) (e : JunctionEnds) :
    (s.withJunction naming r e).DistinctColumns := by
  intro t ht
  rcases List.mem_append.mp ht with ht | ht
  · exact h t ht
  · exact List.mem_singleton.mp ht ▸ distinct_junction naming r e

lemma distinctTables_withJunction (h : s.DistinctTables) (r : Relationship) (e : JunctionEnds) :
    (s.withJunction naming r e).DistinctTables ↔ s.hasTable (Junction.id r) = false := by
  have hfree : s.hasTable (Junction.id r) = false ↔ Junction.id r ∉ s.tables.map (·.id) := by
    simp [hasTable]
  rw [hfree, DistinctTables, Schema.withJunction, List.map_append, List.map_singleton,
    ← List.concat_eq_append, List.nodup_concat]
  exact and_iff_left h

/-! ### The exact conditions -/

/-- Where the ids of the tables, of the relationships and of the columns of each table are distinct:
resolution and drawings keep those of tables distinct, and those of columns unless a column is added
whose id its table has had from the start; a junction that becomes a table keeps those of columns
distinct, and those of tables unless its own id was one of them. -/
theorem distinct_iff (ht : s.DistinctTables) (hr : s.DistinctRelationships)
    (hc : s.DistinctColumns) :
    (∀ naming, (s.resolve naming).DistinctTables ∧
      ((s.resolve naming).DistinctColumns ↔
        ∀ before r after, s.relationships = before ++ r :: after →
          ∀ p, ¬s.Reuses naming before r p)) ∧
    (∀ d : Drawing, d.relationship.id ∉ s.relationships.map (·.id) →
      ∃ s', s.draw d = .ok s' ∧ s'.DistinctTables ∧
        (s'.DistinctColumns ↔
          (d.joins s = true → ∀ p, ¬s.Reuses d.policy [] d.relationship p))) ∧
    ∀ naming choice s', s.materialize naming choice = .ok s' →
      s'.DistinctColumns ∧ ∃ r, s.choose? choice = some r ∧
        (s'.DistinctTables ↔ s.hasTable (Junction.id r) = false) := by
  refine ⟨fun naming => ⟨?_, distinctColumns_resolve hc hr⟩, fun d _ => distinct_draw ht hc d,
    fun naming choice s' hs' => ?_⟩
  · exact (Grows.resolve naming s).distinctTables.mpr ht
  · obtain ⟨r, e, hchoice, -, rfl⟩ := exists_of_materialize hs'
    exact ⟨hc.withJunction r e, r, hchoice, distinctTables_withJunction ht r e⟩

/-- A table whose foreign key column has been renamed, and one that has the id of a junction. -/
private def renamedColumn : Schema where
  tables := [
    .withKey "a" "A" "a",
    ⟨"t", "T", [.keyOf "t" "t", ⟨"fk-r1-t", "owner", "LONG", false, true, false, false, true,
      some "A", some "a"⟩], .zero, .zero⟩,
    .withKey "junction-r2" "Membership" "m"]
  relationships := [
    ⟨"r1", "a", "a-a", "t", "t-t", .oneToMany, false, false, .cascade, .cascade⟩,
    ⟨"r2", "a", "a-a", "t", "t-t", .manyToMany, false, false, .cascade, .cascade⟩]

/-- A drawing from the renamed column. -/
private def fromRenamed : Drawing :=
  ⟨⟨.access, .prefixed, .oneToMany, .cascade, .cascade, .info, none⟩, "f1", "t", "fk-r1-t", "a",
    "a-a", none, some "r3", none⟩

theorem distinct_iff_renamedColumn :
    renamedColumn.DistinctTables ∧ renamedColumn.DistinctRelationships ∧
      renamedColumn.DistinctColumns ∧
      fromRenamed.relationship.id ∉ renamedColumn.relationships.map (·.id) ∧
      ((renamedColumn.resolve .bare).DistinctTables ∧
        ∃ before r p, renamedColumn.Reuses .bare before r p) ∧
      (∃ s', renamedColumn.draw fromRenamed = .ok s' ∧ s'.DistinctTables ∧ s'.DistinctColumns) ∧
      ∃ s', renamedColumn.materialize .prefixed ⟨some "r2", none, none⟩ = .ok s' ∧
        s'.DistinctColumns := by
  have ht : renamedColumn.DistinctTables := by decide
  have hr : renamedColumn.DistinctRelationships := by decide
  have hc : renamedColumn.DistinctColumns := by decide
  have hfresh : fromRenamed.relationship.id ∉ renamedColumn.relationships.map (·.id) := by decide
  obtain ⟨hresolve, hdraw, hmaterialize⟩ := distinct_iff ht hr hc
  refine ⟨ht, hr, hc, hfresh, ⟨(hresolve .bare).1, ?_⟩, ?_, ?_⟩
  · have hrepeated : ¬(renamedColumn.resolve .bare).DistinctColumns := by decide +kernel
    rw [(hresolve .bare).2] at hrepeated
    push Not at hrepeated
    obtain ⟨before, r, _, -, p, hreuses⟩ := hrepeated
    exact ⟨before, r, p, hreuses⟩
  · obtain ⟨s', hs', htables, -⟩ := hdraw fromRenamed hfresh
    have hcolumns : (renamedColumn.draw fromRenamed).toOption.all (decide ·.DistinctColumns) := by
      decide +kernel
    rw [hs'] at hcolumns
    exact ⟨s', hs', htables, of_decide_eq_true hcolumns⟩
  · obtain ⟨s', hs'⟩ : ∃ s', renamedColumn.materialize .prefixed ⟨some "r2", none, none⟩ = .ok s' :=
      ⟨renamedColumn.edit (.materialize .prefixed ⟨some "r2", none, none⟩), by decide +kernel⟩
    exact ⟨s', hs', (hmaterialize .prefixed _ s' hs').1⟩

/-- Both the id of the foreign key column and that of the junction are given a second time. -/
theorem not_distinct_renamedColumn :
    renamedColumn.DistinctTables ∧ renamedColumn.DistinctRelationships ∧
      renamedColumn.DistinctColumns ∧
      ¬(renamedColumn.resolve .bare).DistinctColumns ∧
      ¬(renamedColumn.edit (.materialize .bare ⟨some "r2", none, none⟩)).DistinctTables := by
  decide +kernel

end Schema

end SchemaGraph
