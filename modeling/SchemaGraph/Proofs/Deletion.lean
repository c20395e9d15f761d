import SchemaGraph.Editing
import SchemaGraph.Proofs.Reordering

/-!
# Deleting a table

With a table go the relationships that touch it. A resolution takes one relationship after the
other, so those that go might have made way for others, or stood in their way.
`Schema.script_deleteTable` says that this reaches no farther than the neighbours of the table, as
long as the relationships find their columns: the script keeps the junctions and the foreign keys of
all relationships that stay, and a table that no relationship joins to the deleted one keeps its
resolved columns. The reason is that what a table gets can be told from the relationships that place
a foreign key in it, and from nothing else (`Schema.FindsColumns.columnsFor_eq`).
-/

namespace SchemaGraph

/-! ### What a table gets -/

namespace Table

/-- A column that is called for, if its name is new to the table. -/
def takes? (t : Table) (called : Option Column) : Option Column :=
  called.filter fun c => !t.hasColumnNamed c.name

@[simp] lemma takes?_none (t : Table) : t.takes? none = none := rfl

lemma takes?_some (t : Table) (c : Column) :
    t.takes? (some c) = if t.hasColumnNamed c.name = true then none else some c := by
  cases h : t.hasColumnNamed c.name <;> simp [takes?, h]

/-- Those of some columns, called for one after the other, whose names are new to the table by
then. -/
def taken (t : Table) : List Column → List Column
  | [] => []
  | c :: columns =>
    (t.takes? (some c)).toList ++ (t.extended (t.takes? (some c)).toList).taken columns

lemma taken_toList_append (t : Table) (called : Option Column) (columns : List Column) :
    t.taken (called.toList ++ columns) =
      (t.takes? called).toList ++ (t.extended (t.takes? called).toList).taken columns := by
  cases called with
  | none => simp [extended_nil]
  | some c => rfl

end Table

lemma Placement.column_name (p : Placement) : p.column.name = p.columnName := rfl

lemma Placement.Grows.column_eq {p p' : Placement} (h : p.Grows p') : p'.column = p.column := by
  rw [column, column, h.relationship_eq, h.holder.id_eq, h.columnName_eq, h.key_eq,
    h.referenced.name_eq]

namespace Schema

variable {s s' : Schema} {naming : Naming} {r : Relationship} {rs : List Relationship}
  {id : String} {t : Table} {p : Placement} {turn : Nat}

/-- The column that a relationship calls for in the table of an id. -/
def calledFor? (s : Schema) (naming : Naming) (id : String) (r : Relationship) : Option Column :=
  (s.place naming r).toOption.bind fun p => if p.holder.id = id then some p.column else none

lemma calledFor?_of_ok (hp : s.place naming r = .ok p) (id : String) :
    s.calledFor? naming id r = if p.holder.id = id then some p.column else none := by
  rw [calledFor?, hp]
  rfl

lemma calledFor?_of_error {gap : PlacementGap} (hp : s.place naming r = .error gap) (id : String) :
    s.calledFor? naming id r = none := by
  rw [calledFor?, hp]
  rfl

/-- Growth changes nothing about what is called for by a relationship that finds its columns. -/
lemma Grows.calledFor?_eq (hgrows : s.Grows s') (hr : r.isManyToMany = false → s.Finds r)
    (naming : Naming) (id : String) : s'.calledFor? naming id r = s.calledFor? naming id r := by
  cases hp : s.place naming r with
  | ok p =>
    obtain ⟨p', hp', hgrown⟩ := hgrows.place hp
    rw [calledFor?_of_ok hp, calledFor?_of_ok hp', hgrown.holder.id_eq, hgrown.column_eq]
  | error gap =>
    cases hp' : s'.place naming r with
    | error gap' => rw [calledFor?_of_error hp, calledFor?_of_error hp']
    | ok p' =>
      obtain ⟨_, _, _, _, _, hj, -, -⟩ := Relationship.exists_joins_of_placeIn hp'
      have hfinds := hr (Relationship.not_isManyToMany_of_holder? hj.side_eq)
      obtain ⟨q, hq, -⟩ := hfinds.place_of_grows hgrows hp'
      rw [hp] at hq
      cases hq

/-- The turn of a relationship gives the first table of an id what is called for in it and new. -/
lemma turn_eq (ht : s.table? id = some t) (naming : Naming) (turn : Nat) (r : Relationship)
    (rs : List Relationship) :
    columnsFor (s.additionsFrom naming turn (r :: rs)) id =
        (t.takes? (s.calledFor? naming id r)).toList ++
          columnsFor ((s.addForeignKey naming r).additionsFrom naming (turn + 1) rs) id ∧
      (s.addForeignKey naming r).table? id =
        some (t.extended (t.takes? (s.calledFor? naming id r)).toList) := by
  simp only [additionsFrom, addForeignKey, resolution]
  cases hp : s.place naming r with
  | error gap => simp [calledFor?_of_error hp, Table.extended_nil, ht]
  | ok p =>
    have hholder := table?_holder hp
    rw [calledFor?_of_ok hp]
    by_cases hid : p.holder.id = id
    · obtain rfl : p.holder = t := Option.some.inj (hholder.symm.trans (hid ▸ ht))
      rw [if_pos hid, Table.takes?_some, p.column_name]
      cases hpresent : p.holder.hasColumnNamed p.columnName with
      | true => simp [hpresent, Table.extended_nil, ht]
      | false =>
        have hturn := table?_modifyTable_self (f := (·.append p.column)) hholder rfl
        rw [hid] at hturn
        simp [hpresent, columnsFor_cons, hid, hturn, Table.extended_cons, Table.extended_nil]
    · rw [if_neg hid, Table.takes?_none]
      cases hpresent : p.holder.hasColumnNamed p.columnName with
      | true => simp [hpresent, Table.extended_nil, ht]
      | false =>
        have hturn := table?_modifyTable (f := (·.append p.column)) hholder rfl id
        rw [if_neg (Ne.symm hid)] at hturn
        simp [hpresent, columnsFor_cons, Ne.symm hid, hturn, Table.extended_nil, ht]

/-- A run adds to the first table of an id what is called for in it and new at its turn. The given
tables `s` stay fixed, while the present ones have grown out of them. -/
lemma columnsFor_additionsFrom (hgrows : s.Grows s')
    (hrs : ∀ r ∈ rs, r.isManyToMany = false → s.Finds r) (ht : s'.table? id = some t) :
    columnsFor (s'.additionsFrom naming turn rs) id =
      t.taken (rs.filterMap (s.calledFor? naming id)) := by
  induction rs generalizing s' t turn with
  | nil => rfl
  | cons r rs ih =>
    obtain ⟨hr, hrs⟩ := List.forall_mem_cons.mp hrs
    obtain ⟨hadded, hturn⟩ := turn_eq ht naming turn r rs
    rw [hgrows.calledFor?_eq hr] at hadded hturn
    rw [hadded, ih (hgrows.trans (.addForeignKey naming s' r)) hrs hturn,
      ← Table.taken_toList_append]
    cases h : s.calledFor? naming id r with
    | none => simp [h]
    | some c => simp [h]

/-- Where relationships find their columns, the given tables decide what a table gets, and only the
relationships count that call for something in it. -/
lemma FindsColumns.columnsFor_eq (hs : s.FindsColumns) (naming : Naming)
    (ht : s.table? id = some t) :
    columnsFor (s.additions naming) id =
      t.taken (s.relationships.filterMap (s.calledFor? naming id)) :=
  columnsFor_additionsFrom (.refl s) (fun r hr hmany => hs r hr hmany) ht

end Schema

/-! ### Relationships that touch a table -/

/-- One end of a relationship is the table of an id. -/
def Relationship.Touches (r : Relationship) (id : String) : Prop :=
  r.sourceTable = id ∨ r.targetTable = id

instance (r : Relationship) (id : String) : Decidable (r.Touches id) :=
  inferInstanceAs (Decidable (_ ∨ _))

namespace Schema

variable {s : Schema} {naming : Naming} {r : Relationship} {id id' : String} {t : Table}
  {p : Placement}

/-- A foreign key is held by a table that its relationship touches. -/
lemma touches_holder (hp : s.place naming r = .ok p) : r.Touches p.holder.id := by
  obtain ⟨source, target, _, _, side, hj, -, rfl⟩ := Relationship.exists_joins_of_placeIn hp
  cases side with
  | source => exact .inl (table?_id hj.table?_source).symm
  | target => exact .inr (table?_id hj.table?_target).symm

lemma calledFor?_eq_none (h : ¬r.Touches id) : s.calledFor? naming id r = none := by
  cases hp : s.place naming r with
  | error gap => exact calledFor?_of_error hp id
  | ok p =>
    rw [calledFor?_of_ok hp, if_neg]
    rintro rfl
    exact h (touches_holder hp)

/-- The relationships that do not touch the table of an id. -/
def apartFrom (s : Schema) (id : String) : List Relationship :=
  s.relationships.filter fun r => ¬r.Touches id

/-- No relationship joins the tables of two ids. -/
def Unrelated (s : Schema) (id id' : String) : Prop :=
  ∀ r ∈ s.relationships, r.Touches id → ¬r.Touches id'

lemma mem_apartFrom : r ∈ s.apartFrom id ↔ r ∈ s.relationships ∧ ¬r.Touches id := by
  simp [apartFrom]

lemma deleteTable_relationships (s : Schema) (id : String) :
    (s.deleteTable id).relationships = s.apartFrom id := by
  refine List.filter_congr fun r _ => ?_
  rw [Bool.eq_iff_iff]
  simp [Relationship.Touches]

lemma table?_deleteTable (s : Schema) (id id' : String) :
    (s.deleteTable id).table? id' = if id' = id then none else s.table? id' := by
  rw [table?, deleteTable, List.find?_filter]
  split
  · next h =>
    subst h
    simp [List.find?_eq_none]
  · next h =>
    rw [table?]
    congr 1
    funext t
    by_cases ht : t.id = id'
    · simp [ht, h]
    · simp [ht]

/-- A relationship that does not touch the table is placed as before. -/
lemma place_deleteTable (h : ¬r.Touches id) (naming : Naming) :
    (s.deleteTable id).place naming r = s.place naming r := by
  obtain ⟨hs, ht⟩ := not_or.mp h
  simp only [place, Relationship.placeIn, get?_index, table?_deleteTable, if_neg hs, if_neg ht]

lemma synthesize_deleteTable (h : ¬r.Touches id) (naming : Naming) :
    (s.deleteTable id).synthesize naming r = s.synthesize naming r := by
  obtain ⟨hs, ht⟩ := not_or.mp h
  simp only [synthesize, junctionEnds, get?_index, table?_deleteTable, if_neg hs, if_neg ht]

lemma FindsColumns.deleteTable (hs : s.FindsColumns) (id : String) :
    (s.deleteTable id).FindsColumns := by
  intro r hr hmany source target hsource htarget
  rw [deleteTable_relationships, mem_apartFrom] at hr
  obtain ⟨hr, happart⟩ := hr
  obtain ⟨hs', ht'⟩ := not_or.mp happart
  rw [table?_deleteTable, if_neg hs'] at hsource
  rw [table?_deleteTable, if_neg ht'] at htarget
  exact hs r hr hmany source target hsource htarget

/-! ### Columns -/

/-- What goes with the deleted table called for nothing in an unrelated one. -/
lemma Unrelated.columnsFor_eq (h : s.Unrelated id' id) (hs : s.FindsColumns) (naming : Naming)
    (ht : (s.deleteTable id).table? id' = some t) :
    columnsFor ((s.deleteTable id).additions naming) id' = columnsFor (s.additions naming) id' := by
  have ht' : s.table? id' = some t := by
    rw [table?_deleteTable] at ht
    split at ht
    · cases ht
    · exact ht
  rw [(hs.deleteTable id).columnsFor_eq naming ht, hs.columnsFor_eq naming ht',
    deleteTable_relationships, apartFrom, List.filterMap_filter]
  congr 1
  refine List.filterMap_congr fun r hr => ?_
  by_cases hr' : r.Touches id
  · have hother : ¬r.Touches id' := fun hboth => h r hr hboth hr'
    simp [hr', calledFor?_eq_none hother]
  · simp [hr', calledFor?, place_deleteTable hr']

end Schema

/-! ### Lists of tables -/

lemma extendFirst_congr {columns columns' : String → List Column} {tables : List Table}
    (h : ∀ t ∈ tables, columns t.id = columns' t.id) :
    extendFirst columns tables = extendFirst columns' tables := by
  refine List.mapIdx_eq_mapIdx_iff.mpr fun i hi => ?_
  rw [h _ (List.getElem_mem hi)]

/-- The first one of some tables gets the columns for its id, and no other one of its id does. -/
lemma extendFirst_cons (columns : String → List Column) (t : Table) (tables : List Table) :
    extendFirst columns (t :: tables) =
      t.extended (columns t.id) ::
        extendFirst (fun id => if id = t.id then [] else columns id) tables := by
  rw [extendFirst, List.mapIdx_cons, extendFirst]
  congr 1
  · simp [List.findIdx_cons]
  · refine List.mapIdx_eq_mapIdx_iff.mpr fun i hi => ?_
    by_cases hid : t.id = tables[i].id
    · simp [List.findIdx_cons, hid, Table.extended_nil]
    · simp [List.findIdx_cons, Ne.symm hid, beq_false_of_ne hid]

/-- The tables of other ids get their columns whether or not the tables of an id are there. -/
lemma filter_extendFirst (columns : String → List Column) (tables : List Table) (id : String) :
    (extendFirst columns tables).filter (·.id != id) =
      extendFirst columns (tables.filter (·.id != id)) := by
  induction tables generalizing columns with
  | nil => rfl
  | cons t tables ih =>
    rw [extendFirst_cons, List.filter_cons, List.filter_cons, ih]
    split
    · next hid => rw [if_pos (show (t.id != id) = true from hid), extendFirst_cons]
    · next hid =>
      -- no table of the id of `t` is left to miss its columns
      rw [if_neg (show ¬(t.id != id) = true from hid)]
      have hgone : t.id = id := by simpa [Table.extended] using hid
      refine extendFirst_congr fun u hu => if_neg ?_
      rw [hgone]
      simpa using (List.mem_filter.mp hu).2

/-! ### Scripts -/

namespace Schema

variable {s : Schema} {r : Relationship} {id : String}

/-- The statement that creates the junction table of a relationship. -/
def junctionCreation? (s : Schema) (naming : Naming) (d : Dialect) (r : Relationship) :
    Option Statement :=
  (s.synthesize naming r).toOption.map (·.createJunction d)

lemma junctions_eq_filterMap (s : Schema) (naming : Naming) (d : Dialect) :
    (s.junctions naming).map (·.createJunction d) =
      s.relationships.filterMap (s.junctionCreation? naming d) := by
  rw [junctions, manyToMany, List.map_filterMap, List.filterMap_filter]
  refine List.filterMap_congr fun r _ => ?_
  cases hr : r.isManyToMany with
  | true => rfl
  | false => simp [junctionCreation?, synthesize, junctionEnds, hr, Except.map, Except.toOption]

/-- A script, read off the relationships one by one. -/
lemma statements_eq_filterMap (s : Schema) (d : Dialect) (naming : Naming) (generatedAt : String) :
    s.statements d naming generatedAt =
      .header d.name generatedAt :: s.relationships.filterMap (s.junctionCreation? naming d) ++
        (s.resolve naming).tables.map (·.create d) ++
        s.relationships.filterMap (s.alteration? naming) := by
  rw [statements, junctions_eq_filterMap, placements_eq_filterMap, prepared_tables_eq_resolve]

lemma junctionCreation?_deleteTable (h : ¬r.Touches id) (naming : Naming) (d : Dialect) :
    (s.deleteTable id).junctionCreation? naming d r = s.junctionCreation? naming d r := by
  rw [junctionCreation?, synthesize_deleteTable h, ← junctionCreation?]

lemma FindsColumns.alteration?_deleteTable (hs : s.FindsColumns) (hr : r ∈ s.apartFrom id)
    (naming : Naming) : (s.deleteTable id).alteration? naming r = s.alteration? naming r := by
  have hr' : r ∈ (s.deleteTable id).relationships := by rwa [deleteTable_relationships]
  obtain ⟨hmem, hapart⟩ := mem_apartFrom.mp hr
  rw [(hs.deleteTable id).alteration?_eq hr', hs.alteration?_eq hmem, place_deleteTable hapart]

lemma FindsColumns.resolve_deleteTable (hs : s.FindsColumns) (id : String) (naming : Naming) :
    List.Forall₂
      (fun t t' => t'.id = t.id ∧ t'.name = t.name ∧ (s.Unrelated t.id id → t' = t))
      ((s.resolve naming).tables.filter (·.id != id))
      ((s.deleteTable id).resolve naming).tables := by
  rw [(s.resolvesBy_additions naming).tables_eq, filter_extendFirst,
    ((s.deleteTable id).resolvesBy_additions naming).tables_eq]
  refine (forall₂_extendFirst_iff (fun t => ⟨rfl, rfl, fun _ => rfl⟩) _ _ _).mpr ?_
  intro id' t ht
  obtain rfl : t.id = id' := table?_id (s := s.deleteTable id) ht
  refine ⟨rfl, rfl, fun (hunrelated : s.Unrelated t.id id) => ?_⟩
  rw [hunrelated.columnsFor_eq hs naming ht]

/-- Where relationships find their columns, the deletion of a table leaves in the script, in their
order, just the junctions and the foreign keys of the relationships that do not touch the table. Of
the resolved tables those of other ids are left, and one that no relationship joins to the deleted
table has the same columns. -/
theorem script_deleteTable (hs : s.FindsColumns) (id : String) (naming : Naming) :
    (∀ d generatedAt,
      s.statements d naming generatedAt =
          .header d.name generatedAt :: s.relationships.filterMap (s.junctionCreation? naming d) ++
            (s.resolve naming).tables.map (·.create d) ++
            s.relationships.filterMap (s.alteration? naming) ∧
        (s.deleteTable id).statements d naming generatedAt =
          .header d.name generatedAt :: (s.apartFrom id).filterMap (s.junctionCreation? naming d) ++
            ((s.deleteTable id).resolve naming).tables.map (·.create d) ++
            (s.apartFrom id).filterMap (s.alteration? naming)) ∧
      List.Forall₂
        (fun t t' => t'.id = t.id ∧ t'.name = t.name ∧ (s.Unrelated t.id id → t' = t))
        ((s.resolve naming).tables.filter (·.id != id))
        ((s.deleteTable id).resolve naming).tables := by
  refine ⟨fun d generatedAt => ⟨s.statements_eq_filterMap d naming generatedAt, ?_⟩,
    hs.resolve_deleteTable id naming⟩
  have hjunctions : (s.apartFrom id).filterMap ((s.deleteTable id).junctionCreation? naming d) =
      (s.apartFrom id).filterMap (s.junctionCreation? naming d) :=
    List.filterMap_congr fun r hr =>
      junctionCreation?_deleteTable (mem_apartFrom.mp hr).2 naming d
  have halterations : (s.apartFrom id).filterMap ((s.deleteTable id).alteration? naming) =
      (s.apartFrom id).filterMap (s.alteration? naming) :=
    List.filterMap_congr fun r hr => hs.alteration?_deleteTable hr naming
  rw [statements_eq_filterMap, deleteTable_relationships, hjunctions, halterations]

/-- A table in the middle that others refer to. Of the columns that `T` is to have, the middle table
calls for one of the name that `B` calls for too, and a hidden table has the id of `B`. -/
private def starred : Schema where
  tables := [.withKey "m" "M" "k", .withKey "a" "A" "a", .withKey "b" "B" "k",
    .withKey "t" "T" "t", .withKey "b" "Hidden" "h"]
  relationships := [
    ⟨"r1", "m", "m-k", "t", "t-t", .oneToMany, false, false, .cascade, .cascade⟩,
    ⟨"r2", "b", "b-k", "t", "t-t", .oneToOne, false, true, .restrict, .noAction⟩,
    ⟨"r3", "m", "m-k", "m", "m-k", .manyToOne, true, false, .setNull, .cascade⟩,
    ⟨"r4", "b", "b-k", "a", "a-a", .oneToMany, false, true, .cascade, .cascade⟩,
    ⟨"r5", "a", "", "m", "", .manyToMany, false, false, .cascade, .cascade⟩,
    ⟨"r6", "t", "", "t", "", .manyToMany, false, false, .cascade, .cascade⟩,
    ⟨"r7", "b", "b-k", "b", "b-k", .oneToMany, true, true, .cascade, .cascade⟩]

theorem script_deleteTable_starred :
    starred.FindsColumns ∧
      (starred.deleteTable "m").statements .mysql .bare "" =
        .header .mysql "" :: (starred.apartFrom "m").filterMap
            (starred.junctionCreation? .bare .mysql) ++
          ((starred.deleteTable "m").resolve .bare).tables.map (·.create .mysql) ++
          (starred.apartFrom "m").filterMap (starred.alteration? .bare) ∧
      (starred.apartFrom "m").map (·.id) = ["r2", "r4", "r6", "r7"] ∧ starred.Unrelated "b" "m" ∧
      List.Forall₂
        (fun t t' => t'.id = t.id ∧ t'.name = t.name ∧ (starred.Unrelated t.id "m" → t' = t))
        ((starred.resolve .bare).tables.filter (·.id != "m"))
        ((starred.deleteTable "m").resolve .bare).tables ∧
      ((starred.resolve .bare).tables.filter (·.id != "m")).map
          (·.columns.map fun c => (c.name, c.unique)) =
        [[("a", false), ("k", false)], [("k", false)], [("t", false), ("k", false)],
          [("h", false)]] ∧
      ((starred.deleteTable "m").resolve .bare).tables.map
          (·.columns.map fun c => (c.name, c.unique)) =
        [[("a", false), ("k", false)], [("k", false)], [("t", false), ("k", true)],
          [("h", false)]] := by
  have hs : starred.FindsColumns := by decide
  have hunrelated : starred.Unrelated "b" "m" := by
    show ∀ r ∈ starred.relationships, r.Touches "b" → ¬r.Touches "m"
    decide
  obtain ⟨hscript, htables⟩ := script_deleteTable hs "m" .bare
  exact ⟨hs, (hscript .mysql "").2, by decide, hunrelated, htables, by decide +kernel,
    by decide +kernel⟩

end Schema

end SchemaGraph
