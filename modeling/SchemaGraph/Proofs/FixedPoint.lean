import SchemaGraph.Proofs.Growth

/-!
# Resolved schemas and fixed points

To resolve a schema twice is not always the same as to resolve it once. A relationship can name as
one of its columns the foreign key column of a later relationship: then it is passed over at its
turn, although the resolved schema can place it (`Schema.Belated`, `Schema.Belated.exists_later`).
`Schema.resolve_resolve_iff` says that this is the only way in which a second resolution adds
anything: a resolved schema is a fixed point just when the column of every belated relationship
stands in its table anyway.
-/

namespace SchemaGraph

namespace Schema

variable {s : Schema} {naming : Naming} {r : Relationship} {p : Placement}

/-! ### After its turn -/

/-- After the turn of a relationship that can be placed, its column stands in its table. -/
lemma hasColumnNamed_after_turn (h : s.place naming r = .ok p) :
    ∃ p', (s.addForeignKey naming r).place naming r = .ok p' ∧
      p'.holder.hasColumnNamed p'.columnName = true := by
  obtain ⟨p', hp', hgrows⟩ := (Grows.addForeignKey naming s r).place h
  refine ⟨p', hp', ?_⟩
  rw [hgrows.columnName_eq]
  obtain ⟨-, hpresent⟩ | ⟨q, hq, -, hturn⟩ := addForeignKey_cases naming s r
  · exact hgrows.holder.hasColumnNamed (hpresent p h)
  · obtain rfl : p = q := by
      rw [h] at hq
      exact Except.ok.inj hq
    have hholder : (s.addForeignKey naming r).table? p.holder.id =
        some (p.holder.append p.column) := by
      rw [hturn]
      exact table?_modifyTable_self (table?_holder h) rfl
    have hholder' := table?_holder hp'
    rw [hgrows.holder.id_eq, hholder] at hholder'
    rw [← Option.some.inj hholder', Table.hasColumnNamed_append]
    simp [Placement.column]

/-! ### Fixed points -/

/-- Nothing is added for a relationship just when its column is there or it cannot be placed. -/
lemma addForeignKey_tables_eq_iff :
    (s.addForeignKey naming r).tables = s.tables ↔
      ∀ p, s.place naming r = .ok p → p.holder.hasColumnNamed p.columnName = true := by
  obtain ⟨h, hpresent⟩ | ⟨p, hp, habsent, h⟩ := addForeignKey_cases naming s r
  · exact ⟨fun _ => hpresent, fun _ => congrArg Schema.tables h⟩
  · refine ⟨fun hsame => ?_, fun hall => ?_⟩
    · -- the table that holds the foreign key would have one column more than it has
      have hholder := table?_modifyTable_self (f := (·.append p.column)) (table?_holder hp) rfl
      rw [← h, table?, hsame] at hholder
      have hcolumns := congrArg Table.columns
        (Option.some.inj ((table?_holder hp).symm.trans hholder))
      simp at hcolumns
    · rw [hall p hp] at habsent
      cases habsent

lemma addForeignKeys_tables_eq_iff (rs : List Relationship) :
    (s.addForeignKeys naming rs).tables = s.tables ↔
      ∀ r ∈ rs, ∀ p, s.place naming r = .ok p → p.holder.hasColumnNamed p.columnName = true := by
  induction rs with
  | nil => simp
  | cons r rs ih =>
    rw [List.forall_mem_cons, ← ih, ← addForeignKey_tables_eq_iff, addForeignKeys_cons]
    constructor
    · intro h
      -- the tables after the first turn lie between those before it and those in the end
      have hback : (s.addForeignKey naming r).Grows s := by
        have hrest := Grows.addForeignKeys naming (s.addForeignKey naming r) rs
        rw [Grows] at hrest ⊢
        rwa [h] at hrest
      have hfirst := hback.antisymm (Grows.addForeignKey naming s r)
      exact ⟨hfirst, (addForeignKeys_tables_congr hfirst rs).symm.trans h⟩
    · rintro ⟨hfirst, hrest⟩
      exact (addForeignKeys_tables_congr hfirst rs).trans hrest

lemma addForeignKeys_eq_iff (rs : List Relationship) :
    s.addForeignKeys naming rs = s ↔ (s.addForeignKeys naming rs).tables = s.tables := by
  refine ⟨congrArg Schema.tables, fun h => ?_⟩
  show Schema.mk (s.addForeignKeys naming rs).tables (s.addForeignKeys naming rs).relationships = s
  rw [h, addForeignKeys_relationships]

/-! ### Belated relationships -/

/-- After the turns of some others a relationship is passed over, since a column that it names is
missing, and yet the resolved schema places it. -/
structure Belated (s : Schema) (naming : Naming) (before : List Relationship) (r : Relationship)
    (p : Placement) : Prop where
  missing : r.placeIn naming ((Resolver.start s.tables).run naming before).index =
    .error .missingColumn
  placed : (s.resolve naming).place naming r = .ok p

/-- From the turn of a relationship to the end of the resolution the tables grow. -/
lemma grows_after_turn {before after : List Relationship}
    (hr : s.relationships = before ++ r :: after) :
    ((s.addForeignKeys naming before).addForeignKey naming r).Grows (s.resolve naming) := by
  rw [resolve_eq, hr, addForeignKeys_append, addForeignKeys_cons]
  exact Grows.addForeignKeys ..

/-- What the resolved schema places was placed at its turn, or it is belated. -/
lemma placed_or_belated {before after : List Relationship}
    (hr : s.relationships = before ++ r :: after)
    (hp : (s.resolve naming).place naming r = .ok p) :
    (∃ q, (s.addForeignKeys naming before).place naming r = .ok q) ∨
      s.Belated naming before r p := by
  have hgrows := (Grows.addForeignKey naming (s.addForeignKeys naming before) r).trans
    (grows_after_turn hr)
  obtain ⟨q, hq, -⟩ | hmissing := hgrows.place_or_missingColumn hp
  · exact .inl ⟨q, hq⟩
  · exact .inr ⟨by rw [placeIn_resolver_index, hmissing], hp⟩

/-- What was placed at its turn has its column in the resolved schema. -/
lemma hasColumnNamed_resolve {before after : List Relationship}
    (hr : s.relationships = before ++ r :: after)
    (hp : (s.addForeignKeys naming before).place naming r = .ok p) :
    ∃ p', (s.resolve naming).place naming r = .ok p' ∧
      p'.holder.hasColumnNamed p'.columnName = true := by
  obtain ⟨q, hq, hthere⟩ := hasColumnNamed_after_turn hp
  obtain ⟨p', hp', hgrows⟩ := (grows_after_turn hr).place hq
  refine ⟨p', hp', ?_⟩
  rw [hgrows.columnName_eq]
  exact hgrows.holder.hasColumnNamed hthere

/-- Only a belated relationship can lack its column. -/
lemma hasColumnNamed_or_belated {before after : List Relationship}
    (hr : s.relationships = before ++ r :: after)
    (hp : (s.resolve naming).place naming r = .ok p) :
    p.holder.hasColumnNamed p.columnName = true ∨ s.Belated naming before r p := by
  obtain ⟨q, hq⟩ | hbelated := placed_or_belated hr hp
  · left
    obtain ⟨p', hp', hthere⟩ := hasColumnNamed_resolve hr hq
    obtain rfl : p = p' := Except.ok.inj (hp.symm.trans hp')
    exact hthere
  · exact .inr hbelated

/-- A belated relationship was not placed at its turn. -/
lemma Belated.not_placed {before : List Relationship} (h : s.Belated naming before r p)
    (q : Placement) :
    r.placeIn naming ((Resolver.start s.tables).run naming before).index ≠ .ok q := by
  rw [h.missing]
  exact fun hq => by cases hq

/-- A resolved schema is a fixed point of resolution just when every foreign key that it places has
its column. -/
lemma resolve_resolve_iff_hasColumnNamed :
    (s.resolve naming).resolve naming = s.resolve naming ↔
      ∀ r ∈ s.relationships, ∀ p, (s.resolve naming).place naming r = .ok p →
        p.holder.hasColumnNamed p.columnName = true := by
  rw [← addForeignKeys_tables_eq_iff, ← addForeignKeys_eq_iff, resolve_eq (s.resolve naming),
    resolve_relationships]

/-- The columns of the foreign keys that a resolved schema places are there just when those of the
belated relationships are. -/
lemma forall_hasColumnNamed_iff :
    (∀ r ∈ s.relationships, ∀ p, (s.resolve naming).place naming r = .ok p →
        p.holder.hasColumnNamed p.columnName = true) ↔
      ∀ before r after p, s.relationships = before ++ r :: after →
        s.Belated naming before r p → p.holder.hasColumnNamed p.columnName = true := by
  constructor
  · intro h before r after p hr hbelated
    exact h r (by simp [hr]) p hbelated.placed
  · intro h r hmem p hp
    obtain ⟨before, after, hr⟩ := List.append_of_mem hmem
    obtain hthere | hbelated := hasColumnNamed_or_belated hr hp
    · exact hthere
    · exact h before r after p hr hbelated

/-- A resolved schema is a fixed point of resolution just when the foreign key column of every
belated relationship is there anyway. -/
theorem resolve_resolve_iff (naming : Naming) (s : Schema) :
    (s.resolve naming).resolve naming = s.resolve naming ↔
      ∀ before r after p, s.relationships = before ++ r :: after →
        s.Belated naming before r p → p.holder.hasColumnNamed p.columnName = true := by
  rw [resolve_resolve_iff_hasColumnNamed, forall_hasColumnNamed_iff]

/-- Three tables with a key each, and two relationships from the first two to the third. The first
one names the foreign key column of the second as its target. -/
def namesLaterColumn : Schema where
  tables := [.withKey "a" "A" "a", .withKey "b" "B" "b", .withKey "t" "T" "t"]
  relationships := [
    ⟨"r1", "a", "a-a", "t", "fk-r2-t", .oneToMany, false, false, .cascade, .cascade⟩,
    ⟨"r2", "b", "b-b", "t", "t-t", .oneToMany, false, false, .cascade, .cascade⟩]

/-- The second resolution adds the foreign key column that the first has left out. -/
theorem resolve_resolve_ne :
    (namesLaterColumn.resolve .bare).resolve .bare ≠ namesLaterColumn.resolve .bare := by
  decide +kernel

/-! ### Where belated columns come from -/

/-- A column that stands in a table after some turns stood there before, or it was added for one of
the relationships, and then its id says so. -/
lemma mem_columns_addForeignKeys {rs : List Relationship} {id : String} {t' : Table} {c : Column}
    (ht' : (s.addForeignKeys naming rs).table? id = some t') (hc : c ∈ t'.columns) :
    (∃ t, s.table? id = some t ∧ c ∈ t.columns) ∨
      ∃ q ∈ rs, c.id = "fk-" ++ q.id ++ "-" ++ id := by
  induction rs generalizing s with
  | nil => exact .inl ⟨t', ht', hc⟩
  | cons r rs ih =>
    obtain ⟨t, ht, hct⟩ | ⟨q, hq, hid⟩ := ih ht'
    · obtain ⟨hsame, -⟩ | ⟨p, hp, -, hadded⟩ := addForeignKey_cases naming s r
      · exact .inl ⟨t, hsame ▸ ht, hct⟩
      · rw [hadded] at ht
        by_cases hholder : id = p.holder.id
        · subst hholder
          rw [table?_modifyTable_self (table?_holder hp) rfl] at ht
          obtain rfl := Option.some.inj ht
          rw [Table.append_columns, List.mem_append, List.mem_singleton] at hct
          rcases hct with hct | rfl
          · exact .inl ⟨p.holder, table?_holder hp, hct⟩
          · refine .inr ⟨r, List.mem_cons_self, ?_⟩
            rw [Placement.column, relationship_of_place hp]
        · rw [table?_modifyTable (table?_holder hp) rfl, if_neg hholder] at ht
          exact .inl ⟨t, ht, hct⟩
    · exact .inr ⟨q, List.mem_cons_of_mem r hq, hid⟩

/-- A column of a table that only some turns have brought is one that they have added. -/
lemma id_of_column?_addForeignKeys {rs : List Relationship} {id column : String} {t t' : Table}
    (ht : s.table? id = some t) (ht' : (s.addForeignKeys naming rs).table? id = some t')
    (hnone : (t.column? column).isSome = false) (hsome : (t'.column? column).isSome = true) :
    ∃ q ∈ rs, column = "fk-" ++ q.id ++ "-" ++ id := by
  obtain ⟨c, hc⟩ := Option.isSome_iff_exists.mp hsome
  obtain rfl : c.id = column := by simpa using List.find?_some hc
  obtain ⟨u, hu, hcu⟩ | hadded := mem_columns_addForeignKeys ht' (List.mem_of_find?_eq_some hc)
  · obtain rfl : t = u := Option.some.inj (ht.symm.trans hu)
    rw [Table.column?_isSome_of_mem hcu] at hnone
    cases hnone
  · exact hadded

/-- A belated relationship names the foreign key column of a later one. -/
theorem Belated.exists_later {before after : List Relationship} (h : s.Belated naming before r p)
    (hr : s.relationships = before ++ r :: after) :
    ∃ q ∈ after, r.sourceColumn = "fk-" ++ q.id ++ "-" ++ r.sourceTable ∨
      r.targetColumn = "fk-" ++ q.id ++ "-" ++ r.targetTable := by
  have hmissing := (placeIn_resolver_index s before r).symm.trans h.missing
  -- nothing is added at the turn of the relationship itself
  have hturn : (s.addForeignKeys naming before).addForeignKey naming r =
      s.addForeignKeys naming before := by
    simp [addForeignKey, resolution, hmissing]
  have hresolve : s.resolve naming =
      (s.addForeignKeys naming before).addForeignKeys naming after := by
    rw [resolve_eq, hr, addForeignKeys_append, addForeignKeys_cons, hturn]
  have hplaced := h.placed
  rw [hresolve] at hplaced
  obtain ⟨source', target', _, _, _, hj', hfinds', -⟩ :=
    Relationship.exists_joins_of_placeIn hplaced
  obtain ⟨source, target, -, -, hj⟩ := (Grows.addForeignKeys naming _ after).exists_joins hj'
  have hfinds : r.findsColumns source target = false := by
    by_contra hfinds
    have hp := (hj.placeIn_eq naming).trans (if_pos (by simpa using hfinds))
    rw [← place, hmissing] at hp
    cases hp
  simp only [Relationship.findsColumns, Bool.and_eq_true] at hfinds'
  rcases Bool.and_eq_false_iff.mp hfinds with hsource | htarget
  · obtain ⟨q, hq, hid⟩ := id_of_column?_addForeignKeys hj.table?_source hj'.table?_source hsource
      hfinds'.1
    exact ⟨q, hq, .inl hid⟩
  · obtain ⟨q, hq, hid⟩ := id_of_column?_addForeignKeys hj.table?_target hj'.table?_target htarget
      hfinds'.2
    exact ⟨q, hq, .inr hid⟩

/-! ### Columns that are found at once -/

/-- Every relationship between tables of a schema, other than a many-to-many one, finds its columns
in them. -/
def FindsColumns (s : Schema) : Prop :=
  ∀ r ∈ s.relationships, r.isManyToMany = false → ∀ source target,
    s.table? r.sourceTable = some source → s.table? r.targetTable = some target →
      r.findsColumns source target = true

instance (s : Schema) : Decidable s.FindsColumns :=
  decidable_of_iff
    (∀ r ∈ s.relationships, r.isManyToMany = false →
      (s.table? r.sourceTable).all (fun source =>
        (s.table? r.targetTable).all fun target => r.findsColumns source target) = true)
    (by
      simp only [FindsColumns, Option.all_eq_true]
      refine forall₃_congr fun r _ _ => ?_
      exact ⟨fun h source target hs ht => h source hs target ht,
        fun h source hs target ht => h source target hs ht⟩)

/-- Where every relationship finds its columns from the start, none is belated. -/
lemma FindsColumns.not_belated (h : s.FindsColumns) (hr : r ∈ s.relationships)
    (before : List Relationship) : ¬s.Belated naming before r p := by
  intro hbelated
  obtain ⟨_, _, _, _, _, hj, -, -⟩ := Relationship.exists_joins_of_placeIn hbelated.placed
  obtain ⟨source, target, -, -, hj⟩ := (Grows.resolve naming s).exists_joins hj
  have hmany := Relationship.not_isManyToMany_of_holder? hj.side_eq
  have hfinds := h r hr hmany source target hj.table?_source hj.table?_target
  have hp := (hj.placeIn_eq naming).trans (if_pos hfinds)
  obtain ⟨p', hp', -⟩ := (Grows.addForeignKeys naming s before).place hp
  have hmissing := hbelated.missing
  rw [placeIn_resolver_index, hp'] at hmissing
  cases hmissing

theorem resolve_resolve_of_findsColumns (h : s.FindsColumns) :
    (s.resolve naming).resolve naming = s.resolve naming := by
  rw [resolve_resolve_iff_hasColumnNamed, forall_hasColumnNamed_iff]
  intro before r after p hr hbelated
  exact absurd hbelated (h.not_belated (by simp [hr]) before)

end Schema

end SchemaGraph
