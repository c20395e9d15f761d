import SchemaGraph.Proofs.DrawnSchema

/-!
# Renaming of ids

New ids for tables, columns and relationships change a schema in every place where one refers to
another, and positions on the canvas refer to nothing. `Schema.script_renamed` says that neither
shows in the script, as long as the relationships find their columns. The columns that resolution
adds have ids of their own, made of other ids and not renamed along with them. So it is not the
renaming itself that is kept from turn to turn, but only that the tables correspond: they have new
ids, and they look the same without the ids of their columns.
-/

namespace SchemaGraph

/-! ### Renamings -/

/-- New ids. Different tables keep different ids; of the others nothing is asked. -/
structure Renaming where
  table : String → String
  column : String → String
  relationship : String → String
  table_injective : Function.Injective table

lemma Renaming.table_beq (ρ : Renaming) (id id' : String) :
    (ρ.table id == ρ.table id') = (id == id') := by
  by_cases h : id = id'
  · rw [h, beq_self_eq_true, beq_self_eq_true]
  · rw [beq_eq_false_iff_ne.mpr h, beq_eq_false_iff_ne.mpr (ρ.table_injective.ne h)]

def Column.rename (c : Column) (ρ : Renaming) : Column :=
  { c with id := ρ.column c.id }

/-- A relationship with its own new id and those of the tables and columns that it names, whether
or not they exist. -/
def Relationship.rename (r : Relationship) (ρ : Renaming) : Relationship :=
  { r with
    id := ρ.relationship r.id
    sourceTable := ρ.table r.sourceTable
    sourceColumn := ρ.column r.sourceColumn
    targetTable := ρ.table r.targetTable
    targetColumn := ρ.column r.targetColumn }

@[simp] lemma Relationship.rename_sourceTable (r : Relationship) (ρ : Renaming) :
    (r.rename ρ).sourceTable = ρ.table r.sourceTable := rfl

@[simp] lemma Relationship.rename_targetTable (r : Relationship) (ρ : Renaming) :
    (r.rename ρ).targetTable = ρ.table r.targetTable := rfl

@[simp] lemma Relationship.isManyToMany_rename (r : Relationship) (ρ : Renaming) :
    (r.rename ρ).isManyToMany = r.isManyToMany := rfl

@[simp] lemma Relationship.holder?_rename (r : Relationship) (ρ : Renaming) :
    (r.rename ρ).holder? = r.holder? := rfl

/-- A table has become another one by a renaming, wherever it has been moved to. -/
structure Table.RenamedTo (ρ : Renaming) (t t' : Table) : Prop where
  id_eq : t'.id = ρ.table t.id
  name_eq : t'.name = t.name
  columns_eq : t'.columns = t.columns.map (·.rename ρ)

/-- A schema has become another one by a renaming, and its tables may have been moved. -/
structure Schema.RenamedTo (ρ : Renaming) (s s' : Schema) : Prop where
  tables : List.Forall₂ (Table.RenamedTo ρ) s.tables s'.tables
  relationships_eq : s'.relationships = s.relationships.map (·.rename ρ)

/-! ### Tables without ids -/

def Column.anonymous (c : Column) : Column :=
  { c with id := "" }

namespace Table

/-- What a script shows of a table. -/
def anonymous (t : Table) : Table :=
  ⟨"", t.name, t.columns.map (·.anonymous), .zero, .zero⟩

variable {t t' : Table}

lemma name_eq_of_anonymous (h : t'.anonymous = t.anonymous) : t'.name = t.name := by
  have hname := congrArg Table.name h
  exact hname

lemma primaryKey?_anonymous (t : Table) :
    t.anonymous.primaryKey? = t.primaryKey?.map (·.anonymous) :=
  List.find?_map

lemma hasColumnNamed_anonymous (t : Table) (name : String) :
    t.anonymous.hasColumnNamed name = t.hasColumnNamed name :=
  List.any_map

lemma anonymous_append (t : Table) (c : Column) :
    (t.append c).anonymous = t.anonymous.append c.anonymous := by
  simp [anonymous, append]

lemma keyConstraint?_anonymous (t : Table) : t.anonymous.keyConstraint? = t.keyConstraint? := by
  have hkeys : t.anonymous.columns.filter (·.primaryKey) =
      (t.columns.filter (·.primaryKey)).map (·.anonymous) :=
    List.filter_map
  rw [keyConstraint?, hkeys, keyConstraint?]
  cases t.columns.filter (·.primaryKey) with
  | nil => rfl
  | cons key keys =>
    rw [List.map_cons]
    show some _ = some _
    rw [← List.map_cons, List.map_map]
    rfl

lemma define_anonymous (t : Table) (d : Dialect) :
    t.anonymous.columns.map (·.define d) = t.columns.map (·.define d) :=
  List.map_map

lemma create_anonymous (t : Table) (d : Dialect) : t.anonymous.create d = t.create d := by
  rw [create, define_anonymous, keyConstraint?_anonymous]
  rfl

lemma createJunction_anonymous (t : Table) (d : Dialect) :
    t.anonymous.createJunction d = t.createJunction d := by
  have hforeign : t.anonymous.columns.filterMap t.anonymous.foreignKeyConstraint? =
      t.columns.filterMap t.foreignKeyConstraint? :=
    List.filterMap_map
  rw [createJunction, define_anonymous, keyConstraint?_anonymous, hforeign]
  rfl

/-- A table corresponds to one with a new id that looks the same in a script. -/
structure Corresponds (ρ : Renaming) (t t' : Table) : Prop where
  id_eq : t'.id = ρ.table t.id
  anonymous_eq : t'.anonymous = t.anonymous

variable {ρ : Renaming}

lemma RenamedTo.corresponds (h : t.RenamedTo ρ t') : t.Corresponds ρ t' := by
  refine ⟨h.id_eq, ?_⟩
  rw [anonymous, anonymous, h.name_eq, h.columns_eq, List.map_map]
  rfl

/-- A column that is found is found under its new id. -/
lemma RenamedTo.column?_isSome (h : t.RenamedTo ρ t') {id : String}
    (hid : (t.column? id).isSome) : (t'.column? (ρ.column id)).isSome := by
  obtain ⟨c, hc⟩ := Option.isSome_iff_exists.mp hid
  obtain rfl : c.id = id := by simpa using List.find?_some hc
  have hmem : c.rename ρ ∈ t'.columns := by
    rw [h.columns_eq]
    exact List.mem_map_of_mem (List.mem_of_find?_eq_some hc)
  exact column?_isSome_of_mem hmem

namespace Corresponds

lemma name_eq (h : t.Corresponds ρ t') : t'.name = t.name :=
  name_eq_of_anonymous h.anonymous_eq

lemma hasColumnNamed_eq (h : t.Corresponds ρ t') (name : String) :
    t'.hasColumnNamed name = t.hasColumnNamed name := by
  rw [← hasColumnNamed_anonymous, h.anonymous_eq, hasColumnNamed_anonymous]

/-- The keys of corresponding tables look the same. -/
lemma primaryKey? (h : t.Corresponds ρ t') :
    Option.Rel (fun key key' => key'.anonymous = key.anonymous) t.primaryKey? t'.primaryKey? := by
  have hkeys : t'.primaryKey?.map (·.anonymous) = t.primaryKey?.map (·.anonymous) := by
    rw [← primaryKey?_anonymous, h.anonymous_eq, primaryKey?_anonymous]
  cases hkey : t.primaryKey? with
  | none =>
    rw [hkey, Option.map_none, Option.map_eq_none_iff] at hkeys
    rw [hkeys]
    exact .none
  | some key =>
    rw [hkey, Option.map_some, Option.map_eq_some_iff] at hkeys
    obtain ⟨key', hkey', hanonymous⟩ := hkeys
    rw [hkey']
    exact .some hanonymous

lemma append (h : t.Corresponds ρ t') {c c' : Column} (hc : c'.anonymous = c.anonymous) :
    (t.append c).Corresponds ρ (t'.append c') := by
  refine ⟨h.id_eq, ?_⟩
  rw [anonymous_append, anonymous_append, h.anonymous_eq, hc]

lemma create_eq (h : t.Corresponds ρ t') (d : Dialect) : t'.create d = t.create d := by
  rw [← create_anonymous, h.anonymous_eq, create_anonymous]

end Corresponds

end Table

/-! ### Placements -/

/-- A placement corresponds to one of the renamed relationship between corresponding tables. -/
structure Placement.Corresponds (ρ : Renaming) (p p' : Placement) : Prop where
  relationship_eq : p'.relationship = p.relationship.rename ρ
  holder : p.holder.Corresponds ρ p'.holder
  referenced : p.referenced.Corresponds ρ p'.referenced
  key_eq : p'.key.anonymous = p.key.anonymous
  columnName_eq : p'.columnName = p.columnName

lemma Column.name_eq_of_anonymous {c c' : Column} (h : c'.anonymous = c.anonymous) :
    c'.name = c.name := by
  have hname := congrArg Column.name h
  exact hname

lemma Column.type_eq_of_anonymous {c c' : Column} (h : c'.anonymous = c.anonymous) :
    c'.type = c.type := by
  have htype := congrArg Column.type h
  exact htype

namespace Placement.Corresponds

variable {ρ : Renaming} {p p' : Placement}

/-- No id shows in the statement that adds a foreign key. -/
lemma statement_eq (h : p.Corresponds ρ p') : p'.statement = p.statement := by
  rw [statement, statement, h.holder.name_eq, h.referenced.name_eq,
    Column.name_eq_of_anonymous h.key_eq, h.columnName_eq, h.relationship_eq]
  rfl

lemma column_eq (h : p.Corresponds ρ p') : p'.column.anonymous = p.column.anonymous := by
  simp only [column, Column.anonymous, h.referenced.name_eq, Column.name_eq_of_anonymous h.key_eq,
    Column.type_eq_of_anonymous h.key_eq, h.columnName_eq, h.relationship_eq, Relationship.rename]

end Placement.Corresponds

lemma Naming.columnName_eq {referenced referenced' : Table} {key key' : Column}
    (naming : Naming) (hname : referenced'.name = referenced.name)
    (hkey : key'.anonymous = key.anonymous) :
    naming.columnName referenced' key' = naming.columnName referenced key := by
  simp only [columnName, hname, Column.name_eq_of_anonymous hkey]

lemma Relationship.placementAt_corresponds {ρ : Renaming} {source source' target target' : Table}
    {sourceKey sourceKey' targetKey targetKey' : Column} (naming : Naming) (r : Relationship)
    (side : Side) (hsource : source.Corresponds ρ source') (htarget : target.Corresponds ρ target')
    (hsourceKey : sourceKey'.anonymous = sourceKey.anonymous)
    (htargetKey : targetKey'.anonymous = targetKey.anonymous) :
    (r.placementAt naming source target sourceKey targetKey side).Corresponds ρ
      ((r.rename ρ).placementAt naming source' target' sourceKey' targetKey' side) := by
  cases side with
  | source =>
    exact ⟨rfl, hsource, htarget, htargetKey, naming.columnName_eq htarget.name_eq htargetKey⟩
  | target =>
    exact ⟨rfl, htarget, hsource, hsourceKey, naming.columnName_eq hsource.name_eq hsourceKey⟩

/-! ### Schemas -/

/-- What is related to something that is found has been found itself. -/
lemma exists_of_rel_some {α β : Type} {R : α → β → Prop} {found : Option α} {b : β}
    (h : Option.Rel R found (some b)) : ∃ a, found = some a ∧ R a b := by
  cases h with
  | some h => exact ⟨_, rfl, h⟩

lemma rel_bind {α β γ δ : Type} {R : α → β → Prop} {S : γ → δ → Prop} {found : Option α}
    {found' : Option β} {f : α → Option γ} {g : β → Option δ} (h : Option.Rel R found found')
    (hfg : ∀ a b, R a b → Option.Rel S (f a) (g b)) :
    Option.Rel S (found.bind f) (found'.bind g) := by
  cases h with
  | none => exact .none
  | some h => exact hfg _ _ h

lemma map_eq_of_rel {α β γ : Type} {R : α → β → Prop} {found : Option α} {found' : Option β}
    {f : α → γ} {g : β → γ} (h : Option.Rel R found found') (hfg : ∀ a b, R a b → g b = f a) :
    found'.map g = found.map f := by
  cases h with
  | none => rfl
  | some h => exact congrArg some (hfg _ _ h)

namespace Schema

variable {ρ : Renaming} {s s' : Schema} {naming : Naming} {r : Relationship}

/-- The tables of a schema correspond to those of another one. -/
def Corresponds (ρ : Renaming) (s s' : Schema) : Prop :=
  List.Forall₂ (Table.Corresponds ρ) s.tables s'.tables

/-- A lookup under the new id finds what has taken the place of the table. -/
lemma rel_table? {R : Table → Table → Prop} (hR : ∀ t t', R t t' → t'.id = ρ.table t.id)
    (h : List.Forall₂ R s.tables s'.tables) (id : String) :
    Option.Rel R (s.table? id) (s'.table? (ρ.table id)) := by
  rw [table?, table?]
  generalize s.tables = ts, s'.tables = ts' at h ⊢
  induction h with
  | nil => exact .none
  | @cons t t' ts ts' ht _ ih =>
    rw [List.find?_cons, List.find?_cons, hR t t' ht, ρ.table_beq]
    cases t.id == id with
    | true => exact .some ht
    | false => exact ih

lemma Corresponds.table? (h : s.Corresponds ρ s') (id : String) :
    Option.Rel (Table.Corresponds ρ) (s.table? id) (s'.table? (ρ.table id)) :=
  rel_table? (fun _ _ ht => ht.id_eq) h id

/-- A renamed relationship finds its renamed columns. -/
lemma RenamedTo.finds (h : s.RenamedTo ρ s') (hr : s.Finds r) : s'.Finds (r.rename ρ) := by
  intro source' target' hsource' htarget'
  have hsource := rel_table? (fun _ _ ht => ht.id_eq) h.tables r.sourceTable
  have htarget := rel_table? (fun _ _ ht => ht.id_eq) h.tables r.targetTable
  obtain ⟨source, hs, hsource⟩ := exists_of_rel_some (hsource' ▸ hsource)
  obtain ⟨target, ht, htarget⟩ := exists_of_rel_some (htarget' ▸ htarget)
  have hfinds := hr source target hs ht
  rw [Relationship.findsColumns, Bool.and_eq_true] at hfinds ⊢
  exact ⟨hsource.column?_isSome hfinds.1, htarget.column?_isSome hfinds.2⟩

/-- Where a relationship finds its columns, only the tables that it joins decide about its foreign
key. -/
lemma Finds.toOption_place (h : s.Finds r) (naming : Naming) :
    (s.place naming r).toOption =
      (s.table? r.sourceTable).bind fun source => (s.table? r.targetTable).bind fun target =>
        source.primaryKey?.bind fun sourceKey => target.primaryKey?.bind fun targetKey =>
          r.holder?.map (r.placementAt naming source target sourceKey targetKey) := by
  cases hp : s.place naming r with
  | ok p =>
    obtain ⟨source, target, sourceKey, targetKey, side, hj, -, rfl⟩ :=
      Relationship.exists_joins_of_placeIn hp
    simp [hj.table?_source, hj.table?_target, hj.sourceKey_eq, hj.targetKey_eq, hj.side_eq,
      Except.toOption]
  | error gap =>
    refine (Option.eq_none_iff_forall_ne_some.mpr fun p hsome => ?_).symm
    simp only [Option.bind_eq_some_iff, Option.map_eq_some_iff] at hsome
    obtain ⟨source, hs, target, ht, sourceKey, hsk, targetKey, htk, side, hside, rfl⟩ := hsome
    have hj := Relationship.Joins.of_table? hs ht hsk htk hside
    have hplaced := (hj.placeIn_eq naming).trans (if_pos (h source target hs ht))
    rw [← place, hp] at hplaced
    cases hplaced

/-- In corresponding schemas, a relationship and the renamed one have corresponding foreign keys. -/
lemma Corresponds.place (h : s.Corresponds ρ s') (hr : s.Finds r) (hr' : s'.Finds (r.rename ρ))
    (naming : Naming) :
    Option.Rel (Placement.Corresponds ρ) (s.place naming r).toOption
      (s'.place naming (r.rename ρ)).toOption := by
  rw [hr.toOption_place, hr'.toOption_place, Relationship.rename_sourceTable,
    Relationship.rename_targetTable, Relationship.holder?_rename]
  refine rel_bind (h.table? r.sourceTable) fun source source' hsource => ?_
  refine rel_bind (h.table? r.targetTable) fun target target' htarget => ?_
  refine rel_bind hsource.primaryKey? fun sourceKey sourceKey' hsourceKey => ?_
  refine rel_bind htarget.primaryKey? fun targetKey targetKey' htargetKey => ?_
  cases r.holder? with
  | none => exact .none
  | some side =>
    exact .some (Relationship.placementAt_corresponds naming r side hsource htarget hsourceKey
      htargetKey)

lemma Corresponds.modifyTable (h : s.Corresponds ρ s') (id : String) {f g : Table → Table}
    (hfg : ∀ t t', t.Corresponds ρ t' → (f t).Corresponds ρ (g t')) :
    (s.modifyTable id f).Corresponds ρ (s'.modifyTable (ρ.table id) g) := by
  rw [Corresponds] at h ⊢
  rw [Schema.modifyTable, Schema.modifyTable]
  generalize s.tables = ts, s'.tables = ts' at h ⊢
  induction h with
  | nil => exact .nil
  | @cons t t' ts ts' ht hts ih =>
    rw [List.findIdx_cons, List.findIdx_cons, ht.id_eq, ρ.table_beq]
    cases t.id == id with
    | true => exact .cons (hfg t t' ht) hts
    | false => exact .cons ht ih

lemma addForeignKey_eq (naming : Naming) (s : Schema) (r : Relationship) :
    s.addForeignKey naming r = (s.place naming r).toOption.elim s fun p =>
      if p.holder.hasColumnNamed p.columnName then s
      else s.modifyTable p.holder.id (·.append p.column) := by
  rw [addForeignKey, resolution]
  cases s.place naming r with
  | error gap => rfl
  | ok p =>
    simp only [Except.toOption, Option.elim_some]
    cases p.holder.hasColumnNamed p.columnName <;> rfl

/-- At its turn a relationship adds a column to both of two corresponding schemas or to neither. -/
lemma Corresponds.addForeignKey (h : s.Corresponds ρ s') (hr : s.Finds r)
    (hr' : s'.Finds (r.rename ρ)) (naming : Naming) :
    (s.addForeignKey naming r).Corresponds ρ (s'.addForeignKey naming (r.rename ρ)) := by
  have hplace := h.place hr hr' naming
  rw [addForeignKey_eq, addForeignKey_eq]
  generalize (s.place naming r).toOption = placed, (s'.place naming (r.rename ρ)).toOption = placed'
    at hplace ⊢
  cases hplace with
  | none => exact h
  | @some p p' hp =>
    rw [Option.elim_some, Option.elim_some, hp.columnName_eq, hp.holder.hasColumnNamed_eq,
      hp.holder.id_eq]
    split
    · exact h
    · exact h.modifyTable p.holder.id fun t t' ht => ht.append hp.column_eq

lemma Corresponds.addForeignKeys (h : s.Corresponds ρ s') {rs : List Relationship}
    (hrs : ∀ r ∈ rs, s.Finds r) (hrs' : ∀ r ∈ rs, s'.Finds (r.rename ρ)) (naming : Naming) :
    (s.addForeignKeys naming rs).Corresponds ρ
      (s'.addForeignKeys naming (rs.map (·.rename ρ))) := by
  induction rs generalizing s s' with
  | nil => exact h
  | cons r rs ih =>
    obtain ⟨hr, hrs⟩ := List.forall_mem_cons.mp hrs
    obtain ⟨hr', hrs'⟩ := List.forall_mem_cons.mp hrs'
    refine ih (h.addForeignKey hr hr' naming) (fun q hq => ?_) (fun q hq => ?_)
    · exact (hrs q hq).grows (Grows.addForeignKey naming s r)
    · exact (hrs' q hq).grows (Grows.addForeignKey naming s' (r.rename ρ))

/-! ### Junctions -/

/-- The junction of a many-to-many relationship hangs on the tables that it joins and their keys. -/
lemma toOption_synthesize (hr : r.isManyToMany = true) (s : Schema) (naming : Naming) :
    (s.synthesize naming r).toOption =
      (s.table? r.sourceTable).bind fun source => (s.table? r.targetTable).bind fun target =>
        source.primaryKey?.bind fun sourceKey => target.primaryKey?.bind fun targetKey =>
          some (Junction.table naming r source target sourceKey targetKey) := by
  rw [synthesize, junctionEnds, get?_index, get?_index, hr]
  cases s.table? r.sourceTable with
  | none => rfl
  | some source =>
    cases s.table? r.targetTable with
    | none => rfl
    | some target =>
      simp only [Option.bind_some]
      cases source.primaryKey? <;> cases target.primaryKey? <;> rfl

lemma anonymous_column {referenced referenced' : Table} {key key' : Column} (naming : Naming)
    (id id' : String) (hreferenced : referenced.Corresponds ρ referenced')
    (hkey : key'.anonymous = key.anonymous) :
    (Junction.column naming id' referenced' key').anonymous =
      (Junction.column naming id referenced key).anonymous := by
  simp only [Junction.column, Column.anonymous, hreferenced.name_eq,
    Column.name_eq_of_anonymous hkey, Column.type_eq_of_anonymous hkey,
    naming.columnName_eq hreferenced.name_eq hkey]

lemma anonymous_junction {source source' target target' : Table}
    {sourceKey sourceKey' targetKey targetKey' : Column} (naming : Naming) (r : Relationship)
    (hsource : source.Corresponds ρ source') (htarget : target.Corresponds ρ target')
    (hsourceKey : sourceKey'.anonymous = sourceKey.anonymous)
    (htargetKey : targetKey'.anonymous = targetKey.anonymous) :
    (Junction.table naming (r.rename ρ) source' target' sourceKey' targetKey').anonymous =
      (Junction.table naming r source target sourceKey targetKey).anonymous := by
  simp only [Table.anonymous, Junction.table, Junction.sourceColumn, Junction.targetColumn,
    List.map_cons, List.map_nil, hsource.name_eq, htarget.name_eq]
  rw [anonymous_column naming _ _ hsource hsourceKey,
    anonymous_column naming _ _ htarget htargetKey]

lemma Corresponds.synthesize (h : s.Corresponds ρ s') (hr : r.isManyToMany = true)
    (naming : Naming) :
    Option.Rel (fun t t' => t'.anonymous = t.anonymous) (s.synthesize naming r).toOption
      (s'.synthesize naming (r.rename ρ)).toOption := by
  rw [toOption_synthesize hr, toOption_synthesize ((r.isManyToMany_rename ρ).trans hr),
    Relationship.rename_sourceTable, Relationship.rename_targetTable]
  refine rel_bind (h.table? r.sourceTable) fun source source' hsource => ?_
  refine rel_bind (h.table? r.targetTable) fun target target' htarget => ?_
  refine rel_bind hsource.primaryKey? fun sourceKey sourceKey' hsourceKey => ?_
  refine rel_bind htarget.primaryKey? fun targetKey targetKey' htargetKey => ?_
  exact .some (anonymous_junction naming r hsource htarget hsourceKey htargetKey)

/-! ### Scripts -/

lemma Corresponds.map_create (h : s.Corresponds ρ s') (d : Dialect) :
    s'.tables.map (·.create d) = s.tables.map (·.create d) := by
  rw [Corresponds] at h
  generalize s.tables = ts, s'.tables = ts' at h ⊢
  induction h with
  | nil => rfl
  | cons ht _ ih => rw [List.map_cons, List.map_cons, ht.create_eq, ih]

namespace RenamedTo

lemma corresponds (h : s.RenamedTo ρ s') : s.Corresponds ρ s' :=
  h.tables.imp fun _ _ ht => ht.corresponds

lemma manyToMany_eq (h : s.RenamedTo ρ s') :
    s'.manyToMany = s.manyToMany.map (·.rename ρ) := by
  rw [manyToMany, h.relationships_eq]
  exact List.filter_map

lemma others_eq (h : s.RenamedTo ρ s') : s'.others = s.others.map (·.rename ρ) := by
  rw [others, h.relationships_eq]
  exact List.filter_map

lemma map_junctions (h : s.RenamedTo ρ s') (naming : Naming) (d : Dialect) :
    (s'.junctions naming).map (·.createJunction d) =
      (s.junctions naming).map (·.createJunction d) := by
  rw [junctions, junctions, h.manyToMany_eq, List.filterMap_map, List.map_filterMap,
    List.map_filterMap]
  refine List.filterMap_congr fun r hr => ?_
  have hmany : r.isManyToMany = true := (List.mem_filter.mp hr).2
  refine map_eq_of_rel (h.corresponds.synthesize hmany naming) fun t t' ht => ?_
  rw [← Table.createJunction_anonymous, ht, Table.createJunction_anonymous]

lemma finds_others (hs : s.FindsColumns) (hr : r ∈ s.others) : s.Finds r := by
  obtain ⟨hmem, hmany⟩ := List.mem_filter.mp hr
  exact hs r hmem (by simpa using hmany)

/-- The tables of both scripts correspond. -/
lemma prepared (h : s.RenamedTo ρ s') (hs : s.FindsColumns) (naming : Naming) :
    (s.prepared naming).Corresponds ρ (s'.prepared naming) := by
  rw [Corresponds, prepared_tables, prepared_tables, h.others_eq]
  refine h.corresponds.addForeignKeys (fun r hr => ?_) (fun r hr => ?_) naming
  · exact finds_others hs hr
  · exact h.finds (finds_others hs hr)

lemma map_placements (h : s.RenamedTo ρ s') (hs : s.FindsColumns) (naming : Naming) :
    (s'.placements naming).map (·.statement) = (s.placements naming).map (·.statement) := by
  rw [placements, placements, h.others_eq, List.filterMap_map, List.map_filterMap,
    List.map_filterMap]
  refine List.filterMap_congr fun r hr => ?_
  have hfinds := finds_others hs hr
  have hplace := (h.prepared hs naming).place (hfinds.grows (grows_prepared naming s))
    ((h.finds hfinds).grows (grows_prepared naming s')) naming
  exact map_eq_of_rel hplace fun p p' hp => hp.statement_eq

end RenamedTo

/-- A schema whose relationships find their columns and one that it becomes by a renaming, with its
tables wherever they have been moved, have the same script. -/
theorem script_renamed (h : s.RenamedTo ρ s') (hs : s.FindsColumns) (d : Dialect) (naming : Naming)
    (generatedAt : String) : s'.script d naming generatedAt = s.script d naming generatedAt := by
  rw [script, script, statements, statements, h.map_junctions, (h.prepared hs naming).map_create,
    h.map_placements hs]

/-- Two table ids change places, and words are put before column ids and relationship ids. -/
private def swapping : Renaming where
  table id := if id = "a" then "b" else if id = "b" then "a" else id
  column id := "column " ++ id
  relationship id := "relationship " ++ id
  table_injective := by
    intro id id' h
    grind

/-- Two tables of one id and another one, with relationships of all kinds. The last one leads to a
table that does not exist, and the first two share their id. -/
private def sharedIds : Schema where
  tables := [.withKey "a" "A" "a", .withKey "b" "B" "b", .withKey "a" "Hidden" "h"]
  relationships := [
    ⟨"1", "a", "a-a", "b", "b-b", .oneToMany, false, false, .cascade, .cascade⟩,
    ⟨"1", "a", "a-a", "a", "a-a", .manyToOne, true, false, .cascade, .noAction⟩,
    ⟨"2", "b", "", "a", "", .manyToMany, false, false, .cascade, .cascade⟩,
    ⟨"3", "b", "x", "missing", "y", .oneToOne, true, true, .cascade, .cascade⟩]

/-- The same with other ids, and the first table moved away. -/
private def swappedIds : Schema where
  tables := [
    ⟨"b", "A", [(Column.keyOf "a" "a").rename swapping], .nan, .infinite true⟩,
    ⟨"a", "B", [(Column.keyOf "b" "b").rename swapping], .zero, .zero⟩,
    ⟨"b", "Hidden", [(Column.keyOf "a" "h").rename swapping], .zero, .zero⟩]
  relationships := [
    ⟨"relationship 1", "b", "column a-a", "a", "column b-b", .oneToMany, false, false, .cascade,
      .cascade⟩,
    ⟨"relationship 1", "b", "column a-a", "b", "column a-a", .manyToOne, true, false, .cascade,
      .noAction⟩,
    ⟨"relationship 2", "a", "column ", "b", "column ", .manyToMany, false, false, .cascade,
      .cascade⟩,
    ⟨"relationship 3", "a", "column x", "missing", "column y", .oneToOne, true, true, .cascade,
      .cascade⟩]

theorem script_renamed_sharedIds :
    sharedIds.RenamedTo swapping swappedIds ∧ sharedIds.FindsColumns ∧
      swappedIds.script .mysql .prefixed "" = sharedIds.script .mysql .prefixed "" ∧
      (sharedIds.junctions .prefixed).length = 1 ∧
      (sharedIds.placements .prefixed).map (·.columnName) = ["A_a", "A_a"] := by
  have h : sharedIds.RenamedTo swapping swappedIds := by
    refine ⟨.cons ⟨?_, rfl, rfl⟩ (.cons ⟨?_, rfl, rfl⟩ (.cons ⟨?_, rfl, rfl⟩ .nil)), ?_⟩ <;> decide
  have hs : sharedIds.FindsColumns := by
    have hall : ∀ r ∈ sharedIds.relationships, r.isManyToMany = false →
        ((sharedIds.table? r.sourceTable).all fun source =>
          (sharedIds.table? r.targetTable).all fun target => r.findsColumns source target) := by
      decide
    intro r hr hmany source target hsource htarget
    simpa [hsource, htarget] using hall r hr hmany
  exact ⟨h, hs, script_renamed h hs .mysql .prefixed "", by decide +kernel, by decide +kernel⟩

end Schema

end SchemaGraph
