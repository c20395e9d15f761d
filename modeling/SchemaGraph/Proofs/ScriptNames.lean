import Mathlib.Data.List.Nodup
import Mathlib.Data.List.Perm.Basic
import SchemaGraph.Proofs.Materialization
import SchemaGraph.Proofs.References

/-!
# Names in a script

The name of a junction is made of the names of the tables that it joins, and the name of a
constraint of those of its tables, with underscores between them. A script never looks whether such
a name is given already. `Schema.namesApart_iff` says when no two tables and no two constraints of a
script have one name all the same. Key constraints need no care of their own: what counts is that no
junction has the name of a table or of another junction, and that the names of the foreign keys are
distinct. Where no table has an underscore in its name, this can be told from the relationships
alone: no two of those with junctions and no two foreign keys lead from one table to the same other
one, and no junction joins a table to itself.
-/

namespace SchemaGraph

/-! ### Joined names -/

/-- Names with underscores between them. -/
def underscored (names : List String) : String :=
  "_".intercalate names

/-- A name that is not empty and has no underscore. -/
def PlainName (name : String) : Prop :=
  name ≠ "" ∧ '_' ∉ name.toList

instance (name : String) : Decidable (PlainName name) :=
  inferInstanceAs (Decidable (_ ∧ _))

lemma splitOn_underscored {names : List String} (hne : names ≠ [])
    (h : ∀ name ∈ names, PlainName name) :
    (underscored names).toList.splitOn '_' = names.map String.toList := by
  rw [underscored, String.toList_intercalate]
  refine List.splitOn_intercalate '_' (fun l hl => ?_) (by simpa using hne)
  obtain ⟨name, hname, rfl⟩ := List.mem_map.mp hl
  exact (h name hname).2

/-- Plain names can be told from what they are joined to. -/
lemma underscored_inj {name name' : String} {names names' : List String}
    (h : ∀ n ∈ name :: names, PlainName n) (h' : ∀ n ∈ name' :: names', PlainName n) :
    underscored (name :: names) = underscored (name' :: names') ↔
      name = name' ∧ names = names' := by
  rw [← List.cons.injEq]
  refine ⟨fun heq => ?_, congrArg underscored⟩
  have hmap : (name :: names).map String.toList = (name' :: names').map String.toList := by
    rw [← splitOn_underscored (List.cons_ne_nil _ _) h, heq,
      splitOn_underscored (List.cons_ne_nil _ _) h']
  exact List.map_injective_iff.mpr (fun _ _ => String.toList_injective) hmap

/-! ### Reading statements -/

/-- The name of a constraint. -/
def TableConstraint.name : TableConstraint → String
  | .primaryKey name _ => name
  | .foreignKey name .. => name

namespace Statement

/-- The name of the table that a statement creates. -/
def createdName? : Statement → Option String
  | .createTable name .. => some name
  | _ => none

/-- The names of the constraints that a statement declares. -/
def constraintNames : Statement → List String
  | .header .. => []
  | .createTable _ _ constraints => constraints.map (·.name)
  | .addForeignKey _ constraint .. => [constraint]

end Statement

/-- A created table declares its key and nothing else. -/
lemma Table.constraintNames_create (t : Table) (d : Dialect) :
    (t.create d).constraintNames = if t.primaryKey?.isSome then ["PK_" ++ t.name] else [] := by
  have hkeys : t.primaryKey? = (t.columns.filter (·.primaryKey)).head? := by
    rw [List.head?_filter, Table.primaryKey?]
  rw [hkeys, create, Statement.constraintNames, keyConstraint?]
  cases t.columns.filter (·.primaryKey) with
  | nil => rfl
  | cons => rfl

/-- The name of the constraint of a foreign key from one table to another. -/
def foreignKeyName (holder referenced : String) : String :=
  "FK_" ++ holder ++ "_" ++ referenced

/-- Only foreign keys have such names. -/
lemma foreignKeyName_ne (holder referenced table : String) :
    "PK_" ++ table ≠ foreignKeyName holder referenced := by
  intro h
  simpa [foreignKeyName] using congrArg (·.toList.head?) h

/-- The name of the constraint of a placed foreign key. -/
def Placement.constraintName (p : Placement) : String :=
  foreignKeyName p.holder.name p.referenced.name

namespace JunctionEnds

variable {e : JunctionEnds} {naming : Naming} {r : Relationship} {t : Table}

/-- The name of the foreign key constraint of the junction to a table with its key, where both have
names. -/
def foreignKeyName? (e : JunctionEnds) (t : Table) (key : Column) : Option String :=
  if t.name.isEmpty || key.name.isEmpty then none else some (foreignKeyName e.name t.name)

/-- The names of the foreign key constraints of the junction. -/
def foreignKeyNames (e : JunctionEnds) : List String :=
  (e.foreignKeyName? e.source e.sourceKey).toList ++ (e.foreignKeyName? e.target e.targetKey).toList

lemma foreignKeyConstraint?_column (e : JunctionEnds) (naming : Naming) (r : Relationship)
    (id : String) (t : Table) (key : Column) :
    ((e.junction naming r).foreignKeyConstraint? (Junction.column naming id t key)).map (·.name) =
      e.foreignKeyName? t key := by
  simp only [Table.foreignKeyConstraint?, Junction.column, foreignKeyName?]
  split
  · rfl
  · rfl

/-- A junction declares its key and its foreign keys. -/
lemma constraintNames_createJunction (d : Dialect) :
    ((e.junction naming r).createJunction d).constraintNames =
      ("PK_" ++ e.name) :: e.foreignKeyNames := by
  have hforeign : ((e.junction naming r).columns.filterMap
      (e.junction naming r).foreignKeyConstraint?).map (·.name) = e.foreignKeyNames := by
    show (List.filterMap _ [Junction.sourceColumn naming r e.source e.sourceKey,
      Junction.targetColumn naming r e.target e.targetKey]).map _ = _
    rw [List.map_filterMap, foreignKeyNames, Junction.sourceColumn, Junction.targetColumn]
    simp only [List.filterMap_cons, List.filterMap_nil, foreignKeyConstraint?_column]
    cases e.foreignKeyName? e.source e.sourceKey <;>
      cases e.foreignKeyName? e.target e.targetKey <;> rfl
  rw [Table.createJunction, Statement.constraintNames, List.map_append, hforeign]
  rfl

lemma foreignKeyName?_eq_some {key : Column} {name : String}
    (h : e.foreignKeyName? t key = some name) : name = foreignKeyName e.name t.name := by
  rw [foreignKeyName?] at h
  split at h
  · cases h
  · exact (Option.some.inj h).symm

lemma exists_of_mem_foreignKeyNames {name : String} (h : name ∈ e.foreignKeyNames) :
    ∃ holder referenced, name = foreignKeyName holder referenced := by
  simp only [foreignKeyNames, List.mem_append, Option.mem_toList] at h
  rcases h with h | h
  · exact ⟨_, _, foreignKeyName?_eq_some h⟩
  · exact ⟨_, _, foreignKeyName?_eq_some h⟩

end JunctionEnds

namespace Schema

variable {s : Schema} {d : Dialect} {naming : Naming} {generatedAt : String}

/-! ### The names of a script -/

/-- The names of the tables are distinct. -/
def DistinctNames (s : Schema) : Prop :=
  (s.tables.map (·.name)).Nodup

instance (s : Schema) : Decidable s.DistinctNames :=
  inferInstanceAs (Decidable (List.Nodup _))

/-- No two statements of the script create tables of one name, and no two constraints in it have one
name. -/
def NamesApart (s : Schema) (d : Dialect) (naming : Naming) (generatedAt : String) : Prop :=
  ((s.statements d naming generatedAt).filterMap (·.createdName?)).Nodup ∧
    ((s.statements d naming generatedAt).flatMap (·.constraintNames)).Nodup

instance (s : Schema) (d : Dialect) (naming : Naming) (generatedAt : String) :
    Decidable (s.NamesApart d naming generatedAt) :=
  inferInstanceAs (Decidable (_ ∧ _))

/-- The ends of the junctions of the script. -/
def ends (s : Schema) : List JunctionEnds :=
  s.manyToMany.filterMap fun r => (s.junctionEnds r).toOption

/-- The names of the foreign keys of the script: those within junctions and those that are added. -/
def foreignKeyNames (s : Schema) (naming : Naming) : List String :=
  s.ends.flatMap (·.foreignKeyNames) ++ (s.placements naming).map (·.constraintName)

/-- What depends on the ends of a junction only can be read off the ends. -/
lemma map_junctions {α : Type} {f : Table → α} {g : JunctionEnds → α}
    (h : ∀ e r, f (JunctionEnds.junction e naming r) = g e) :
    (s.junctions naming).map f = s.ends.map g := by
  rw [junctions, ends, List.map_filterMap, List.map_filterMap]
  refine List.filterMap_congr fun r _ => ?_
  rw [synthesize]
  cases s.junctionEnds r with
  | error gap => rfl
  | ok e => exact congrArg some (h e r)

lemma map_prepared_name (s : Schema) (naming : Naming) :
    (s.prepared naming).tables.map (·.name) = s.tables.map (·.name) :=
  (grows_prepared naming s).map_tables Table.Grows.name_eq

lemma createdNames_statements :
    (s.statements d naming generatedAt).filterMap (·.createdName?) =
      s.ends.map (·.name) ++ s.tables.map (·.name) := by
  have hjunctions : (s.junctions naming).map (·.name) = s.ends.map (·.name) :=
    map_junctions fun _ _ => rfl
  rw [← hjunctions, ← map_prepared_name s naming, statements]
  simp [Placement.statement, Statement.createdName?, Table.createJunction, Table.create]

/-- The keys are declared table by table, and junctions declare theirs before their foreign keys. -/
lemma constraintNames_statements :
    (s.statements d naming generatedAt).flatMap (·.constraintNames) =
      s.ends.flatMap (fun e => ("PK_" ++ e.name) :: e.foreignKeyNames) ++
        ((s.prepared naming).tables.filter (·.primaryKey?.isSome)).map ("PK_" ++ ·.name) ++
        (s.placements naming).map (·.constraintName) := by
  have hjunctions : (s.junctions naming).flatMap (fun t => (t.createJunction d).constraintNames) =
      s.ends.flatMap fun e => ("PK_" ++ e.name) :: e.foreignKeyNames := by
    rw [List.flatMap_def, List.flatMap_def,
      map_junctions fun _ _ => JunctionEnds.constraintNames_createJunction d]
  have hkeys : ∀ ts : List Table, ts.flatMap (fun t => (t.create d).constraintNames) =
      (ts.filter (·.primaryKey?.isSome)).map ("PK_" ++ ·.name) := by
    intro ts
    induction ts with
    | nil => rfl
    | cons t ts ih =>
      rw [List.flatMap_cons, Table.constraintNames_create, ih, List.filter_cons]
      split
      · rfl
      · rfl
  have hplacements : (s.placements naming).map (·.constraintName) =
      (s.placements naming).flatMap fun p => p.statement.constraintNames :=
    List.map_eq_flatMap
  have hheader : (Statement.header d.name generatedAt).constraintNames = [] := rfl
  rw [← hjunctions, ← hkeys, hplacements, statements]
  simp only [List.flatMap_append, List.flatMap_cons, List.flatMap_map, hheader, List.nil_append]

lemma exists_of_mem_foreignKeyNames {name : String} (h : name ∈ s.foreignKeyNames naming) :
    ∃ holder referenced, name = foreignKeyName holder referenced := by
  rcases List.mem_append.mp h with h | h
  · obtain ⟨e, -, he⟩ := List.mem_flatMap.mp h
    exact e.exists_of_mem_foreignKeyNames he
  · obtain ⟨p, -, rfl⟩ := List.mem_map.mp h
    exact ⟨_, _, rfl⟩

/-- Keys are named after their tables, and not as foreign keys are. So where the tables can be told
apart it is only the foreign keys whose names can clash. -/
lemma nodup_constraintNames (h : (s.ends.map (·.name) ++ s.tables.map (·.name)).Nodup) :
    ((s.statements d naming generatedAt).flatMap (·.constraintNames)).Nodup ↔
      (s.foreignKeyNames naming).Nodup := by
  let keys := s.ends.map ("PK_" ++ ·.name) ++
    ((s.prepared naming).tables.filter (·.primaryKey?.isSome)).map ("PK_" ++ ·.name)
  have hperm : ((s.statements d naming generatedAt).flatMap (·.constraintNames)).Perm
      (keys ++ s.foreignKeyNames naming) := by
    rw [constraintNames_statements]
    have hends := List.map_append_flatMap_perm s.ends ("PK_" ++ ·.name) (·.foreignKeyNames)
    refine ((hends.symm.append_right _).append_right _).trans (List.perm_iff_count.mpr ?_)
    intro name
    simp only [keys, foreignKeyNames, List.count_append]
    omega
  have hkeys : keys.Nodup := by
    have hsub : keys.Sublist ((s.ends.map (·.name) ++ s.tables.map (·.name)).map ("PK_" ++ ·)) := by
      rw [← map_prepared_name s naming, List.map_append, List.map_map, List.map_map]
      exact (List.Sublist.refl _).append (List.filter_sublist.map _)
    exact (h.map fun _ _ => (String.append_right_inj "PK_").mp).sublist hsub
  have hapart : keys.Disjoint (s.foreignKeyNames naming) := by
    intro name hkey hforeign
    obtain ⟨holder, referenced, rfl⟩ := exists_of_mem_foreignKeyNames hforeign
    rcases List.mem_append.mp hkey with hkey | hkey
    · obtain ⟨e, -, he⟩ := List.mem_map.mp hkey
      exact foreignKeyName_ne _ _ _ he
    · obtain ⟨t, -, ht⟩ := List.mem_map.mp hkey
      exact foreignKeyName_ne _ _ _ ht
  rw [hperm.nodup_iff, List.nodup_append']
  exact ⟨fun hall => hall.2.1, fun hforeign => ⟨hkeys, hforeign, hapart⟩⟩

end Schema

/-! ### Plain names -/

/-- The ids of the tables that a junction joins. -/
def JunctionEnds.ids (e : JunctionEnds) : String × String :=
  (e.source.id, e.target.id)

/-- The ids of the tables on both sides of a foreign key. -/
def Placement.ids (p : Placement) : String × String :=
  (p.holder.id, p.referenced.id)

/-- The names of both tables are plain, and those of their keys are not empty. -/
structure JunctionEnds.Plain (e : JunctionEnds) : Prop where
  source : PlainName e.source.name
  target : PlainName e.target.name
  sourceKey_ne : e.sourceKey.name ≠ ""
  targetKey_ne : e.targetKey.name ≠ ""

lemma foreignKeyName_eq (holder referenced : String) :
    foreignKeyName holder referenced = "FK_" ++ underscored [holder, referenced] := by
  simp [foreignKeyName, underscored, String.intercalate_cons_cons, String.append_assoc]

lemma foreignKeyName_inj {holder holder' referenced referenced' : String} (hh : PlainName holder)
    (hr : PlainName referenced) (hh' : PlainName holder') (hr' : PlainName referenced') :
    foreignKeyName holder referenced = foreignKeyName holder' referenced' ↔
      holder = holder' ∧ referenced = referenced' := by
  rw [foreignKeyName_eq, foreignKeyName_eq, String.append_right_inj,
    underscored_inj (by simp [hh, hr]) (by simp [hh', hr'])]
  simp

namespace JunctionEnds

variable {e e' : JunctionEnds} {name name' holder referenced : String}

lemma name_eq (e : JunctionEnds) : e.name = underscored [e.source.name, e.target.name] := by
  simp [JunctionEnds.name, underscored, String.intercalate_cons_cons, String.append_assoc]

lemma foreignKeyName_name_eq (e : JunctionEnds) (referenced : String) :
    foreignKeyName e.name referenced =
      "FK_" ++ underscored [e.source.name, e.target.name, referenced] := by
  simp [foreignKeyName, JunctionEnds.name, underscored, String.intercalate_cons_cons,
    String.append_assoc]

lemma Plain.name_inj (h : e.Plain) (h' : e'.Plain) :
    e.name = e'.name ↔ e.source.name = e'.source.name ∧ e.target.name = e'.target.name := by
  rw [name_eq, name_eq, underscored_inj (by simp [h.source, h.target])
    (by simp [h'.source, h'.target])]
  simp

/-- A junction has an underscore in its name. -/
lemma Plain.name_ne (h : e.Plain) (hname : PlainName name) : e.name ≠ name := by
  have hsingle : name = underscored [name] := by
    simp [underscored]
  rw [name_eq, hsingle, ne_eq, underscored_inj (by simp [h.source, h.target])
    (by simp [hname])]
  simp

lemma Plain.foreignKeyName_name_inj (h : e.Plain) (h' : e'.Plain) (hname : PlainName name)
    (hname' : PlainName name') :
    foreignKeyName e.name name = foreignKeyName e'.name name' ↔
      (e.source.name = e'.source.name ∧ e.target.name = e'.target.name) ∧ name = name' := by
  rw [foreignKeyName_name_eq, foreignKeyName_name_eq, String.append_right_inj,
    underscored_inj (by simp [h.source, h.target, hname])
      (by simp [h'.source, h'.target, hname'])]
  simp [and_assoc]

lemma Plain.foreignKeyName_name_ne (h : e.Plain) (hname : PlainName name)
    (hholder : PlainName holder) (hreferenced : PlainName referenced) :
    foreignKeyName e.name name ≠ foreignKeyName holder referenced := by
  rw [foreignKeyName_name_eq, foreignKeyName_eq, ne_eq, String.append_right_inj,
    underscored_inj (by simp [h.source, h.target, hname])
      (by simp [hholder, hreferenced])]
  simp

lemma Plain.foreignKeyNames_eq (h : e.Plain) :
    e.foreignKeyNames =
      [foreignKeyName e.name e.source.name, foreignKeyName e.name e.target.name] := by
  simp [foreignKeyNames, foreignKeyName?, h.source.1, h.target.1, h.sourceKey_ne, h.targetKey_ne]

/-- The foreign keys of a junction clash when it joins a table to itself. -/
lemma Plain.nodup_foreignKeyNames (h : e.Plain) :
    e.foreignKeyNames.Nodup ↔ e.source.name ≠ e.target.name := by
  rw [h.foreignKeyNames_eq, List.nodup_cons, List.mem_singleton,
    h.foreignKeyName_name_inj h h.source h.target]
  simp

/-- Those of two junctions clash when both join the same tables. -/
lemma Plain.disjoint_foreignKeyNames (h : e.Plain) (h' : e'.Plain) :
    e.foreignKeyNames.Disjoint e'.foreignKeyNames ↔ e.name ≠ e'.name := by
  rw [h.foreignKeyNames_eq, h'.foreignKeyNames_eq]
  constructor
  · intro hdisjoint hname
    obtain ⟨hsource, -⟩ := (h.name_inj h').mp hname
    refine hdisjoint List.mem_cons_self ?_
    rw [hname, hsource]
    exact List.mem_cons_self
  · intro hname x hx hx'
    refine hname ((h.name_inj h').mpr ?_)
    rcases List.mem_pair.mp hx with rfl | rfl <;> rcases List.mem_pair.mp hx' with hx' | hx'
    · exact ((h.foreignKeyName_name_inj h' h.source h'.source).mp hx').1
    · exact ((h.foreignKeyName_name_inj h' h.source h'.target).mp hx').1
    · exact ((h.foreignKeyName_name_inj h' h.target h'.source).mp hx').1
    · exact ((h.foreignKeyName_name_inj h' h.target h'.target).mp hx').1

end JunctionEnds

/-! ### Schemas with plain names -/

/-- Functions that tell the same items apart are injective on them together. -/
lemma nodup_map_congr {α β γ : Type} {f : α → β} {g : α → γ} {items : List α}
    (h : ∀ a ∈ items, ∀ b ∈ items, f a = f b ↔ g a = g b) :
    (items.map f).Nodup ↔ (items.map g).Nodup := by
  rw [List.Nodup, List.Nodup, List.pairwise_map, List.pairwise_map]
  exact List.Pairwise.iff_of_mem fun ha hb => not_congr (h _ ha _ hb)

namespace Schema

variable {s : Schema} {naming : Naming} {e e' : JunctionEnds} {p : Placement} {t t' : Table}

/-- The names of the tables are plain, and those of their keys are not empty. -/
structure PlainNames (s : Schema) : Prop where
  tables : ∀ t ∈ s.tables, PlainName t.name
  keys : ∀ t ∈ s.tables, ∀ c ∈ t.columns, c.primaryKey = true → c.name ≠ ""

lemma PlainNames.of_table? (h : s.PlainNames) {id : String} (ht : s.table? id = some t) :
    PlainName t.name :=
  h.tables t (mem_of_table? ht)

lemma PlainNames.key_ne (h : s.PlainNames) {id : String} {key : Column}
    (ht : s.table? id = some t) (hkey : t.primaryKey? = some key) : key.name ≠ "" :=
  h.keys t (mem_of_table? ht) key (List.mem_of_find?_eq_some hkey) (List.find?_some hkey)

lemma mem_ends : e ∈ s.ends ↔ ∃ r ∈ s.manyToMany, s.junctionEnds r = .ok e :=
  mem_filterMap_toOption

lemma table?_self {id : String} (h : s.table? id = some t) : s.table? t.id = some t := by
  rw [table?_id h, h]

lemma table?_of_mem_ends (h : e ∈ s.ends) :
    s.table? e.source.id = some e.source ∧ s.table? e.target.id = some e.target := by
  obtain ⟨r, -, hr⟩ := mem_ends.mp h
  obtain ⟨-, ⟨hsource, -⟩, htarget, -⟩ := junctionEnds_eq_ok hr
  exact ⟨table?_self hsource, table?_self htarget⟩

/-- Where names are distinct, tables that are found under their ids can be told apart by either. -/
lemma DistinctNames.name_eq_iff (h : s.DistinctNames) (ht : s.table? t.id = some t)
    (ht' : s.table? t'.id = some t') : t.name = t'.name ↔ t.id = t'.id := by
  constructor
  · intro hname
    exact congrArg (·.id) (List.inj_on_of_nodup_map h (mem_of_table? ht) (mem_of_table? ht') hname)
  · intro hid
    rw [hid, ht'] at ht
    exact congrArg (·.name) (Option.some.inj ht).symm

lemma PlainNames.ends (h : s.PlainNames) (he : e ∈ s.ends) : e.Plain := by
  obtain ⟨r, -, hr⟩ := mem_ends.mp he
  obtain ⟨-, ⟨hsource, hsourceKey⟩, htarget, htargetKey⟩ := junctionEnds_eq_ok hr
  exact ⟨h.of_table? hsource, h.of_table? htarget, h.key_ne hsource hsourceKey,
    h.key_ne htarget htargetKey⟩

/-- Junctions have one name just when they join the same tables. -/
lemma PlainNames.name_eq_iff (h : s.PlainNames) (hs : s.DistinctNames) (he : e ∈ s.ends)
    (he' : e' ∈ s.ends) : e.name = e'.name ↔ e.ids = e'.ids := by
  obtain ⟨hsource, htarget⟩ := table?_of_mem_ends he
  obtain ⟨hsource', htarget'⟩ := table?_of_mem_ends he'
  rw [(h.ends he).name_inj (h.ends he'), hs.name_eq_iff hsource hsource',
    hs.name_eq_iff htarget htarget', JunctionEnds.ids, JunctionEnds.ids, Prod.mk.injEq]

lemma PlainNames.nodup_names (h : s.PlainNames) (hs : s.DistinctNames) :
    (s.ends.map (·.name) ++ s.tables.map (·.name)).Nodup ↔ (s.ends.map (·.ids)).Nodup := by
  rw [List.nodup_append, nodup_map_congr fun _ he _ he' => h.name_eq_iff hs he he']
  refine ⟨fun hall => hall.1, fun hends => ⟨hends, hs, ?_⟩⟩
  intro name hname name' hname'
  obtain ⟨e, he, rfl⟩ := List.mem_map.mp hname
  obtain ⟨t, ht, rfl⟩ := List.mem_map.mp hname'
  exact (h.ends he).name_ne (h.tables t ht)

/-- Foreign keys within junctions clash when two junctions join the same tables or one joins a table
to itself. -/
lemma PlainNames.nodup_ends (h : s.PlainNames) (hs : s.DistinctNames) :
    (s.ends.flatMap (·.foreignKeyNames)).Nodup ↔
      (∀ e ∈ s.ends, e.source.id ≠ e.target.id) ∧ (s.ends.map (·.ids)).Nodup := by
  have hpairs : (s.ends.map (·.ids)).Nodup ↔ s.ends.Pairwise (fun e e' => e.ids ≠ e'.ids) :=
    List.pairwise_map
  rw [List.nodup_flatMap, hpairs]
  refine and_congr (forall₂_congr fun e he => ?_) (List.Pairwise.iff_of_mem fun {e e'} he he' => ?_)
  · obtain ⟨hsource, htarget⟩ := table?_of_mem_ends he
    rw [(h.ends he).nodup_foreignKeyNames, ne_eq, hs.name_eq_iff hsource htarget]
  · rw [Function.onFun_apply, (h.ends he).disjoint_foreignKeyNames (h.ends he'), ne_eq,
      h.name_eq_iff hs he he']

lemma PlainNames.prepared (h : s.PlainNames) (ht : t ∈ (s.prepared naming).tables) :
    PlainName t.name := by
  have hname : t.name ∈ s.tables.map (·.name) :=
    map_prepared_name s naming ▸ List.mem_map_of_mem ht
  obtain ⟨u, hu, heq⟩ := List.mem_map.mp hname
  exact heq ▸ h.tables u hu

lemma PlainNames.placements (h : s.PlainNames) (hp : p ∈ s.placements naming) :
    PlainName p.holder.name ∧ PlainName p.referenced.name := by
  obtain ⟨r, -, hr⟩ := mem_placements.mp hp
  exact ⟨h.prepared (mem_of_table? (table?_holder hr)),
    h.prepared (mem_of_table? (table?_referenced hr))⟩

/-- Foreign keys that are added clash when two of them lead from one table to one other. -/
lemma PlainNames.nodup_placements (h : s.PlainNames) (hs : s.DistinctNames) :
    ((s.placements naming).map (·.constraintName)).Nodup ↔
      ((s.placements naming).map (·.ids)).Nodup := by
  have hprepared : (s.prepared naming).DistinctNames := by
    rw [DistinctNames, map_prepared_name]
    exact hs
  refine nodup_map_congr fun p hp q hq => ?_
  obtain ⟨hholder, hreferenced⟩ := h.placements hp
  obtain ⟨hholder', hreferenced'⟩ := h.placements hq
  obtain ⟨r, -, hr⟩ := mem_placements.mp hp
  obtain ⟨r', -, hr'⟩ := mem_placements.mp hq
  rw [Placement.constraintName, Placement.constraintName,
    foreignKeyName_inj hholder hreferenced hholder' hreferenced',
    hprepared.name_eq_iff (table?_holder hr) (table?_holder hr'),
    hprepared.name_eq_iff (table?_referenced hr) (table?_referenced hr'), Placement.ids,
    Placement.ids, Prod.mk.injEq]

lemma PlainNames.nodup_foreignKeyNames (h : s.PlainNames) (hs : s.DistinctNames) :
    (s.foreignKeyNames naming).Nodup ↔
      ((∀ e ∈ s.ends, e.source.id ≠ e.target.id) ∧ (s.ends.map (·.ids)).Nodup) ∧
        ((s.placements naming).map (·.ids)).Nodup := by
  have hapart : ∀ name ∈ s.ends.flatMap (·.foreignKeyNames),
      ∀ name' ∈ (s.placements naming).map (·.constraintName), name ≠ name' := by
    intro name hname name' hname'
    obtain ⟨e, he, hname⟩ := List.mem_flatMap.mp hname
    obtain ⟨p, hp, rfl⟩ := List.mem_map.mp hname'
    obtain ⟨hholder, hreferenced⟩ := h.placements hp
    rw [(h.ends he).foreignKeyNames_eq] at hname
    rcases List.mem_pair.mp hname with rfl | rfl
    · exact (h.ends he).foreignKeyName_name_ne (h.ends he).source hholder hreferenced
    · exact (h.ends he).foreignKeyName_name_ne (h.ends he).target hholder hreferenced
  rw [foreignKeyNames, List.nodup_append, h.nodup_ends hs, h.nodup_placements hs]
  exact and_congr_right fun _ => and_iff_left hapart

/-! ### When no names clash -/

/-- Where the names of the tables are distinct, no two created tables and no two constraints of a
script have one name just when the names of the junctions are new and distinct and so are those of
the foreign keys. If the names are plain, these are distinct just when no two junctions join the
same tables, no junction joins a table to itself, and no two foreign keys are added from one table
to the same other one. -/
theorem namesApart_iff (hs : s.DistinctNames) (d : Dialect) (naming : Naming)
    (generatedAt : String) :
    (s.NamesApart d naming generatedAt ↔
      (s.ends.map (·.name)).Nodup ∧ (∀ e ∈ s.ends, ∀ t ∈ s.tables, e.name ≠ t.name) ∧
        (s.foreignKeyNames naming).Nodup) ∧
    (s.PlainNames → (s.NamesApart d naming generatedAt ↔
      (s.ends.map (·.ids)).Nodup ∧ (∀ e ∈ s.ends, e.source.id ≠ e.target.id) ∧
        ((s.placements naming).map (·.ids)).Nodup)) := by
  have hnames : s.NamesApart d naming generatedAt ↔
      (s.ends.map (·.name) ++ s.tables.map (·.name)).Nodup ∧ (s.foreignKeyNames naming).Nodup := by
    rw [NamesApart, createdNames_statements]
    exact and_congr_right fun h => nodup_constraintNames h
  constructor
  · rw [hnames, List.nodup_append]
    constructor
    · rintro ⟨⟨hends, -, hfree⟩, hforeign⟩
      exact ⟨hends, fun e he t ht => hfree _ (List.mem_map_of_mem he) _ (List.mem_map_of_mem ht),
        hforeign⟩
    · rintro ⟨hends, hfree, hforeign⟩
      refine ⟨⟨hends, hs, fun name hname name' hname' => ?_⟩, hforeign⟩
      obtain ⟨e, he, rfl⟩ := List.mem_map.mp hname
      obtain ⟨t, ht, rfl⟩ := List.mem_map.mp hname'
      exact hfree e he t ht
  · intro hplain
    rw [hnames, hplain.nodup_names hs, hplain.nodup_foreignKeyNames hs]
    tauto

/-- Two tables, joined in both directions, with a foreign key besides. -/
private def joinedBothWays : Schema where
  tables := [.withKey "a" "A" "id", .withKey "b" "B" "id"]
  relationships := [
    ⟨"r1", "a", "a-id", "b", "b-id", .manyToMany, false, false, .cascade, .cascade⟩,
    ⟨"r2", "b", "b-id", "a", "a-id", .manyToMany, false, false, .cascade, .cascade⟩,
    ⟨"r3", "a", "a-id", "b", "b-id", .oneToMany, false, false, .cascade, .cascade⟩]

theorem namesApart_iff_joinedBothWays :
    joinedBothWays.DistinctNames ∧ joinedBothWays.PlainNames ∧
      joinedBothWays.ends.length = 2 ∧ (joinedBothWays.placements .prefixed).length = 1 ∧
      joinedBothWays.NamesApart .access .prefixed "" := by
  have hs : joinedBothWays.DistinctNames := by decide
  have hplain : joinedBothWays.PlainNames := ⟨by decide, by decide⟩
  refine ⟨hs, hplain, by decide +kernel, by decide +kernel, ?_⟩
  exact ((namesApart_iff hs .access .prefixed "").2 hplain).mpr (by decide +kernel)

/-- Two tables, joined twice in the same direction. -/
private def joinedTwice : Schema where
  tables := [.withKey "a" "A" "a", .withKey "b" "B" "b"]
  relationships := [
    ⟨"r1", "a", "a-a", "b", "b-b", .manyToMany, false, false, .cascade, .cascade⟩,
    ⟨"r2", "a", "a-a", "b", "b-b", .manyToMany, false, false, .cascade, .cascade⟩]

/-- The script creates one junction twice, with the same constraints. -/
theorem not_namesApart_joinedTwice :
    joinedTwice.DistinctNames ∧ joinedTwice.PlainNames ∧
      (joinedTwice.statements .access .bare "").filterMap (·.createdName?) =
        ["A_B", "A_B", "A", "B"] ∧
      (joinedTwice.statements .access .bare "").flatMap (·.constraintNames) =
        ["PK_A_B", "FK_A_B_A", "FK_A_B_B", "PK_A_B", "FK_A_B_A", "FK_A_B_B", "PK_A", "PK_B"] ∧
      ¬joinedTwice.NamesApart .access .bare "" :=
  ⟨by decide, ⟨by decide, by decide⟩, by decide +kernel, by decide +kernel, by decide +kernel⟩

end Schema

end SchemaGraph
