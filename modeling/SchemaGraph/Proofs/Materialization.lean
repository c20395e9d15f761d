import SchemaGraph.Proofs.AppendedTable
import SchemaGraph.Proofs.FixedPoint
import SchemaGraph.Sql.Script

/-!
# From a written junction to a table

A script writes a junction for a many-to-many relationship, and a schema can be given the same
junction for good. `Schema.statements_materialize` says what this does to the script: the statement
of the junction moves behind the other tables, and its foreign keys move out of it to the end of the
script. Nothing else changes, since no other relationship refers to the new table and the two links
to it find their columns in it.
-/

namespace SchemaGraph

/-! ### The foreign keys of a junction -/

/-- A foreign key of a junction: the names of its constraint, of its column, and of the table and
the key that it refers to. -/
structure JunctionReference where
  constraint : String
  column : String
  table : String
  key : String
deriving DecidableEq, Repr

namespace JunctionReference

/-- The constraint that stands for the foreign key in the statement of its table. -/
def inline (f : JunctionReference) : TableConstraint :=
  .foreignKey f.constraint f.column f.table f.key

/-- The statement that adds the foreign key to a table, and that lets all changes through. -/
def alter (f : JunctionReference) (table : String) : Statement :=
  .addForeignKey table f.constraint f.column f.table f.key .cascade .cascade

end JunctionReference

namespace JunctionEnds

/-- The names of both ends and of their keys are not empty. -/
structure Named (e : JunctionEnds) : Prop where
  source_ne : e.source.name ≠ ""
  sourceKey_ne : e.sourceKey.name ≠ ""
  target_ne : e.target.name ≠ ""
  targetKey_ne : e.targetKey.name ≠ ""

def junction (e : JunctionEnds) (naming : Naming) (r : Relationship) : Table :=
  Junction.table naming r e.source e.target e.sourceKey e.targetKey

def name (e : JunctionEnds) : String :=
  e.source.name ++ "_" ++ e.target.name

/-- The definitions of the columns of the junction. -/
def columns (e : JunctionEnds) (naming : Naming) (r : Relationship) (d : Dialect) :
    List ColumnDefinition :=
  (e.junction naming r).columns.map (·.define d)

/-- The key of the junction: both columns together. -/
def key (e : JunctionEnds) (naming : Naming) : TableConstraint :=
  .primaryKey ("PK_" ++ e.name)
    [naming.columnName e.source e.sourceKey, naming.columnName e.target e.targetKey]

/-- The foreign key of the junction to a table with its key. -/
def reference (e : JunctionEnds) (naming : Naming) (referenced : Table) (key : Column) :
    JunctionReference :=
  ⟨"FK_" ++ e.name ++ "_" ++ referenced.name, naming.columnName referenced key, referenced.name,
    key.name⟩

/-- The foreign keys of the junction, the one to the source first. -/
def references (e : JunctionEnds) (naming : Naming) : List JunctionReference :=
  [e.reference naming e.source e.sourceKey, e.reference naming e.target e.targetKey]

variable {e : JunctionEnds} {naming : Naming} {r : Relationship}

lemma create_junction (d : Dialect) :
    (e.junction naming r).create d =
      .createTable e.name (e.columns naming r d) [e.key naming] := rfl

lemma createJunction_junction (h : e.Named) (d : Dialect) :
    (e.junction naming r).createJunction d =
      .createTable e.name (e.columns naming r d)
        (e.key naming :: (e.references naming).map (·.inline)) := by
  have hinline :
      (e.junction naming r).columns.filterMap (e.junction naming r).foreignKeyConstraint? =
        (e.references naming).map (·.inline) := by
    simp [junction, Junction.table, Junction.sourceColumn, Junction.targetColumn, Junction.column,
      Table.foreignKeyConstraint?, h.source_ne, h.sourceKey_ne, h.target_ne, h.targetKey_ne,
      references, reference, JunctionReference.inline, name]
  rw [Table.createJunction, hinline]
  rfl

end JunctionEnds

/-! ### Replacing a relationship -/

namespace Schema

/-- What a junction for a relationship needs to take its place: the ids of the relationships are
distinct, the junction has two ends with keys, and its id is free and nothing refers to it. -/
structure AdmitsJunction (s : Schema) (r : Relationship) (e : JunctionEnds) : Prop where
  distinct : (s.relationships.map (·.id)).Nodup
  mem : r ∈ s.relationships
  ends : s.junctionEnds r = .ok e
  free : ∀ t ∈ s.tables, t.id ≠ Junction.id r
  avoids : ∀ q ∈ s.relationships, q.Avoids (Junction.id r)

/-- The ends of a junction are the tables that the relationship refers to. -/
lemma junctionEnds_eq_ok {s : Schema} {r : Relationship} {e : JunctionEnds}
    (h : s.junctionEnds r = .ok e) :
    r.isManyToMany = true ∧
      (s.table? r.sourceTable = some e.source ∧ e.source.primaryKey? = some e.sourceKey) ∧
      s.table? r.targetTable = some e.target ∧ e.target.primaryKey? = some e.targetKey := by
  simp only [junctionEnds, get?_index] at h
  split at h
  · cases h
  · next hmany =>
    split at h
    · next source target hs ht =>
      split at h
      · next sourceKey targetKey hsk htk =>
        cases h
        exact ⟨by simpa using hmany, ⟨hs, hsk⟩, ht, htk⟩
      · cases h
    · cases h

variable {s s' : Schema} {naming : Naming} {r : Relationship} {e : JunctionEnds}
  {before after : List Relationship}

/-- Where ids are distinct, every relationship is found by its own. -/
lemma relationship?_of_distinct (h : (s.relationships.map (·.id)).Nodup)
    (hr : r ∈ s.relationships) : s.relationship? r.id = some r :=
  find?_of_nodup_map h hr

/-- A relationship that is replaced by its id makes room for its junction. -/
lemma AdmitsJunction.materialize_eq (h : s.AdmitsJunction r e) {source target : Option String}
    (hok : s.materialize naming ⟨some r.id, source, target⟩ = .ok s') :
    s' = s.withJunction naming r e := by
  have hchoice : s.choose? ⟨some r.id, source, target⟩ = some r := by
    simp [choose?, relationship?_of_distinct h.distinct h.mem]
  simp only [materialize, hchoice, h.ends] at hok
  split at hok
  · cases hok
  · cases hok
    rfl

/-- Where ids are distinct, a junction takes the place of one relationship only. -/
lemma withJunction_relationships (h : (s.relationships.map (·.id)).Nodup)
    (hr : s.relationships = before ++ r :: after) :
    (s.withJunction naming r e).relationships = before ++ after ++ Junction.links naming r e := by
  obtain ⟨hbefore, hafter⟩ := ne_of_nodup_map h hr
  have hkept : s.relationships.filter (·.id != r.id) = before ++ after := by
    rw [hr, List.filter_append, List.filter_cons_of_neg (by simp),
      List.filter_eq_self.mpr (by simpa using hbefore),
      List.filter_eq_self.mpr (by simpa using hafter)]
  rw [withJunction, hkept]

lemma AdmitsJunction.withJunction_others (h : s.AdmitsJunction r e) :
    (s.withJunction naming r e).others = s.others ++ Junction.links naming r e := by
  obtain ⟨before, after, hr⟩ := List.append_of_mem h.mem
  have hmany := (junctionEnds_eq_ok h.ends).1
  rw [others, others, withJunction_relationships h.distinct hr, hr, List.filter_append,
    List.filter_append, List.filter_append, List.filter_cons_of_neg (by simp [hmany])]
  rfl

lemma exists_manyToMany (h : (s.relationships.map (·.id)).Nodup) (hr : r ∈ s.relationships)
    (hmany : r.isManyToMany = true) (naming : Naming) (e : JunctionEnds) :
    ∃ before after, s.manyToMany = before ++ r :: after ∧
      (s.withJunction naming r e).manyToMany = before ++ after := by
  obtain ⟨before, after, hsplit⟩ := List.append_of_mem hr
  refine ⟨before.filter (·.isManyToMany), after.filter (·.isManyToMany), ?_, ?_⟩
  · rw [manyToMany, hsplit, List.filter_append, List.filter_cons_of_pos hmany]
  · rw [manyToMany, withJunction_relationships h hsplit, List.filter_append, List.filter_append]
    exact List.append_nil _

lemma AdmitsJunction.exists_manyToMany (h : s.AdmitsJunction r e) (naming : Naming) :
    ∃ before after, s.manyToMany = before ++ r :: after ∧
      (s.withJunction naming r e).manyToMany = before ++ after :=
  Schema.exists_manyToMany h.distinct h.mem (junctionEnds_eq_ok h.ends).1 naming e

/-! ### The links of a junction -/

/-- The script creates the tables to which the foreign keys of the others have been added. -/
lemma prepared_tables (s : Schema) :
    (s.prepared naming).tables = (s.addForeignKeys naming s.others).tables := by
  have htables : ({ s with relationships := s.others } : Schema).tables = s.tables := rfl
  rw [prepared, resolve_eq]
  exact addForeignKeys_tables_congr htables _

lemma grows_prepared (naming : Naming) (s : Schema) : s.Grows (s.prepared naming) :=
  Grows.resolve naming { s with relationships := s.others }

lemma AdmitsJunction.table?_prepared (h : s.AdmitsJunction r e) :
    (s.prepared naming).table? (Junction.id r) = none := by
  refine Option.eq_none_iff_forall_ne_some.mpr fun t' ht' => ?_
  obtain ⟨t, -, ht⟩ := (grows_prepared naming s).exists_table? ht'
  exact h.free t (mem_of_table? ht) (table?_id ht)

/-- Beside the tables of the script and the junction, a link from one end is placed in the junction.
Its column is there, and the foreign key is one that the junction had inside. -/
lemma AdmitsJunction.place_link (h : s.AdmitsJunction r e)
    (hadds : (s.prepared naming).AddsTable s' (e.junction naming r)) {id : String}
    {endpoint : Table} {key column : Column} (number : String) (hend : s.table? id = some endpoint)
    (hkey : endpoint.primaryKey? = some key) (hcolumn : column ∈ (e.junction naming r).columns)
    (hname : column.name = naming.columnName endpoint key) :
    ∃ p, s'.place naming (Junction.link r number endpoint key column) = .ok p ∧
      p.holder.hasColumnNamed p.columnName = true ∧
      p.statement = (e.reference naming endpoint key).alter e.name := by
  obtain ⟨endpoint', hgrows, hend'⟩ := (grows_prepared naming s).table?_of_eq_some hend
  have hid : endpoint.id ≠ (e.junction naming r).id := h.free endpoint (mem_of_table? hend)
  have hsource : s'.table? endpoint.id = some endpoint' := by
    rw [hadds.table?_of_ne hid, table?_id hend, hend']
  have htarget : s'.table? (Junction.id r) = some (e.junction naming r) :=
    hadds.table?_self h.table?_prepared
  have hj : (Junction.link r number endpoint key column).Joins s'.index endpoint'
      (e.junction naming r) key (Junction.sourceColumn naming r e.source e.sourceKey) .target :=
    .of_table? hsource htarget (hgrows.primaryKey?_eq.trans hkey) rfl rfl
  have hfinds : (Junction.link r number endpoint key column).findsColumns endpoint'
      (e.junction naming r) = true := by
    rw [Relationship.findsColumns, Bool.and_eq_true]
    refine ⟨hgrows.column?_isSome ?_, ?_⟩
    · exact Table.column?_isSome_of_mem (List.mem_of_find?_eq_some hkey)
    · exact Table.column?_isSome_of_mem hcolumn
  have hcolumnName : naming.columnName endpoint' key = naming.columnName endpoint key := by
    simp only [Naming.columnName, hgrows.name_eq]
  refine ⟨_, (hj.placeIn_eq naming).trans (if_pos hfinds), ?_, ?_⟩
  · exact List.any_eq_true.mpr ⟨column, hcolumn, beq_iff_eq.mpr (hname.trans hcolumnName.symm)⟩
  · show Statement.addForeignKey e.name ("FK_" ++ e.name ++ "_" ++ endpoint'.name)
      (naming.columnName endpoint' key) endpoint'.name key.name .cascade .cascade = _
    rw [hcolumnName, hgrows.name_eq]
    rfl

lemma AdmitsJunction.place_links (h : s.AdmitsJunction r e)
    (hadds : (s.prepared naming).AddsTable s' (e.junction naming r)) :
    (∀ q ∈ Junction.links naming r e, ∀ p, s'.place naming q = .ok p →
        p.holder.hasColumnNamed p.columnName = true) ∧
      ((Junction.links naming r e).filterMap fun q => (s'.place naming q).toOption).map
          (·.statement) = (e.references naming).map (·.alter e.name) := by
  obtain ⟨-, ⟨hsource, hsourceKey⟩, htarget, htargetKey⟩ := junctionEnds_eq_ok h.ends
  obtain ⟨p, hp, hpthere, hpstatement⟩ :=
    h.place_link hadds "1" hsource hsourceKey (List.mem_pair.mpr (.inl rfl)) rfl
  obtain ⟨q, hq, hqthere, hqstatement⟩ :=
    h.place_link hadds "2" htarget htargetKey (List.mem_pair.mpr (.inr rfl)) rfl
  constructor
  · intro link hlink placed hplaced
    rcases List.mem_pair.mp hlink with rfl | rfl
    · rw [hp] at hplaced
      cases hplaced
      exact hpthere
    · rw [hq] at hplaced
      cases hplaced
      exact hqthere
  · rw [Junction.links, List.filterMap_cons, List.filterMap_cons, hp, hq]
    simp [Except.toOption, hpstatement, hqstatement, JunctionEnds.references]

/-! ### The script -/

/-- The script creates one more table, after the others, and it creates the others as before. -/
lemma AdmitsJunction.prepared_withJunction (h : s.AdmitsJunction r e) (naming : Naming) :
    (s.prepared naming).AddsTable ((s.withJunction naming r e).prepared naming)
      (e.junction naming r) := by
  have hothers : (s.prepared naming).AddsTable
      ((s.withJunction naming r e).addForeignKeys naming s.others) (e.junction naming r) := by
    have hstart : s.AddsTable (s.withJunction naming r e) (e.junction naming r) := rfl
    rw [AddsTable, prepared_tables]
    exact hstart.addForeignKeys fun q hq => h.avoids q (List.mem_of_mem_filter hq)
  -- the links come last, and they add nothing
  have hlinks := (addForeignKeys_tables_eq_iff _).mpr (h.place_links hothers).1
  rw [AddsTable, prepared_tables, h.withJunction_others, addForeignKeys_append, hlinks, ← hothers]

/-- The foreign keys of the two links follow those that the script adds without them. -/
lemma AdmitsJunction.placements_withJunction (h : s.AdmitsJunction r e) :
    ((s.withJunction naming r e).placements naming).map (·.statement) =
      (s.placements naming).map (·.statement) ++ (e.references naming).map (·.alter e.name) := by
  have hprepared := h.prepared_withJunction naming
  have hsame : s.others.filterMap (fun q =>
        (((s.withJunction naming r e).prepared naming).place naming q).toOption) =
      s.placements naming := by
    refine List.filterMap_congr fun q hq => ?_
    rw [hprepared.place (h.avoids q (List.mem_of_mem_filter hq))]
  rw [placements, h.withJunction_others, List.filterMap_append, hsame, List.map_append,
    (h.place_links hprepared).2]

/-- The junctions that a script writes for some relationships. -/
def junctionsOf (s : Schema) (naming : Naming) (rs : List Relationship) : List Table :=
  rs.filterMap fun r => (s.synthesize naming r).toOption

lemma AdmitsJunction.junctionsOf_withJunction (h : s.AdmitsJunction r e) {rs : List Relationship}
    (hrs : ∀ q ∈ rs, q ∈ s.relationships) :
    (s.withJunction naming r e).junctionsOf naming rs = s.junctionsOf naming rs := by
  have hadds : s.AddsTable (s.withJunction naming r e) (e.junction naming r) := rfl
  refine List.filterMap_congr fun q hq => ?_
  rw [hadds.synthesize (h.avoids q (hrs q hq))]

lemma junctionsOf_append (s : Schema) (rs rs' : List Relationship) :
    s.junctionsOf naming (rs ++ rs') = s.junctionsOf naming rs ++ s.junctionsOf naming rs' :=
  List.filterMap_append

lemma junctionsOf_cons (h : s.junctionEnds r = .ok e) (rs : List Relationship) :
    s.junctionsOf naming (r :: rs) = e.junction naming r :: s.junctionsOf naming rs := by
  rw [junctionsOf, List.filterMap_cons, synthesize, h]
  rfl

/-- When a many-to-many relationship makes room for its junction, the statement of the junction
moves behind the other tables, and its foreign keys, which were constraints in it, become the last
statements. All other statements stay. -/
theorem statements_materialize (d : Dialect) (generatedAt : String) (h : s.AdmitsJunction r e)
    (hnamed : e.Named) {source target : Option String}
    (hok : s.materialize naming ⟨some r.id, source, target⟩ = .ok s') :
    ∃ before after, s.manyToMany = before ++ r :: after ∧
      s.statements d naming generatedAt =
        .header d.name generatedAt ::
          ((s.junctionsOf naming before).map (·.createJunction d) ++
            .createTable e.name (e.columns naming r d)
              (e.key naming :: (e.references naming).map (·.inline)) ::
            (s.junctionsOf naming after).map (·.createJunction d)) ++
          (s.prepared naming).tables.map (·.create d) ++
          (s.placements naming).map (·.statement) ∧
      s'.statements d naming generatedAt =
        .header d.name generatedAt ::
          ((s.junctionsOf naming before).map (·.createJunction d) ++
            (s.junctionsOf naming after).map (·.createJunction d)) ++
          ((s.prepared naming).tables.map (·.create d) ++
            [.createTable e.name (e.columns naming r d) [e.key naming]]) ++
          ((s.placements naming).map (·.statement) ++
            (e.references naming).map (·.alter e.name)) := by
  obtain rfl := h.materialize_eq hok
  obtain ⟨before, after, hmany, hmany'⟩ := h.exists_manyToMany naming
  have hmem : ∀ q ∈ before ++ after, q ∈ s.relationships := by
    intro q hq
    have hq' : q ∈ s.manyToMany := by
      rw [hmany]
      rcases List.mem_append.mp hq with hq | hq
      · exact List.mem_append_left _ hq
      · exact List.mem_append_right _ (List.mem_cons_of_mem _ hq)
    exact List.mem_of_mem_filter hq'
  have hjunctions : s.junctions naming =
      s.junctionsOf naming before ++ e.junction naming r :: s.junctionsOf naming after := by
    show s.junctionsOf naming s.manyToMany = _
    rw [hmany, junctionsOf_append, junctionsOf_cons h.ends]
  have hjunctions' : (s.withJunction naming r e).junctions naming =
      s.junctionsOf naming before ++ s.junctionsOf naming after := by
    show (s.withJunction naming r e).junctionsOf naming (s.withJunction naming r e).manyToMany = _
    rw [hmany', h.junctionsOf_withJunction hmem, junctionsOf_append]
  refine ⟨before, after, hmany, ?_, ?_⟩
  · rw [statements, hjunctions, List.map_append, List.map_cons,
      JunctionEnds.createJunction_junction hnamed]
  · rw [statements, hjunctions', h.prepared_withJunction naming, h.placements_withJunction,
      List.map_append, List.map_append, List.map_singleton, JunctionEnds.create_junction]

/-- Two tables, of which the first is joined to the second and twice to itself. -/
private def joinedToItself : Schema where
  tables := [.withKey "a" "A" "id", .withKey "b" "B" "id"]
  relationships := [
    ⟨"r1", "a", "a-id", "b", "b-id", .oneToMany, false, false, .cascade, .cascade⟩,
    ⟨"r2", "a", "a-id", "a", "a-id", .manyToMany, false, false, .cascade, .cascade⟩,
    ⟨"r3", "a", "a-id", "a", "a-id", .manyToOne, true, false, .cascade, .cascade⟩]

theorem statements_materialize_joinedToItself :
    ∃ r e s', joinedToItself.AdmitsJunction r e ∧ e.Named ∧
      joinedToItself.materialize .prefixed ⟨some r.id, none, none⟩ = .ok s' ∧
      ∃ earlier, s'.statements Dialect.access .prefixed "" = earlier ++
        [.addForeignKey "A_A" "FK_A_A_A" "A_id" "A" "id" .cascade .cascade,
          .addForeignKey "A_A" "FK_A_A_A" "A_id" "A" "id" .cascade .cascade] := by
  let a := Table.withKey "a" "A" "id"
  let e : JunctionEnds := ⟨a, a, .keyOf "a" "id", .keyOf "a" "id"⟩
  let r : Relationship :=
    ⟨"r2", "a", "a-id", "a", "a-id", .manyToMany, false, false, .cascade, .cascade⟩
  have hadmits : joinedToItself.AdmitsJunction r e := by
    constructor <;> decide +kernel
  have hnamed : e.Named := by
    constructor <;> decide
  have hok : joinedToItself.materialize .prefixed ⟨some r.id, none, none⟩ =
      .ok (joinedToItself.withJunction .prefixed r e) := by
    decide +kernel
  obtain ⟨_, _, -, -, hs'⟩ := statements_materialize Dialect.access "" hadmits hnamed hok
  refine ⟨r, e, _, hadmits, hnamed, hok, _, hs'.trans (List.append_assoc ..).symm⟩

end Schema

end SchemaGraph
