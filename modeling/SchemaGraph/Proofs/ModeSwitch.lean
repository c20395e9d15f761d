import SchemaGraph.Conversion
import SchemaGraph.Proofs.Materialization

/-!
# Switching the mode and back

A schema that is made conceptual and then logical again has lost the column ids of its relationships
and all key flags but one. `Schema.toLogical_keeps` says that what is compiled from it stays: the
relationships whose tables exist come back in their order, each bound to the anchors of its tables;
one that was placed is placed on the same side with the same column, and one that had a junction
table has the same one.
-/

namespace SchemaGraph

/-! ### Columns and tables -/

namespace Column

/-- The column that comes back from the attribute of a column. -/
def switched (c : Column) : Column :=
  c.toAttribute.toColumn

@[simp] lemma switched_id (c : Column) : c.switched.id = c.id := rfl

@[simp] lemma switched_name (c : Column) : c.switched.name = c.name := rfl

@[simp] lemma primary_toAttribute (c : Column) :
    (c.toAttribute.kind == .primary) = c.primaryKey := by
  cases h : c.primaryKey <;> simp [toAttribute, h]

@[simp] lemma switched_primaryKey (c : Column) : c.switched.primaryKey = c.primaryKey :=
  c.primary_toAttribute

lemma switched_type {c : Column} (h : c.type ≠ "") : c.switched.type = c.type := by
  simp [switched, Attribute.toColumn, Attribute.columnType, toAttribute, h]

end Column

lemma Entity.primaryKey?_toTable (e : Entity) :
    e.toTable.primaryKey? = e.primaryAttribute?.map Attribute.toColumn := by
  rw [Table.primaryKey?, toTable, List.find?_map]
  rfl

namespace Table

/-- The table that comes back from the entity of a table. -/
def switched (t : Table) : Table :=
  t.toEntity.toTable

/-- The id that a relationship with a table is bound to on the way back. -/
def anchor (t : Table) : String :=
  t.toEntity.anchor

@[simp] lemma switched_id (t : Table) : t.switched.id = t.id := rfl

@[simp] lemma switched_name (t : Table) : t.switched.name = t.name := rfl

lemma switched_columns (t : Table) : t.switched.columns = t.columns.map Column.switched :=
  List.map_map

lemma primaryAttribute?_toEntity (t : Table) :
    t.toEntity.primaryAttribute? = t.primaryKey?.map Column.toAttribute := by
  have hkey : (fun a : Attribute => a.kind == .primary) ∘ Column.toAttribute = (·.primaryKey) :=
    funext Column.primary_toAttribute
  rw [Entity.primaryAttribute?, toEntity, List.find?_map, hkey, primaryKey?]

lemma primaryKey?_switched (t : Table) :
    t.switched.primaryKey? = t.primaryKey?.map Column.switched := by
  rw [switched, Entity.primaryKey?_toTable, primaryAttribute?_toEntity, Option.map_map]
  rfl

/-- A table with a key has the key as its anchor. -/
lemma anchor_of_primaryKey? {t : Table} {key : Column} (h : t.primaryKey? = some key) :
    t.anchor = key.id := by
  rw [anchor, Entity.anchor, primaryAttribute?_toEntity, h]
  rfl

/-- The anchor of a table with a key is found in the table that comes back. -/
lemma column?_switched_anchor {t : Table} {key : Column} (h : t.primaryKey? = some key) :
    (t.switched.column? t.anchor).isSome := by
  have hkey : key.switched ∈ t.switched.columns := by
    rw [switched_columns]
    exact List.mem_map_of_mem (List.mem_of_find?_eq_some h)
  rw [anchor_of_primaryKey? h, ← Column.switched_id]
  exact column?_isSome_of_mem hkey

end Table

/-! ### Schemas -/

lemma ConceptualSchema.table?_toLogical (c : ConceptualSchema)
    (onDelete onUpdate : ReferentialAction) (id : String) :
    (c.toLogical onDelete onUpdate).table? id = (c.entity? id).map Entity.toTable := by
  rw [Schema.table?, toLogical, List.find?_map]
  rfl

namespace Schema

/-- The schema in conceptual mode, and back in logical mode with the given actions. -/
def switched (s : Schema) (onDelete onUpdate : ReferentialAction) : Schema :=
  s.toConceptual.toLogical onDelete onUpdate

/-- Whether both ends of a relationship are tables of the schema. -/
def hasEnds (s : Schema) (r : Relationship) : Bool :=
  s.hasTable r.sourceTable && s.hasTable r.targetTable

/-- The anchor of the table of an id. -/
def anchorOf (s : Schema) (id : String) : String :=
  ((s.table? id).map Table.anchor).getD ""

/-- A relationship bound to the anchors of its tables, with other actions. -/
def rebound (s : Schema) (onDelete onUpdate : ReferentialAction) (r : Relationship) :
    Relationship :=
  { r with
    sourceColumn := s.anchorOf r.sourceTable
    targetColumn := s.anchorOf r.targetTable
    onDelete
    onUpdate }

variable {s : Schema} {naming : Naming} {onDelete onUpdate : ReferentialAction} {r : Relationship}
  {p : Placement}

lemma entity?_toConceptual (s : Schema) (id : String) :
    s.toConceptual.entity? id = (s.table? id).map Table.toEntity := by
  rw [ConceptualSchema.entity?, toConceptual, List.find?_map]
  rfl

lemma table?_switched (s : Schema) (onDelete onUpdate : ReferentialAction) (id : String) :
    (s.switched onDelete onUpdate).table? id = (s.table? id).map Table.switched := by
  rw [switched, ConceptualSchema.table?_toLogical, entity?_toConceptual, Option.map_map]
  rfl

/-- A relationship comes back bound to the anchors of its tables, if both of them exist. -/
lemma relationship?_toAssociation (s : Schema) (onDelete onUpdate : ReferentialAction)
    (r : Relationship) :
    s.toConceptual.relationship? onDelete onUpdate r.toAssociation =
      if s.hasEnds r then some (s.rebound onDelete onUpdate r) else none := by
  have hs : s.toConceptual.entity? r.toAssociation.sourceEntity =
      (s.table? r.sourceTable).map Table.toEntity := s.entity?_toConceptual _
  have ht : s.toConceptual.entity? r.toAssociation.targetEntity =
      (s.table? r.targetTable).map Table.toEntity := s.entity?_toConceptual _
  rw [ConceptualSchema.relationship?, ConceptualSchema.ends?, ConceptualSchema.get?_index,
    ConceptualSchema.get?_index, hs, ht, hasEnds, hasTable_eq_isSome, hasTable_eq_isSome]
  cases hsource : s.table? r.sourceTable with
  | none => rfl
  | some source =>
    cases htarget : s.table? r.targetTable with
    | none => rfl
    | some target =>
      simp [rebound, anchorOf, hsource, htarget, Association.toRelationship,
        Relationship.toAssociation, Table.anchor, Table.toEntity, table?_id hsource,
        table?_id htarget]

/-- The relationships whose tables exist come back in their order. -/
lemma switched_relationships (s : Schema) (onDelete onUpdate : ReferentialAction) :
    (s.switched onDelete onUpdate).relationships =
      (s.relationships.filter s.hasEnds).map (s.rebound onDelete onUpdate) := by
  rw [← List.filterMap_eq_filter, List.map_filterMap]
  show (s.relationships.map Relationship.toAssociation).filterMap _ = _
  rw [List.filterMap_map]
  refine List.filterMap_congr fun r _ => ?_
  rw [Function.comp_apply, relationship?_toAssociation, Option.guard]
  split <;> rfl

/-- The switch loses no type: no column has an empty one. -/
def Typed (s : Schema) : Prop :=
  ∀ t ∈ s.tables, ∀ c ∈ t.columns, c.type ≠ ""

instance (s : Schema) : Decidable s.Typed :=
  inferInstanceAs (Decidable (∀ _ ∈ _, ∀ _ ∈ _, _))

lemma Typed.key_type (h : s.Typed) {id : String} {t : Table} {key : Column}
    (ht : s.table? id = some t) (hkey : t.primaryKey? = some key) :
    key.switched.type = key.type :=
  Column.switched_type (h t (mem_of_table? ht) key (List.mem_of_find?_eq_some hkey))

end Schema

/-! ### Placements -/

/-- Another placement has its foreign key in the same table and under the same name, and it refers
to the same key of the same table. -/
structure Placement.Agrees (p p' : Placement) : Prop where
  holder_id : p'.holder.id = p.holder.id
  referenced_id : p'.referenced.id = p.referenced.id
  referenced_name : p'.referenced.name = p.referenced.name
  key_id : p'.key.id = p.key.id
  key_name : p'.key.name = p.key.name
  key_type : p'.key.type = p.key.type
  columnName_eq : p'.columnName = p.columnName

namespace Schema

variable {s : Schema} {naming : Naming} {onDelete onUpdate : ReferentialAction} {r : Relationship}
  {p : Placement} {source target : Table} {sourceKey targetKey : Column} {side : Side}

lemma hasEnds_of_joins (h : r.Joins s.index source target sourceKey targetKey side) :
    s.hasEnds r = true := by
  simp [hasEnds, hasTable_eq_isSome, h.table?_source, h.table?_target]

variable (onDelete onUpdate) in
lemma joins_switched (h : r.Joins s.index source target sourceKey targetKey side) :
    (s.rebound onDelete onUpdate r).Joins (s.switched onDelete onUpdate).index source.switched
      target.switched sourceKey.switched targetKey.switched side := by
  refine .of_table? ?_ ?_ ?_ ?_ h.side_eq
  · rw [table?_switched]
    exact congrArg (Option.map Table.switched) h.table?_source
  · rw [table?_switched]
    exact congrArg (Option.map Table.switched) h.table?_target
  · rw [Table.primaryKey?_switched, h.sourceKey_eq, Option.map_some]
  · rw [Table.primaryKey?_switched, h.targetKey_eq, Option.map_some]

/-- Between tables with keys the anchors are keys, and so they are found on the way back. -/
lemma findsColumns_switched (h : r.Joins s.index source target sourceKey targetKey side) :
    (s.rebound onDelete onUpdate r).findsColumns source.switched target.switched = true := by
  have hs : (s.rebound onDelete onUpdate r).sourceColumn = source.anchor := by
    simp [rebound, anchorOf, h.table?_source]
  have ht : (s.rebound onDelete onUpdate r).targetColumn = target.anchor := by
    simp [rebound, anchorOf, h.table?_target]
  rw [Relationship.findsColumns, hs, ht, Table.column?_switched_anchor h.sourceKey_eq,
    Table.column?_switched_anchor h.targetKey_eq]
  rfl

lemma Typed.agrees (hs : s.Typed) (h : r.Joins s.index source target sourceKey targetKey side) :
    (r.placementAt naming source target sourceKey targetKey side).Agrees
      ((s.rebound onDelete onUpdate r).placementAt naming source.switched target.switched
        sourceKey.switched targetKey.switched side) := by
  cases side with
  | source =>
    have htype := hs.key_type h.table?_target h.targetKey_eq
    constructor <;> first | rfl | exact htype
  | target =>
    have htype := hs.key_type h.table?_source h.sourceKey_eq
    constructor <;> first | rfl | exact htype

/-- A relationship that is placed comes back, and it is placed as before. -/
lemma Typed.place_switched (hs : s.Typed) (hp : s.place naming r = .ok p) :
    s.hasEnds r = true ∧
      ∃ p', (s.switched onDelete onUpdate).place naming (s.rebound onDelete onUpdate r) = .ok p' ∧
        p.Agrees p' := by
  obtain ⟨source, target, sourceKey, targetKey, side, hj, -, rfl⟩ :=
    Relationship.exists_joins_of_placeIn hp
  have hplace := (joins_switched onDelete onUpdate hj).placeIn_eq naming
  exact ⟨hasEnds_of_joins hj, _, hplace.trans (if_pos (findsColumns_switched hj)), hs.agrees hj⟩

end Schema

/-! ### Junctions -/

/-- The ends of a junction that come back. -/
def JunctionEnds.switched (e : JunctionEnds) : JunctionEnds :=
  ⟨e.source.switched, e.target.switched, e.sourceKey.switched, e.targetKey.switched⟩

namespace Schema

variable {s : Schema} {naming : Naming} {onDelete onUpdate : ReferentialAction} {r : Relationship}
  {e : JunctionEnds}

lemma junctionEnds_switched (s : Schema) (onDelete onUpdate : ReferentialAction)
    (r : Relationship) :
    (s.switched onDelete onUpdate).junctionEnds (s.rebound onDelete onUpdate r) =
      (s.junctionEnds r).map JunctionEnds.switched := by
  have hmany : (s.rebound onDelete onUpdate r).isManyToMany = r.isManyToMany := rfl
  have hsource : (s.rebound onDelete onUpdate r).sourceTable = r.sourceTable := rfl
  have htarget : (s.rebound onDelete onUpdate r).targetTable = r.targetTable := rfl
  simp only [junctionEnds, get?_index, table?_switched, hmany, hsource, htarget]
  split
  · rfl
  · cases s.table? r.sourceTable with
    | none => rfl
    | some source =>
      cases s.table? r.targetTable with
      | none => rfl
      | some target =>
        simp only [Option.map_some, Table.primaryKey?_switched]
        cases source.primaryKey? <;> cases target.primaryKey? <;> rfl

/-- The junction between the ends that come back is the same. -/
lemma Typed.junction_switched (hs : s.Typed) (he : s.junctionEnds r = .ok e) :
    e.switched.junction naming (s.rebound onDelete onUpdate r) = e.junction naming r := by
  obtain ⟨-, ⟨hsource, hsourceKey⟩, htarget, htargetKey⟩ := junctionEnds_eq_ok he
  have hid : Junction.id (s.rebound onDelete onUpdate r) = Junction.id r := rfl
  have hcolumn (id : String) (t : Table) (key : Column) (htype : key.switched.type = key.type) :
      Junction.column naming id t.switched key.switched = Junction.column naming id t key := by
    simp [Junction.column, htype, Naming.columnName]
  simp only [JunctionEnds.junction, JunctionEnds.switched, Junction.table, Junction.sourceColumn,
    Junction.targetColumn, hid, hcolumn _ _ _ (hs.key_type hsource hsourceKey),
    hcolumn _ _ _ (hs.key_type htarget htargetKey)]
  rfl

lemma Typed.synthesize_switched (hs : s.Typed) (onDelete onUpdate : ReferentialAction)
    (r : Relationship) :
    (s.switched onDelete onUpdate).synthesize naming (s.rebound onDelete onUpdate r) =
      s.synthesize naming r := by
  rw [synthesize, synthesize, junctionEnds_switched]
  cases he : s.junctionEnds r with
  | error gap => rfl
  | ok e => exact congrArg Except.ok (hs.junction_switched he)

lemma hasEnds_of_synthesize {t : Table} (h : s.synthesize naming r = .ok t) :
    s.hasEnds r = true := by
  rw [synthesize] at h
  cases he : s.junctionEnds r with
  | error gap =>
    rw [he] at h
    cases h
  | ok e =>
    obtain ⟨-, ⟨hsource, -⟩, htarget, -⟩ := junctionEnds_eq_ok he
    simp [hasEnds, hasTable_eq_isSome, hsource, htarget]

/-- After a switch of the mode and back, the relationships are those whose tables exist, in their
order and bound anew. One that could be placed is placed with the same column between the same
tables, and a many-to-many one has a junction just when it comes back with that very junction. -/
theorem toLogical_keeps (h : s.Typed) (naming : Naming) (onDelete onUpdate : ReferentialAction) :
    (s.switched onDelete onUpdate).relationships =
        (s.relationships.filter s.hasEnds).map (s.rebound onDelete onUpdate) ∧
      (∀ r ∈ s.relationships, ∀ p, s.place naming r = .ok p →
        s.hasEnds r = true ∧ ∃ p',
          (s.switched onDelete onUpdate).place naming (s.rebound onDelete onUpdate r) = .ok p' ∧
            p.Agrees p') ∧
      ∀ r ∈ s.relationships, r.isManyToMany = true → ∀ t,
        s.synthesize naming r = .ok t ↔
          s.hasEnds r = true ∧
            (s.switched onDelete onUpdate).synthesize naming (s.rebound onDelete onUpdate r) =
              .ok t := by
  refine ⟨s.switched_relationships onDelete onUpdate, fun r _ p hp => h.place_switched hp, ?_⟩
  intro r _ _ t
  rw [h.synthesize_switched onDelete onUpdate r]
  exact ⟨fun ht => ⟨hasEnds_of_synthesize ht, ht⟩, And.right⟩

/-- Two tables share an id, and the key of the third is its second and third column. One of the
relationships has lost its target, and two name columns that are no keys. -/
private def anchored : Schema where
  tables := [
    .withKey "a" "A" "id",
    ⟨"a", "A2", [⟨"a-x", "x", "MEMO", false, true, true, false, false, none, none⟩], .zero, .zero⟩,
    ⟨"b", "B", [
      ⟨"b-n", "n", "TEXT", false, true, true, false, true, some "A", none⟩,
      ⟨"b-k", "k", "memo", true, false, false, false, false, none, none⟩,
      ⟨"b-l", "l", "LONG", true, false, true, true, false, none, none⟩], .zero, .zero⟩]
  relationships := [
    ⟨"r1", "b", "b-n", "a", "a-id", .oneToOne, true, false, .setNull, .noAction⟩,
    ⟨"r2", "a", "a-id", "gone", "x", .manyToMany, false, false, .cascade, .cascade⟩,
    ⟨"r3", "b", "b-n", "b", "b-l", .manyToMany, false, false, .restrict, .cascade⟩]

theorem toLogical_keeps_anchored :
    anchored.Typed ∧
      (anchored.switched .cascade .cascade).relationships =
        [⟨"r1", "b", "b-k", "a", "a-id", .oneToOne, true, false, .cascade, .cascade⟩,
          ⟨"r3", "b", "b-k", "b", "b-k", .manyToMany, false, false, .cascade, .cascade⟩] ∧
      (∀ r ∈ anchored.relationships, ∀ p, anchored.place .prefixed r = .ok p →
        anchored.hasEnds r = true ∧ ∃ p', (anchored.switched .cascade .cascade).place .prefixed
          (anchored.rebound .cascade .cascade r) = .ok p' ∧ p.Agrees p') := by
  have htyped : anchored.Typed := by decide
  obtain ⟨hrelationships, hplace, -⟩ := toLogical_keeps htyped .prefixed .cascade .cascade
  refine ⟨htyped, hrelationships.trans ?_, hplace⟩
  decide +kernel

end Schema

end SchemaGraph
