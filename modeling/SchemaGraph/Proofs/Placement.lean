import Mathlib.Tactic.Lemma
import SchemaGraph.ForeignKey.Placement

/-!
# What a placement rests on

A relationship is placed between two tables that have keys, on the side that its cardinality and its
options choose; `Relationship.Joins` gathers these facts. Given them, whether there is a foreign key
hangs on the two column ids alone (`Relationship.Joins.placeIn_eq`), and conversely nothing can be
placed without them (`Relationship.exists_joins_of_placeIn`).
-/

namespace SchemaGraph

/-! ### Finding tables and columns -/

lemma Schema.table?_id {s : Schema} {id : String} {t : Table} (h : s.table? id = some t) :
    t.id = id := by
  simpa using List.find?_some h

lemma Schema.mem_of_table? {s : Schema} {id : String} {t : Table} (h : s.table? id = some t) :
    t ∈ s.tables :=
  List.mem_of_find?_eq_some h

/-- A column of a table is found by its id, or another one is. -/
lemma Table.column?_isSome_of_mem {t : Table} {c : Column} (h : c ∈ t.columns) :
    (t.column? c.id).isSome :=
  List.find?_isSome.mpr ⟨c, h, by simp⟩

/-! ### Joined tables -/

/-- Whether both column ids of a relationship are found in the tables that it joins. -/
def Relationship.findsColumns (r : Relationship) (source target : Table) : Bool :=
  (source.column? r.sourceColumn).isSome && (target.column? r.targetColumn).isSome

/-- A relationship joins two tables with their keys, and a side is to hold the foreign key. -/
structure Relationship.Joins (r : Relationship) (tables : Dictionary Table) (source target : Table)
    (sourceKey targetKey : Column) (side : Side) : Prop where
  source_eq : tables.get? r.sourceTable = some source
  target_eq : tables.get? r.targetTable = some target
  sourceKey_eq : source.primaryKey? = some sourceKey
  targetKey_eq : target.primaryKey? = some targetKey
  side_eq : r.holder? = some side

namespace Relationship

variable {r : Relationship} {tables : Dictionary Table} {source target : Table}
  {sourceKey targetKey : Column} {side : Side}

lemma not_isManyToMany_of_holder? (h : r.holder? = some side) : r.isManyToMany = false := by
  rw [holder?] at h
  rw [isManyToMany]
  cases hc : r.cardinality with
  | manyToMany => simp [hc] at h
  | _ => rfl

/-- Where a relationship joins two tables, its column ids decide about the foreign key. -/
lemma Joins.placeIn_eq (naming : Naming)
    (h : r.Joins tables source target sourceKey targetKey side) :
    r.placeIn naming tables =
      if r.findsColumns source target then
        .ok (r.placementAt naming source target sourceKey targetKey side)
      else .error .missingColumn := by
  unfold placeIn findsColumns
  rw [not_isManyToMany_of_holder? h.side_eq, h.source_eq, h.target_eq]
  cases hs : source.column? r.sourceColumn <;> cases ht : target.column? r.targetColumn <;>
    simp [hs, ht, h.sourceKey_eq, h.targetKey_eq, h.side_eq]

/-- A placed relationship joins two tables and finds its columns in them. -/
lemma exists_joins_of_placeIn {naming : Naming} {p : Placement}
    (h : r.placeIn naming tables = .ok p) :
    ∃ source target sourceKey targetKey side,
      r.Joins tables source target sourceKey targetKey side ∧
        r.findsColumns source target = true ∧
        p = r.placementAt naming source target sourceKey targetKey side := by
  rw [placeIn] at h
  split at h
  · cases h
  split at h
  · next source target hs ht =>
    split at h
    · next hsc htc =>
      split at h
      · next sourceKey targetKey hsk htk =>
        split at h
        · next side hside =>
          cases h
          exact ⟨source, target, sourceKey, targetKey, side, ⟨hs, ht, hsk, htk, hside⟩,
            by simp [findsColumns, hsc, htc], rfl⟩
        · cases h
      · cases h
    · cases h
  · cases h

end Relationship

/-! ### Placements in a schema -/

namespace Relationship.Joins

variable {s : Schema} {r : Relationship} {source target : Table} {sourceKey targetKey : Column}
  {side : Side}

lemma table?_source (h : r.Joins s.index source target sourceKey targetKey side) :
    s.table? r.sourceTable = some source := by
  rw [← Schema.get?_index, h.source_eq]

lemma table?_target (h : r.Joins s.index source target sourceKey targetKey side) :
    s.table? r.targetTable = some target := by
  rw [← Schema.get?_index, h.target_eq]

lemma of_table? (hs : s.table? r.sourceTable = some source)
    (ht : s.table? r.targetTable = some target) (hsk : source.primaryKey? = some sourceKey)
    (htk : target.primaryKey? = some targetKey) (hside : r.holder? = some side) :
    r.Joins s.index source target sourceKey targetKey side :=
  ⟨(s.get?_index _).trans hs, (s.get?_index _).trans ht, hsk, htk, hside⟩

end Relationship.Joins

namespace Schema

variable {s : Schema} {naming : Naming} {r : Relationship} {p : Placement}

lemma relationship_of_place (h : s.place naming r = .ok p) : p.relationship = r := by
  obtain ⟨_, _, _, _, side, -, -, rfl⟩ := Relationship.exists_joins_of_placeIn h
  cases side <;> rfl

lemma table?_holder (h : s.place naming r = .ok p) : s.table? p.holder.id = some p.holder := by
  obtain ⟨source, target, _, _, side, hj, -, rfl⟩ := Relationship.exists_joins_of_placeIn h
  have hs := hj.table?_source
  have ht := hj.table?_target
  cases side with
  | source => exact (table?_id hs).symm ▸ hs
  | target => exact (table?_id ht).symm ▸ ht

lemma table?_referenced (h : s.place naming r = .ok p) :
    s.table? p.referenced.id = some p.referenced := by
  obtain ⟨source, target, _, _, side, hj, -, rfl⟩ := Relationship.exists_joins_of_placeIn h
  have hs := hj.table?_source
  have ht := hj.table?_target
  cases side with
  | source => exact (table?_id ht).symm ▸ ht
  | target => exact (table?_id hs).symm ▸ hs

/-- The key that a placement repeats is the key of the referenced table. -/
lemma primaryKey?_referenced (h : s.place naming r = .ok p) :
    p.referenced.primaryKey? = some p.key := by
  obtain ⟨_, _, _, _, side, hj, -, rfl⟩ := Relationship.exists_joins_of_placeIn h
  cases side with
  | source => exact hj.targetKey_eq
  | target => exact hj.sourceKey_eq

end Schema

/-! ### Small tables -/

/-- A column that is the key of its table. -/
def Column.keyOf (table name : String) : Column :=
  ⟨table ++ "-" ++ name, name, "LONG", true, false, false, false, false, none, none⟩

/-- A table that has only its key. -/
def Table.withKey (id name key : String) : Table :=
  ⟨id, name, [.keyOf id key], .zero, .zero⟩

end SchemaGraph
