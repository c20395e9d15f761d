import Mathlib.Data.List.Forall2
import SchemaGraph.Proofs.KeyFlags
import SchemaGraph.Proofs.ModeSwitch

/-!
# What a switch of the mode loses

Tables and entities do not hold the same things: an entity knows nothing of most key flags, and a
column has no kind. `switch_loses` says exactly what is gone when tables are made entities and
tables again, and which entities come back from their tables as they were. What has come back once
comes back the same ever after.
-/

namespace SchemaGraph

/-! ### Attributes -/

namespace Attribute

/-- Nothing of the attribute is lost in a column: its kind is one that columns have, and it has a
type. -/
def Lasting (a : Attribute) : Prop :=
  (a.kind = .primary ∨ a.kind = .normal) ∧ ∃ type, a.dataType = some type ∧ type ≠ ""

lemma columnType_ne (a : Attribute) : a.columnType ≠ "" := by
  have hfallback : columnType.fallback a ≠ "" := by
    rw [columnType.fallback]
    split <;> decide
  rw [columnType]
  split
  · split
    · exact hfallback
    · next h => simpa using h
  · exact hfallback

lemma columnType_eq_iff {a : Attribute} :
    some a.columnType = a.dataType ↔ ∃ type, a.dataType = some type ∧ type ≠ "" := by
  constructor
  · intro h
    exact ⟨a.columnType, h.symm, a.columnType_ne⟩
  · rintro ⟨type, htype, hne⟩
    simp [columnType, htype, hne]

lemma kind_toAttribute_toColumn (a : Attribute) :
    a.toColumn.toAttribute.kind = a.kind ↔ a.kind = .primary ∨ a.kind = .normal := by
  obtain ⟨id, name, kind, dataType⟩ := a
  cases kind <;> simp [toColumn, Column.toAttribute]

/-- An attribute comes back from its column just when nothing of it is lost. -/
lemma toAttribute_toColumn_eq_iff {a : Attribute} : a.toColumn.toAttribute = a ↔ a.Lasting := by
  rw [Lasting, ← kind_toAttribute_toColumn, ← columnType_eq_iff]
  constructor
  · intro h
    exact ⟨congrArg kind h, congrArg dataType h⟩
  · rintro ⟨hkind, htype⟩
    calc a.toColumn.toAttribute
        = ⟨a.id, a.name, a.toColumn.toAttribute.kind, some a.columnType⟩ := rfl
      _ = a := by rw [hkind, htype]

/-- A column comes back from its own attribute if it has been made of one. -/
lemma toColumn_toAttribute_toColumn (a : Attribute) :
    a.toColumn.toAttribute.toColumn = a.toColumn := by
  have hkind : (a.toColumn.toAttribute.kind == .primary) = (a.kind == .primary) :=
    a.toColumn.primary_toAttribute
  have htype : some a.toColumn.toAttribute.columnType = some a.columnType :=
    columnType_eq_iff.mpr ⟨a.columnType, rfl, a.columnType_ne⟩
  rw [toColumn, hkind, Option.some.inj htype, bne, hkind]
  rfl

end Attribute

/-! ### Columns -/

/-- What a column comes back as: of its flags only the one for the key is left, which decides about
the others, and an empty type is made good. -/
structure Column.ComesBackAs (c c' : Column) : Prop where
  id_eq : c'.id = c.id
  name_eq : c'.name = c.name
  type_eq : c'.type = if c.type = "" then if c.primaryKey then "INTEGER" else "TEXT" else c.type
  primaryKey_eq : c'.primaryKey = c.primaryKey
  nullable_eq : c'.nullable = !c.primaryKey
  unique_eq : c'.unique = c.primaryKey
  autoIncrement_eq : c'.autoIncrement = c.primaryKey
  isForeignKey_eq : c'.isForeignKey = false
  referencesTable_eq : c'.referencesTable = none
  referencesColumn_eq : c'.referencesColumn = none
  /-- There is nothing left to be made consistent. -/
  normalized : c'.Normalized

namespace Column

lemma comesBackAs_switched (c : Column) : c.ComesBackAs c.switched where
  id_eq := rfl
  name_eq := rfl
  type_eq := by
    cases hkey : c.primaryKey <;>
      simp [switched, toAttribute, Attribute.toColumn, Attribute.columnType,
        Attribute.columnType.fallback, hkey]
  primaryKey_eq := c.switched_primaryKey
  nullable_eq := congrArg (!·) c.switched_primaryKey
  unique_eq := c.switched_primaryKey
  autoIncrement_eq := c.switched_primaryKey
  isForeignKey_eq := rfl
  referencesTable_eq := rfl
  referencesColumn_eq := rfl
  normalized := normalized_of_attribute c.toAttribute

/-- The attribute of a column lasts just when the column has a type. -/
lemma lasting_toAttribute_iff {c : Column} : c.toAttribute.Lasting ↔ c.type ≠ "" := by
  simp [Attribute.Lasting, toAttribute]

end Column

/-! ### Tables and entities -/

/-- What a table comes back as: it stays where it is, with all its columns in their order. -/
structure Table.ComesBackAs (t t' : Table) : Prop where
  id_eq : t'.id = t.id
  name_eq : t'.name = t.name
  x_eq : t'.x = t.x
  y_eq : t'.y = t.y
  columns : List.Forall₂ Column.ComesBackAs t.columns t'.columns

/-- A function leaves a list as it is just when it does so with every item. -/
lemma map_eq_self_iff {α : Type} {f : α → α} {items : List α} :
    items.map f = items ↔ ∀ a ∈ items, f a = a := by
  conv_lhs => rhs; rw [← List.map_id items]
  exact List.map_inj_left

lemma Table.comesBackAs_switched (t : Table) : t.ComesBackAs t.switched where
  id_eq := rfl
  name_eq := rfl
  x_eq := rfl
  y_eq := rfl
  columns := by
    rw [switched_columns, List.forall₂_map_right_iff]
    exact List.forall₂_same.mpr fun c _ => c.comesBackAs_switched

/-- A table comes back from its own entity if it has been made of one. -/
lemma Entity.toTable_toEntity_toTable (e : Entity) : e.toTable.toEntity.toTable = e.toTable := by
  have hcolumns : e.toTable.toEntity.toTable.columns = e.toTable.columns := by
    simp only [toTable, Table.toEntity, List.map_map]
    exact List.map_congr_left fun a _ => a.toColumn_toAttribute_toColumn
  calc e.toTable.toEntity.toTable
      = { e.toTable with columns := e.toTable.toEntity.toTable.columns } := rfl
    _ = e.toTable := by rw [hcolumns]

/-- An entity comes back from its table just when all its attributes do. -/
lemma Entity.toEntity_toTable_eq_iff {e : Entity} :
    e.toTable.toEntity = e ↔ ∀ a ∈ e.attributes, a.Lasting := by
  have hattributes : e.toTable.toEntity.attributes =
      e.attributes.map fun a => a.toColumn.toAttribute :=
    List.map_map
  have hentity : e.toTable.toEntity = e ↔ e.toTable.toEntity.attributes = e.attributes := by
    constructor
    · exact congrArg attributes
    · intro h
      calc e.toTable.toEntity = { e with attributes := e.toTable.toEntity.attributes } := rfl
        _ = e := by rw [h]
  rw [hentity, hattributes, map_eq_self_iff]
  simp only [Attribute.toAttribute_toColumn_eq_iff]

/-- The entities that come back as they were, from the tables that are made of them, are those whose
attributes are all lasting. -/
lemma map_toEntity_toTable_eq_iff {entities : List Entity} :
    (entities.map Entity.toTable).map Table.toEntity = entities ↔
      ∀ e ∈ entities, ∀ a ∈ e.attributes, a.Lasting := by
  rw [List.map_map, map_eq_self_iff]
  exact forall₂_congr fun e _ => Entity.toEntity_toTable_eq_iff

/-- Tables that are made entities and tables again keep what `Table.ComesBackAs` says, and lose the
rest. Their entities come back as they were just when every column has a type. What has come back
once comes back the same. Entities that are made tables come back as they were just when their
attributes are all primary or normal ones with a type. -/
theorem switch_loses :
    (∀ tables : List Table, List.Forall₂ Table.ComesBackAs tables
      ((tables.map Table.toEntity).map Entity.toTable)) ∧
    (∀ tables : List Table,
      ((tables.map Table.toEntity).map Entity.toTable).map Table.toEntity =
          tables.map Table.toEntity ↔
        ∀ t ∈ tables, ∀ c ∈ t.columns, c.type ≠ "") ∧
    (∀ tables : List Table,
      (((tables.map Table.toEntity).map Entity.toTable).map Table.toEntity).map Entity.toTable =
        (tables.map Table.toEntity).map Entity.toTable) ∧
    ∀ entities : List Entity,
      (entities.map Entity.toTable).map Table.toEntity = entities ↔
        ∀ e ∈ entities, ∀ a ∈ e.attributes,
          (a.kind = .primary ∨ a.kind = .normal) ∧ ∃ type, a.dataType = some type ∧ type ≠ "" := by
  refine ⟨fun tables => ?_, fun tables => ?_, fun tables => ?_,
    fun entities => map_toEntity_toTable_eq_iff⟩
  · rw [List.map_map, List.forall₂_map_right_iff]
    exact List.forall₂_same.mpr fun t _ => t.comesBackAs_switched
  · rw [map_toEntity_toTable_eq_iff]
    simp only [List.forall_mem_map, Table.toEntity, Column.lasting_toAttribute_iff]
  · generalize tables.map Table.toEntity = entities
    simp only [List.map_map]
    exact List.map_congr_left fun e _ => e.toTable_toEntity_toTable

end SchemaGraph
