import SchemaGraph.Proofs.FixedPoint
import SchemaGraph.Sql.Script

/-!
# What the foreign keys of a script refer to

A script creates the resolved tables and then alters them: it adds a foreign key for each
relationship that the resolved schema places. `Schema.statements_references` says what those foreign
keys rest on. The tables on both sides are created, and the key on the other side is in the key
constraint of its table. The constrained column is declared just when no belated relationship lacks
it, and each foreign key was placed at the turn of its relationship just when no relationship is
belated.
-/

namespace SchemaGraph

/-! ### Reading statements -/

namespace Statement

/-- Whether a statement adds a foreign key to a table. -/
def altersTable : Statement → Bool
  | .addForeignKey .. => true
  | _ => false

/-- The names of the columns that a statement declares. -/
def declaredColumns : Statement → List String
  | .createTable _ columns _ => columns.map (·.name)
  | _ => []

/-- The names of the columns in the key constraint of a statement. -/
def keyColumns : Statement → List String
  | .createTable _ _ constraints => constraints.flatMap fun
    | .primaryKey _ columns => columns
    | .foreignKey .. => []
  | _ => []

@[simp] lemma altersTable_create (t : Table) (d : Dialect) : (t.create d).altersTable = false := rfl

@[simp] lemma altersTable_createJunction (t : Table) (d : Dialect) :
    (t.createJunction d).altersTable = false := rfl

@[simp] lemma altersTable_statement (p : Placement) : p.statement.altersTable = true := rfl

lemma mem_declaredColumns_create {t : Table} {d : Dialect} {name : String} :
    name ∈ (t.create d).declaredColumns ↔ t.hasColumnNamed name = true := by
  simp [declaredColumns, Table.create, Column.define, Table.hasColumnNamed]

/-- The key constraint of a created table lists all its key columns. -/
lemma keyColumns_create (t : Table) (d : Dialect) :
    (t.create d).keyColumns = (t.columns.filter (·.primaryKey)).map (·.name) := by
  simp only [Table.create, Table.keyConstraint?, keyColumns]
  cases t.columns.filter (·.primaryKey) with
  | nil => rfl
  | cons c cs => simp

lemma mem_keyColumns_create {t : Table} {c : Column} (d : Dialect)
    (h : t.primaryKey? = some c) : c.name ∈ (t.create d).keyColumns := by
  rw [keyColumns_create]
  refine List.mem_map_of_mem (List.mem_filter.mpr ⟨?_, ?_⟩)
  · exact List.mem_of_find?_eq_some h
  · exact List.find?_some h

end Statement

/-- What can be built from some items is built from one of them. -/
lemma mem_filterMap_toOption {α β ε : Type} {f : α → Except ε β} {items : List α} {b : β} :
    b ∈ items.filterMap (fun a => (f a).toOption) ↔ ∃ a ∈ items, f a = .ok b := by
  rw [List.mem_filterMap]
  refine exists_congr fun a => and_congr_right fun _ => ?_
  cases f a with
  | error _ => simp [Except.toOption]
  | ok _ => simp [Except.toOption]

namespace Schema

variable {s : Schema} {d : Dialect} {naming : Naming} {generatedAt : String} {p : Placement}

/-- The schema without its many-to-many relationships. -/
def withOthers (s : Schema) : Schema :=
  { s with relationships := s.others }

lemma mem_placements :
    p ∈ s.placements naming ↔ ∃ r ∈ s.others, (s.prepared naming).place naming r = .ok p :=
  mem_filterMap_toOption

lemma create_mem_statements {t : Table} (h : t ∈ (s.prepared naming).tables) :
    t.create d ∈ s.statements d naming generatedAt := by
  simp only [statements, List.mem_append, List.mem_cons, List.mem_map]
  exact .inl (.inr ⟨t, h, rfl⟩)

lemma filter_altersTable_statements :
    (s.statements d naming generatedAt).filter (·.altersTable) =
      (s.placements naming).map (·.statement) := by
  have hhead : Statement.altersTable (.header d.name generatedAt) = false := rfl
  rw [statements, List.cons_append, List.cons_append, List.filter_cons_of_neg (by simp [hhead]),
    List.filter_append, List.filter_append]
  simp [List.filter_map, Function.comp_def]

/-- A placement of the script is one between tables that the script creates. -/
lemma creates_of_mem_placements (d : Dialect) (generatedAt : String)
    (h : p ∈ s.placements naming) :
    p.holder.create d ∈ s.statements d naming generatedAt ∧
      p.referenced.create d ∈ s.statements d naming generatedAt ∧
      p.key.name ∈ (p.referenced.create d).keyColumns := by
  obtain ⟨r, -, hp⟩ := mem_placements.mp h
  refine ⟨?_, ?_, ?_⟩
  · exact create_mem_statements (mem_of_table? (table?_holder hp))
  · exact create_mem_statements (mem_of_table? (table?_referenced hp))
  · exact Statement.mem_keyColumns_create d (primaryKey?_referenced hp)

/-- The constrained columns are declared just when no belated relationship lacks its column. -/
lemma declares_iff (d : Dialect) :
    (∀ p ∈ s.placements naming, p.columnName ∈ (p.holder.create d).declaredColumns) ↔
      ∀ before r after p, s.others = before ++ r :: after →
        s.withOthers.Belated naming before r p → p.holder.hasColumnNamed p.columnName = true := by
  refine Iff.trans ?_ (forall_hasColumnNamed_iff (s := s.withOthers))
  constructor
  · intro h r hr p hp
    exact Statement.mem_declaredColumns_create.mp (h p (mem_placements.mpr ⟨r, hr, hp⟩))
  · intro h p hp
    obtain ⟨r, hr, hplace⟩ := mem_placements.mp hp
    exact Statement.mem_declaredColumns_create.mpr (h r hr p hplace)

/-- The foreign keys of the script were placed at their turns just when none is belated. -/
lemma placed_at_turn_iff :
    (∀ before r after p, s.others = before ++ r :: after →
        (s.prepared naming).place naming r = .ok p →
          ∃ q, r.placeIn naming ((Resolver.start s.tables).run naming before).index = .ok q) ↔
      ∀ before r after p, s.others = before ++ r :: after →
        ¬s.withOthers.Belated naming before r p := by
  constructor
  · intro h before r after p hr hbelated
    obtain ⟨q, hq⟩ := h before r after p hr hbelated.placed
    exact hbelated.not_placed q hq
  · intro h before r after p hr hp
    obtain ⟨q, hq⟩ | hbelated := placed_or_belated (s := s.withOthers) hr hp
    · exact ⟨q, (placeIn_resolver_index s.withOthers before r).trans hq⟩
    · exact absurd hbelated (h before r after p hr)

/-- The statements that alter tables are those of the placements, between created tables and to keys
of theirs. The columns that they constrain are declared just when no belated relationship lacks its
column, and resolution has placed each of them just when no relationship is belated. -/
theorem statements_references (s : Schema) (d : Dialect) (naming : Naming) (generatedAt : String) :
    (s.statements d naming generatedAt).filter (·.altersTable) =
        (s.placements naming).map (·.statement) ∧
      (∀ p ∈ s.placements naming,
        p.holder.create d ∈ s.statements d naming generatedAt ∧
          p.referenced.create d ∈ s.statements d naming generatedAt ∧
          p.key.name ∈ (p.referenced.create d).keyColumns) ∧
      ((∀ p ∈ s.placements naming, p.columnName ∈ (p.holder.create d).declaredColumns) ↔
        ∀ before r after p, s.others = before ++ r :: after →
          s.withOthers.Belated naming before r p →
            p.holder.hasColumnNamed p.columnName = true) ∧
      ((∀ before r after p, s.others = before ++ r :: after →
          (s.prepared naming).place naming r = .ok p →
            ∃ q, r.placeIn naming ((Resolver.start s.tables).run naming before).index = .ok q) ↔
        ∀ before r after p, s.others = before ++ r :: after →
          ¬s.withOthers.Belated naming before r p) := by
  refine ⟨filter_altersTable_statements, ?_, declares_iff d, placed_at_turn_iff⟩
  intro p hp
  exact creates_of_mem_placements d generatedAt hp

/-- The script adds to a table a foreign key on a column that the table is not created with. -/
theorem statements_undeclared_column :
    ∃ p ∈ namesLaterColumn.placements .bare,
      p.statement = .addForeignKey "T" "FK_T_A" "a" "A" "a" .cascade .cascade ∧
        (p.holder.create Dialect.access).declaredColumns = ["t", "b"] := by
  decide +kernel

end Schema

end SchemaGraph
