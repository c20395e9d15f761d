import SchemaGraph.Editing
import SchemaGraph.Proofs.Resolver

/-!
# Drawing is resolving step by step

Relationships can be drawn one at a time, each with its foreign key column, or a whole schema can be
resolved at once. `drawAll_eq_resolve` says that both ways lead to the same tables: after any run of
drawings the tables are those that resolving the drawn relationships over the first tables gives,
and the drawn relationships stand behind those that were there before.
-/

namespace SchemaGraph

/-! ### Drawings -/

/-- A request in words: the ends by their ids, what the caller chooses, and the settings and the
fresh id that stand in for what the caller leaves open. -/
structure Drawing where
  settings : Settings
  fresh : String
  sourceTable : String
  sourceColumn : String
  targetTable : String
  targetColumn : String
  cardinality : Option Cardinality
  relationshipId : Option String
  naming : Option String
deriving DecidableEq, Repr

namespace Drawing

/-- The request as the caller makes it. -/
def request (d : Drawing) : Connection where
  sourceTable := .str d.sourceTable
  sourceColumn := .str d.sourceColumn
  targetTable := .str d.targetTable
  targetColumn := .str d.targetColumn
  cardinality := d.cardinality.map fun c => .str (spell c)
  relationship := d.relationshipId.map .str
  naming := d.naming.map .str

/-- The naming policy that the request comes to. -/
def policy (d : Drawing) : Naming :=
  d.request.namingOf d.settings

/-- The relationship that the request comes to. -/
def relationship (d : Drawing) : Relationship where
  id := (d.relationshipId.filter (!·.isEmpty)).getD d.fresh
  sourceTable := d.sourceTable
  sourceColumn := d.sourceColumn
  targetTable := d.targetTable
  targetColumn := d.targetColumn
  cardinality := d.cardinality.getD d.settings.cardinality
  sourceOptional := false
  targetOptional := false
  onDelete := d.settings.onDelete
  onUpdate := d.settings.onUpdate

/-- Whether both ends are tables of a schema. -/
def joins (s : Schema) (d : Drawing) : Bool :=
  s.hasTable d.sourceTable && s.hasTable d.targetTable

end Drawing

namespace Schema

/-- The schema after a drawing; without one of its tables nothing is drawn. -/
def draw (s : Schema) (d : Drawing) : Except ConnectionError Schema :=
  (s.connect d.settings d.fresh d.request).map (·.getD s)

/-- The schema after some drawings, one after the other. -/
def drawAll (s : Schema) (ds : List Drawing) : Except ConnectionError Schema :=
  ds.foldlM draw s

/-- The relationships that some drawings add, in their order. -/
def drawn (s : Schema) (ds : List Drawing) : List Relationship :=
  (ds.filter (·.joins s)).map (·.relationship)

end Schema

/-! ### A single drawing -/

namespace Drawing

variable (d : Drawing)

lemma id_value : (Connection.filled? d.request.relationship).getD (.str d.fresh) =
    .str d.relationship.id := by
  unfold relationship request Connection.filled?
  cases d.relationshipId with
  | none => rfl
  | some id =>
    simp only [Option.map_some, Option.filter_some, Json.isVoid]
    by_cases hid : id.isEmpty = true
    · simp [hid]
    · simp [hid]

lemma cardinality_value :
    (Connection.filled? d.request.cardinality).getD (.str (spell d.settings.cardinality)) =
      .str (spell d.relationship.cardinality) := by
  unfold relationship request Connection.filled?
  cases d.cardinality with
  | none => rfl
  | some c => cases c <;> rfl

/-- The object that a request describes is accepted, and it is the relationship of the drawing. -/
lemma check_request : d.request.check d.settings d.fresh = .valid d.relationship := by
  unfold Connection.check Connection.members
  rw [id_value, cardinality_value]
  simp [Relationship.ofMembers, Members.required, Members.optional, Members.find?,
    Members.get?_cons, Member.id, Member.sourceTable, Member.sourceColumn, Member.targetTable,
    Member.targetColumn, Member.cardinality, Member.sourceOptional, Member.targetOptional,
    Member.onDelete, Member.onUpdate, MemberName.only, request, Json.checkText, Json.checkWord,
    Json.text?]
  rfl

lemma endsExist_request (s : Schema) : d.request.endsExist s = .ok (d.joins s) := by
  unfold Connection.endsExist joins
  show (if s.hasTable d.sourceTable then Except.ok (s.hasTable d.targetTable) else .ok false) = _
  cases s.hasTable d.sourceTable <;> rfl

end Drawing

namespace Schema

variable {naming : Naming}

/-- Adding a foreign key leaves the ids of the tables as they are. -/
lemma hasTable_addForeignKey (s : Schema) (r : Relationship) (id : String) :
    (s.addForeignKey naming r).hasTable id = s.hasTable id := by
  have hany (s : Schema) : s.hasTable id = (s.tables.map (·.id)).any (· == id) := by
    simp [hasTable, Function.comp_def]
  rw [hany, hany]
  obtain ⟨h, -⟩ | ⟨p, hp, -, h⟩ := addForeignKey_cases naming s r
  · rw [h]
  · rw [h, modifyTable_tables _ (table?_holder hp), map_id_set_findIdx (Table.append_id ..)]

/-- The schema with one more relationship and its foreign key. -/
def linked (s : Schema) (naming : Naming) (r : Relationship) : Schema where
  tables := (s.addForeignKey naming r).tables
  relationships := s.relationships ++ [r]

lemma hasTable_linked (s : Schema) (r : Relationship) (id : String) :
    (s.linked naming r).hasTable id = s.hasTable id :=
  s.hasTable_addForeignKey r id

/-- What a drawing does: both tables have to be there, and then the relationship and its foreign key
are added. -/
lemma draw_eq (s : Schema) (d : Drawing) :
    s.draw d = .ok (if d.joins s then s.linked d.policy d.relationship else s) := by
  have hlink : s.link? d.policy d.relationship =
      if d.joins s then some (s.linked d.policy d.relationship) else none := rfl
  unfold draw connect
  rw [d.endsExist_request, d.check_request]
  by_cases hd : d.joins s = true
  · rw [if_pos hd] at hlink ⊢
    rw [hd]
    show Except.ok ((s.link? d.policy d.relationship).getD s) = _
    rw [hlink, Option.getD_some]
  · rw [if_neg hd]
    rw [Bool.not_eq_true] at hd
    rw [hd]
    rfl

lemma drawn_congr {s s' : Schema} (h : ∀ id, s'.hasTable id = s.hasTable id) (ds : List Drawing) :
    s'.drawn ds = s.drawn ds := by
  have hjoins (d : Drawing) : d.joins s' = d.joins s := by
    simp only [Drawing.joins, h]
  simp only [drawn, hjoins]

/-- A run of drawings adds the foreign keys of the drawn relationships, one after the other. -/
lemma drawAll_eq (s : Schema) (ds : List Drawing) (h : ∀ d ∈ ds, d.policy = naming) :
    s.drawAll ds = .ok
      ⟨(s.addForeignKeys naming (s.drawn ds)).tables, s.relationships ++ s.drawn ds⟩ := by
  induction ds generalizing s with
  | nil => simp [drawAll, drawn, pure, Except.pure]
  | cons d ds ih =>
    obtain ⟨rfl, hds⟩ := List.forall_mem_cons.mp h
    have hcons : s.drawAll (d :: ds) = s.draw d >>= fun s' => s'.drawAll ds := List.foldlM_cons
    rw [hcons, draw_eq]
    by_cases hd : d.joins s = true
    · have hdrawn : s.drawn (d :: ds) = d.relationship :: s.drawn ds := by
        simp [drawn, hd]
      have htables :
          ((s.linked d.policy d.relationship).addForeignKeys d.policy (s.drawn ds)).tables =
            (s.addForeignKeys d.policy (s.drawn (d :: ds))).tables := by
        have hfirst : (s.linked d.policy d.relationship).tables =
            (s.addForeignKey d.policy d.relationship).tables := rfl
        rw [hdrawn, addForeignKeys_cons]
        exact addForeignKeys_tables_congr hfirst _
      rw [if_pos hd]
      show (s.linked d.policy d.relationship).drawAll ds = _
      rw [ih _ hds, drawn_congr (s.hasTable_linked d.relationship), htables, hdrawn]
      simp [linked]
    · have hdrawn : s.drawn (d :: ds) = s.drawn ds := by
        simp [drawn, hd]
      rw [if_neg hd, hdrawn]
      exact ih s hds

end Schema

/-- After a run of drawings with one naming policy, the drawn relationships follow the earlier ones,
and the tables are those that resolving the drawn relationships gives. No drawing of the run fails.
-/
theorem drawAll_eq_resolve (naming : Naming) (s : Schema) (ds : List Drawing)
    (h : ∀ d ∈ ds, d.policy = naming) :
    s.drawAll ds = .ok
      { tables := (Schema.resolve naming ⟨s.tables, s.drawn ds⟩).tables
        relationships := s.relationships ++ s.drawn ds } := by
  have htables : s.tables = (⟨s.tables, s.drawn ds⟩ : Schema).tables := rfl
  rw [s.drawAll_eq ds h, Schema.resolve_eq, Schema.addForeignKeys_tables_congr htables]

/-- Three tables, two of which share an id. -/
private def sharedIds : Schema :=
  ⟨[.withKey "a" "A" "id", .withKey "b" "B" "id", .withKey "b" "C" "id"], []⟩

/-- Four drawings: the second and the last start from a column that the first adds, the third misses
a table, and the last joins a table to itself. -/
private def fourDrawings : List Drawing :=
  let settings : Settings :=
    ⟨.access, .prefixed, .oneToMany, .cascade, .setNull, .info, none⟩
  [⟨settings, "f1", "a", "a-id", "b", "b-id", none, some "r1", none⟩,
    ⟨settings, "f2", "b", "fk-r1-b", "a", "a-id", some .oneToOne, some "", some "prefixed"⟩,
    ⟨settings, "f3", "b", "b-id", "missing", "x", none, none, none⟩,
    ⟨settings, "f4", "b", "fk-r1-b", "b", "b-id", some .manyToOne, some "r4", some ""⟩]

theorem drawAll_eq_resolve_fourDrawings :
    (∀ d ∈ fourDrawings, d.policy = .prefixed) ∧
      (sharedIds.drawAll fourDrawings).map (fun s =>
          (s.tables.map fun t => t.columns.map (·.name), s.relationships.map (·.id))) =
        .ok ([["id"], ["id", "A_id", "B_id"], ["id"]], ["r1", "f2", "r4"]) := by
  have hpolicy : ∀ d ∈ fourDrawings, d.policy = .prefixed := by decide
  refine ⟨hpolicy, ?_⟩
  rw [drawAll_eq_resolve .prefixed sharedIds fourDrawings hpolicy]
  decide +kernel

end SchemaGraph
