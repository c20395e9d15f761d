import SchemaGraph.Proofs.LoadErrors
import SchemaGraph.Proofs.SavedSchema

/-!
# Loading exports

An export of the editor shows a schema by its nodes. `load_exported` says that the schema is what
is loaded: nodes of other types leave no trace, and every table or entity stands where the position
of its node says. The text of a number or a list may be any that reads as it. An induction on the
nodes (`payloads_of_shows`) carries the proof; for one node, placing its data changes coordinates
and nothing else (`exists_payload?`).
-/

namespace SchemaGraph

variable {α : Type} {check : Json → Checked α}

namespace EditorExport

/-! ### What a node shows -/

/-- A member of an object is missing or says nothing. -/
def Silent (members : Members) (name : String) : Prop :=
  ∀ value, members.get? name = some value → value.isVoid = true

/-- A member of an object has the given members. A silent one has none. -/
def Holds (node : Members) (name : String) (members : Members) : Prop :=
  node.get? name = some (.obj members) ∨ Silent node name ∧ members = []

/-- A member of an object reads as the list of the given items. A silent one has none. -/
def Lists (check : Json → Checked α) (document : Members) (name : String) (items : List α) : Prop :=
  (∃ value, document.get? name = some value ∧ Json.checkList check value = .valid items) ∨
    Silent document name ∧ items = []

/-- A value reads as the given one; where there is none, that is the default. -/
def ReadsAs (check : Json → Checked α) (default : α) (value? : Option Json) (a : α) : Prop :=
  match value? with
  | some value => check value = .valid a
  | none => a = default

/-- Where something is on an axis: as the position says, else as the data say, else at zero. -/
def IsAt (position data : Members) (axis : String) (x : Double) : Prop :=
  ReadsAs Json.checkNumber .zero ((position.get? axis).or (data.get? axis)) x

/-- Nodes that show the given items in order, each by data and a position. -/
inductive Shows (mode : Mode) (isShown : α → (data position : Members) → Prop) :
    List Json → List α → Prop
  | nil : Shows mode isShown [] []
  /-- A node that says that it is of another type shows nothing, whatever it holds. -/
  | foreign {node : Members} {type : Json} {nodes : List Json} {items : List α} :
      node.get? "type" = some type → type ≠ .str (nodeType mode) →
      Shows mode isShown nodes items → Shows mode isShown (.obj node :: nodes) items
  /-- A node of the mode shows the next item. -/
  | item {node data position : Members} {nodes : List Json} {a : α} {items : List α} :
      OfMode mode node → Holds node "data" data → Holds node "position" position →
      isShown a data position → Shows mode isShown nodes items →
      Shows mode isShown (.obj node :: nodes) (a :: items)

end EditorExport

open EditorExport (IsAt Lists ReadsAs Shows)

/-- The data and the position of a node show a table. -/
structure Table.ShownBy (t : Table) (data position : Members) : Prop where
  id : data.get? "id" = some (.str t.id)
  name : data.get? "name" = some (.str t.name)
  columns : ReadsAs (Json.checkList Column.ofJson) [] (data.get? "columns") t.columns
  x : IsAt position data "x" t.x
  y : IsAt position data "y" t.y

/-- The data and the position of a node show an entity. -/
structure Entity.ShownBy (e : Entity) (data position : Members) : Prop where
  id : data.get? "id" = some (.str e.id)
  name : data.get? "name" = some (.str e.name)
  attributes : ReadsAs (Json.checkList Attribute.ofJson) [] (data.get? "attributes") e.attributes
  x : IsAt position data "x" e.x
  y : IsAt position data "y" e.y

/-- A document is an export that shows a logical schema. -/
structure Schema.ExportedAs (s : Schema) (document : Members) : Prop where
  tables : ∃ nodes, document.get? "nodes" = some (.arr nodes) ∧
    Shows .logical Table.ShownBy nodes s.tables
  relationships : Lists Relationship.ofJson document "relationships" s.relationships

/-- A document is an export that shows a conceptual schema. -/
structure ConceptualSchema.ExportedAs (s : ConceptualSchema) (document : Members) : Prop where
  entities : ∃ nodes, document.get? "nodes" = some (.arr nodes) ∧
    Shows .conceptual Entity.ShownBy nodes s.entities
  associations : Lists Association.ofJson document "conceptualRelationships" s.associations

/-! ### Members -/

lemma Json.checkItems_of_forall₂ {items : List Json} {values : List α} (index : Nat)
    (h : List.Forall₂ (fun item a => check item = .valid a) items values) :
    checkItems check index items = .valid values := by
  induction h generalizing index with
  | nil => rfl
  | cons hitem _ ih =>
    rw [checkItems, hitem, ih (index + 1)]
    rfl

lemma Json.checkNumber_int {i : Int} (h : (Double.ofInt i).isFinite = true) :
    checkNumber (.int i) = .valid (.ofInt i) :=
  if_pos h

lemma Json.checkNumber_zero : checkNumber (.int 0) = .valid .zero := by
  have hzero : Double.ofInt 0 = .zero := by decide +kernel
  rw [checkNumber_int (by rw [hzero]; rfl), hzero]

lemma Members.optional_of_get? {members : Members} {name : MemberName} {value : Json}
    {default a : α} (h : members.get? name.usual = some value) (hcheck : check value = .valid a) :
    members.optional name default check = .valid a := by
  rw [optional, find?, h]
  exact Checked.within_eq_valid_iff.mpr hcheck

namespace EditorExport.ReadsAs

variable {default a : α} {members : Members} {name : String}

lemma of_some {value? : Option Json} {value : Json} (h : value? = some value)
    (hcheck : check value = .valid a) : ReadsAs check default value? a := by
  rw [h]
  exact hcheck

/-- What is written as items that read back reads as these items. -/
lemma written {write : α → Json} (items : List α) (h : ∀ a ∈ items, check (write a) = .valid a) :
    ReadsAs (Json.checkList check) [] (some (.arr (items.map write))) items :=
  Json.checkList_map items h

lemma optional (h : ReadsAs check default (members.get? name) a) :
    members.optional (.only name) default check = .valid a := by
  cases hget : members.get? name with
  | some value =>
    rw [hget] at h
    exact Members.optional_of_get? hget h
  | none =>
    rw [hget] at h
    rw [Members.optional, Members.find?, MemberName.only, hget]
    exact congrArg Checked.valid h.symm

end EditorExport.ReadsAs

/-! ### Nodes -/

namespace EditorExport

variable {mode : Mode} {node data position placed : Members} {name : String}

lemma ofMode_of_get? (h : node.get? "type" = some (.str (nodeType mode))) : OfMode mode node :=
  fun _ htype => Option.some.inj (htype.symm.trans h)

lemma silent_of_get? {value : Json} (h : node.get? name = some value)
    (hvoid : value.isVoid = true) : Silent node name := by
  intro other hother
  rw [h] at hother
  cases hother
  exact hvoid

lemma Silent.filled?_eq_none (h : Silent node name) : filled? node name = none := by
  rw [filled?]
  cases hget : node.get? name with
  | none => rfl
  | some value => exact if_pos (h value hget)

lemma Holds.filled?_getD (h : Holds node name data) :
    (filled? node name).getD (.obj []) = .obj data := by
  rcases h with hget | ⟨hsilent, rfl⟩
  · cases data <;> simp [filled?, hget, Json.isVoid]
  · rw [hsilent.filled?_eq_none]
    rfl

lemma Holds.dataMembers (h : Holds node name data) :
    (filled? node name).elim (.ok []) dataMembers = .ok data := by
  have hfilled := h.filled?_getD
  cases hdata : filled? node name with
  | none =>
    rw [hdata] at hfilled
    cases hfilled
    rfl
  | some value =>
    rw [hdata] at hfilled
    cases hfilled
    rfl

lemma Lists.checkList {items : List α} (h : Lists check node name items) :
    Json.checkList check ((filled? node name).getD (.arr [])) = .valid items := by
  rcases h with ⟨value, hget, hcheck⟩ | ⟨hsilent, rfl⟩
  · cases value with
    | arr values =>
      have hfilled : (filled? node name).getD (.arr []) = .arr values := by
        cases values <;> simp [filled?, hget, Json.isVoid]
      rw [hfilled, hcheck]
    | _ => cases hcheck
  · rw [hsilent.filled?_eq_none]
    rfl

/-- What a node says about an axis. Zero stands for what it does not say. -/
def coordinate (position data : Members) (axis : String) : Json :=
  ((position.get? axis).or (data.get? axis)).getD (.int 0)

lemma IsAt.checkNumber_coordinate {axis : String} {x : Double} (h : IsAt position data axis x) :
    Json.checkNumber (coordinate position data axis) = .valid x := by
  rw [IsAt] at h
  rw [coordinate]
  cases hvalue : (position.get? axis).or (data.get? axis) with
  | some value =>
    rw [hvalue] at h
    exact h
  | none =>
    rw [hvalue] at h
    exact Json.checkNumber_zero.trans (congrArg Checked.valid h.symm)

/-- Something is placed on an axis by one of its members, and the others stay. -/
lemma exists_placeOn (position data : Members) {axis : Char} {axisName : String}
    (haxis : axis.toString = axisName) :
    ∃ placed, placeOn (.obj position) axis data = .ok placed ∧ ∀ name,
      placed.get? name =
        if name = axisName then some (coordinate position data axisName) else data.get? name := by
  rw [placeOn, coordinate?, haxis]
  cases hposition : position.get? axisName with
  | some value => exact ⟨_, rfl, fun name => by simp [Members.get?_set, coordinate, hposition]⟩
  | none =>
    cases hdata : data.get? axisName with
    | some value =>
      refine ⟨data, rfl, fun name => ?_⟩
      split
      · next h => simp [h, coordinate, hposition, hdata]
      · rfl
    | none => exact ⟨_, rfl, fun name => by simp [Members.get?_set, coordinate, hposition, hdata]⟩

/-- Members are those of some data but for the coordinates, which are those of a node. -/
structure Placed (data position placed : Members) : Prop where
  x : placed.get? "x" = some (coordinate position data "x")
  y : placed.get? "y" = some (coordinate position data "y")
  other : ∀ name, name ≠ "x" → name ≠ "y" → placed.get? name = data.get? name

lemma exists_payload? (hmode : OfMode mode node) (hdata : Holds node "data" data)
    (hposition : Holds node "position" position) :
    ∃ placed, payload? mode (.obj node) = .ok (some (.obj placed)) ∧
      Placed data position placed := by
  have hnameX : 'x'.toString = "x" := rfl
  have hnameY : 'y'.toString = "y" := rfl
  obtain ⟨onX, hx, hgetX⟩ := exists_placeOn position data hnameX
  obtain ⟨onXY, hy, hgetY⟩ := exists_placeOn position onX hnameY
  refine ⟨onXY, ?_, ⟨?_, ?_, ?_⟩⟩
  · rw [payload?, if_pos (ofMode_iff.mpr hmode), hdata.dataMembers,
      hposition.filled?_getD]
    show (placeOn (.obj position) 'x' data >>= _) = _
    rw [hx]
    show (placeOn (.obj position) 'y' onX >>= _) = _
    rw [hy]
    rfl
  · rw [hgetY, if_neg (by decide), hgetX]
    rfl
  · -- what is set on the first axis does not change what is read on the second
    have hkept : coordinate position onX "y" = coordinate position data "y" := by
      rw [coordinate, hgetX, if_neg (by decide), coordinate]
    rw [hgetY]
    exact congrArg some hkept
  · intro name hneX hneY
    rw [hgetY, if_neg hneY, hgetX, if_neg hneX]

namespace Placed

variable (h : Placed data position placed)
include h

lemma required_text {s : String} (hx : name ≠ "x") (hy : name ≠ "y")
    (hget : data.get? name = some (.str s)) :
    placed.required (.only name) Json.checkText = .valid s := by
  rw [Members.required, Members.find?, MemberName.only, h.other name hx hy, hget]
  rfl

lemma optional {default a : α} (hx : name ≠ "x") (hy : name ≠ "y")
    (hreads : ReadsAs check default (data.get? name) a) :
    placed.optional (.only name) default check = .valid a := by
  rw [← h.other name hx hy] at hreads
  exact hreads.optional

lemma optional_x {x : Double} (hx : IsAt position data "x" x) :
    placed.optional Member.x .zero Json.checkNumber = .valid x := by
  apply ReadsAs.optional
  rw [h.x]
  exact hx.checkNumber_coordinate

lemma optional_y {y : Double} (hy : IsAt position data "y" y) :
    placed.optional Member.y .zero Json.checkNumber = .valid y := by
  apply ReadsAs.optional
  rw [h.y]
  exact hy.checkNumber_coordinate

end Placed

lemma payload?_foreign {type : Json} (h : node.get? "type" = some type)
    (htype : type ≠ .str (nodeType mode)) : payload? mode (.obj node) = .ok none := by
  rw [payload?, if_neg]
  · rfl
  · exact ofMode_iff.not.mpr fun hmode => htype (hmode type h)

lemma payloads_of_shows {isShown : α → (data position : Members) → Prop} {nodes : List Json}
    {items : List α}
    (hcheck : ∀ {a data position placed}, isShown a data position → Placed data position placed →
      check (.obj placed) = .valid a) (h : Shows mode isShown nodes items) :
    ∃ values, payloads mode nodes = .ok values ∧
      List.Forall₂ (fun value a => check value = .valid a) values items := by
  induction h with
  | nil => exact ⟨[], rfl, .nil⟩
  | foreign htype hother _ ih =>
    obtain ⟨values, hvalues, hitems⟩ := ih
    refine ⟨values, ?_, hitems⟩
    rw [payloads, payload?_foreign htype hother, hvalues]
    rfl
  | item hmode hdata hposition hshown _ ih =>
    obtain ⟨values, hvalues, hitems⟩ := ih
    obtain ⟨placed, hpayload, hplaced⟩ := exists_payload? hmode hdata hposition
    refine ⟨.obj placed :: values, ?_, .cons (hcheck hshown hplaced) hitems⟩
    rw [payloads, hpayload, hvalues]
    rfl

/-! ### Exports -/

lemma nodes_eq {document : Members} {items : List Json}
    (h : document.get? "nodes" = some (.arr items)) : nodes document = .ok items := by
  cases items <;> simp [nodes, filled?, h, Json.isVoid, items?]

/-- An export stands for the document with the tables or entities that its nodes show. -/
lemma exists_unfold {isShown : α → (data position : Members) → Prop} {document : Members}
    {items : List α}
    (hcheck : ∀ {a data position placed}, isShown a data position → Placed data position placed →
      check (.obj placed) = .valid a)
    (h : ∃ nodes, document.get? "nodes" = some (.arr nodes) ∧ Shows mode isShown nodes items) :
    ∃ values, Json.checkList check values = .valid items ∧
      EditorExport.unfold mode document = .ok [(collection mode, values),
        ("relationships", (filled? document (relationships mode)).getD (.arr []))] := by
  obtain ⟨items, hitems, hshows⟩ := h
  obtain ⟨values, hvalues, hforall⟩ := payloads_of_shows hcheck hshows
  refine ⟨.arr values, Json.checkItems_of_forall₂ 0 hforall, ?_⟩
  rw [EditorExport.unfold, hitems, Option.isSome_some, if_pos rfl, nodes_eq hitems]
  show (payloads mode items >>= _) = _
  rw [hvalues]
  rfl

end EditorExport

/-! ### Loading -/

lemma Table.ShownBy.ofJson {t : Table} {data position placed : Members}
    (h : t.ShownBy data position) (hplaced : EditorExport.Placed data position placed) :
    Table.ofJson (.obj placed) = .valid t := by
  have hid : placed.required Member.id Json.checkText = .valid t.id :=
    hplaced.required_text (by decide) (by decide) h.id
  have hname : placed.required Member.name Json.checkText = .valid t.name :=
    hplaced.required_text (by decide) (by decide) h.name
  have hcolumns : placed.optional Member.columns [] (Json.checkList Column.ofJson) =
      .valid t.columns :=
    hplaced.optional (by decide) (by decide) h.columns
  have hx : placed.optional Member.x .zero Json.checkNumber = .valid t.x :=
    hplaced.optional_x h.x
  have hy : placed.optional Member.y .zero Json.checkNumber = .valid t.y :=
    hplaced.optional_y h.y
  rw [Table.ofJson, Json.checkModel, Table.ofMembers, hid, hname, hcolumns, hx, hy]
  rfl

lemma Entity.ShownBy.ofJson {e : Entity} {data position placed : Members}
    (h : e.ShownBy data position) (hplaced : EditorExport.Placed data position placed) :
    Entity.ofJson (.obj placed) = .valid e := by
  have hid : placed.required Member.id Json.checkText = .valid e.id :=
    hplaced.required_text (by decide) (by decide) h.id
  have hname : placed.required Member.name Json.checkText = .valid e.name :=
    hplaced.required_text (by decide) (by decide) h.name
  have hattributes : placed.optional Member.attributes [] (Json.checkList Attribute.ofJson) =
      .valid e.attributes :=
    hplaced.optional (by decide) (by decide) h.attributes
  have hx : placed.optional Member.x .zero Json.checkNumber = .valid e.x :=
    hplaced.optional_x h.x
  have hy : placed.optional Member.y .zero Json.checkNumber = .valid e.y :=
    hplaced.optional_y h.y
  rw [Entity.ofJson, Json.checkModel, Entity.ofMembers, hid, hname, hattributes, hx, hy]
  rfl

section

variable {levels : Nat} {document : Members} {path text : String}

lemma Schema.ExportedAs.loadWithin {s : Schema} (h : s.ExportedAs document)
    (hread : Document.readMembers levels path text = .ok document) :
    Schema.loadWithin levels path text = .ok s := by
  obtain ⟨tables, htables, hunfold⟩ := EditorExport.exists_unfold Table.ShownBy.ofJson h.tables
  have hcheck : Schema.ofMembers [("tables", tables), ("relationships",
      (EditorExport.filled? document "relationships").getD (.arr []))] = .valid s := by
    rw [Schema.ofMembers, Members.optional_of_get? rfl htables,
      Members.optional_of_get? rfl h.relationships.checkList]
    rfl
  exact Document.loadWith_eq_ok hread hunfold hcheck

lemma ConceptualSchema.ExportedAs.loadWithin {s : ConceptualSchema} (h : s.ExportedAs document)
    (hread : Document.readMembers levels path text = .ok document) :
    ConceptualSchema.loadWithin levels path text = .ok s := by
  obtain ⟨entities, hentities, hunfold⟩ :=
    EditorExport.exists_unfold Entity.ShownBy.ofJson h.entities
  have hcheck : ConceptualSchema.ofMembers [("entities", entities), ("relationships",
      (EditorExport.filled? document "conceptualRelationships").getD (.arr []))] = .valid s := by
    rw [ConceptualSchema.ofMembers, Members.optional_of_get? rfl hentities,
      Members.optional_of_get? rfl h.associations.checkList]
    rfl
  exact Document.loadWith_eq_ok hread hunfold hcheck

/-- Whatever path it is loaded from and however many levels it is read in, the text of an export
holds the schema that the export shows, in either mode. -/
theorem load_exported (hread : Document.readMembers levels path text = .ok document) :
    (∀ s : Schema, s.ExportedAs document → Schema.loadWithin levels path text = .ok s) ∧
    (∀ s : ConceptualSchema, s.ExportedAs document →
      ConceptualSchema.loadWithin levels path text = .ok s) :=
  ⟨fun _ h => h.loadWithin hread, fun _ h => h.loadWithin hread⟩

end

open EditorExport (ofMode_of_get? silent_of_get?)

private def writtenKey : Column :=
  ⟨"k", "id", "INTEGER", true, false, true, true, false, none, none⟩

private def tableData : Members :=
  [("id", .str "t"), ("name", .str "T"), ("columns", .arr ([writtenKey].map Column.toJson)),
    ("x", .str "?"), ("y", .null)]

private def tablePosition : Members := [("x", .int 300), ("y", .int 40)]

private def entityData : Members :=
  [("x", .int 10), ("id", .str "e"), ("name", .str "E")]

private def mixedNodes : List Json := [
  .obj [("type", .str "tableNode"), ("data", .obj tableData), ("position", .obj tablePosition)],
  .obj [("type", .null), ("data", .int 5)],
  .obj [("data", .obj entityData), ("position", .null)]]

/-- An export of a table at a place that its data do not know, a note that is badly formed, and a
node that does not say of what type it is. The last one shows a table and an entity. -/
private def mixedExport : Members :=
  [("relationships", .bool false), ("nodes", .arr mixedNodes)]

private def mixedTables : Schema where
  tables := [⟨"t", "T", [writtenKey], .ofInt 300, .ofInt 40⟩, ⟨"e", "E", [], .ofInt 10, .zero⟩]
  relationships := []

private def mixedEntities : ConceptualSchema where
  entities := [⟨"e", "E", [], .ofInt 10, .zero⟩]
  associations := []

private lemma writable_mixedExport (levels : Nat) :
    (Json.obj mixedExport).Writable (levels + 6) := by
  have hkey : (Json.arr ([writtenKey].map Column.toJson)).Writable (levels + 2) :=
    Json.writable_map _ fun c _ => c.writable_toJson levels
  have hint (levels : Nat) : ∀ i ∈ [5, 10, 40, 300], (Json.int i).Writable levels :=
    fun i hi => .int (by
      revert i
      decide)
  have htable : (Json.obj tableData).Writable (levels + 3) :=
    .obj (by decide) (by simpa [tableData, Json.Writable.str, Json.Writable.null] using hkey)
  have hposition : (Json.obj tablePosition).Writable (levels + 3) :=
    .obj (by decide) (by simp [tablePosition, hint])
  have hentity : (Json.obj entityData).Writable (levels + 3) :=
    .obj (by decide) (by simp [entityData, hint, Json.Writable.str])
  have hnodes : (Json.arr mixedNodes).Writable (levels + 5) := by
    refine .arr ?_
    rw [mixedNodes, List.forall_mem_cons, List.forall_mem_cons, List.forall_mem_singleton]
    refine ⟨?_, ?_, ?_⟩
    · exact .obj (by decide) (by simp [htable, hposition, Json.Writable.str])
    · exact .obj (by decide) (by simp [hint, Json.Writable.null])
    · exact .obj (by decide) (by simp [hentity, Json.Writable.null])
  exact .obj (by decide) (by simp [mixedExport, hnodes, Json.Writable.bool])

theorem load_exported_mixed :
    Document.readMembers Json.nestingLimit "e.json" (Json.obj mixedExport).write =
        .ok mixedExport ∧
      mixedTables.ExportedAs mixedExport ∧ mixedEntities.ExportedAs mixedExport ∧
      Schema.load "e.json" (Json.obj mixedExport).write = .ok mixedTables ∧
      ConceptualSchema.load "e.json" (Json.obj mixedExport).write = .ok mixedEntities := by
  have hwritable : (Json.obj mixedExport).Writable Json.nestingLimit := writable_mixedExport 987
  have hread := Document.readMembers_write "e.json" hwritable
  have hnormalized : ∀ c ∈ [writtenKey], c.Normalized := by decide
  have hcolumns := ReadsAs.written [writtenKey] fun c hc => Column.ofJson_toJson (hnormalized c hc)
  have h10 := Json.checkNumber_int (i := 10) (by decide +kernel)
  have h40 := Json.checkNumber_int (i := 40) (by decide +kernel)
  have h300 := Json.checkNumber_int (i := 300) (by decide +kernel)
  have htables : mixedTables.ExportedAs mixedExport := by
    refine ⟨⟨mixedNodes, rfl, ?_⟩, .inr ⟨silent_of_get? rfl rfl, rfl⟩⟩
    refine .item (ofMode_of_get? rfl) (.inl rfl) (.inl rfl)
      ⟨rfl, rfl, hcolumns, ?_, ?_⟩ (.foreign rfl nofun ?_)
    · dsimp only
      exact .of_some rfl h300
    · dsimp only
      exact .of_some rfl h40
    · refine .item nofun (.inl rfl) (.inr ⟨silent_of_get? rfl rfl, rfl⟩)
        ⟨rfl, rfl, rfl, ?_, rfl⟩ .nil
      dsimp only
      exact .of_some rfl h10
  have hentities : mixedEntities.ExportedAs mixedExport := by
    refine ⟨⟨mixedNodes, rfl, ?_⟩, .inr ⟨nofun, rfl⟩⟩
    refine .foreign rfl (by simp [EditorExport.nodeType]) (.foreign rfl nofun ?_)
    refine .item nofun (.inl rfl) (.inr ⟨silent_of_get? rfl rfl, rfl⟩)
      ⟨rfl, rfl, rfl, ?_, rfl⟩ .nil
    dsimp only
    exact .of_some rfl h10
  obtain ⟨hloadTables, hloadEntities⟩ := load_exported hread
  exact ⟨hread, htables, hentities, hloadTables _ htables, hloadEntities _ hentities⟩

end SchemaGraph
