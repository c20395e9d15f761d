import SchemaGraph.Proofs.Edits
import SchemaGraph.Proofs.ModeSwitch

/-!
# One table for each id

Several tables can have one id, and they are searched for an id in many ways: one after the other,
through an index, by the place of the id, and, where they are made of entities, through an index of
these. `lookups_find_first` says that all of these ways lead to the first table of the id. A
resolution changes its tables and its index apart from each other. They stay in step in every state
of every run, so what a lookup has found once is found again by all the others.
-/

namespace SchemaGraph

/-! ### First tables -/

/-- A table is the first one of an id. -/
def FirstOf (tables : List Table) (id : String) (t : Table) : Prop :=
  ∃ before after, tables = before ++ t :: after ∧ t.id = id ∧ ∀ u ∈ before, u.id ≠ id

/-- Every search for an id among some tables leads to what has been found: to the first table of the
id, or to nothing if there is none. -/
structure LeadsTo (tables : List Table) (id : String) (found : Option Table) : Prop where
  first : ∀ t, found = some t ↔ FirstOf tables id t
  searched (relationships : List Relationship) : Schema.table? ⟨tables, relationships⟩ id = found
  indexed : (indexTables tables).get? id = found
  /-- The place of the id is looked up. -/
  placed : ((firstPlaces (tables.map (·.id))).get? id).bind (tables[·]?) = found
  /-- The place of the id is counted out. -/
  counted : (tables.findIdx? (·.id == id)).bind (tables[·]?) = found

lemma firstOf_iff {tables : List Table} {id : String} {t : Table} :
    FirstOf tables id t ↔ tables.find? (·.id == id) = some t := by
  rw [List.find?_eq_some_iff_append]
  constructor
  · rintro ⟨before, after, htables, hid, hbefore⟩
    exact ⟨by simpa using hid, before, after, htables, by simpa using hbefore⟩
  · rintro ⟨hid, before, after, htables, hbefore⟩
    exact ⟨before, after, htables, by simpa using hid, by simpa using hbefore⟩

lemma leadsTo_find? (tables : List Table) (id : String) :
    LeadsTo tables id (tables.find? (·.id == id)) where
  first _ := firstOf_iff.symm
  searched _ := rfl
  indexed := get?_indexTables tables id
  placed := by rw [get?_firstPlaces, List.find?_eq_bind_findIdx?_getElem?]
  counted := (List.find?_eq_bind_findIdx?_getElem? ..).symm

lemma leadsTo_indexTables (tables : List Table) (id : String) :
    LeadsTo tables id ((indexTables tables).get? id) := by
  rw [get?_indexTables]
  exact leadsTo_find? tables id

/-- A table that is found by its id stands at the place of that id. -/
lemma getElem?_findIdx {tables : List Table} {id : String} {t : Table}
    (h : tables.find? (·.id == id) = some t) :
    tables.findIdx? (·.id == id) = some (tables.findIdx (·.id == id)) ∧
      tables[tables.findIdx (·.id == id)]? = some t := by
  have hid : (t.id == id) = true := by simpa using List.find?_some h
  have hplace : tables.findIdx? (·.id == id) = some (tables.findIdx (·.id == id)) :=
    List.findIdx?_eq_some_of_exists ⟨t, List.mem_of_find?_eq_some h, hid⟩
  rw [List.find?_eq_bind_findIdx?_getElem?, hplace] at h
  exact ⟨hplace, h⟩

/-! ### Lookups on the strength of others -/

/-- When a relationship has been placed, the index has the table that is to hold its foreign key,
the places have the place of this table, and the turn changes no other table. -/
def Resolver.TurnFinds (w : Resolver) (naming : Naming) (r : Relationship) (p : Placement) : Prop :=
  w.index.get? p.holder.id = some p.holder ∧
    ∃ place, w.places.get? p.holder.id = some place ∧ w.tables[place]? = some p.holder ∧
      w.step naming r =
        if p.holder.hasColumnNamed p.columnName then w
        else w.update place (p.holder.append p.column)

namespace Schema

/-- When a drawn relationship has been placed, the table that is to hold its foreign key is met by
counting, and no other table is changed. -/
def DrawingFinds (s : Schema) (naming : Naming) (r : Relationship) (p : Placement) : Prop :=
  ∃ place, s.tables.findIdx? (·.id == p.holder.id) = some place ∧
    s.tables[place]? = some p.holder ∧
    (s.addForeignKey naming r).tables =
      if p.holder.hasColumnNamed p.columnName then s.tables
      else s.tables.set place (p.holder.append p.column)

/-- When a relationship is replaced by a junction table, the index has the tables that it joins, and
these have keys. -/
structure JunctionFinds (s : Schema) (r : Relationship) (e : JunctionEnds) : Prop where
  source : s.index.get? r.sourceTable = some e.source
  target : s.index.get? r.targetTable = some e.target
  sourceKey : e.source.primaryKey? = some e.sourceKey
  targetKey : e.target.primaryKey? = some e.targetKey

variable {s : Schema} {naming : Naming} {r : Relationship} {p : Placement}

lemma drawingFinds_of_place (hp : s.place naming r = .ok p) : s.DrawingFinds naming r p := by
  have hholder : s.tables.find? (·.id == p.holder.id) = some p.holder := table?_holder hp
  obtain ⟨hplace, hget⟩ := getElem?_findIdx hholder
  refine ⟨_, hplace, hget, ?_⟩
  simp only [addForeignKey, resolution, hp]
  cases p.holder.hasColumnNamed p.columnName with
  | true => rfl
  | false => exact modifyTable_tables (·.append p.column) (table?_holder hp)

lemma junctionFinds_of_junctionEnds {e : JunctionEnds} (h : s.junctionEnds r = .ok e) :
    s.JunctionFinds r e := by
  obtain ⟨-, ⟨hsource, hsourceKey⟩, htarget, htargetKey⟩ := junctionEnds_eq_ok h
  exact ⟨(s.get?_index _).trans hsource, (s.get?_index _).trans htarget, hsourceKey, htargetKey⟩

end Schema

namespace Resolver.Consistent

variable {w : Resolver} {naming : Naming} {r : Relationship} {p : Placement}

lemma leadsTo (h : w.Consistent) (id : String) : LeadsTo w.tables id (w.index.get? id) := by
  rw [h.index_eq]
  exact leadsTo_indexTables w.tables id

lemma get?_places (h : w.Consistent) (id : String) :
    w.places.get? id = w.tables.findIdx? (·.id == id) := by
  rw [h.places_eq, get?_firstPlaces]

lemma turnFinds (h : w.Consistent) (hp : r.placeIn naming w.index = .ok p) :
    w.TurnFinds naming r p := by
  have hplaced : Schema.place ⟨w.tables, []⟩ naming r = .ok p := by
    rw [h.index_eq] at hp
    exact hp
  have hholder : w.tables.find? (·.id == p.holder.id) = some p.holder :=
    Schema.table?_holder hplaced
  obtain ⟨hplace, hget⟩ := getElem?_findIdx hholder
  have hindex : w.index.get? p.holder.id = some p.holder := by
    rw [h.index_eq, get?_indexTables, hholder]
  refine ⟨hindex, _, (h.get?_places _).trans hplace, hget, ?_⟩
  rw [h.step_eq]
  simp only [Schema.resolution, hplaced]
  cases p.holder.hasColumnNamed p.columnName <;> rfl

end Resolver.Consistent

/-! ### All lookups -/

/-- An id leads to one table in every way: to the first one of the id. So it does in the tables that
are made of entities, where it is the entity that is looked up, and in every state of a resolution,
where index and places are those of the present tables. A relationship that is placed, or that is
replaced by a junction table, has its tables found by every further lookup. -/
theorem lookups_find_first :
    (∀ tables id, LeadsTo tables id ((indexTables tables).get? id)) ∧
    (∀ (c : ConceptualSchema) (onDelete onUpdate : ReferentialAction) (id : String),
      LeadsTo (c.toLogical onDelete onUpdate).tables id ((c.index.get? id).map Entity.toTable)) ∧
    (∀ (naming : Naming) (tables : List Table) (rs : List Relationship) (w : Resolver),
      w = (Resolver.start tables).run naming rs →
        w.index = indexTables w.tables ∧
        (∀ id, LeadsTo w.tables id (w.index.get? id) ∧
          w.places.get? id = w.tables.findIdx? (·.id == id)) ∧
        ∀ r p, r.placeIn naming w.index = .ok p → w.TurnFinds naming r p) ∧
    (∀ (naming : Naming) (s : Schema) (r : Relationship) (p : Placement),
      s.place naming r = .ok p → s.DrawingFinds naming r p) ∧
    ∀ (naming : Naming) (s : Schema) (choice : JunctionChoice) (s' : Schema),
      s.materialize naming choice = .ok s' →
        ∃ r e, s.choose? choice = some r ∧ s.JunctionFinds r e ∧
          s' = s.withJunction naming r e := by
  refine ⟨leadsTo_indexTables, ?_, ?_, ?_, ?_⟩
  · intro c onDelete onUpdate id
    rw [ConceptualSchema.get?_index, ← c.table?_toLogical onDelete onUpdate]
    exact leadsTo_find? (c.toLogical onDelete onUpdate).tables id
  · rintro naming tables rs w rfl
    have hconsistent : ((Resolver.start tables).run naming rs).Consistent :=
      ((Resolver.start_consistent tables).run rs).1
    refine ⟨hconsistent.index_eq, ?_, ?_⟩
    · intro id
      exact ⟨hconsistent.leadsTo id, hconsistent.get?_places id⟩
    · intro r p hp
      exact hconsistent.turnFinds hp
  · intro naming s r p hp
    exact Schema.drawingFinds_of_place hp
  · intro naming s choice s' hs'
    obtain ⟨r, e, hr, hends, -, rfl⟩ := Schema.materialize_eq_ok_iff.mp hs'
    exact ⟨r, e, hr, Schema.junctionFinds_of_junctionEnds hends, rfl⟩

/-- Two tables of one id and a third one, joined one to many and many to many. -/
private def twins : Schema where
  tables := [.withKey "t" "T" "id", .withKey "t" "U" "code", .withKey "v" "V" "id"]
  relationships := [⟨"r1", "v", "v-id", "t", "t-id", .oneToMany, false, false, .cascade, .cascade⟩,
    ⟨"r2", "t", "t-id", "v", "v-id", .manyToMany, false, false, .cascade, .cascade⟩]

theorem lookups_find_first_twins :
    ∃ p, twins.place .prefixed twins.relationships[0] = .ok p ∧ p.holder.name = "T" ∧
      (Resolver.start twins.tables).TurnFinds .prefixed twins.relationships[0] p ∧
      twins.DrawingFinds .prefixed twins.relationships[0] p ∧
      (∃ t, t.columns.map (·.name) = ["id", "V_id"] ∧
        LeadsTo (twins.resolve .prefixed).tables "t" (some t)) ∧
      (∃ e, twins.JunctionFinds twins.relationships[1] e) ∧
      ∃ e, twins.toConceptual.index.get? "t" = some e ∧ e.name = "T" ∧
        LeadsTo (twins.toConceptual.toLogical .cascade .cascade).tables "t"
          (some e.toTable) := by
  obtain ⟨-, hconverted, hrun, hdrawn, hjoined⟩ := lookups_find_first
  obtain ⟨p, hp, hname⟩ : ∃ p, twins.place .prefixed twins.relationships[0] = .ok p ∧
      p.holder.name = "T" := by
    refine ⟨_, rfl, rfl⟩
  have hturn := (hrun .prefixed twins.tables [] _ rfl).2.2 _ p hp
  have hresolved := ((hrun .prefixed twins.tables twins.relationships _ rfl).2.1 "t").1
  obtain ⟨r, e, hr, hfinds, -⟩ := hjoined .prefixed twins ⟨some "r2", none, none⟩ _ rfl
  refine ⟨p, hp, hname, hturn, hdrawn _ _ _ _ hp, ?_, ?_, ?_⟩
  · exact ⟨_, by decide +kernel, hresolved⟩
  · cases hr
    exact ⟨e, hfinds⟩
  · exact ⟨_, rfl, rfl, hconverted twins.toConceptual .cascade .cascade "t"⟩

end SchemaGraph
