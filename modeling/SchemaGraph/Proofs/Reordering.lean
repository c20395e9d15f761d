import SchemaGraph.Proofs.AddedColumns
import SchemaGraph.Proofs.CleanReport
import SchemaGraph.Proofs.DrawnSchema

/-!
# The order of relationships

A resolution takes the relationships one after the other, and of those that call for a column of one
name in one table only the first is given it. So the order shows in the columns of the resolved
tables. `Schema.script_reordered` says that it shows nowhere else, as long as the relationships find
their columns: each table has columns of the same names, and the script has the same junctions and
adds the same foreign keys. What carries this is that the names can be told from the given tables
alone, without the run (`Schema.FindsColumns.mem_columnsFor_iff`).
-/

namespace SchemaGraph

/-- The same table with columns of the same names, as often and in any order. -/
structure Table.SameNames (t t' : Table) : Prop where
  id_eq : t'.id = t.id
  name_eq : t'.name = t.name
  names : (t'.columns.map (·.name)).Perm (t.columns.map (·.name))

namespace Schema

variable {s s' : Schema} {naming : Naming} {r : Relationship} {id name : String} {t : Table}
  {p : Placement}

/-! ### What the run does not decide -/

lemma FindsColumns.finds_of_place (hs : s.FindsColumns) (hr : r ∈ s.relationships)
    (hp : s'.place naming r = .ok p) : s.Finds r := by
  obtain ⟨_, _, _, _, _, hj, -, -⟩ := Relationship.exists_joins_of_placeIn hp
  exact hs r hr (Relationship.not_isManyToMany_of_holder? hj.side_eq)

/-- Where relationships find their columns, the given tables decide about the foreign keys of the
script. -/
lemma FindsColumns.alteration?_eq (hs : s.FindsColumns) (hr : r ∈ s.relationships)
    (naming : Naming) :
    s.alteration? naming r = (s.place naming r).toOption.map (·.statement) := by
  have hgrows := grows_prepared naming s
  rw [alteration?]
  cases hp : s.place naming r with
  | ok p =>
    obtain ⟨p', hp', hgrown⟩ := hgrows.place hp
    rw [hp']
    exact congrArg some hgrown.statement_eq
  | error gap =>
    cases hp' : (s.prepared naming).place naming r with
    | error gap' => rfl
    | ok p' =>
      obtain ⟨q, hq, -⟩ := (hs.finds_of_place hr hp').place_of_grows hgrows hp'
      rw [hp] at hq
      cases hq

/-- A table gets a column of a name just when it has none and some relationship calls for one. -/
lemma FindsColumns.mem_columnsFor_iff (hs : s.FindsColumns) (ht : s.table? id = some t) :
    name ∈ (columnsFor (s.additions naming) id).map (·.name) ↔
      t.hasColumnNamed name = false ∧ ∃ r ∈ s.relationships, ∃ p,
        s.place naming r = .ok p ∧ p.holder.id = id ∧ p.columnName = name := by
  have hadds := s.resolvesBy_additions naming
  constructor
  · intro hmem
    obtain ⟨c, hc, rfl⟩ := List.mem_map.mp hmem
    refine ⟨(hadds.newNames id t ht).absent hc, ?_⟩
    obtain ⟨a, ha, hid, rfl⟩ := mem_columnsFor.mp hc
    obtain ⟨before, r, after, hsplit, -, hplaced⟩ := hadds.placed a ha
    rw [placeIn_resolver_index] at hplaced
    have hr : r ∈ s.relationships := by simp [hsplit]
    obtain ⟨p, hp, hgrown⟩ := (hs.finds_of_place hr hplaced).place_of_grows
      (Grows.addForeignKeys naming s before) hplaced
    exact ⟨r, hr, p, hp, hgrown.holder.id_eq ▸ hid, hgrown.columnName_eq.symm⟩
  · rintro ⟨habsent, r, hr, p, hp, rfl, rfl⟩
    obtain ⟨p', hp', hgrown, hthere⟩ := exists_place_resolve hr hp
    have hholder := table?_holder hp'
    rw [hgrown.holder.id_eq, table?_resolve, ht, Option.map_some] at hholder
    rw [← Option.some.inj hholder, hgrown.columnName_eq, Table.hasColumnNamed_extended, habsent,
      Bool.false_or, List.any_eq_true] at hthere
    obtain ⟨c, hc, hname⟩ := hthere
    exact List.mem_map.mpr ⟨c, hc, beq_iff_eq.mp hname⟩

/-! ### Another order -/

/-- The same tables with the relationships in another order. -/
structure Reordered (s s' : Schema) : Prop where
  tables_eq : s'.tables = s.tables
  relationships : s'.relationships.Perm s.relationships

namespace Reordered

lemma table?_eq (h : s.Reordered s') (id : String) : s'.table? id = s.table? id := by
  rw [table?, table?, h.tables_eq]

lemma findsColumns (h : s.Reordered s') (hs : s.FindsColumns) : s'.FindsColumns := by
  intro r hr hmany source target hsource htarget
  rw [h.table?_eq] at hsource htarget
  exact hs r (h.relationships.mem_iff.mp hr) hmany source target hsource htarget

/-- The columns for an id have the same names, since both lists of names are without repetition. -/
lemma columnsFor_perm (h : s.Reordered s') (hs : s.FindsColumns) (ht : s.table? id = some t) :
    ((columnsFor (s'.additions naming) id).map (·.name)).Perm
      ((columnsFor (s.additions naming) id).map (·.name)) := by
  have ht' : s'.table? id = some t := (h.table?_eq id).trans ht
  have hnew := (s.resolvesBy_additions naming).newNames id t ht
  have hnew' := (s'.resolvesBy_additions naming).newNames id t ht'
  refine (List.perm_ext_iff_of_nodup hnew'.nodup hnew.nodup).mpr fun name => ?_
  rw [(h.findsColumns hs).mem_columnsFor_iff ht', hs.mem_columnsFor_iff ht]
  simp only [h.relationships.mem_iff, place_congr h.tables_eq]

lemma resolve_sameNames (h : s.Reordered s') (hs : s.FindsColumns) (naming : Naming) :
    List.Forall₂ Table.SameNames (s.resolve naming).tables (s'.resolve naming).tables := by
  rw [(s.resolvesBy_additions naming).tables_eq, (s'.resolvesBy_additions naming).tables_eq,
    h.tables_eq]
  refine (forall₂_extendFirst_iff (fun t => ⟨rfl, rfl, .rfl⟩) _ _ _).mpr fun id t ht =>
    ⟨rfl, rfl, ?_⟩
  simp only [Table.extended, List.map_append]
  exact (h.columnsFor_perm hs ht).append_left _

lemma junctions_perm (h : s.Reordered s') (naming : Naming) :
    (s'.junctions naming).Perm (s.junctions naming) := by
  have hsame : s'.synthesize naming = s.synthesize naming := by
    funext r
    rw [synthesize, synthesize, junctionEnds, junctionEnds, index, index, h.tables_eq]
  rw [junctions, junctions, hsame]
  exact (h.relationships.filter _).filterMap _

lemma placements_perm (h : s.Reordered s') (hs : s.FindsColumns) (naming : Naming) :
    ((s'.placements naming).map (·.statement)).Perm ((s.placements naming).map (·.statement)) := by
  rw [placements_eq_filterMap, placements_eq_filterMap]
  refine (h.relationships.filterMap _).trans (.of_eq (List.filterMap_congr fun r hr => ?_))
  have hr' : r ∈ s'.relationships := h.relationships.mem_iff.mpr hr
  rw [(h.findsColumns hs).alteration?_eq hr', hs.alteration?_eq hr, place_congr h.tables_eq]

end Reordered

/-- Where relationships find their columns, another order of them leaves each resolved table with
columns of the same names. The script has the same statements that create junctions, and the same
that add foreign keys, up to their order. -/
theorem script_reordered (h : s.Reordered s') (hs : s.FindsColumns) (naming : Naming) :
    List.Forall₂ Table.SameNames (s.resolve naming).tables (s'.resolve naming).tables ∧
      ∀ d generatedAt,
        s'.statements d naming generatedAt =
            .header d.name generatedAt :: (s'.junctions naming).map (·.createJunction d) ++
              (s'.resolve naming).tables.map (·.create d) ++
              (s'.placements naming).map (·.statement) ∧
          ((s'.junctions naming).map (·.createJunction d)).Perm
            ((s.junctions naming).map (·.createJunction d)) ∧
          ((s'.placements naming).map (·.statement)).Perm
            ((s.placements naming).map (·.statement)) := by
  refine ⟨h.resolve_sameNames hs naming, fun d generatedAt => ⟨?_, ?_, ?_⟩⟩
  · rw [statements, prepared_tables_eq_resolve]
  · exact (h.junctions_perm naming).map _
  · exact h.placements_perm hs naming

/-- Two tables whose keys share a name but no type, and a third one that is to refer to both. -/
private def keysOfOneName : List Table :=
  [.withKey "a" "A" "id",
    ⟨"b", "B", [⟨"b-id", "id", "TEXT", true, false, false, false, false, none, none⟩],
      .zero, .zero⟩,
    .withKey "t" "T" "t"]

/-- Both foreign keys of the third table are to have the same name. -/
private def claimed : Schema where
  tables := keysOfOneName
  relationships := [
    ⟨"r1", "a", "a-id", "t", "t-t", .oneToMany, false, false, .cascade, .noAction⟩,
    ⟨"r2", "t", "t-t", "b", "b-id", .manyToOne, true, false, .setNull, .cascade⟩,
    ⟨"r3", "a", "a-id", "b", "b-id", .manyToMany, false, false, .cascade, .cascade⟩,
    ⟨"r4", "b", "", "b", "", .manyToMany, false, false, .cascade, .cascade⟩,
    ⟨"r5", "a", "x", "missing", "y", .oneToMany, false, false, .cascade, .cascade⟩]

/-- The second foreign key comes first. -/
private def claimedInTurn : Schema where
  tables := keysOfOneName
  relationships := claimed.relationships.reverse

theorem script_reordered_claimedInTurn :
    claimed.Reordered claimedInTurn ∧ claimed.FindsColumns ∧
      List.Forall₂ Table.SameNames (claimed.resolve .bare).tables
        (claimedInTurn.resolve .bare).tables ∧
      ((claimedInTurn.junctions .bare).map (·.createJunction .sqlite)).Perm
        ((claimed.junctions .bare).map (·.createJunction .sqlite)) ∧
      ((claimedInTurn.placements .bare).map (·.statement)).Perm
        ((claimed.placements .bare).map (·.statement)) ∧
      (claimed.resolve .bare).tables.map (·.columns.map (·.type)) =
        [["LONG"], ["TEXT"], ["LONG", "LONG"]] ∧
      (claimedInTurn.resolve .bare).tables.map (·.columns.map (·.type)) =
        [["LONG"], ["TEXT"], ["LONG", "TEXT"]] ∧
      (claimed.placements .bare).map (·.referenced.name) = ["A", "B"] := by
  have h : claimed.Reordered claimedInTurn := ⟨rfl, List.reverse_perm _⟩
  have hs : claimed.FindsColumns := by decide
  obtain ⟨hnames, hscript⟩ := script_reordered h hs .bare
  obtain ⟨-, hjunctions, hplacements⟩ := hscript .sqlite ""
  exact ⟨h, hs, hnames, hjunctions, hplacements, by decide +kernel, by decide +kernel,
    by decide +kernel⟩

end Schema

end SchemaGraph
