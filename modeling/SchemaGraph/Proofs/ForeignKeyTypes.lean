import Mathlib.Data.List.Nodup
import SchemaGraph.Proofs.AddedColumns
import SchemaGraph.Proofs.Materialization
import SchemaGraph.Proofs.References
import SchemaGraph.Text.LetterCase

/-!
# Types of foreign keys

A foreign key column is made with the type of the key that it repeats. But a relationship makes do
with any column of the right name that it finds in the table: one that the table was given with, or
the foreign key of an earlier relationship, whatever key that repeats. So a script can constrain a
column of one type to refer to a key of another. `Schema.sameType_constrained_iff` says when it does
not: a column that is added for a relationship has the type of its key, letter by letter, and one
that was there has it just when it happens to.
-/

namespace SchemaGraph

/-! ### Columns by name -/

/-- The first column with a name. -/
def Table.columnNamed? (t : Table) (name : String) : Option Column :=
  t.columns.find? (·.name == name)

/-- The column that a foreign key constrains. -/
def Placement.constrained? (p : Placement) : Option Column :=
  p.holder.columnNamed? p.columnName

/-- Two columns have the same type, up to the case of its letters. -/
def Column.SameType (c c' : Column) : Prop :=
  upperCase c.type = upperCase c'.type

instance (c c' : Column) : Decidable (c.SameType c') :=
  inferInstanceAs (Decidable (_ = _))

namespace Table

variable {t t' : Table} {c : Column} {name : String}

lemma columnNamed?_eq_none_iff : t.columnNamed? name = none ↔ t.hasColumnNamed name = false := by
  simp [columnNamed?, hasColumnNamed]

/-- A column at the end is the first of its name just when the name is new. -/
lemma columnNamed?_append_self (h : t.hasColumnNamed c.name = false) :
    (t.append c).columnNamed? c.name = some c := by
  rw [← columnNamed?_eq_none_iff, columnNamed?] at h
  simp [columnNamed?, List.find?_append, h]

/-- The first column of a name stays the first one when the table grows. -/
lemma Grows.columnNamed?_eq (h : t.Grows t') (hc : t.columnNamed? name = some c) :
    t'.columnNamed? name = some c := by
  obtain ⟨added, -, rfl⟩ := h
  rw [columnNamed?] at hc
  simp [columnNamed?, List.find?_append, hc]

/-- The first column of a name in an extended table is that of the table, or else one that has been
added. -/
lemma columnNamed?_extended (t : Table) (columns : List Column) (name : String) :
    (t.extended columns).columnNamed? name =
      (t.columnNamed? name).or (columns.find? (·.name == name)) :=
  List.find?_append

/-- Where each new column has a new name, there is only one for a name. -/
lemma TakesNew.eq_of_name_eq {columns : List Column} (h : t.TakesNew columns) {c' : Column}
    (hc : c ∈ columns) (hc' : c' ∈ columns) (hname : c.name = c'.name) : c = c' :=
  List.inj_on_of_nodup_map h.nodup hc hc' hname

end Table

namespace Schema

variable {s : Schema} {naming : Naming} {r : Relationship} {p q : Placement} {c : Column}
  {t : Table}

/-! ### Columns that are added -/

/-- A column that is added at the turn of a relationship is the one that its foreign key constrains
in the end. -/
lemma constrained?_of_added {before after : List Relationship}
    (hr : s.relationships = before ++ r :: after)
    (hq : (s.addForeignKeys naming before).place naming r = .ok q)
    (hnew : q.holder.hasColumnNamed q.columnName = false)
    (hp : (s.resolve naming).place naming r = .ok p) : p.constrained? = some q.column := by
  obtain ⟨-, hpresent⟩ | ⟨q', hq', -, hturn⟩ :=
    addForeignKey_cases naming (s.addForeignKeys naming before) r
  · rw [hpresent q hq] at hnew
    cases hnew
  · obtain rfl : q = q' := Except.ok.inj (hq.symm.trans hq')
    have hafter : ((s.addForeignKeys naming before).addForeignKey naming r).table? q.holder.id =
        some (q.holder.append q.column) := by
      rw [hturn]
      exact table?_modifyTable_self (table?_holder hq) rfl
    obtain ⟨holder, hgrown, hholder⟩ := (grows_after_turn hr).table?_of_eq_some hafter
    have hgrows := (Grows.addForeignKey naming _ r).trans (grows_after_turn hr)
    obtain ⟨p', hp', hsame⟩ := hgrows.place hq
    obtain rfl : p = p' := Except.ok.inj (hp.symm.trans hp')
    obtain rfl : holder = p.holder := by
      have hfound := table?_holder hp
      rw [hsame.holder.id_eq, hholder] at hfound
      exact Option.some.inj hfound
    rw [Placement.constrained?, hsame.columnName_eq]
    exact hgrown.columnNamed?_eq (Table.columnNamed?_append_self hnew)

/-- What is placed at its turn constrains a column in the end; and if its name was new by then, one
with the very type of the key. -/
lemma exists_constrained? {before after : List Relationship}
    (hr : s.relationships = before ++ r :: after)
    (hq : (s.addForeignKeys naming before).place naming r = .ok q) :
    ∃ p c, (s.resolve naming).place naming r = .ok p ∧ p.constrained? = some c ∧
      (q.holder.hasColumnNamed q.columnName = false → c.type = p.key.type) := by
  have hgrows := (Grows.addForeignKey naming _ r).trans (grows_after_turn hr)
  obtain ⟨p, hp, hsame⟩ := hgrows.place hq
  cases hnew : q.holder.hasColumnNamed q.columnName with
  | false =>
    refine ⟨p, q.column, hp, constrained?_of_added hr hq hnew hp, fun _ => ?_⟩
    rw [hsame.key_eq]
    rfl
  | true =>
    obtain ⟨c, hc⟩ := Option.ne_none_iff_exists'.mp fun hnone =>
      Bool.false_ne_true ((Table.columnNamed?_eq_none_iff.mp hnone).symm.trans hnew)
    refine ⟨p, c, hp, ?_, fun h => by cases h⟩
    rw [Placement.constrained?, hsame.columnName_eq]
    exact hsame.holder.columnNamed?_eq hc

/-! ### Columns that were there -/

/-- The keys that are repeated under the name of a foreign key in its table have its type. -/
def RepeatsType (s : Schema) (naming : Naming) (p : Placement) : Prop :=
  ∀ a ∈ s.additions naming, a.placement.holder.id = p.holder.id →
    a.placement.columnName = p.columnName → a.placement.key.SameType p.key

/-- The column that a foreign key constrains has the type of the key just when the column of its
name in the given table has, if there is one, and every key has that is repeated there under the
name. -/
lemma sameType_iff (hp : (s.resolve naming).place naming r = .ok p)
    (ht : s.table? p.holder.id = some t) (hc : p.constrained? = some c) :
    c.SameType p.key ↔
      (∀ b, t.columnNamed? p.columnName = some b → b.SameType p.key) ∧
        s.RepeatsType naming p := by
  have hadds := s.resolvesBy_additions naming
  have hnew := hadds.newNames p.holder.id t ht
  have hholder : p.holder = t.extended (columnsFor (s.additions naming) p.holder.id) := by
    have hfound := table?_holder hp
    rw [table?_resolve, ht, Option.map_some] at hfound
    exact (Option.some.inj hfound).symm
  rw [Placement.constrained?, hholder, Table.columnNamed?_extended] at hc
  cases hb : t.columnNamed? p.columnName with
  | some b =>
    -- nothing is added under a name that the table has
    rw [hb, Option.some_or] at hc
    obtain rfl := Option.some.inj hc
    refine ⟨fun hsame => ⟨fun b' hb' => ?_, fun a ha hid hname => ?_⟩, fun h => h.1 b rfl⟩
    · rwa [← Option.some.inj hb']
    · have habsent := hnew.absent (mem_columnsFor.mpr ⟨a, ha, hid, rfl⟩)
      rw [← Table.columnNamed?_eq_none_iff, show a.placement.column.name = p.columnName from hname,
        hb] at habsent
      cases habsent
  | none =>
    rw [hb, Option.none_or] at hc
    have hmem := List.mem_of_find?_eq_some hc
    have hname : c.name = p.columnName := by simpa using List.find?_some hc
    constructor
    · intro hsame
      refine ⟨fun b hb => (by cases hb), fun a ha hid haname => ?_⟩
      have heq : a.placement.column = c :=
        hnew.eq_of_name_eq (mem_columnsFor.mpr ⟨a, ha, hid, rfl⟩) hmem (haname.trans hname.symm)
      rw [← heq] at hsame
      exact hsame
    · rintro ⟨-, hrepeats⟩
      obtain ⟨a, ha, hid, rfl⟩ := mem_columnsFor.mp hmem
      exact hrepeats a ha hid hname

/-! ### Scripts -/

/-- A foreign key of the script whose relationship was placed at its turn constrains a column, and
one with the very type of the key if the column was added for it. Whatever column a foreign key
constrains, it has the type of the key, up to the case of letters, just when the column of its name
in the given table has, if there is one, and every key has that is repeated there under the name. -/
theorem sameType_constrained_iff (naming : Naming) (s : Schema) :
    (∀ before r after q, s.others = before ++ r :: after →
        r.placeIn naming ((Resolver.start s.tables).run naming before).index = .ok q →
          ∃ p ∈ s.placements naming, ∃ c, (s.prepared naming).place naming r = .ok p ∧
            p.constrained? = some c ∧
            (q.holder.hasColumnNamed q.columnName = false → c.type = p.key.type)) ∧
      ∀ p ∈ s.placements naming, ∀ c, p.constrained? = some c →
        (c.SameType p.key ↔
          (∀ t b, s.table? p.holder.id = some t → t.columnNamed? p.columnName = some b →
            b.SameType p.key) ∧
          s.withOthers.RepeatsType naming p) := by
  constructor
  · intro before r after q hr hq
    have hplaced := (placeIn_resolver_index s.withOthers before r).symm.trans hq
    obtain ⟨p, c, hp, hc⟩ := exists_constrained? (s := s.withOthers) hr hplaced
    exact ⟨p, mem_placements.mpr ⟨r, by simp [hr], hp⟩, c, hp, hc⟩
  · intro p hp c hc
    obtain ⟨r, -, hplaced⟩ := mem_placements.mp hp
    obtain ⟨t, -, ht⟩ := (grows_prepared naming s).exists_table? (table?_holder hplaced)
    refine (sameType_iff (s := s.withOthers) hplaced ht hc).trans (and_congr_left fun _ => ?_)
    constructor
    · intro h t' b ht' hb
      obtain rfl : t = t' := Option.some.inj (ht.symm.trans ht')
      exact h b hb
    · intro h b hb
      exact h t b ht hb

/-- The first of the relationships of `sharedName`. -/
private def bringsName : Relationship :=
  ⟨"r1", "a", "a-id", "t", "t-t", .oneToMany, false, false, .cascade, .cascade⟩

/-- The column that it brings. -/
private def broughtColumn : Column :=
  ⟨"fk-r1-t", "id", "LONG", false, false, false, false, true, some "A", some "id"⟩

/-- Three tables whose keys share a name, two of them also a type, and a fourth one that refers to
all three by one column. -/
private def sharedName : Schema where
  tables := [
    .withKey "a" "A" "id",
    ⟨"b", "B", [⟨"b-id", "id", "TEXT", true, false, false, false, false, none, none⟩],
      .zero, .zero⟩,
    ⟨"c", "C", [⟨"c-id", "id", "long", true, false, false, false, false, none, none⟩],
      .zero, .zero⟩,
    .withKey "t" "T" "t"]
  relationships := [
    bringsName,
    ⟨"r2", "b", "b-id", "t", "t-t", .oneToMany, false, false, .cascade, .cascade⟩,
    ⟨"r3", "t", "fk-r1-t", "c", "c-id", .manyToOne, false, true, .cascade, .cascade⟩]

theorem sameType_constrained_iff_sharedName :
    (∃ p ∈ sharedName.placements .bare, ∃ c,
        (sharedName.prepared .bare).place .bare bringsName = .ok p ∧
          p.constrained? = some c ∧ c.type = p.key.type) ∧
      (∃ p ∈ sharedName.placements .bare, ∃ c, p.constrained? = some c ∧ ¬c.SameType p.key ∧
        ¬sharedName.withOthers.RepeatsType .bare p) ∧
      (sharedName.placements .bare).map (fun p => p.constrained?.map fun c =>
        (c.id, decide (c.SameType p.key))) =
          [some ("fk-r1-t", true), some ("fk-r1-t", false), some ("fk-r1-t", true)] := by
  obtain ⟨hadded, hiff⟩ := sameType_constrained_iff .bare sharedName
  refine ⟨?_, ?_, by decide +kernel⟩
  · have hq : bringsName.placeIn .bare ((Resolver.start sharedName.tables).run .bare []).index =
        .ok ⟨bringsName, .withKey "t" "T" "t", .withKey "a" "A" "id", .keyOf "a" "id", "id"⟩ := by
      decide +kernel
    obtain ⟨p, hmem, c, hp, hc, htype⟩ := hadded [] bringsName _ _ rfl hq
    exact ⟨p, hmem, c, hp, hc, htype (by decide)⟩
  · have hbad : ∃ p ∈ sharedName.placements .bare, p.constrained? = some broughtColumn ∧
        ¬broughtColumn.SameType p.key ∧
          (sharedName.table? p.holder.id).all (·.columnNamed? p.columnName == none) = true := by
      decide +kernel
    obtain ⟨p, hp, hc, hdiffer, hfree⟩ := hbad
    refine ⟨p, hp, _, hc, hdiffer, fun hrepeats => hdiffer ?_⟩
    refine (hiff p hp _ hc).mpr ⟨fun t b ht hb => ?_, hrepeats⟩
    simp [ht, hb] at hfree

/-- A table with a text of the name that a foreign key to a number is to have. -/
private def namesake : Schema where
  tables := [
    .withKey "a" "A" "a",
    ⟨"t", "T", [.keyOf "t" "t", ⟨"t-a", "a", "TEXT", false, true, false, false, false, none, none⟩],
      .zero, .zero⟩]
  relationships := [⟨"r1", "a", "a-a", "t", "t-t", .oneToMany, false, false, .cascade, .cascade⟩]

/-- The text is to refer to the number. -/
theorem not_sameType_namesake :
    ¬∀ p ∈ namesake.placements .bare, ∀ c, p.constrained? = some c → c.SameType p.key := by
  have hbad : ∃ p ∈ namesake.placements .bare, ∃ c ∈ p.constrained?, ¬c.SameType p.key := by
    decide +kernel
  intro hall
  obtain ⟨p, hp, c, hc, hdiffer⟩ := hbad
  exact hdiffer (hall p hp c hc)

end Schema

end SchemaGraph
