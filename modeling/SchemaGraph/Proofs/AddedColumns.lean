import SchemaGraph.Proofs.FixedPoint

/-!
# What a resolution adds

A resolution adds columns at the ends of tables, each at the turn of a relationship, and
`Schema.additions` lists them. `Schema.resolve_adds` says that this is all that it does: the first
table of each id gets the columns that have been added for it, in the order of their turns and each
under a name that was free, and every other table stays as it is. It says also that nothing is left
out: a relationship that can be placed at the start is placed in the same way in the end, and then
its column is there.
-/

namespace SchemaGraph

/-! ### Added columns -/

/-- A column that has been added: at the turn of which relationship, and by which placement. -/
structure Addition where
  turn : Nat
  placement : Placement
deriving DecidableEq, Repr

/-- The columns that have been added for an id. -/
def columnsFor (added : List Addition) (id : String) : List Column :=
  (added.filter (·.placement.holder.id == id)).map (·.placement.column)

namespace Schema

/-- What is added at the turns of some relationships, counted from a turn on. -/
def additionsFrom (naming : Naming) (s : Schema) (turn : Nat) : List Relationship → List Addition
  | [] => []
  | r :: rs =>
    let later := (s.addForeignKey naming r).additionsFrom naming (turn + 1) rs
    match s.resolution naming r with
    | .added p => ⟨turn, p⟩ :: later
    | _ => later

/-- What a resolution adds. -/
def additions (naming : Naming) (s : Schema) : List Addition :=
  s.additionsFrom naming 0 s.relationships

end Schema

lemma columnsFor_cons (a : Addition) (added : List Addition) (id : String) :
    columnsFor (a :: added) id =
      if id = a.placement.holder.id then a.placement.column :: columnsFor added id
      else columnsFor added id := by
  by_cases h : a.placement.holder.id = id
  · simp [columnsFor, h]
  · simp [columnsFor, h, Ne.symm h]

lemma mem_columnsFor {added : List Addition} {id : String} {c : Column} :
    c ∈ columnsFor added id ↔
      ∃ a ∈ added, a.placement.holder.id = id ∧ a.placement.column = c := by
  simp [columnsFor, and_assoc]

/-! ### Tables with more columns -/

/-- The table with more columns at its end. -/
def Table.extended (t : Table) (columns : List Column) : Table :=
  { t with columns := t.columns ++ columns }

/-- Each of some columns that a table gets one after the other has a name that is new by then. -/
def Table.TakesNew (t : Table) (columns : List Column) : Prop :=
  ∀ front c back, columns = front ++ c :: back → (t.extended front).hasColumnNamed c.name = false

/-- The tables, of which the first one of each id has got the columns for the id. -/
def extendFirst (columns : String → List Column) (tables : List Table) : List Table :=
  tables.mapIdx fun i t =>
    if tables.findIdx (·.id == t.id) = i then t.extended (columns t.id) else t

namespace Table

lemma extended_nil (t : Table) : t.extended [] = t := by
  simp [extended]

lemma extended_cons (t : Table) (c : Column) (columns : List Column) :
    t.extended (c :: columns) = (t.append c).extended columns := by
  simp [extended, append]

lemma hasColumnNamed_extended (t : Table) (columns : List Column) (name : String) :
    (t.extended columns).hasColumnNamed name =
      (t.hasColumnNamed name || columns.any (·.name == name)) := by
  simp [hasColumnNamed, extended]

lemma takesNew_nil (t : Table) : t.TakesNew [] := by
  intro front c back h
  simp at h

lemma takesNew_cons {t : Table} {c : Column} {columns : List Column}
    (hc : t.hasColumnNamed c.name = false) (h : (t.append c).TakesNew columns) :
    t.TakesNew (c :: columns) := by
  intro front d back hsplit
  cases front with
  | nil =>
    obtain ⟨rfl, -⟩ := List.cons.inj hsplit
    rw [extended_nil]
    exact hc
  | cons e front =>
    obtain ⟨rfl, hrest⟩ := List.cons.inj hsplit
    rw [extended_cons]
    exact h front d back hrest

lemma takesNew_cons_iff {t : Table} {c : Column} {columns : List Column} :
    t.TakesNew (c :: columns) ↔
      t.hasColumnNamed c.name = false ∧ (t.append c).TakesNew columns := by
  constructor
  · intro h
    refine ⟨t.extended_nil ▸ h [] c columns rfl, ?_⟩
    intro front d back hsplit
    rw [← extended_cons]
    exact h (c :: front) d back (by rw [hsplit, List.cons_append])
  · rintro ⟨hc, h⟩
    exact takesNew_cons hc h

/-- The new names are not among those of the table. -/
lemma TakesNew.absent {t : Table} {columns : List Column} (h : t.TakesNew columns) {c : Column}
    (hc : c ∈ columns) : t.hasColumnNamed c.name = false := by
  obtain ⟨front, back, hsplit⟩ := List.append_of_mem hc
  have habsent := h front c back hsplit
  rw [hasColumnNamed_extended, Bool.or_eq_false_iff] at habsent
  exact habsent.1

/-- The new names are distinct. -/
lemma TakesNew.nodup {t : Table} {columns : List Column} (h : t.TakesNew columns) :
    (columns.map (·.name)).Nodup := by
  induction columns generalizing t with
  | nil => exact .nil
  | cons c columns ih =>
    obtain ⟨-, hrest⟩ := takesNew_cons_iff.mp h
    refine List.nodup_cons.mpr ⟨fun hmem => ?_, ih hrest⟩
    obtain ⟨d, hd, hname⟩ := List.mem_map.mp hmem
    have habsent := hrest.absent hd
    simp [hname] at habsent

end Table

lemma getElem?_extendFirst (columns : String → List Column) (tables : List Table) (i : Nat) :
    (extendFirst columns tables)[i]? = tables[i]?.map fun t =>
      if tables.findIdx (·.id == t.id) = i then t.extended (columns t.id) else t := by
  rw [extendFirst, List.getElem?_mapIdx]

/-- The place of an id hangs on the ids alone. -/
lemma findIdx_eq_of_map_id {tables tables' : List Table}
    (h : tables'.map (·.id) = tables.map (·.id)) (id : String) :
    tables'.findIdx (·.id == id) = tables.findIdx (·.id == id) := by
  have hplace (ts : List Table) :
      ts.findIdx (·.id == id) = (ts.map (·.id)).findIdx (· == id) := by
    rw [List.findIdx_map]
    rfl
  rw [hplace, h, ← hplace]

/-- The first table of an id is found with its columns. -/
lemma find?_extendFirst (columns : String → List Column) (tables : List Table) (id : String) :
    (extendFirst columns tables).find? (·.id == id) =
      (tables.find? (·.id == id)).map (·.extended (columns id)) := by
  have hplace : (extendFirst columns tables).findIdx (·.id == id) =
      tables.findIdx (·.id == id) := by
    apply findIdx_eq_of_map_id
    apply List.ext_getElem?
    intro i
    rw [List.getElem?_map, getElem?_extendFirst, List.getElem?_map, Option.map_map]
    congr 1
    funext t
    rw [Function.comp_apply]
    split <;> rfl
  rw [List.find?_eq_getElem?_findIdx, hplace, getElem?_extendFirst,
    List.find?_eq_getElem?_findIdx]
  cases ht : tables[tables.findIdx (·.id == id)]? with
  | none => rfl
  | some t =>
    rw [← List.find?_eq_getElem?_findIdx] at ht
    obtain rfl : t.id = id := by simpa using List.find?_some ht
    simp

/-- Two ways to extend tables agree table by table just when they agree on the first one of each
id. -/
lemma forall₂_extendFirst_iff {R : Table → Table → Prop} (hsame : ∀ t, R t t)
    (columns columns' : String → List Column) (tables : List Table) :
    List.Forall₂ R (extendFirst columns tables) (extendFirst columns' tables) ↔
      ∀ id t, tables.find? (·.id == id) = some t →
        R (t.extended (columns id)) (t.extended (columns' id)) := by
  simp only [extendFirst, List.mapIdx_eq_zipIdx_map]
  rw [List.forall₂_map_left_iff, List.forall₂_map_right_iff, List.forall₂_same]
  constructor
  · intro h id t ht
    obtain rfl : t.id = id := by simpa using List.find?_some ht
    rw [List.find?_eq_getElem?_findIdx] at ht
    simpa using h (t, tables.findIdx (·.id == t.id)) (List.mem_zipIdx_iff_getElem?.mpr ht)
  · rintro hfirst ⟨t, i⟩ hmem
    have ht := List.mem_zipIdx_iff_getElem?.mp hmem
    split
    · next hplace =>
      apply hfirst
      rw [List.find?_eq_getElem?_findIdx, hplace, ht]
    · exact hsame t

lemma extendFirst_eq_self {columns : String → List Column} (h : ∀ id, columns id = [])
    (tables : List Table) : extendFirst columns tables = tables := by
  apply List.ext_getElem?
  intro i
  simp [getElem?_extendFirst, h, Table.extended_nil]

namespace Schema

variable {s : Schema} {naming : Naming} {r : Relationship} {rs : List Relationship} {turn : Nat}
  {id : String} {t : Table} {a : Addition} {p : Placement}

lemma getElem?_modifyTable (s : Schema) (id : String) (f : Table → Table) (i : Nat) :
    (s.modifyTable id f).tables[i]? =
      s.tables[i]?.map fun t => if s.tables.findIdx (·.id == id) = i then f t else t :=
  List.getElem?_modify ..

lemma findIdx_modifyTable {f : Table → Table} (h : ∀ t, (f t).id = t.id) (id id' : String) :
    (s.modifyTable id f).tables.findIdx (·.id == id') = s.tables.findIdx (·.id == id') := by
  apply findIdx_eq_of_map_id
  apply List.ext_getElem?
  intro i
  rw [List.getElem?_map, List.getElem?_map, getElem?_modifyTable, Option.map_map]
  congr 1
  funext t
  rw [Function.comp_apply]
  split
  · exact h t
  · rfl

/-- A column that is added first stands before those that are added later. -/
lemma extendFirst_modifyTable (columns : String → List Column) (id : String) (c : Column) :
    extendFirst columns (s.modifyTable id (·.append c)).tables =
      extendFirst (fun id' => if id' = id then c :: columns id' else columns id') s.tables := by
  apply List.ext_getElem?
  intro i
  rw [getElem?_extendFirst, getElem?_extendFirst]
  simp only [findIdx_modifyTable (f := (·.append c)) fun t => rfl]
  rw [getElem?_modifyTable, Option.map_map]
  cases hi : s.tables[i]? with
  | none => rfl
  | some t =>
    simp only [Option.map_some, Function.comp_apply, Option.some.injEq]
    by_cases hplace : s.tables.findIdx (·.id == id) = i
    · have hid : t.id = id := by
        obtain ⟨hlt, rfl⟩ := List.getElem?_eq_some_iff.mp hi
        subst hplace
        simpa using List.findIdx_getElem (w := hlt)
      simp [hplace, hid, Table.extended_cons]
    · have hne (hfirst : s.tables.findIdx (·.id == t.id) = i) : t.id ≠ id := by
        rintro rfl
        exact hplace hfirst
      rw [if_neg hplace]
      split
      · next hfirst => rw [if_neg (hne hfirst)]
      · rfl

/-! ### The run -/

/-- What a turn adds, and what it makes of the schema. -/
lemma additionsFrom_cons_cases (naming : Naming) (s : Schema) (turn : Nat) (r : Relationship)
    (rs : List Relationship) :
    (s.addForeignKey naming r = s ∧
      s.additionsFrom naming turn (r :: rs) = s.additionsFrom naming (turn + 1) rs) ∨
    ∃ p, s.place naming r = .ok p ∧ p.holder.hasColumnNamed p.columnName = false ∧
      s.addForeignKey naming r = s.modifyTable p.holder.id (·.append p.column) ∧
      s.additionsFrom naming turn (r :: rs) =
        ⟨turn, p⟩ :: (s.addForeignKey naming r).additionsFrom naming (turn + 1) rs := by
  simp only [additionsFrom, addForeignKey, resolution]
  cases hp : s.place naming r with
  | error gap => exact .inl ⟨rfl, rfl⟩
  | ok p =>
    cases hn : p.holder.hasColumnNamed p.columnName with
    | true => exact .inl ⟨by simp [hn], by simp [hn]⟩
    | false => exact .inr ⟨p, rfl, hn, by simp [hn], by simp [hn]⟩

lemma turn_le_of_mem_additionsFrom (h : a ∈ s.additionsFrom naming turn rs) : turn ≤ a.turn := by
  induction rs generalizing s turn with
  | nil => cases h
  | cons r rs ih =>
    obtain ⟨-, hsame⟩ | ⟨p, -, -, -, hadded⟩ := additionsFrom_cons_cases naming s turn r rs
    · rw [hsame] at h
      exact Nat.le_of_succ_le (ih h)
    · rw [hadded] at h
      rcases List.mem_cons.mp h with rfl | h
      · exact Nat.le_refl turn
      · exact Nat.le_of_succ_le (ih h)

/-- Columns are added in the order of the turns, at most one at each. -/
lemma pairwise_additionsFrom (naming : Naming) (s : Schema) (turn : Nat)
    (rs : List Relationship) :
    ((s.additionsFrom naming turn rs).map (·.turn)).Pairwise (· < ·) := by
  induction rs generalizing s turn with
  | nil => exact .nil
  | cons r rs ih =>
    obtain ⟨-, hsame⟩ | ⟨p, -, -, -, hadded⟩ := additionsFrom_cons_cases naming s turn r rs
    · rw [hsame]
      exact ih s (turn + 1)
    · rw [hadded, List.map_cons]
      refine .cons ?_ (ih _ (turn + 1))
      intro later hlater
      obtain ⟨a, ha, rfl⟩ := List.mem_map.mp hlater
      exact turn_le_of_mem_additionsFrom ha

/-- What is added at a turn is what its relationship calls for when those before it have had
theirs, and its name is new by then. -/
lemma exists_of_mem_additionsFrom (h : a ∈ s.additionsFrom naming turn rs) :
    ∃ before r after, rs = before ++ r :: after ∧ a.turn = turn + before.length ∧
      (s.addForeignKeys naming before).place naming r = .ok a.placement ∧
      a.placement.holder.hasColumnNamed a.placement.columnName = false := by
  induction rs generalizing s turn with
  | nil => cases h
  | cons r rs ih =>
    have hlater (h : a ∈ (s.addForeignKey naming r).additionsFrom naming (turn + 1) rs) :
        ∃ before q after, r :: rs = before ++ q :: after ∧ a.turn = turn + before.length ∧
          (s.addForeignKeys naming before).place naming q = .ok a.placement ∧
          a.placement.holder.hasColumnNamed a.placement.columnName = false := by
      obtain ⟨before, q, after, rfl, hturn, hplaced⟩ := ih h
      refine ⟨r :: before, q, after, rfl, ?_, hplaced⟩
      rw [hturn, List.length_cons]
      omega
    obtain ⟨hstays, hsame⟩ | ⟨p, hp, habsent, -, hadded⟩ :=
      additionsFrom_cons_cases naming s turn r rs
    · rw [hsame, ← hstays] at h
      exact hlater h
    · rw [hadded] at h
      rcases List.mem_cons.mp h with rfl | h
      · exact ⟨[], r, rs, rfl, rfl, hp, habsent⟩
      · exact hlater h

/-- After some turns the first table of each id has got what has been added for it. -/
lemma addForeignKeys_tables (naming : Naming) (s : Schema) (turn : Nat)
    (rs : List Relationship) :
    (s.addForeignKeys naming rs).tables =
      extendFirst (columnsFor (s.additionsFrom naming turn rs)) s.tables := by
  induction rs generalizing s turn with
  | nil => exact (extendFirst_eq_self (fun id => rfl) s.tables).symm
  | cons r rs ih =>
    rw [addForeignKeys_cons, ih (s.addForeignKey naming r) (turn + 1)]
    obtain ⟨hstays, hsame⟩ | ⟨p, hp, -, hturn, hadded⟩ :=
      additionsFrom_cons_cases naming s turn r rs
    · rw [hsame, hstays]
    · rw [hadded]
      generalize (s.addForeignKey naming r).additionsFrom naming (turn + 1) rs = later
      rw [hturn, extendFirst_modifyTable]
      congr 1
      funext id
      exact (columnsFor_cons ⟨turn, p⟩ later id).symm

/-- Each column that is added for an id has a name that its table does not have by then. -/
lemma takesNew_additionsFrom (h : s.table? id = some t) :
    t.TakesNew (columnsFor (s.additionsFrom naming turn rs) id) := by
  induction rs generalizing s turn t with
  | nil => exact t.takesNew_nil
  | cons r rs ih =>
    obtain ⟨-, hsame⟩ | ⟨p, hp, habsent, hturn, hadded⟩ :=
      additionsFrom_cons_cases naming s turn r rs
    · rw [hsame]
      exact ih h
    · have hholder := table?_modifyTable (f := (·.append p.column)) (table?_holder hp) rfl id
      rw [hadded, columnsFor_cons]
      by_cases hid : id = p.holder.id
      · rw [if_pos hid] at hholder ⊢
        obtain rfl : t = p.holder := by
          rw [hid, table?_holder hp] at h
          exact (Option.some.inj h).symm
        exact Table.takesNew_cons habsent (ih (hturn ▸ hholder))
      · rw [if_neg hid] at hholder ⊢
        apply ih
        rw [hturn, hholder, h]

/-! ### The resolution -/

/-- The additions of a schema: at most one at a turn, in the order of the turns; each for a
relationship that is placed at its turn; no keys, and under names that are new by then. Resolution
gives them to the first table of each id. -/
structure ResolvesBy (s : Schema) (naming : Naming) (added : List Addition) : Prop where
  inOrder : (added.map (·.turn)).Pairwise (· < ·)
  placed : ∀ a ∈ added, ∃ before r after, s.relationships = before ++ r :: after ∧
    a.turn = before.length ∧
    r.placeIn naming ((Resolver.start s.tables).run naming before).index = .ok a.placement
  noKeys : ∀ a ∈ added, a.placement.column.primaryKey = false
  newNames : ∀ id t, s.table? id = some t → t.TakesNew (columnsFor added id)
  tables_eq : (s.resolve naming).tables = extendFirst (columnsFor added) s.tables

lemma resolvesBy_additions (naming : Naming) (s : Schema) :
    s.ResolvesBy naming (s.additions naming) where
  inOrder := pairwise_additionsFrom naming s 0 s.relationships
  placed a ha := by
    obtain ⟨before, r, after, hsplit, hturn, hplaced, -⟩ := exists_of_mem_additionsFrom ha
    refine ⟨before, r, after, hsplit, hturn.trans (Nat.zero_add _), ?_⟩
    rw [placeIn_resolver_index, hplaced]
  noKeys a ha := rfl
  newNames id t ht := takesNew_additionsFrom ht
  tables_eq := by
    rw [resolve_eq]
    exact addForeignKeys_tables naming s 0 s.relationships

/-- The table that an id finds after resolution. -/
lemma table?_resolve (naming : Naming) (s : Schema) (id : String) :
    (s.resolve naming).table? id =
      (s.table? id).map (·.extended (columnsFor (s.additions naming) id)) := by
  rw [table?, (s.resolvesBy_additions naming).tables_eq, find?_extendFirst]
  rfl

/-- A resolution keeps to a relation, table by table, just when it does so in the first table of
each id. -/
lemma forall₂_resolve_iff {R : Table → Table → Prop} (hsame : ∀ t, R t t) (naming : Naming)
    (s : Schema) :
    List.Forall₂ R s.tables (s.resolve naming).tables ↔
      ∀ id t, s.table? id = some t → R t (t.extended (columnsFor (s.additions naming) id)) := by
  have hiff :=
    forall₂_extendFirst_iff hsame (fun _ => []) (columnsFor (s.additions naming)) s.tables
  rw [extendFirst_eq_self fun _ => rfl] at hiff
  rw [(s.resolvesBy_additions naming).tables_eq, hiff]
  simp only [Table.extended_nil]
  rfl

/-- What can be placed at the start can be placed in the end, in the same way, and its column is
there. -/
lemma exists_place_resolve (hr : r ∈ s.relationships) (hp : s.place naming r = .ok p) :
    ∃ p', (s.resolve naming).place naming r = .ok p' ∧ p.Grows p' ∧
      p'.holder.hasColumnNamed p'.columnName = true := by
  obtain ⟨before, after, hsplit⟩ := List.append_of_mem hr
  obtain ⟨q, hq, -⟩ := (Grows.addForeignKeys naming s before).place hp
  obtain ⟨p', hp', hthere⟩ := hasColumnNamed_resolve hsplit hq
  obtain ⟨p'', hp'', hgrows⟩ := (Grows.resolve naming s).place hp
  obtain rfl : p' = p'' := Except.ok.inj (hp'.symm.trans hp'')
  exact ⟨p', hp', hgrows, hthere⟩

/-- A resolution keeps the relationships, and it adds to the tables what its additions say and
nothing else. Nothing is left out either: what can be placed at the start is placed in the end, in a
table of the same id, by the same column name, and with the same table name and key to refer to; and
a column of that name is there. -/
theorem resolve_adds (naming : Naming) (s : Schema) :
    (s.resolve naming).relationships = s.relationships ∧
      s.ResolvesBy naming (s.additions naming) ∧
      ∀ r ∈ s.relationships, ∀ p, s.place naming r = .ok p →
        ∃ p', (s.resolve naming).place naming r = .ok p' ∧ p'.holder.id = p.holder.id ∧
          p'.referenced.name = p.referenced.name ∧ p'.key = p.key ∧
          p'.columnName = p.columnName ∧ p'.holder.hasColumnNamed p'.columnName = true := by
  refine ⟨rfl, s.resolvesBy_additions naming, ?_⟩
  intro r hr p hp
  obtain ⟨p', hp', hgrows, hthere⟩ := exists_place_resolve hr hp
  exact ⟨p', hp', hgrows.holder.id_eq, hgrows.referenced.name_eq, hgrows.key_eq,
    hgrows.columnName_eq, hthere⟩

/-- Two tables of one id and a third one. The second relationship calls for the column that the
first has brought, and the third names that column. -/
private def crowded : Schema where
  tables := [.withKey "a" "A" "a", .withKey "t" "T" "t", .withKey "t" "U" "u"]
  relationships := [
    ⟨"r1", "a", "a-a", "t", "t-t", .oneToMany, false, false, .cascade, .cascade⟩,
    ⟨"r2", "a", "a-a", "t", "t-t", .oneToOne, false, true, .cascade, .cascade⟩,
    ⟨"r3", "t", "fk-r1-t", "a", "a-a", .oneToMany, true, false, .cascade, .cascade⟩]

example : (crowded.additions .prefixed).map (·.turn) = [0, 2] ∧
    (crowded.resolve .prefixed).tables.map (·.columns.map (·.name)) =
      [["a", "T_t"], ["t", "A_a"], ["u"]] := by
  decide +kernel

end Schema

end SchemaGraph
