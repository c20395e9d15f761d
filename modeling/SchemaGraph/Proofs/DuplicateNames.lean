import Mathlib.Data.List.Count
import Mathlib.Data.List.Nodup
import SchemaGraph.Proofs.AddedColumns
import SchemaGraph.Proofs.Findings
import SchemaGraph.Text.LetterCase

/-!
# Names that a resolution doubles

A foreign key is added unless a column of exactly its name is there. Names are reported as the same
when they agree in small letters, though, so a resolution can bring a name into a table twice, where
it stands in other letters. `Schema.duplicates_resolve` says that this is the only way in which it
changes what is reported about the names of columns, and when it does.
-/

namespace SchemaGraph

/-! ### Texts that occur more than once -/

/-- What has been found by some texts is what has been found by all but the last one, and the last
one if it has been seen and not found by then. -/
lemma repeatedAfter_concat (seen found texts : List String) (x : String) :
    repeatedAfter seen found (texts ++ [x]) =
      if (x ∈ seen ∨ x ∈ texts) ∧ x ∉ repeatedAfter seen found texts then
        repeatedAfter seen found texts ++ [x]
      else repeatedAfter seen found texts := by
  induction texts generalizing seen found with
  | nil => simp [repeatedAfter]
  | cons y texts ih =>
    rw [List.cons_append, repeatedAfter, ih, repeatedAfter]
    simp only [List.mem_cons, or_assoc, or_left_comm]

lemma repeatedTexts_concat_eq_ite (texts : List String) (x : String) :
    repeatedTexts (texts ++ [x]) =
      if x ∈ texts ∧ x ∉ repeatedTexts texts then repeatedTexts texts ++ [x]
      else repeatedTexts texts := by
  rw [repeatedTexts, repeatedAfter_concat]
  exact if_congr (by simp [repeatedTexts]) rfl rfl

/-- The texts found are those that occur at least twice. -/
lemma mem_repeatedTexts {texts : List String} {x : String} :
    x ∈ repeatedTexts texts ↔ 2 ≤ texts.count x := by
  induction texts using List.reverseRecOn with
  | nil => simp [repeatedTexts, repeatedAfter]
  | append_singleton texts y ih =>
    have hseen : x ∈ texts ↔ 1 ≤ texts.count x := List.one_le_count_iff.symm
    rw [repeatedTexts_concat_eq_ite, List.count_append, List.count_singleton]
    by_cases hxy : y = x
    · subst hxy
      rw [beq_self_eq_true, if_pos rfl]
      split
      · next hsecond =>
        rw [hseen] at hsecond
        simp only [List.mem_append, List.mem_singleton, or_true, true_iff]
        omega
      · next hother =>
        rw [hseen, ih] at hother
        rw [ih]
        omega
    · rw [beq_false_of_ne hxy, if_neg Bool.false_ne_true, Nat.add_zero, ← ih]
      split
      · simp [Ne.symm hxy]
      · rfl

/-- A text is found at its second occurrence. -/
lemma repeatedTexts_concat (texts : List String) (x : String) :
    repeatedTexts (texts ++ [x]) =
      repeatedTexts texts ++ if texts.count x = 1 then [x] else [] := by
  have hsecond : x ∈ texts ∧ x ∉ repeatedTexts texts ↔ texts.count x = 1 := by
    rw [mem_repeatedTexts, ← List.one_le_count_iff]
    omega
  rw [repeatedTexts_concat_eq_ite]
  simp only [hsecond]
  split
  · rfl
  · rw [List.append_nil]

lemma repeatedTexts_eq_nil_iff {texts : List String} : repeatedTexts texts = [] ↔ texts.Nodup := by
  rw [List.eq_nil_iff_forall_not_mem, List.nodup_iff_count_le_one]
  simp only [mem_repeatedTexts, Nat.not_le, Nat.lt_succ_iff]

/-! ### Tables -/

/-- The names of the columns in small letters. -/
def Table.lowerNames (t : Table) : List String :=
  t.columns.map fun c => lowerCase c.name

/-- The column of a foreign key is the second one of its name in the table, up to the case of
letters. -/
def Placement.Doubles (p : Placement) : Prop :=
  p.holder.lowerNames.count (lowerCase p.columnName) = 1

instance (p : Placement) : Decidable p.Doubles :=
  inferInstanceAs (Decidable (_ = _))

/-- The names that added columns double in the table of an id, in small letters. -/
def doubledNames (added : List Addition) (id : String) : List String :=
  (added.filter fun a => a.placement.holder.id = id ∧ a.placement.Doubles).map fun a =>
    lowerCase a.placement.columnName

namespace Table

variable {t : Table} {columns : List Column}

lemma duplicateNames_eq_nil_iff : t.duplicateNames = [] ↔ t.lowerNames.Nodup :=
  repeatedTexts_eq_nil_iff

/-- A column at the end doubles its name, or else it leaves the doubled names as they are. -/
lemma duplicateNames_append (t : Table) (c : Column) :
    (t.append c).duplicateNames =
      t.duplicateNames ++
        if t.lowerNames.count (lowerCase c.name) = 1 then [lowerCase c.name] else [] := by
  rw [duplicateNames, append, List.map_append]
  exact repeatedTexts_concat t.lowerNames (lowerCase c.name)

lemma duplicateFinding?_eq_none_iff : t.duplicateFinding? = none ↔ t.duplicateNames = [] := by
  rw [duplicateFinding?]
  split
  · next hnil => simp [hnil]
  · next hne => simpa using hne

/-- The finding about the names of a table goes by the id of the table. -/
lemma map_id_duplicateFinding? (t : Table) :
    t.duplicateFinding?.map (·.id) =
      if t.duplicateNames = [] then none
      else some (FindingKind.duplicateColumns.idStart ++ t.id) := by
  cases hfound : t.duplicateFinding? with
  | none => rw [if_pos (duplicateFinding?_eq_none_iff.mp hfound), Option.map_none]
  | some f =>
    have hne : t.duplicateNames ≠ [] := fun hnil => by
      rw [duplicateFinding?_eq_none_iff.mpr hnil] at hfound
      cases hfound
    rw [if_neg hne, Option.map_some, (isAbout_of_duplicateFinding? hfound).id_eq]

/-- The finding about the names of a table lists the doubled ones. -/
lemma action_of_duplicateFinding? {f : Finding} (h : t.duplicateFinding? = some f) :
    f.action = some (.renameDuplicateColumns t.id t.duplicateNames) := by
  rw [duplicateFinding?] at h
  split at h
  · cases h
  · cases h
    rfl

/-- More columns leave the finding about the names as it is just when they leave the doubled names
as they are. -/
lemma duplicateFinding?_extended_eq_iff :
    (t.extended columns).duplicateFinding? = t.duplicateFinding? ↔
      (t.extended columns).duplicateNames = t.duplicateNames := by
  constructor
  · intro h
    cases hfound : t.duplicateFinding? with
    | none =>
      rw [hfound] at h
      rw [duplicateFinding?_eq_none_iff.mp hfound, duplicateFinding?_eq_none_iff.mp h]
    | some f =>
      rw [hfound] at h
      have haction :=
        (action_of_duplicateFinding? h).symm.trans (action_of_duplicateFinding? hfound)
      exact (Action.renameDuplicateColumns.inj (Option.some.inj haction)).2
  · intro h
    rw [duplicateFinding?, duplicateFinding?, h]
    rfl

end Table

lemma doubledNames_cons (a : Addition) (added : List Addition) (id : String) :
    doubledNames (a :: added) id =
      (if a.placement.holder.id = id ∧ a.placement.Doubles then
        [lowerCase a.placement.columnName] else []) ++ doubledNames added id := by
  by_cases h : a.placement.holder.id = id ∧ a.placement.Doubles
  · simp [doubledNames, h]
  · simp only [doubledNames, List.filter_cons, h, decide_false, Bool.false_eq_true, if_false,
      List.nil_append]

lemma doubledNames_eq_nil_iff {added : List Addition} {id : String} :
    doubledNames added id = [] ↔
      ∀ a ∈ added, a.placement.holder.id = id → ¬a.placement.Doubles := by
  simp [doubledNames, List.filter_eq_nil_iff]

namespace Schema

variable {s : Schema} {naming : Naming} {rs : List Relationship} {turn : Nat} {id : String}
  {t : Table} {a : Addition}

/-- The table of an id gets the names doubled that are doubled by what is added for it. -/
lemma duplicateNames_extended (h : s.table? id = some t) :
    (t.extended (columnsFor (s.additionsFrom naming turn rs) id)).duplicateNames =
      t.duplicateNames ++ doubledNames (s.additionsFrom naming turn rs) id := by
  induction rs generalizing s turn t with
  | nil => exact (congrArg Table.duplicateNames t.extended_nil).trans (List.append_nil _).symm
  | cons r rs ih =>
    obtain ⟨-, hsame⟩ | ⟨p, hp, -, hturn, hadded⟩ := additionsFrom_cons_cases naming s turn r rs
    · rw [hsame]
      exact ih h
    · have hholder := table?_modifyTable (f := (·.append p.column)) (table?_holder hp) rfl id
      rw [hadded, columnsFor_cons, doubledNames_cons]
      by_cases hid : id = p.holder.id
      · rw [if_pos hid] at hholder ⊢
        obtain rfl : t = p.holder := by
          rw [hid, table?_holder hp] at h
          exact (Option.some.inj h).symm
        rw [Table.extended_cons, ih (hturn ▸ hholder), Table.duplicateNames_append,
          List.append_assoc]
        congr 2
        exact if_congr (and_iff_right hid.symm).symm rfl rfl
      · rw [if_neg hid] at hholder ⊢
        rw [if_neg fun hboth => hid hboth.1.symm, List.nil_append]
        apply ih
        rw [hturn, hholder, h]

/-- A column that doubles a name was added since the name stands in its table in other letters. -/
lemma exists_of_doubles (ha : a ∈ s.additions naming) (h : a.placement.Doubles) :
    ∃ c ∈ a.placement.holder.columns, c.name ≠ a.placement.columnName ∧
      lowerCase c.name = lowerCase a.placement.columnName := by
  have hmem : lowerCase a.placement.columnName ∈ a.placement.holder.lowerNames :=
    List.one_le_count_iff.mp (Nat.le_of_eq h.symm)
  obtain ⟨c, hc, hname⟩ := List.mem_map.mp hmem
  obtain ⟨-, -, -, -, -, -, habsent⟩ := exists_of_mem_additionsFrom ha
  refine ⟨c, hc, fun heq => ?_, hname⟩
  rw [Table.hasColumnNamed, List.any_eq_false] at habsent
  exact habsent c hc (beq_iff_eq.mpr heq)

/-! ### The report -/

/-- A resolution doubles names in a table only where some were doubled before. -/
def KeepsApart (s : Schema) (naming : Naming) : Prop :=
  ∀ a ∈ s.additions naming, a.placement.Doubles →
    ∀ t, s.table? a.placement.holder.id = some t → ¬t.lowerNames.Nodup

/-- Doubled names stay doubled. -/
lemma duplicateFinding?_of_extended (naming : Naming) (h : s.table? id = some t)
    (hnone : (t.extended (columnsFor (s.additions naming) id)).duplicateFinding? = none) :
    t.duplicateFinding? = none := by
  rw [Table.duplicateFinding?_eq_none_iff] at hnone ⊢
  rw [additions, duplicateNames_extended h] at hnone
  exact (List.append_eq_nil_iff.mp hnone).1

lemma forall₂_clean_iff :
    List.Forall₂ (fun t t' => t.duplicateFinding? = none → t'.duplicateFinding? = none) s.tables
      (s.resolve naming).tables ↔ s.KeepsApart naming := by
  rw [forall₂_resolve_iff (fun t h => h)]
  simp only [Table.duplicateFinding?_eq_none_iff]
  constructor
  · intro h a ha hdoubles t ht hnodup
    have hnil := h a.placement.holder.id t ht (Table.duplicateNames_eq_nil_iff.mpr hnodup)
    rw [additions, duplicateNames_extended ht, List.append_eq_nil_iff] at hnil
    exact doubledNames_eq_nil_iff.mp hnil.2 a ha rfl hdoubles
  · intro h id t ht hnil
    rw [additions, duplicateNames_extended ht, hnil, List.nil_append, doubledNames_eq_nil_iff]
    rintro a ha rfl hdoubles
    exact h a ha hdoubles t ht (Table.duplicateNames_eq_nil_iff.mp hnil)

lemma forall₂_sameId_iff :
    List.Forall₂ (fun t t' => t.duplicateFinding?.map (·.id) = t'.duplicateFinding?.map (·.id))
      s.tables (s.resolve naming).tables ↔ s.KeepsApart naming := by
  have hids := forall₂_resolve_iff (R := fun t t' =>
    t.duplicateFinding?.map (·.id) = t'.duplicateFinding?.map (·.id)) (fun t => rfl) naming s
  rw [hids, ← forall₂_clean_iff, forall₂_resolve_iff (fun t h => h)]
  refine forall_congr' fun id => forall_congr' fun t => forall_congr' fun ht => ?_
  have hstays := duplicateFinding?_of_extended naming ht
  rw [Table.map_id_duplicateFinding?, Table.map_id_duplicateFinding?]
  rw [Table.duplicateFinding?_eq_none_iff, Table.duplicateFinding?_eq_none_iff] at hstays ⊢
  constructor
  · intro h hnil
    rw [if_pos hnil] at h
    split at h
    · assumption
    · cases h
  · intro h
    have hiff := Iff.intro h hstays
    exact if_congr hiff rfl rfl

lemma forall₂_sameFinding_iff :
    List.Forall₂ (fun t t' => t.duplicateFinding? = t'.duplicateFinding?) s.tables
      (s.resolve naming).tables ↔ ∀ a ∈ s.additions naming, ¬a.placement.Doubles := by
  have hfindings := forall₂_resolve_iff (R := fun t t' =>
    t.duplicateFinding? = t'.duplicateFinding?) (fun t => rfl) naming s
  have hsame {id : String} {t : Table} (ht : s.table? id = some t) :
      t.duplicateFinding? =
          (t.extended (columnsFor (s.additions naming) id)).duplicateFinding? ↔
        doubledNames (s.additions naming) id = [] := by
    rw [eq_comm, Table.duplicateFinding?_extended_eq_iff, additions, duplicateNames_extended ht,
      List.append_right_eq_self]
  rw [hfindings]
  constructor
  · intro h a ha
    obtain ⟨before, r, after, -, -, hplaced, -⟩ := exists_of_mem_additionsFrom ha
    have hgrows := Grows.addForeignKeys naming s before
    obtain ⟨t, -, ht⟩ := hgrows.exists_table? (table?_holder hplaced)
    exact doubledNames_eq_nil_iff.mp ((hsame ht).mp (h _ t ht)) a ha rfl
  · intro h id t ht
    exact (hsame ht).mpr (doubledNames_eq_nil_iff.mpr fun a ha _ => h a ha)

/-- A resolution adds to the doubled names of a table those that are doubled by what it adds, each
of which stands there in other letters. So tables without doubled names stay without them just when
none is doubled in such a table. Just then the same tables are reported as before; and the very same
things are reported of them just when no name is doubled at all. -/
theorem duplicates_resolve (naming : Naming) (s : Schema) :
    (∀ id t, s.table? id = some t → ∃ t', (s.resolve naming).table? id = some t' ∧
        t'.duplicateNames = t.duplicateNames ++ doubledNames (s.additions naming) id) ∧
      (∀ a ∈ s.additions naming, a.placement.Doubles →
        ∃ c ∈ a.placement.holder.columns, c.name ≠ a.placement.columnName ∧
          lowerCase c.name = lowerCase a.placement.columnName) ∧
      (List.Forall₂ (fun t t' => t.duplicateFinding? = none → t'.duplicateFinding? = none)
        s.tables (s.resolve naming).tables ↔ s.KeepsApart naming) ∧
      (((s.resolve naming).analyze.ofKind .duplicateColumns).map (·.id) =
        (s.analyze.ofKind .duplicateColumns).map (·.id) ↔ s.KeepsApart naming) ∧
      ((s.resolve naming).analyze.ofKind .duplicateColumns =
        s.analyze.ofKind .duplicateColumns ↔ ∀ a ∈ s.additions naming, ¬a.placement.Doubles) := by
  have hstays : List.Forall₂ (fun t t' => t'.duplicateFinding? = none →
      t.duplicateFinding? = none) s.tables (s.resolve naming).tables :=
    (forall₂_resolve_iff (fun t h => h) naming s).mpr fun id t ht =>
      duplicateFinding?_of_extended naming ht
  rw [ofKind_duplicateColumns, ofKind_duplicateColumns]
  refine ⟨fun id t ht => ?_, fun a ha => exists_of_doubles ha, forall₂_clean_iff, ?_, ?_⟩
  · rw [table?_resolve, ht]
    exact ⟨_, rfl, duplicateNames_extended ht⟩
  · rw [eq_comm, List.map_filterMap, List.map_filterMap, filterMap_eq_iff_forall₂,
      forall₂_sameId_iff]
    exact hstays.imp fun t t' h hnone => by simpa using h (by simpa using hnone)
  · rw [eq_comm, filterMap_eq_iff_forall₂ hstays, forall₂_sameFinding_iff]

/-- A table with two columns of one name, and with one of the name that its foreign key is to have,
in the other case. -/
private def doubledAgain : Schema where
  tables := [
    .withKey "a" "A" "a",
    ⟨"t", "T", [.keyOf "t" "t", ⟨"t-x", "x", "LONG", false, true, false, false, false, none, none⟩,
      ⟨"t-y", "X", "LONG", false, true, false, false, false, none, none⟩,
      ⟨"t-a", "A", "LONG", false, true, false, false, false, none, none⟩], .zero, .zero⟩]
  relationships := [⟨"r1", "a", "a-a", "t", "t-t", .oneToMany, false, false, .cascade, .cascade⟩]

theorem duplicates_resolve_doubledAgain :
    (∃ t', (doubledAgain.resolve .bare).table? "t" = some t' ∧ t'.duplicateNames = ["x", "a"]) ∧
      ((doubledAgain.resolve .bare).analyze.ofKind .duplicateColumns).map (·.id) =
        (doubledAgain.analyze.ofKind .duplicateColumns).map (·.id) ∧
      (doubledAgain.resolve .bare).analyze.ofKind .duplicateColumns ≠
        doubledAgain.analyze.ofKind .duplicateColumns := by
  obtain ⟨hnames, -, -, hids, hfindings⟩ := duplicates_resolve .bare doubledAgain
  refine ⟨?_, hids.mpr fun a ha _ t ht => ?_, mt hfindings.mp (by decide +kernel)⟩
  · obtain ⟨t', ht', htwice⟩ := hnames "t" _ rfl
    exact ⟨t', ht', htwice.trans (by decide +kernel)⟩
  · have hid : ∀ a ∈ doubledAgain.additions .bare, a.placement.holder.id = "t" := by
      decide +kernel
    rw [hid a ha] at ht
    cases ht
    decide +kernel

/-- A table with a column of the name that its foreign key is to have, in the other case. -/
private def recased : Schema where
  tables := [
    .withKey "a" "A" "a",
    ⟨"t", "T", [.keyOf "t" "t", ⟨"t-a", "A", "LONG", false, true, false, false, false, none, none⟩],
      .zero, .zero⟩]
  relationships := [⟨"r1", "a", "a-a", "t", "t-t", .oneToMany, false, false, .cascade, .cascade⟩]

/-- The table has no doubled names before the resolution, and it has one afterwards. -/
theorem not_clean_recased :
    ¬List.Forall₂ (fun t t' => t.duplicateFinding? = none → t'.duplicateFinding? = none)
      recased.tables (recased.resolve .bare).tables := by
  decide +kernel

end Schema

end SchemaGraph
