import SchemaGraph.Proofs.DuplicateNames

/-!
# Which names are reported as doubled

The check for doubled names goes through the columns of a table once and remembers what it has seen
and what it has found. `Schema.duplicateFindings_exact` says what comes of this: there is one
finding for each table in which two columns have the same name, up to the case of letters, and it
lists the doubled names in the order in which they turn out to be doubled. What carries the proof is
that a text is found at its second occurrence (`repeatedTexts_concat`).
-/

namespace SchemaGraph

/-! ### Second occurrences -/

/-- At a place of some texts stands the second occurrence of a text. -/
def SecondAt (texts : List String) (x : String) (place : Nat) : Prop :=
  texts[place]? = some x ∧ (texts.take place).count x = 1

section

variable {texts : List String} {x y : String} {place : Nat}

lemma SecondAt.lt_length (h : SecondAt texts x place) : place < texts.length :=
  (List.getElem?_eq_some_iff.mp h.1).1

/-- More texts at the end move no occurrence. -/
lemma SecondAt.concat (h : SecondAt texts x place) (y : String) :
    SecondAt (texts ++ [y]) x place := by
  have hlt := h.lt_length
  constructor
  · rw [List.getElem?_append_left hlt]
    exact h.1
  · rw [List.take_append_of_le_length (Nat.le_of_lt hlt)]
    exact h.2

lemma secondAt_length (h : texts.count x = 1) : SecondAt (texts ++ [x]) x texts.length := by
  constructor
  · simp
  · rw [List.take_left]
    exact h

lemma nodup_repeatedTexts (texts : List String) : (repeatedTexts texts).Nodup := by
  induction texts using List.reverseRecOn with
  | nil => exact .nil
  | append_singleton texts x ih =>
    rw [repeatedTexts_concat_eq_ite]
    split
    · next h => exact List.concat_eq_append ▸ ih.concat h.2
    · exact ih

/-- The texts that are found stand in the order of their second occurrences. -/
lemma exists_places (texts : List String) :
    ∃ places, List.Forall₂ (SecondAt texts) (repeatedTexts texts) places ∧
      places.Pairwise (· < ·) ∧ ∀ place ∈ places, place < texts.length := by
  induction texts using List.reverseRecOn with
  | nil => exact ⟨[], .nil, .nil, by simp⟩
  | append_singleton texts x ih =>
    obtain ⟨places, hplaces, hordered, hbound⟩ := ih
    have hkept := hplaces.imp fun _ _ h => h.concat x
    have hlength : (texts ++ [x]).length = texts.length + 1 := List.length_append
    rw [repeatedTexts_concat, hlength]
    split
    · next hsecond =>
      refine ⟨places ++ [texts.length], ?_, ?_, ?_⟩
      · exact List.rel_append hkept (.cons (secondAt_length hsecond) .nil)
      · have hlast : ∀ place ∈ places, ∀ last ∈ [texts.length], place < last := by
          simpa using hbound
        exact List.pairwise_append.mpr ⟨hordered, List.pairwise_singleton _ _, hlast⟩
      · intro place hplace
        rcases List.mem_append.mp hplace with hplace | hplace
        · exact Nat.lt_succ_of_lt (hbound place hplace)
        · exact List.mem_singleton.mp hplace ▸ Nat.lt_succ_self texts.length
    · refine ⟨places, ?_, hordered, fun place hplace => Nat.lt_succ_of_lt (hbound place hplace)⟩
      rwa [List.append_nil]

end

/-! ### Tables -/

/-- Two columns at different places have the same name, up to the case of letters. -/
def Table.Doubled (t : Table) : Prop :=
  ∃ (i j : Nat) (c d : Column), i ≠ j ∧ t.columns[i]? = some c ∧ t.columns[j]? = some d ∧
    lowerCase c.name = lowerCase d.name

/-- The names that occur at least twice in a table, in small letters: each once, and in the order of
their second occurrences. -/
structure Table.Doubles (t : Table) (names : List String) : Prop where
  nodup : names.Nodup
  mem_iff : ∀ name, name ∈ names ↔ 2 ≤ t.lowerNames.count name
  inOrder : ∃ places, List.Forall₂ (SecondAt t.lowerNames) names places ∧
    places.Pairwise (· < ·)

/-- The finding of a table with doubled names lists just these names. -/
structure Table.Reports (t : Table) (f : Finding) : Prop where
  isAbout : f.IsAbout .duplicateColumns t.id
  title_eq : f.title = "Duplicate column names"
  severity_eq : f.severity = .medium
  lists : ∃ names, t.Doubles names ∧
    f.description = "Table \"" ++ t.name ++ "\" has columns with the same name: " ++
      ", ".intercalate names ++ "." ∧
    f.action = some (.renameDuplicateColumns t.id names)

namespace Table

variable {t : Table}

lemma getElem?_lowerNames (t : Table) (i : Nat) :
    t.lowerNames[i]? = t.columns[i]?.map fun c => lowerCase c.name :=
  List.getElem?_map

lemma doubled_iff : t.Doubled ↔ ¬t.lowerNames.Nodup := by
  constructor
  · rintro ⟨i, j, c, d, hne, hc, hd, hname⟩ hnodup
    have hi : i < t.lowerNames.length := by
      rw [lowerNames, List.length_map]
      exact (List.getElem?_eq_some_iff.mp hc).1
    refine hne ((List.getElem?_inj hi hnodup).mp ?_)
    rw [getElem?_lowerNames, getElem?_lowerNames, hc, hd, Option.map_some, Option.map_some, hname]
  · intro h
    simp only [List.nodup_iff_getElem?_ne_getElem?, not_forall, not_not] at h
    obtain ⟨i, j, hij, hj, heq⟩ := h
    rw [lowerNames, List.length_map] at hj
    have hi := Nat.lt_trans hij hj
    rw [getElem?_lowerNames, getElem?_lowerNames, List.getElem?_eq_getElem hi,
      List.getElem?_eq_getElem hj] at heq
    exact ⟨i, j, t.columns[i], t.columns[j], Nat.ne_of_lt hij, List.getElem?_eq_getElem hi,
      List.getElem?_eq_getElem hj, Option.some.inj heq⟩

instance (t : Table) : Decidable t.Doubled :=
  decidable_of_iff _ doubled_iff.symm

lemma doubles_duplicateNames (t : Table) : t.Doubles t.duplicateNames where
  nodup := nodup_repeatedTexts t.lowerNames
  mem_iff _ := mem_repeatedTexts
  inOrder := by
    obtain ⟨places, hplaces, hordered, -⟩ := exists_places t.lowerNames
    exact ⟨places, hplaces, hordered⟩

lemma reports_of_duplicateFinding? {f : Finding} (h : t.duplicateFinding? = some f) :
    t.Reports f := by
  rw [duplicateFinding?] at h
  split at h
  · cases h
  · cases h
    exact ⟨⟨rfl, rfl⟩, rfl, rfl, t.duplicateNames, t.doubles_duplicateNames, rfl, rfl⟩

/-- A table is reported just when names are doubled in it. -/
lemma duplicateFinding?_eq_none_iff_not_doubled : t.duplicateFinding? = none ↔ ¬t.Doubled := by
  rw [duplicateFinding?_eq_none_iff, duplicateNames_eq_nil_iff, doubled_iff, not_not]

end Table

/-! ### Reports -/

/-- The findings about doubled names come from the tables in which two columns have the same name,
up to the case of letters: one from each, in the order of the tables, with the doubled names in the
order of their second occurrences. -/
theorem Schema.duplicateFindings_exact (s : Schema) :
    List.Forall₂ Table.Reports (s.tables.filter fun t => t.Doubled)
      (s.analyze.ofKind .duplicateColumns) := by
  rw [Schema.ofKind_duplicateColumns, ← List.filterMap_eq_filter]
  refine forall₂_filterMap fun t _ => ?_
  cases hfound : t.duplicateFinding? with
  | none =>
    have hdoubled := Table.duplicateFinding?_eq_none_iff_not_doubled.mp hfound
    simp [Option.guard, hdoubled]
  | some f =>
    have hdoubled : t.Doubled := by
      by_contra h
      rw [Table.duplicateFinding?_eq_none_iff_not_doubled.mpr h] at hfound
      cases hfound
    simp [Option.guard, hdoubled, Table.reports_of_duplicateFinding? hfound]

/-- `a` occurs first, but `b` is the first one to occur again. -/
example :
    let column (name : String) : Column := { Column.keyOf "t" name with name }
    let s : Schema := ⟨[.withKey "u" "U" "u",
      ⟨"t", "T", ["a", "b", "B", "c", "A", "b"].map column, .zero, .zero⟩], []⟩
    (s.analyze.ofKind .duplicateColumns).map (·.action) =
      [some (.renameDuplicateColumns "t" ["b", "a"])] := by
  decide +kernel

end SchemaGraph
