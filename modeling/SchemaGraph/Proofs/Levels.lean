import Mathlib.Data.Nat.Find
import SchemaGraph.Proofs.Nesting

/-!
# How many levels it takes to read a text

A reading either has enough levels, and then more of them change nothing, or it stops for want of
them (`Json.readAll_eq_tooDeep_iff`). How many are enough is `Json.levelsFor`: about as many as the
text is nested deep (`Json.nesting_le_levelsFor`, `Json.levelsFor_le_nesting`), and so more than any
given number for some texts (`Json.lt_levelsFor_brackets`).
-/

namespace SchemaGraph

namespace Json

/-! ### Fewer levels -/

section

variable {α β : Type} {r r' : Reading α} {levels levels' bound : Nat} {text : List Char}

/-- A reading stops for want of levels, or it is the same as another, which may have more. -/
def Defers (r r' : Reading α) : Prop :=
  r = .error .tooDeep ∨ r = r'

namespace Defers

lemma refl (r : Reading α) : Defers r r :=
  .inr rfl

lemma map (h : Defers r r') (g : α × List Char → β × List Char) : Defers (r.map g) (r'.map g) := by
  obtain rfl | rfl := h
  · exact .inl rfl
  · exact .inr rfl

/-- More levels are enough for the wording of all faults for which fewer are. -/
lemma report (h : Defers r r') (hle : levels ≤ levels') :
    Defers (report levels r) (report levels' r') := by
  obtain rfl | rfl := h
  · exact .inl rfl
  · unfold Json.report
    split
    · split_ifs with hwords hwords'
      · exact .inr rfl
      · exact absurd (hwords.imp_right fun h => le_trans h hle) hwords'
      · exact .inl rfl
      · exact .inl rfl
    · exact .inr rfl

end Defers

lemma defers_readAtom (hle : levels ≤ levels') :
    Defers (readAtom levels text) (readAtom levels' text) := by
  have hword (value : Double) (rest : List Char) :
      Defers (readNumberWord levels value rest) (readNumberWord levels' value rest) := by
    rw [readNumberWord, readNumberWord]
    split_ifs with h h'
    · exact .inl rfl
    · exact .inl rfl
    · omega
    · exact .inr rfl
  unfold readAtom
  split
  all_goals first | exact .refl _ | exact hword _ _

/-- Readings with a bound defer to those with more levels. -/
structure ReadersDefer (bound : Nat) : Prop where
  value : ∀ levels levels' text, levels ≤ levels' →
    Defers (readValue bound levels text) (readValue bound levels' text)
  members : ∀ levels levels' text, levels ≤ levels' →
    Defers (readMembers bound levels text) (readMembers bound levels' text)
  items : ∀ levels levels' text, levels ≤ levels' →
    Defers (readItems bound levels text) (readItems bound levels' text)

lemma defers_readItems (ih : ReadersDefer bound) (hle : levels ≤ levels') :
    Defers (readItems (bound + 1) levels text) (readItems (bound + 1) levels' text) := by
  unfold readItems
  obtain h | h := ih.value _ _ text hle
  · rw [h]
    exact .inl rfl
  · rw [h]
    split
    · exact .refl _
    · split
      · exact .refl _
      · exact (ih.items _ _ _ hle).map _
      · exact .refl _

lemma defers_readMembers (ih : ReadersDefer bound) (hle : levels ≤ levels') :
    Defers (readMembers (bound + 1) levels text) (readMembers (bound + 1) levels' text) := by
  unfold readMembers
  split
  · split
    · exact .refl _
    · split
      · next rest _ =>
        obtain h | h := ih.value _ _ (skipGaps rest) hle
        · rw [h]
          exact .inl rfl
        · rw [h]
          split
          · exact .refl _
          · split
            · exact .refl _
            · exact (ih.members _ _ _ hle).map _
            · exact .refl _
      · exact .refl _
  · exact .refl _

lemma defers_readValue (ih : ReadersDefer bound) (hle : levels ≤ levels') :
    Defers (readValue (bound + 1) levels text) (readValue (bound + 1) levels' text) := by
  unfold readValue
  split
  · exact ((Defers.refl _).report hle).map _
  · rcases levels with _ | levels
    · exact .inl rfl
    · obtain ⟨levels', rfl⟩ := Nat.exists_eq_succ_of_ne_zero (Nat.ne_zero_of_lt hle)
      have hle := Nat.le_of_succ_le_succ hle
      dsimp only
      split
      · exact .refl _
      · exact ((ih.members _ _ _ hle).report hle).map _
  · rcases levels with _ | levels
    · exact .inl rfl
    · obtain ⟨levels', rfl⟩ := Nat.exists_eq_succ_of_ne_zero (Nat.ne_zero_of_lt hle)
      have hle := Nat.le_of_succ_le_succ hle
      dsimp only
      split
      · exact .refl _
      · exact ((ih.items _ _ _ hle).report hle).map _
  · exact defers_readAtom hle

lemma readersDefer (bound : Nat) : ReadersDefer bound := by
  induction bound with
  | zero => exact ⟨fun _ _ _ _ => .refl _, fun _ _ _ _ => .refl _, fun _ _ _ _ => .refl _⟩
  | succ bound ih =>
    exact ⟨fun _ _ _ => defers_readValue ih, fun _ _ _ => defers_readMembers ih,
      fun _ _ _ => defers_readItems ih⟩

end

/-! ### Whole texts -/

variable {levels levels' : Nat} {text : List Char}

/-- The reading of a whole text stops for want of levels, or it is the same with more of them. -/
lemma readAll_eq_of_le (hle : levels ≤ levels') (h : readAll levels text ≠ .error .tooDeep) :
    readAll levels' text = readAll levels text := by
  have hvalue := (readersDefer (2 * text.length + 1)).value _ _ (skipGaps text) hle
  unfold readAll at h ⊢
  obtain hdeep | hsame := hvalue
  · split at h
    · rfl
    · rw [hdeep] at h
      exact absurd rfl h
  · rw [hsame]

/-! ### How many levels a text takes -/

instance decidableTooDeep {α : Type} : (r : Except Stop α) → Decidable (r = .error .tooDeep)
  | .error .tooDeep => isTrue rfl
  | .error (.fault _ _) => isFalse (by rintro ⟨⟩)
  | .error (.longInteger _) => isFalse (by rintro ⟨⟩)
  | .ok _ => isFalse (by rintro ⟨⟩)

lemma readAll_of_nesting (h : nesting text + 3 ≤ levels) : readAll levels text ≠ .error .tooDeep :=
  fun hdeep => Nat.not_lt_of_le h (lt_nesting_of_readAll hdeep)

lemma exists_levels (text : List Char) : ∃ levels, readAll levels text ≠ .error .tooDeep :=
  ⟨nesting text + 3, readAll_of_nesting le_rfl⟩

/-- The levels that it takes to read a text, be it a value or not. -/
def levelsFor (text : List Char) : Nat :=
  Nat.find (exists_levels text)

/-- A reading stops for want of levels just where there are fewer than the text takes. -/
theorem readAll_eq_tooDeep_iff :
    readAll levels text = .error .tooDeep ↔ levels < levelsFor text := by
  constructor
  · intro h
    by_contra hle
    have hleast := Nat.find_spec (exists_levels text)
    exact hleast ((readAll_eq_of_le (not_lt.mp hle) hleast).symm.trans h)
  · intro h
    exact not_not.mp (Nat.find_min (exists_levels text) h)

/-- Levels that a text does not take change nothing. -/
theorem readAll_eq (h : levelsFor text ≤ levels) :
    readAll levels text = readAll (levelsFor text) text :=
  readAll_eq_of_le h (Nat.find_spec (exists_levels text))

theorem levelsFor_le_nesting (text : List Char) : levelsFor text ≤ nesting text + 3 :=
  Nat.find_min' _ (readAll_of_nesting le_rfl)

/-- A text that can be read takes a level for each of the lists and objects within each other. -/
theorem nesting_le_levelsFor {v : Json} (h : readAll levels text = .ok v) :
    nesting text ≤ levelsFor text := by
  have henough : levelsFor text ≤ levels := by
    rw [← not_lt, ← readAll_eq_tooDeep_iff, h]
    rintro ⟨⟩
  exact nesting_le_of_readAll ((readAll_eq henough).symm.trans h)

/-- However many levels there are, a text of one bracket more is too deep, whatever follows. -/
theorem lt_levelsFor_brackets (levels : Nat) (rest : List Char) :
    levels < levelsFor (List.replicate (levels + 1) '[' ++ rest) := by
  have hread (n bound : Nat) : 2 * n < bound →
      readValue bound n (List.replicate (n + 1) '[' ++ rest) = .error .tooDeep := by
    induction n generalizing bound with
    | zero =>
      intro h
      obtain ⟨bound, rfl⟩ := Nat.exists_eq_succ_of_ne_zero (Nat.ne_zero_of_lt h)
      rfl
    | succ n ih =>
      intro h
      obtain ⟨bound, rfl⟩ := Nat.exists_eq_add_of_le' (show 2 ≤ bound by omega)
      -- a list and its first item take two of the bound
      have hitems : readItems (bound + 1) n (List.replicate (n + 1) '[' ++ rest) =
          .error .tooDeep := by
        rw [readItems, ih bound (by omega)]
      rw [List.replicate_succ, List.cons_append, readValue]
      change (report n (readItems (bound + 1) n (List.replicate (n + 1) '[' ++ rest))).map _ = _
      rw [hitems]
      rfl
  have hbound : 2 * levels < 2 * (List.replicate (levels + 1) '[' ++ rest).length + 1 := by
    rw [List.length_append, List.length_replicate]
    omega
  have hgaps : skipGaps (List.replicate (levels + 1) '[' ++ rest) =
      List.replicate (levels + 1) '[' ++ rest := rfl
  rw [← readAll_eq_tooDeep_iff, readAll, hgaps, hread levels _ hbound]
  rintro _ ⟨⟩

end Json

end SchemaGraph
