import Mathlib.Data.Nat.Log
import Mathlib.Tactic.Ring
import Mathlib.Tactic.NormNum
import SchemaGraph.Number.Decimal

/-!
# Decimals read back

The double nearest to a quotient depends on the value of the quotient alone, and so the double that
a decimal reads as depends on its value alone: trailing zeros can move from the significand to the
exponent (`Double.ofDecimal_scale`). The decimal that is chosen for writing reads as the double that
it was chosen for (`Double.ofDecimal_shortest`), also where none of the short candidates does, since
every double is an exact decimal.
-/

namespace SchemaGraph

/-! ### Powers of ten -/

lemma tenTo_pos (n : Nat) : 0 < tenTo n :=
  Nat.pow_pos (by decide)

lemma tenTo_zero : tenTo 0 = 1 :=
  rfl

lemma tenTo_add (m n : Nat) : tenTo (m + n) = tenTo m * tenTo n :=
  Nat.pow_add ..

lemma tenTo_le_tenTo {m n : Nat} (h : m ≤ n) : tenTo m ≤ tenTo n :=
  Nat.pow_le_pow_right (by decide) h

lemma two_pow_le_tenTo (n : Nat) : 2 ^ n ≤ tenTo n :=
  Nat.pow_le_pow_left (by decide) n

namespace Double

lemma unitsPerOne_pos : 0 < unitsPerOne := by
  decide

/-! ### The nearest rank -/

lemma roundHalfEven_mul (num den : Nat) {k : Nat} (hk : 0 < k) :
    roundHalfEven (num * k) (den * k) = roundHalfEven num den := by
  have hlt (a b : Nat) : (2 * (a * k) < b * k) = (2 * a < b) := by
    rw [← Nat.mul_assoc, Nat.mul_lt_mul_right hk]
  have hgt (a b : Nat) : (b * k < 2 * (a * k)) = (b < 2 * a) := by
    rw [← Nat.mul_assoc, Nat.mul_lt_mul_right hk]
  simp only [roundHalfEven, Nat.mul_div_mul_right num den hk, Nat.mul_mod_mul_right, hlt, hgt]

lemma roundHalfEven_mul_self (n : Nat) {k : Nat} (hk : 0 < k) : roundHalfEven (n * k) k = n := by
  have hone := roundHalfEven_mul n 1 hk
  rw [Nat.one_mul] at hone
  rw [hone]
  simp [roundHalfEven, Nat.mod_one]

lemma nearestRank_mul (num den : Nat) {k : Nat} (hk : 0 < k) :
    nearestRank (num * k) (den * k) = nearestRank num den := by
  have hshift (n : Nat) : (den * k) <<< n = (den <<< n) * k := by
    rw [Nat.shiftLeft_eq, Nat.shiftLeft_eq, Nat.mul_right_comm]
  simp only [nearestRank, Nat.mul_div_mul_right num den hk, hshift, roundHalfEven_mul _ _ hk]

/-- Equal quotients have the same nearest rank. -/
lemma nearestRank_congr {num den num' den' : Nat} (hden : 0 < den) (hden' : 0 < den')
    (h : num * den' = num' * den) : nearestRank num den = nearestRank num' den' := by
  rw [← nearestRank_mul num den hden', h, Nat.mul_comm den den', nearestRank_mul num' den' hden]

/-- Less than half a unit rounds to nothing. -/
lemma nearestRank_of_two_mul_lt {num den : Nat} (h : 2 * num < den) : nearestRank num den = 0 := by
  have hdiv : num / den = 0 := Nat.div_eq_of_lt (by omega)
  have hmod : num % den = num := Nat.mod_eq_of_lt (by omega)
  simp [nearestRank, roundHalfEven, hdiv, hmod, h]

lemma rankCount_le_nearestRank {num : Nat} (h : 2099 ≤ num.log2) :
    rankCount ≤ nearestRank num 1 := by
  have hdoublings : 2047 ≤ (num / 1).log2 - 52 := by
    rw [Nat.div_one]
    omega
  exact (Nat.mul_le_mul_right binadeSize hdoublings).trans (Nat.le_add_right _ _)

/-- A magnitude that has a rank is nearest to that rank. -/
lemma nearestRank_units (rank : Nat) : nearestRank (units rank) 1 = rank := by
  by_cases hsmall : rank < binadeSize
  · have hlog : rank.log2 ≤ 52 := by
      by_cases hzero : rank = 0
      · simp [hzero]
      · exact Nat.le_of_lt ((Nat.log2_lt hzero).mpr (hsmall.trans_le (by decide)))
    have hdoublings : rank.log2 - 52 = 0 := by omega
    have hround := roundHalfEven_mul_self rank Nat.one_pos
    rw [Nat.mul_one] at hround
    simp [nearestRank, units, hsmall, hdoublings, hround]
  · have hbinade : 0 < rank / binadeSize := Nat.div_pos (Nat.not_lt.mp hsmall) (by decide)
    obtain ⟨n, hn⟩ := Nat.exists_eq_add_of_le' hbinade
    have hmod : rank % binadeSize < binadeSize := Nat.mod_lt _ (by decide)
    have hunits : units rank = (binadeSize + rank % binadeSize) * 2 ^ n := by
      rw [units, if_neg hsmall, hn, Nat.shiftLeft_eq]
      rfl
    have hlog : (units rank).log2 = 52 + n := by
      have hbinadeSize : binadeSize = 2 ^ 52 := by norm_num
      rw [hunits, Nat.log2_eq_iff (Nat.mul_ne_zero (by omega) (Nat.two_pow_pos n).ne')]
      constructor
      · rw [pow_add, ← hbinadeSize]
        exact Nat.mul_le_mul_right _ (Nat.le_add_right _ _)
      · rw [show 52 + n + 1 = 53 + n by omega, pow_add]
        refine Nat.mul_lt_mul_of_pos_right ?_ (Nat.two_pow_pos n)
        omega
    have hdoublings : (units rank / 1).log2 - 52 = n := by
      rw [Nat.div_one, hlog]
      omega
    have hsplit : (n + 1) * binadeSize + rank % binadeSize = rank := by
      rw [← hn]
      exact Nat.div_add_mod' ..
    rw [nearestRank, hdoublings, hunits, Nat.shiftLeft_eq, Nat.one_mul,
      roundHalfEven_mul_self _ (Nat.two_pow_pos n), ← Nat.add_assoc, ← Nat.succ_mul]
    exact hsplit

/-! ### Reading decimals -/

lemma ofUnits_congr (negative : Bool) {num den num' den' : Nat} (hden : 0 < den) (hden' : 0 < den')
    (h : num * den' = num' * den) : ofUnits negative num den = ofUnits negative num' den' := by
  simp only [ofUnits, nearestRank_congr hden hden' h]

lemma ofQuotient_congr (negative : Bool) {num den num' den' : Nat} (hden : 0 < den)
    (hden' : 0 < den') (h : num * den' = num' * den) :
    ofQuotient negative num den = ofQuotient negative num' den' := by
  refine ofUnits_congr negative hden hden' ?_
  rw [Nat.mul_right_comm, h, Nat.mul_right_comm]

lemma ofUnits_of_rankCount_le {negative : Bool} {num den : Nat}
    (h : rankCount ≤ nearestRank num den) : ofUnits negative num den = .infinite negative :=
  dif_neg (Nat.not_lt.mpr h)

/-- A decimal with a large exponent lies beyond the largest double. -/
lemma ofQuotient_of_huge (negative : Bool) {significand exponent : Nat} (h : significand ≠ 0)
    (hexponent : 400 < exponent) :
    ofQuotient negative (significand * tenTo exponent) 1 = .infinite negative := by
  refine ofUnits_of_rankCount_le (rankCount_le_nearestRank ?_)
  have hbase : 2099 ≤ (tenTo 401 * unitsPerOne).log2 := by decide +kernel
  have hle : tenTo 401 * unitsPerOne ≤ significand * tenTo exponent * unitsPerOne := by
    refine Nat.mul_le_mul_right unitsPerOne ((tenTo_le_tenTo hexponent).trans ?_)
    exact Nat.le_mul_of_pos_left _ (Nat.pos_of_ne_zero h)
  rw [Nat.log2_eq_log_two] at hbase ⊢
  exact hbase.trans (Nat.log_mono_right hle)

/-- A decimal that is too small for its significand lies below half the smallest double. -/
lemma ofQuotient_of_tiny (negative : Bool) {significand places : Nat}
    (h : 401 + significand.log2 < places) :
    ofQuotient negative significand (tenTo places) = ofUnits negative 0 1 := by
  have hbase : 4 * unitsPerOne ≤ tenTo 402 := by decide +kernel
  have hsignificand : significand < 2 * tenTo significand.log2 := by
    have hlog := Nat.lt_log2_self (n := significand)
    rw [Nat.pow_succ] at hlog
    have htwo := two_pow_le_tenTo significand.log2
    omega
  have hlt : 2 * (significand * unitsPerOne) < tenTo places := by
    calc 2 * (significand * unitsPerOne)
        < 2 * (2 * tenTo significand.log2 * unitsPerOne) := by
          have hmul := Nat.mul_lt_mul_of_pos_right hsignificand unitsPerOne_pos
          omega
      _ = 4 * unitsPerOne * tenTo significand.log2 := by ring
      _ ≤ tenTo 402 * tenTo significand.log2 := Nat.mul_le_mul_right _ hbase
      _ = tenTo (402 + significand.log2) := (tenTo_add ..).symm
      _ ≤ tenTo places := tenTo_le_tenTo (by omega)
  have hzero : nearestRank 0 1 = 0 := nearestRank_of_two_mul_lt (by decide)
  simp only [ofQuotient, ofUnits, nearestRank_of_two_mul_lt hlt, hzero]

/-- A decimal reads as the double nearest to it; the shortcuts for huge and tiny ones agree. -/
lemma ofDecimal_eq (negative : Bool) (d : Decimal) :
    ofDecimal negative d = ofQuotient negative (d.significand * tenTo d.exponent.toNat)
      (tenTo (-d.exponent).toNat) := by
  unfold ofDecimal
  split_ifs with hzero hhuge htiny hwhole
  · rw [hzero, Nat.zero_mul, ofQuotient, Nat.zero_mul]
    exact ofUnits_congr negative Nat.one_pos (tenTo_pos _) (by rw [Nat.zero_mul, Nat.zero_mul])
  · have hplaces : (-d.exponent).toNat = 0 := by omega
    rw [hplaces, tenTo_zero, ofQuotient_of_huge negative hzero (by omega)]
  · have hpower : d.exponent.toNat = 0 := by omega
    rw [hpower, tenTo_zero, Nat.mul_one, ofQuotient_of_tiny negative (by omega)]
  · have hplaces : (-d.exponent).toNat = 0 := by omega
    rw [hplaces, tenTo_zero]
  · have hpower : d.exponent.toNat = 0 := by omega
    rw [hpower, tenTo_zero, Nat.mul_one]

/-- Zeros at the end of the significand can as well stand in the exponent. -/
lemma ofDecimal_scale (negative : Bool) (significand zeros : Nat) (exponent : Int) :
    ofDecimal negative ⟨significand * tenTo zeros, exponent⟩ =
      ofDecimal negative ⟨significand, exponent + zeros⟩ := by
  rw [ofDecimal_eq, ofDecimal_eq]
  refine ofQuotient_congr negative (tenTo_pos _) (tenTo_pos _) ?_
  have hexponents : zeros + exponent.toNat + (-(exponent + zeros)).toNat =
      (exponent + zeros).toNat + (-exponent).toNat := by omega
  simp only [Nat.mul_assoc, ← tenTo_add, ← hexponents]

/-! ### Writing decimals -/

lemma ofDecimal_exactDecimal (negative : Bool) (rank : Nat) :
    ofDecimal negative (exactDecimal rank) = ofUnits negative (units rank) 1 := by
  have hexact : tenTo 1074 / unitsPerOne * unitsPerOne = tenTo 1074 := by decide +kernel
  rw [ofDecimal_eq, ofQuotient]
  refine ofUnits_congr negative (tenTo_pos _) Nat.one_pos ?_
  show units rank * (tenTo 1074 / unitsPerOne) * 1 * unitsPerOne * 1 = units rank * tenTo 1074
  rw [Nat.mul_one, Nat.mul_one, Nat.mul_assoc, hexact]

lemma ofUnits_units (negative : Bool) (rank : Fin rankCount) :
    ofUnits negative (units rank) 1 = .finite negative rank := by
  simp [ofUnits, nearestRank_units]

/-- The sign of a double is the sign that it is read with. -/
lemma ofDecimal_of_false {d : Decimal} {rank : Fin rankCount}
    (h : ofDecimal false d = .finite false rank) (negative : Bool) :
    ofDecimal negative d = .finite negative rank := by
  rw [ofDecimal_eq, ofQuotient, ofUnits] at h ⊢
  split at h
  · next hrank =>
    rw [dif_pos hrank, ← (Double.finite.inj h).2]
  · cases h

/-- The decimal that is written for a double reads as that double. -/
theorem ofDecimal_shortest (negative : Bool) (rank : Fin rankCount) :
    ofDecimal negative (shortest rank) = .finite negative rank := by
  unfold shortest
  cases hfound : (List.range' 1 17).findSome? fun places =>
      (neighbours rank places).find? (isReadFrom rank) with
  | none => exact (ofDecimal_exactDecimal negative rank).trans (ofUnits_units negative rank)
  | some d =>
    obtain ⟨places, -, hplaces⟩ := List.exists_of_findSome?_eq_some hfound
    have hread := List.find?_some hplaces
    exact ofDecimal_of_false (of_decide_eq_true hread) negative

/-- Only zero is written with the significand zero. -/
lemma shortest_significand_ne_zero {rank : Fin rankCount} (h : rank.val ≠ 0) :
    (shortest rank).significand ≠ 0 := by
  intro hzero
  have hread := ofDecimal_shortest false rank
  have hnothing : nearestRank 0 1 = 0 := nearestRank_of_two_mul_lt (by decide)
  rw [ofDecimal, if_pos hzero, ofUnits, dif_pos (by rw [hnothing]; decide)] at hread
  exact h ((congrArg Fin.val (Double.finite.inj hread).2).symm.trans hnothing)

end Double

end SchemaGraph
