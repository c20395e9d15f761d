import Mathlib.Tactic.Ring
import SchemaGraph.Json.Reader
import SchemaGraph.Json.Writer
import SchemaGraph.Proofs.Rounding

/-!
# Written numbers read back

A written number is a sign, the digits of a whole part, the digits of a fraction and an exponent,
and either of the last two may be missing. The reader takes such a text apart into just these
(`Json.readNumber_parts`), and every layout of a decimal is such a text of the same value
(`DecimalStyle.writes_magnitudeText`). So the text of a finite double reads as that double
(`Json.readNumber_writeDouble`).
-/

namespace SchemaGraph

open Json (digitsValue spanDigits)

/-! ### Digits -/

/-- All characters of a text are decimal digits. -/
def AllDigits (text : List Char) : Prop :=
  ∀ c ∈ text, c.isDigit = true

lemma allDigits_append {a b : List Char} : AllDigits (a ++ b) ↔ AllDigits a ∧ AllDigits b :=
  List.forall_mem_append

lemma allDigits_zeros (n : Nat) : AllDigits (List.replicate n '0') := by
  intro c hc
  rw [List.eq_of_mem_replicate hc]
  rfl

lemma allDigits_toDigits (n : Nat) : AllDigits (Nat.toDigits 10 n) :=
  fun _ hc => Nat.isDigit_of_mem_toDigits (by decide) le_rfl hc

namespace Json

lemma digitsValue_eq (digits : List Char) : digitsValue digits = Nat.ofDigitChars 10 digits 0 := by
  simp [digitsValue, Nat.ofDigitChars_eq_foldl, Nat.mul_comm]

lemma digitsValue_append (a b : List Char) :
    digitsValue (a ++ b) = digitsValue a * tenTo b.length + digitsValue b := by
  simp only [digitsValue_eq, Nat.ofDigitChars_append]
  rw [Nat.ofDigitChars_eq_ofDigitChars_zero, Nat.mul_comm]
  rfl

lemma digitsValue_zeros (n : Nat) : digitsValue (List.replicate n '0') = 0 := by
  rw [digitsValue_eq, Nat.ofDigitChars_replicate_zero, Nat.mul_zero]

lemma digitsValue_append_zeros (digits : List Char) (n : Nat) :
    digitsValue (digits ++ List.replicate n '0') = digitsValue digits * tenTo n := by
  rw [digitsValue_append, digitsValue_zeros, List.length_replicate, Nat.add_zero]

lemma digitsValue_zeros_append (n : Nat) (digits : List Char) :
    digitsValue (List.replicate n '0' ++ digits) = digitsValue digits := by
  rw [digitsValue_append, digitsValue_zeros, Nat.zero_mul, Nat.zero_add]

lemma digitsValue_toDigits (n : Nat) : digitsValue (Nat.toDigits 10 n) = n := by
  rw [digitsValue_eq, Nat.ofDigitChars_ten_toDigits]

/-- The text goes on with no digit. -/
def EndsDigits (rest : List Char) : Prop :=
  ∀ c ∈ rest.head?, c.isDigit = false

lemma spanDigits_append {digits rest : List Char} (h : AllDigits digits) (hrest : EndsDigits rest) :
    spanDigits (digits ++ rest) = (digits, rest) := by
  have hnone : rest.takeWhile Char.isDigit = [] ∧ rest.dropWhile Char.isDigit = rest := by
    cases rest with
    | nil => exact ⟨rfl, rfl⟩
    | cons c cs => simp [hrest c rfl]
  rw [spanDigits, List.takeWhile_append_of_pos h, List.dropWhile_append_of_pos h, hnone.1, hnone.2,
    List.append_nil]

end Json

/-- Only zero has a leading zero. -/
lemma head_toDigits_ne_zero {n : Nat} (h : n ≠ 0) :
    ∃ c rest, Nat.toDigits 10 n = c :: rest ∧ c ≠ '0' := by
  induction n using Nat.strongRecOn with
  | ind n ih =>
    by_cases hsmall : n < 10
    · have hdigit : n.digitChar ≠ '0' := fun hc => h (Nat.digitChar_eq_zero.mp hc)
      exact ⟨n.digitChar, [], Nat.toDigits_of_lt_base hsmall, hdigit⟩
    · obtain ⟨c, rest, heq, hc⟩ := ih (n / 10) (by omega) (by omega)
      refine ⟨c, rest ++ [(n % 10).digitChar], ?_, hc⟩
      rw [Nat.toDigits_of_base_le (by decide) (Nat.not_lt.mp hsmall), heq, List.cons_append]

/-! ### The parts of a written number -/

/-- The digits before and after the point of a written number, and its exponent. -/
structure NumberParts where
  whole : List Char
  fraction : List Char
  exponent : Option Int

namespace NumberParts

/-- The text after the whole part. -/
def tail (style : DecimalStyle) (p : NumberParts) : List Char :=
  (if p.fraction.isEmpty then [] else '.' :: p.fraction) ++ p.exponent.elim [] style.exponentText

/-- The number that is written. -/
def decimal (p : NumberParts) : Decimal where
  significand := digitsValue (p.whole ++ p.fraction)
  exponent := p.exponent.getD 0 - (p.fraction.length : Int)

/-- The parts belong to a number with a fraction or an exponent, and with no needless zero before
its whole part. -/
structure Fractional (p : NumberParts) : Prop where
  whole_digits : AllDigits p.whole
  fraction_digits : AllDigits p.fraction
  leading : p.whole = ['0'] ∨ ∃ c rest, p.whole = c :: rest ∧ c ≠ '0'
  marked : p.fraction ≠ [] ∨ p.exponent.isSome

end NumberParts

namespace Json

/-- The text does not go on with a number. -/
def EndsNumber (rest : List Char) : Prop :=
  ∀ c ∈ rest.head?, c.isDigit = false ∧ c ≠ '.' ∧ c ≠ 'e' ∧ c ≠ 'E'

lemma EndsNumber.endsDigits {rest : List Char} (h : EndsNumber rest) : EndsDigits rest :=
  fun c hc => (h c hc).1

/-! ### Reading -/

lemma readFraction_point {fraction rest : List Char} (h : AllDigits fraction) (hne : fraction ≠ [])
    (hrest : EndsDigits rest) : readFraction ('.' :: (fraction ++ rest)) = (fraction, rest) := by
  obtain ⟨c, cs, rfl⟩ := List.exists_cons_of_ne_nil hne
  simp only [readFraction, spanDigits_append h hrest]

lemma readFraction_of_ne_point {rest : List Char} (h : ∀ c ∈ rest.head?, c ≠ '.') :
    readFraction rest = ([], rest) := by
  unfold readFraction
  split
  · exact absurd rfl (h '.' rfl)
  · rfl

lemma readExponent_of_ne_mark {rest : List Char} (h : ∀ c ∈ rest.head?, c ≠ 'e' ∧ c ≠ 'E') :
    readExponent rest = (none, rest) := by
  cases rest with
  | nil => rfl
  | cons c cs =>
    obtain ⟨hsmall, hcapital⟩ := h c rfl
    simp [readExponent, hsmall, hcapital]

/-- A padded number is still that number. -/
lemma padded_digits (width n : Nat) :
    AllDigits (DecimalStyle.padded width n) ∧ digitsValue (DecimalStyle.padded width n) = n ∧
      DecimalStyle.padded width n ≠ [] := by
  refine ⟨allDigits_append.mpr ⟨allDigits_zeros _, allDigits_toDigits n⟩, ?_, ?_⟩
  · rw [DecimalStyle.padded, digitsValue_zeros_append, digitsValue_toDigits]
  · exact List.append_ne_nil_of_right_ne_nil _ Nat.toDigits_ne_nil

lemma readExponent_text (style : DecimalStyle) (power : Int) {rest : List Char}
    (hrest : EndsDigits rest) :
    readExponent (style.exponentText power ++ rest) = (some power, rest) := by
  obtain ⟨hdigits, hvalue, hne⟩ := padded_digits style.exponentWidth power.natAbs
  have hspan := spanDigits_append hdigits hrest
  unfold DecimalStyle.exponentText
  generalize DecimalStyle.padded style.exponentWidth power.natAbs = digits at *
  obtain ⟨c, cs, rfl⟩ := List.exists_cons_of_ne_nil hne
  rw [List.cons_append] at hspan
  by_cases hpower : power < 0
  · have hsigned : -(power.natAbs : Int) = power := by omega
    simp only [hpower, if_true, List.cons_append, readExponent, true_or, hspan, hvalue, hsigned]
  · have hsigned : (power.natAbs : Int) = power := by omega
    simp only [hpower, if_false, List.cons_append, readExponent, true_or, if_true, hspan, hvalue,
      hsigned]
    rfl

variable (p : NumberParts) (style : DecimalStyle) {rest : List Char}

lemma head_exponent (hrest : EndsNumber rest) :
    ∀ c ∈ (p.exponent.elim [] style.exponentText ++ rest).head?, c.isDigit = false ∧ c ≠ '.' := by
  intro c hc
  cases hpower : p.exponent with
  | none =>
    rw [hpower] at hc
    exact ⟨(hrest c hc).1, (hrest c hc).2.1⟩
  | some power =>
    rw [hpower] at hc
    cases hc
    decide

lemma endsDigits_tail (hrest : EndsNumber rest) : EndsDigits (p.tail style ++ rest) := by
  unfold NumberParts.tail
  by_cases hnil : p.fraction = []
  · simp only [hnil, List.isEmpty_nil, if_true, List.nil_append]
    exact fun c hc => (head_exponent p style hrest c hc).1
  · simp only [List.isEmpty_iff, hnil, if_false]
    intro c hc
    cases hc
    rfl

variable {p}

lemma readFraction_tail (hp : p.Fractional) (hrest : EndsNumber rest) :
    readFraction (p.tail style ++ rest) =
      (p.fraction, p.exponent.elim [] style.exponentText ++ rest) := by
  unfold NumberParts.tail
  by_cases hnil : p.fraction = []
  · simp only [hnil, List.isEmpty_nil, if_true, List.nil_append]
    exact readFraction_of_ne_point fun c hc => (head_exponent p style hrest c hc).2
  · simp only [List.isEmpty_iff, hnil, if_false, List.cons_append, List.append_assoc]
    have hdigits : EndsDigits (p.exponent.elim [] style.exponentText ++ rest) :=
      fun c hc => (head_exponent p style hrest c hc).1
    exact readFraction_point hp.fraction_digits hnil hdigits

lemma readNumberAfter_parts (hp : p.Fractional) (negative : Bool) (hrest : EndsNumber rest) :
    readNumberAfter negative p.whole (p.tail style ++ rest) =
      .ok (.float (.ofDecimal negative p.decimal), rest) := by
  have hexponent : readExponent (p.exponent.elim [] style.exponentText ++ rest) =
      (p.exponent, rest) := by
    cases p.exponent with
    | none => exact readExponent_of_ne_mark fun c hc => ⟨(hrest c hc).2.2.1, (hrest c hc).2.2.2⟩
    | some power => exact readExponent_text style power hrest.endsDigits
  have hmarked : (p.fraction.isEmpty && p.exponent.isNone) = false := by
    obtain h | h := hp.marked
    · rw [List.isEmpty_eq_false_iff.mpr h, Bool.false_and]
    · rw [Option.isNone_eq_false_iff.mpr h, Bool.and_false]
  simp only [readNumberAfter, readFraction_tail style hp hrest, hexponent, hmarked]
  rfl

/-- The sign before a written number. -/
def sign (negative : Bool) : List Char :=
  if negative then ['-'] else []

/-- The reader takes the sign and the whole part first. -/
lemma readNumber_whole (negative : Bool) {whole tail : List Char} (h : AllDigits whole)
    (hleading : whole = ['0'] ∨ ∃ c rest, whole = c :: rest ∧ c ≠ '0') (htail : EndsDigits tail) :
    readNumber (sign negative ++ whole ++ tail) = readNumberAfter negative whole tail := by
  have hspan := spanDigits_append h htail
  obtain rfl | ⟨c, cs, rfl, hc⟩ := hleading
  · cases negative <;> rfl
  · have hdigit : c.isDigit = true := h c List.mem_cons_self
    have hsign : c ≠ '-' := by
      rintro rfl
      cases hdigit
    rw [List.cons_append] at hspan
    cases negative <;> simp [sign, readNumber, hc, hsign, hspan]

/-- The reader takes a written number apart into its parts. -/
lemma readNumber_parts (hp : p.Fractional) (negative : Bool) (hrest : EndsNumber rest) :
    readNumber (sign negative ++ p.whole ++ p.tail style ++ rest) =
      .ok (.float (.ofDecimal negative p.decimal), rest) := by
  rw [List.append_assoc, readNumber_whole negative hp.whole_digits hp.leading
    (endsDigits_tail p style hrest)]
  exact readNumberAfter_parts style hp negative hrest

lemma leading_toDigits (n : Nat) :
    Nat.toDigits 10 n = ['0'] ∨ ∃ c rest, Nat.toDigits 10 n = c :: rest ∧ c ≠ '0' := by
  by_cases h : n = 0
  · exact .inl (h ▸ rfl)
  · exact .inr (head_toDigits_ne_zero h)

/-- A whole number without a fraction and an exponent reads as an integer. -/
lemma readNumber_toDigits (negative : Bool) {n : Nat}
    (h : (Nat.toDigits 10 n).length ≤ integerLimit) (hrest : EndsNumber rest) :
    readNumber (sign negative ++ Nat.toDigits 10 n ++ rest) =
      .ok (.int (if negative then -(n : Int) else n), rest) := by
  have hfraction := readFraction_of_ne_point fun c hc => (hrest c hc).2.1
  have hexponent := readExponent_of_ne_mark fun c hc => (hrest c hc).2.2
  rw [readNumber_whole negative (allDigits_toDigits n) (leading_toDigits n) hrest.endsDigits]
  simp [readNumberAfter, hfraction, hexponent, Nat.not_lt.mpr h, digitsValue_toDigits]

end Json

/-! ### Writing -/

namespace DecimalStyle

variable (style : DecimalStyle)

/-- A text consists of the parts of a number, and its value is that of a decimal. -/
def Writes (text : List Char) (d : Decimal) : Prop :=
  ∃ p : NumberParts, p.Fractional ∧ text = p.whole ++ p.tail style ∧
    ∀ negative, Double.ofDecimal negative p.decimal = Double.ofDecimal negative d

variable {style}

lemma Writes.readNumber {text : List Char} {d : Decimal} (h : style.Writes text d)
    (negative : Bool) {rest : List Char} (hrest : Json.EndsNumber rest) :
    Json.readNumber (Json.sign negative ++ text ++ rest) =
      .ok (.float (.ofDecimal negative d), rest) := by
  obtain ⟨p, hp, rfl, hvalue⟩ := h
  rw [← List.append_assoc, Json.readNumber_parts style hp negative hrest, hvalue]

lemma Writes.congr {text : List Char} {d d' : Decimal} (h : style.Writes text d)
    (hd : ∀ negative, Double.ofDecimal negative d = Double.ofDecimal negative d') :
    style.Writes text d' := by
  obtain ⟨p, hp, htext, hvalue⟩ := h
  exact ⟨p, hp, htext, fun negative => (hvalue negative).trans (hd negative)⟩

lemma Writes.exists_digit {text : List Char} {d : Decimal} (h : style.Writes text d) :
    ∃ c rest, text = c :: rest ∧ c.isDigit = true := by
  obtain ⟨p, hp, rfl, -⟩ := h
  obtain hzero | ⟨c, rest, hwhole, -⟩ := hp.leading
  · rw [hzero]
    exact ⟨'0', _, rfl, rfl⟩
  · have hdigit := hp.whole_digits
    rw [hwhole] at hdigit ⊢
    exact ⟨c, _, rfl, hdigit c List.mem_cons_self⟩

/-- Some digits, the first of them not zero. -/
structure Leading (digits : List Char) : Prop where
  all_digits : AllDigits digits
  head_ne_zero : ∃ c rest, digits = c :: rest ∧ c ≠ '0'

variable (style) {digits : List Char}

lemma writes_scientific {c : Char} {rest : List Char} (h : Leading (c :: rest)) (power : Int) :
    style.Writes
      (c :: (if rest.isEmpty then [] else '.' :: rest) ++ style.exponentText power)
      ⟨digitsValue (c :: rest), power + 1 - ((c :: rest).length : Int)⟩ := by
  obtain ⟨_, _, hcons, hc⟩ := h.head_ne_zero
  have hdigits := allDigits_append.mp (show AllDigits ([c] ++ rest) from h.all_digits)
  have hp : NumberParts.Fractional ⟨[c], rest, some power⟩ :=
    ⟨hdigits.1, hdigits.2, .inr ⟨c, [], rfl, (List.cons.inj hcons).1 ▸ hc⟩, .inr rfl⟩
  refine ⟨_, hp, rfl, ?_⟩
  intro negative
  have hexponent : power + 1 - ((c :: rest).length : Int) = power - rest.length := by
    rw [List.length_cons]
    omega
  rw [hexponent]
  rfl

lemma writes_small (h : Leading digits) (n : Nat) :
    style.Writes ('0' :: '.' :: List.replicate n '0' ++ digits)
      ⟨digitsValue digits, -n - digits.length⟩ := by
  obtain ⟨c, rest, hcons, -⟩ := h.head_ne_zero
  have hp : NumberParts.Fractional ⟨['0'], List.replicate n '0' ++ digits, none⟩ :=
    ⟨allDigits_zeros 1, allDigits_append.mpr ⟨allDigits_zeros n, h.all_digits⟩, .inl rfl,
      .inl (by simp [hcons])⟩
  refine ⟨_, hp, ?_, ?_⟩
  · simp [NumberParts.tail, hcons]
  · intro negative
    have hvalue : digitsValue (['0'] ++ (List.replicate n '0' ++ digits)) = digitsValue digits := by
      rw [← List.append_assoc]
      exact Json.digitsValue_zeros_append (n + 1) digits
    have hexponent : (0 : Int) - ((List.replicate n '0' ++ digits).length : Int) =
        -n - digits.length := by
      rw [List.length_append, List.length_replicate]
      omega
    simp only [NumberParts.decimal, hvalue, Option.getD_none, hexponent]

lemma writes_pointed (h : Leading digits) (n : Nat) :
    style.Writes (pointed digits (n + 1)) ⟨digitsValue digits, n + 1 - digits.length⟩ := by
  obtain ⟨c, rest, hcons, hc⟩ := h.head_ne_zero
  by_cases hinside : n + 1 < digits.length
  · -- the point stands between the digits
    have hsplit := List.take_append_drop (n + 1) digits
    have hdigits := allDigits_append.mp (hsplit.symm ▸ h.all_digits)
    have hne : digits.drop (n + 1) ≠ [] := by
      intro hnil
      have := List.drop_eq_nil_iff.mp hnil
      omega
    have hp : NumberParts.Fractional ⟨digits.take (n + 1), digits.drop (n + 1), none⟩ :=
      ⟨hdigits.1, hdigits.2, .inr ⟨c, rest.take n, by rw [hcons]; rfl, hc⟩, .inl hne⟩
    refine ⟨_, hp, ?_, ?_⟩
    · have hpad : n + 1 - digits.length = 0 := by omega
      simp [pointed, NumberParts.tail, hpad, hne]
    · intro negative
      have hexponent : (0 : Int) - ((digits.drop (n + 1)).length : Int) =
          n + 1 - digits.length := by
        rw [List.length_drop]
        omega
      simp only [NumberParts.decimal, hsplit, Option.getD_none, hexponent]
  · -- zeros come between the digits and the point
    obtain ⟨pad, hpad⟩ := Nat.exists_eq_add_of_le (Nat.not_lt.mp hinside)
    have hp : NumberParts.Fractional ⟨digits ++ List.replicate pad '0', ['0'], none⟩ :=
      ⟨allDigits_append.mpr ⟨h.all_digits, allDigits_zeros pad⟩, allDigits_zeros 1,
        .inr ⟨c, rest ++ List.replicate pad '0', by rw [hcons]; rfl, hc⟩,
        .inl (List.cons_ne_nil _ _)⟩
    refine ⟨_, hp, ?_, ?_⟩
    · have htake : digits.take (digits.length + pad) = digits :=
        List.take_of_length_le (Nat.le_add_right _ _)
      simp [pointed, NumberParts.tail, hpad, htake]
    · intro negative
      have hvalue : digitsValue (digits ++ List.replicate pad '0' ++ ['0']) =
          digitsValue digits * tenTo (pad + 1) := by
        rw [List.append_assoc, ← List.replicate_succ', Json.digitsValue_append_zeros]
      have hexponent : (0 : Int) - 1 + (pad + 1 : Nat) = n + 1 - digits.length := by
        omega
      show Double.ofDecimal negative ⟨digitsValue (_ ++ _ ++ _), 0 - 1⟩ = _
      rw [hvalue, Double.ofDecimal_scale, hexponent]

/-! ### Significant digits -/

lemma exists_significant (digits : List Char) :
    ∃ zeros, digits = significant digits ++ List.replicate zeros '0' := by
  have hsplit := List.takeWhile_append_dropWhile (p := (· == '0')) (l := digits.reverse)
  have hzeros : ∀ c ∈ digits.reverse.takeWhile (· == '0'), c = '0' :=
    fun c hc => eq_of_beq (List.all_eq_true.mp List.all_takeWhile c hc)
  refine ⟨(digits.reverse.takeWhile (· == '0')).length, ?_⟩
  rw [significant, ← List.reverse_replicate, ← List.reverse_append,
    ← List.eq_replicate_of_mem hzeros, hsplit, List.reverse_reverse]

lemma leading_significant {n : Nat} (h : n ≠ 0) : Leading (significant (Nat.toDigits 10 n)) := by
  obtain ⟨zeros, hzeros⟩ := exists_significant (Nat.toDigits 10 n)
  have hdigits := allDigits_toDigits n
  obtain ⟨c, rest, hcons, hc⟩ := head_toDigits_ne_zero h
  generalize significant (Nat.toDigits 10 n) = digits at hzeros ⊢
  rw [hzeros] at hdigits hcons
  refine ⟨(allDigits_append.mp hdigits).1, ?_⟩
  cases digits with
  | nil =>
    have hmem : c ∈ List.replicate zeros '0' := by
      rw [← List.nil_append (List.replicate ..), hcons]
      exact List.mem_cons_self
    exact absurd (List.eq_of_mem_replicate hmem) hc
  | cons first digits =>
    cases hcons
    exact ⟨c, digits, rfl, hc⟩

/-- Every layout of a positive decimal writes it. -/
lemma writes_magnitudeText {d : Decimal} (h : d.significand ≠ 0) :
    style.Writes (style.magnitudeText d) d := by
  have hleading := leading_significant h
  obtain ⟨zeros, hzeros⟩ := exists_significant (Nat.toDigits 10 d.significand)
  have hlength := congrArg List.length hzeros
  have hvalue := congrArg digitsValue hzeros
  rw [List.length_append, List.length_replicate] at hlength
  rw [Json.digitsValue_toDigits, Json.digitsValue_append_zeros] at hvalue
  simp only [magnitudeText]
  generalize significant (Nat.toDigits 10 d.significand) = digits at *
  generalize hpower : d.exponent + ((Nat.toDigits 10 d.significand).length : Int) - 1 = power
  have hd : ∀ negative, Double.ofDecimal negative ⟨digitsValue digits, power + 1 - digits.length⟩ =
      Double.ofDecimal negative d := by
    intro negative
    have hexponent : power + 1 - (digits.length : Int) = d.exponent + zeros := by omega
    rw [hexponent, ← Double.ofDecimal_scale, ← hvalue]
  split_ifs with hrange hwhole
  · obtain ⟨c, rest, rfl, -⟩ := hleading.head_ne_zero
    have hwrites := (writes_scientific style hleading power).congr hd
    cases rest <;> exact hwrites
  · obtain ⟨n, rfl⟩ := Int.eq_ofNat_of_zero_le hwhole
    exact (writes_pointed style hleading n).congr hd
  · have hsmall : power + 1 = -(((-power).toNat - 1 : Nat) : Int) := by omega
    rw [hsmall] at hd
    exact (writes_small style hleading _).congr hd

lemma writes_zero : style.Writes ['0', '.', '0'] ⟨0, -1⟩ :=
  ⟨⟨['0'], ['0'], none⟩,
    ⟨allDigits_zeros 1, allDigits_zeros 1, .inl rfl, .inl (List.cons_ne_nil _ _)⟩,
    rfl, fun _ => rfl⟩

end DecimalStyle

/-! ### Doubles -/

namespace Json

/-- The text of a finite double writes the decimal that is chosen for it. -/
lemma exists_writes_writeDouble (negative : Bool) (rank : Fin rankCount) :
    ∃ text d, writeDouble (.finite negative rank) = sign negative ++ text ∧
      savedNumbers.Writes text d ∧ Double.ofDecimal negative d = .finite negative rank := by
  have hsign (text : List Char) :
      (if negative then '-' :: text else text) = sign negative ++ text := by
    cases negative <;> rfl
  by_cases hrank : rank.val = 0
  · refine ⟨_, _, ?_, DecimalStyle.writes_zero _, ?_⟩
    · simp only [writeDouble, DecimalStyle.finiteText?, hrank, if_true, hsign, String.toList_ofList]
    · have hunits := Double.ofUnits_units negative rank
      rw [hrank] at hunits
      exact hunits
  · refine ⟨_, _, ?_, DecimalStyle.writes_magnitudeText _
      (Double.shortest_significand_ne_zero hrank), Double.ofDecimal_shortest negative rank⟩
    simp only [writeDouble, DecimalStyle.finiteText?, hrank, if_false, hsign, String.toList_ofList]

/-- The text goes on with a number that has digits. -/
def StartsNumber (text : List Char) : Prop :=
  ∃ negative c rest, text = sign negative ++ c :: rest ∧ c.isDigit = true

lemma startsNumber_writeDouble (negative : Bool) (rank : Fin rankCount) (rest : List Char) :
    StartsNumber (writeDouble (.finite negative rank) ++ rest) := by
  obtain ⟨text, d, htext, hwrites, -⟩ := exists_writes_writeDouble negative rank
  obtain ⟨c, digits, rfl, hc⟩ := hwrites.exists_digit
  rw [htext, List.append_assoc]
  exact ⟨negative, c, _, rfl, hc⟩

/-- The text of a finite double reads as that double. -/
theorem readNumber_writeDouble (negative : Bool) (rank : Fin rankCount) {rest : List Char}
    (hrest : EndsNumber rest) :
    readNumber (writeDouble (.finite negative rank) ++ rest) =
      .ok (.float (.finite negative rank), rest) := by
  obtain ⟨text, d, htext, hwrites, hd⟩ := exists_writes_writeDouble negative rank
  rw [htext, hwrites.readNumber negative hrest, hd]

lemma toList_toString_int (i : Int) :
    (toString i).toList = sign (decide (i < 0)) ++ Nat.toDigits 10 i.natAbs := by
  cases i with
  | ofNat n => exact Nat.toList_repr
  | negSucc n =>
    have hneg : Int.negSucc n < 0 := Int.negSucc_lt_zero n
    show ("-" ++ (n + 1).repr).toList = _
    rw [String.toList_append, Nat.toList_repr, decide_eq_true hneg]
    rfl

lemma startsNumber_toString (i : Int) (rest : List Char) :
    StartsNumber ((toString i).toList ++ rest) := by
  have hne : Nat.toDigits 10 i.natAbs ≠ [] := Nat.toDigits_ne_nil
  obtain ⟨c, digits, hdigits⟩ := List.exists_cons_of_ne_nil hne
  rw [toList_toString_int, hdigits, List.append_assoc]
  exact ⟨_, c, _, rfl, allDigits_toDigits i.natAbs c (hdigits ▸ List.mem_cons_self)⟩

/-- The text of an integer reads as that integer, unless it is too long. -/
theorem readNumber_toString (i : Int) (h : (Nat.toDigits 10 i.natAbs).length ≤ integerLimit)
    {rest : List Char} (hrest : EndsNumber rest) :
    readNumber ((toString i).toList ++ rest) = .ok (.int i, rest) := by
  rw [toList_toString_int, readNumber_toDigits _ h hrest]
  by_cases hi : i < 0
  · have hsigned : -(i.natAbs : Int) = i := by omega
    simp only [hi, decide_true, if_true, hsigned]
  · have hsigned : (i.natAbs : Int) = i := by omega
    simp only [hi, decide_false, hsigned]
    rfl

end Json

end SchemaGraph
