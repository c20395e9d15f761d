import Mathlib.Order.MinMax
import Mathlib.Tactic.Lemma
import SchemaGraph.Json.Reader

/-!
# Lists and objects within each other

How deep a text is nested can be told by counting its brackets, those in quotes aside
(`Json.nesting`). A reading never needs much more or less than that: what can be read is nested no
deeper than there are levels (`Json.nesting_le_of_readAll`), and a reading that stops for want of
levels had less than three more of them than that (`Json.lt_nesting_of_readAll`).
-/

namespace SchemaGraph

namespace Json

/-! ### Lists and objects within each other -/

/-- A place in a text: outside of quotes, between them, or there behind a backslash. -/
inductive Place
  | outside
  | quoted
  | escaped

/-- The kind of place behind a character. -/
def Place.next : Place → Char → Place
  | .outside, c => if c = '"' then .quoted else .outside
  | .quoted, c => if c = '"' then .outside else if c = '\\' then .escaped else .quoted
  | .escaped, _ => .quoted

/-- How many brackets are open behind a character. -/
def Place.depthAfter : Place → Nat → Char → Nat
  | .outside, depth, c =>
    if c = '[' ∨ c = '{' then depth + 1 else if c = ']' ∨ c = '}' then depth - 1 else depth
  | _, depth, _ => depth

/-- The greatest number of brackets that are open at once from a place on. -/
def nestingFrom (place : Place) (depth : Nat) : List Char → Nat
  | [] => depth
  | c :: rest => max depth (nestingFrom (place.next c) (place.depthAfter depth c) rest)

/-- The greatest number of lists and objects within each other in a text. -/
def nesting (text : List Char) : Nat :=
  nestingFrom .outside 0 text

lemma le_nestingFrom (place : Place) (depth : Nat) (text : List Char) :
    depth ≤ nestingFrom place depth text := by
  cases text with
  | nil => exact le_rfl
  | cons c rest => exact le_max_left _ _

section

variable {place : Place} {depth : Nat} {c : Char} {text rest : List Char}

/-- A character that neither opens nor closes anything does not count. -/
lemma nestingFrom_cons (h : place.depthAfter depth c = depth) :
    nestingFrom place depth (c :: rest) = nestingFrom (place.next c) depth rest := by
  rw [nestingFrom, h]
  exact max_eq_right (le_nestingFrom _ _ _)

lemma nestingFrom_quoted :
    nestingFrom .quoted depth (c :: rest) = nestingFrom (Place.quoted.next c) depth rest :=
  nestingFrom_cons rfl

lemma nestingFrom_escaped :
    nestingFrom .escaped depth (c :: rest) = nestingFrom .quoted depth rest :=
  nestingFrom_cons rfl

lemma nestingFrom_quote :
    nestingFrom .outside depth ('"' :: rest) = nestingFrom .quoted depth rest :=
  nestingFrom_cons rfl

lemma nestingFrom_open (h : c = '[' ∨ c = '{') :
    nestingFrom .outside depth (c :: rest) = nestingFrom .outside (depth + 1) rest := by
  have hle := le_nestingFrom .outside (depth + 1) rest
  obtain rfl | rfl := h <;> exact max_eq_right (Nat.le_of_succ_le hle)

/-- A bracket that closes what was opened leaves the greater part either before or behind it. -/
lemma nestingFrom_close (h : c = ']' ∨ c = '}') :
    nestingFrom .outside (depth + 1) (c :: rest) =
      max (depth + 1) (nestingFrom .outside depth rest) := by
  obtain rfl | rfl := h <;> rfl

/-- Whether a character means nothing for what is open. -/
def isPlain (c : Char) : Bool :=
  !(['"', '[', '{', ']', '}'].contains c)

lemma nestingFrom_plain (h : isPlain c = true) :
    nestingFrom .outside depth (c :: rest) = nestingFrom .outside depth rest := by
  simp only [isPlain, Bool.not_eq_true', List.contains_eq_mem, List.mem_cons, List.not_mem_nil,
    or_false, decide_eq_false_iff_not, not_or] at h
  obtain ⟨hquote, hopen, hopen', hclose, hclose'⟩ := h
  have hnext : Place.outside.next c = .outside := if_neg hquote
  rw [nestingFrom_cons, hnext]
  simp [Place.depthAfter, hopen, hopen', hclose, hclose']

lemma nestingFrom_dropWhile {p : Char → Bool} (h : ∀ c, p c = true → isPlain c = true) :
    nestingFrom .outside depth (text.dropWhile p) = nestingFrom .outside depth text := by
  induction text with
  | nil => rfl
  | cons c rest ih =>
    cases hc : p c with
    | false => rw [List.dropWhile_cons_of_neg (by simp [hc])]
    | true => rw [List.dropWhile_cons_of_pos hc, ih, nestingFrom_plain (h c hc)]

/-! ### Parts without brackets -/

lemma nestingFrom_skipGaps :
    nestingFrom .outside depth (skipGaps text) = nestingFrom .outside depth text := by
  refine nestingFrom_dropWhile fun c hc => ?_
  simp only [isGap, Bool.or_eq_true, beq_iff_eq] at hc
  obtain ((rfl | rfl) | rfl) | rfl := hc <;> rfl

lemma isPlain_of_isDigit (hc : c.isDigit = true) : isPlain c = true := by
  rw [isPlain, Bool.not_eq_true', List.contains_eq_mem, decide_eq_false_iff_not]
  intro hmem
  simp only [List.mem_cons, List.not_mem_nil, or_false] at hmem
  obtain rfl | rfl | rfl | rfl | rfl := hmem <;> cases hc

lemma nestingFrom_spanDigits {digits : List Char} (h : spanDigits text = (digits, rest)) :
    nestingFrom .outside depth rest = nestingFrom .outside depth text := by
  cases h
  exact nestingFrom_dropWhile fun _ => isPlain_of_isDigit

lemma nestingFrom_readFraction {fraction : List Char} (h : readFraction text = (fraction, rest)) :
    nestingFrom .outside depth rest = nestingFrom .outside depth text := by
  unfold readFraction at h
  split at h
  · split at h
    · cases h
      rfl
    · rw [nestingFrom_spanDigits h, nestingFrom_plain rfl]
  · cases h
    rfl

lemma nestingFrom_readExponent {exponent : Option Int}
    (h : readExponent text = (exponent, rest)) :
    nestingFrom .outside depth rest = nestingFrom .outside depth text := by
  revert h
  fun_cases readExponent text with
  | case1 | case3 | case4 =>
    rintro ⟨⟩
    rfl
  | case2 mark text hmark negative body hsign digits _ _ hspan _ =>
    rintro ⟨⟩
    have hmark' : isPlain mark = true := by
      obtain rfl | rfl := hmark <;> rfl
    rw [nestingFrom_plain hmark', nestingFrom_spanDigits hspan]
    split at hsign <;> cases hsign
    · exact (nestingFrom_plain rfl).symm
    · exact (nestingFrom_plain rfl).symm
    · rfl

lemma nestingFrom_readNumberAfter {negative : Bool} {whole : List Char} {v : Json}
    (h : readNumberAfter negative whole text = .ok (v, rest)) :
    nestingFrom .outside depth rest = nestingFrom .outside depth text := by
  revert h
  fun_cases readNumberAfter negative whole text with
  | case1 => rintro ⟨⟩
  | case2 _ _ hfraction _ _ hexponent | case3 _ _ hfraction _ _ hexponent =>
    rintro ⟨⟩
    rw [nestingFrom_readExponent hexponent, nestingFrom_readFraction hfraction]

lemma nestingFrom_readNumber {v : Json} (h : readNumber text = .ok (v, rest)) :
    nestingFrom .outside depth rest = nestingFrom .outside depth text := by
  revert h
  fun_cases readNumber text with
  | case1 negative after hsign =>
    intro h
    rw [nestingFrom_readNumberAfter h]
    split at hsign <;> cases hsign
    · rw [nestingFrom_plain rfl, nestingFrom_plain rfl]
    · rw [nestingFrom_plain rfl]
  | case2 _ _ _ _ hspan =>
    intro h
    rw [hspan] at h
    cases h
  | case3 negative body hsign whole after _ hspan =>
    intro h
    simp only [hspan] at h
    rw [nestingFrom_readNumberAfter h, nestingFrom_spanDigits hspan]
    split at hsign <;> cases hsign
    · exact (nestingFrom_plain rfl).symm
    · rfl

lemma readNumber_ne_tooDeep (text : List Char) : readNumber text ≠ .error .tooDeep := by
  have hafter (negative : Bool) (whole rest : List Char) :
      readNumberAfter negative whole rest ≠ .error .tooDeep := by
    fun_cases readNumberAfter negative whole rest <;> rintro ⟨⟩
  fun_cases readNumber text with
  | case1 => exact hafter _ _ _
  | case2 _ _ _ _ hspan =>
    rw [hspan]
    rintro ⟨⟩
  | case3 _ _ _ _ _ _ hspan =>
    simp only [hspan]
    exact hafter _ _ _

/-! ### Parts in quotes -/

/-- A digit stands between quotes like any other character. -/
lemma next_quoted_of_hexDigit? {n : Nat} (h : hexDigit? c = some n) :
    Place.quoted.next c = .quoted := by
  have hquote : c ≠ '"' := by
    rintro rfl
    cases h
  have hbackslash : c ≠ '\\' := by
    rintro rfl
    cases h
  simp [Place.next, hquote, hbackslash]

lemma nestingFrom_codeUnit? {unit : Nat} (h : codeUnit? text = some (unit, rest)) :
    nestingFrom .quoted depth rest = nestingFrom .quoted depth text := by
  revert h
  fun_cases codeUnit? text with
  | case1 a b c d next after =>
    intro h
    simp only [Option.bind_eq_bind, Option.bind_eq_some_iff] at h
    obtain ⟨a', ha, b', hb, c', hc, d', hd, h⟩ := h
    cases h
    simp only [nestingFrom_quoted, next_quoted_of_hexDigit? ha, next_quoted_of_hexDigit? hb,
      next_quoted_of_hexDigit? hc, next_quoted_of_hexDigit? hd]
  | case2 => rintro ⟨⟩

lemma nestingFrom_readCodePoint (h : readCodePoint text = .ok (c, rest)) :
    nestingFrom .quoted depth rest = nestingFrom .quoted depth text := by
  revert h
  fun_cases readCodePoint text with
  | case1 | case3 => rintro ⟨⟩
  | case2 _ _ _ _ hunit | case5 _ _ _ _ _ _ _ _ hunit | case6 _ _ hunit =>
    rintro ⟨⟩
    exact nestingFrom_codeUnit? hunit
  | case4 _ more _ _ _ after hlow _ hunit =>
    intro h
    obtain rfl : after = rest := congrArg Prod.snd (Except.ok.inj h)
    have hmore : nestingFrom .quoted depth ('\\' :: 'u' :: more) =
        nestingFrom .quoted depth more := by
      rw [nestingFrom_quoted]
      exact nestingFrom_escaped
    rw [nestingFrom_codeUnit? hlow, ← hmore, nestingFrom_codeUnit? hunit]

/-- The kind of place behind a character between quotes, or behind the closing quote. -/
def placeBehind : Option Char → Place
  | none => .outside
  | some _ => .quoted

lemma map_eq_ok_iff {α β : Type} {r : Reading α} {g : α → β} {b : β} :
    r.map (fun r => (g r.1, r.2)) = .ok (b, rest) ↔ ∃ a, r = .ok (a, rest) ∧ g a = b := by
  rcases r with stop | ⟨a, rest'⟩
  · simp [Except.map]
  · simp only [Except.map, Except.ok.injEq, Prod.mk.injEq]
    constructor
    · rintro ⟨hb, hrest⟩
      exact ⟨a, ⟨rfl, hrest⟩, hb⟩
    · rintro ⟨a, ⟨rfl, hrest⟩, hb⟩
      exact ⟨hb, hrest⟩

lemma nestingFrom_readUnit {start : List Char} {unit : Option Char}
    (h : readUnit start text = .ok (unit, rest)) :
    nestingFrom (placeBehind unit) depth rest = nestingFrom .quoted depth text := by
  revert h
  fun_cases readUnit start text with
  | case1 | case3 | case6 | case7 => rintro ⟨⟩
  | case2 =>
    rintro ⟨⟩
    rw [nestingFrom_quoted]
    rfl
  | case4 digits =>
    intro h
    obtain ⟨c, hcode, rfl⟩ := map_eq_ok_iff.mp h
    rw [nestingFrom_quoted]
    exact (nestingFrom_readCodePoint hcode).trans nestingFrom_escaped.symm
  | case5 =>
    rintro ⟨⟩
    rw [nestingFrom_quoted]
    exact nestingFrom_escaped.symm
  | case8 c rest' hquote hend _ hescape =>
    rintro ⟨⟩
    have hquote : c ≠ '"' := hquote
    have hbackslash : c ≠ '\\' := by
      intro hc
      cases rest with
      | nil => exact hend hc rfl
      | cons next rest => exact hescape next rest hc rfl
    rw [nestingFrom_quoted]
    simp [Place.next, hquote, hbackslash, placeBehind]

lemma nestingFrom_readChars {start chars : List Char} {bound : Nat}
    (h : readChars start bound text = .ok (chars, rest)) :
    nestingFrom .outside depth rest = nestingFrom .quoted depth text := by
  induction bound generalizing text chars with
  | zero => cases h
  | succ bound ih =>
    rw [readChars] at h
    split at h
    · cases h
    · next hunit =>
      cases h
      exact nestingFrom_readUnit hunit
    · next hunit =>
      obtain ⟨chars, hchars, -⟩ := map_eq_ok_iff.mp h
      exact (ih hchars).trans (nestingFrom_readUnit hunit)

lemma nestingFrom_readText {bound : Nat} {s : String} (h : readText bound text = .ok (s, rest)) :
    nestingFrom .outside depth rest = nestingFrom .outside depth ('"' :: text) := by
  obtain ⟨chars, hchars, -⟩ := map_eq_ok_iff.mp h
  rw [nestingFrom_quote]
  exact nestingFrom_readChars hchars

lemma map_eq_tooDeep_iff {α β : Type} {r : Reading α} {g : α × List Char → β × List Char} :
    r.map g = .error .tooDeep ↔ r = .error .tooDeep := by
  cases r <;> simp [Except.map]

lemma readText_ne_tooDeep (bound : Nat) (text : List Char) :
    readText bound text ≠ .error .tooDeep := by
  have hunit (start text : List Char) : readUnit start text ≠ .error .tooDeep := by
    have hcode (digits : List Char) : readCodePoint digits ≠ .error .tooDeep := by
      fun_cases readCodePoint digits <;> rintro ⟨⟩
    fun_cases readUnit start text with
    | case4 digits => exact fun h => hcode digits (map_eq_tooDeep_iff.mp h)
    | _ => rintro ⟨⟩
  have hchars (start text : List Char) : readChars start bound text ≠ .error .tooDeep := by
    induction bound generalizing text with
    | zero => rintro ⟨⟩
    | succ bound ih =>
      rw [readChars]
      split
      · next stop heq =>
        rintro ⟨⟩
        exact hunit start text heq
      · rintro ⟨⟩
      · next rest _ => exact fun h => ih rest (map_eq_tooDeep_iff.mp h)
  exact fun h => hchars _ _ (map_eq_tooDeep_iff.mp h)

end

/-! ### Values -/

/-- A reading gets from a text to the rest of it: nothing that is left is nested deeper than the
text was, and nothing that was passed needs more than the levels. The two depths are those of the
places before and behind what was read. -/
def Passes (levels depth : Nat) (text : List Char) (after : Nat) (rest : List Char) : Prop :=
  nestingFrom .outside after rest ≤ nestingFrom .outside depth text ∧
    nestingFrom .outside depth text ≤ max (depth + levels) (nestingFrom .outside after rest)

/-- What a reading tells about the nesting of a text. -/
structure Gauges {α : Type} (levels depth : Nat) (text : List Char) (after : Nat)
    (reading : Reading α) : Prop where
  passes : ∀ a rest, reading = .ok (a, rest) → Passes levels depth text after rest
  outgrows : reading = .error .tooDeep → depth + levels < nestingFrom .outside depth text + 3

section

variable {levels depth after bound : Nat} {c : Char} {text mid rest : List Char}

lemma Passes.of_eq (h : nestingFrom .outside depth rest = nestingFrom .outside depth text) :
    Passes levels depth text depth rest :=
  ⟨le_of_eq h, h ▸ le_max_right _ _⟩

lemma Passes.trans (h : Passes levels depth text depth mid)
    (h' : Passes levels depth mid after rest) : Passes levels depth text after rest :=
  ⟨le_trans h'.1 h.1, le_trans h.2 (max_le (le_max_left _ _) h'.2)⟩

lemma Passes.of_gap (hc : isPlain c = true) (h : skipGaps text = c :: rest) :
    Passes levels depth text depth (skipGaps rest) := by
  refine .of_eq ?_
  rw [nestingFrom_skipGaps, ← nestingFrom_plain hc, ← h, nestingFrom_skipGaps]

lemma Passes.of_close (hc : c = ']' ∨ c = '}') (h : skipGaps text = c :: rest) :
    Passes levels (depth + 1) text depth rest := by
  have htext : nestingFrom .outside (depth + 1) text =
      max (depth + 1) (nestingFrom .outside depth rest) := by
    rw [← nestingFrom_close hc, ← h, nestingFrom_skipGaps]
  constructor <;> omega

namespace Gauges

variable {α β : Type} {after' : Nat} {r : Reading α}

lemma ok (a : α) (h : Passes levels depth text after rest) :
    Gauges levels depth text after (.ok (a, rest)) where
  passes := by
    rintro _ _ ⟨⟩
    exact h
  outgrows := by rintro ⟨⟩

lemma fault (kind : JsonFault) (rest : List Char) :
    Gauges levels depth text after (.error (.fault kind rest) : Reading α) where
  passes := by rintro _ _ ⟨⟩
  outgrows := by rintro ⟨⟩

/-- Where so few levels are left, the innermost place is near enough. -/
lemma tooDeep (h : levels < 3) :
    Gauges levels depth text after (.error .tooDeep : Reading α) where
  passes := by rintro _ _ ⟨⟩
  outgrows _ := by
    have hdepth := le_nestingFrom .outside depth text
    omega

lemma error {stop : Stop} (h : Gauges levels depth text after' r) (hr : r = .error stop) :
    Gauges levels depth text after (.error stop : Reading β) where
  passes := by rintro _ _ ⟨⟩
  outgrows := by
    rintro ⟨⟩
    exact h.outgrows hr

lemma map (h : Gauges levels depth text after r) (g : α → β) :
    Gauges levels depth text after (r.map fun r => (g r.1, r.2)) where
  passes := by
    intro b rest hb
    obtain ⟨a, ha, -⟩ := map_eq_ok_iff.mp hb
    exact h.passes a rest ha
  outgrows hr := h.outgrows (map_eq_tooDeep_iff.mp hr)

/-- Where a fault cannot be put into words, fewer levels are left than that takes. -/
lemma report (h : Gauges levels depth text after r) :
    Gauges levels depth text after (report levels r) := by
  unfold Json.report
  split
  · split_ifs with hwords
    · exact fault _ _
    · exact tooDeep (not_le.mp (not_or.mp hwords).2)
  · exact h

/-- What follows a part that was passed. -/
lemma behind (h : Passes levels depth text depth mid) (hr : Gauges levels depth mid after r) :
    Gauges levels depth text after r where
  passes a rest ha := h.trans (hr.passes a rest ha)
  outgrows htooDeep := by
    have hmid := hr.outgrows htooDeep
    have hle := h.1
    omega

/-- A bracket takes a level and opens one, so that the sum of both stays the same. -/
lemma enclosed (h : c = '[' ∨ c = '{') (hr : Gauges levels (depth + 1) text depth r) :
    Gauges (levels + 1) depth (c :: text) depth r where
  passes a rest ha := by
    obtain ⟨hle, hle'⟩ := hr.passes a rest ha
    rw [Passes, nestingFrom_open h]
    exact ⟨hle, by omega⟩
  outgrows htooDeep := by
    have hlt := hr.outgrows htooDeep
    rw [nestingFrom_open h]
    omega

end Gauges

lemma passes_word (word : List Char) (h : word.all isPlain = true) :
    Passes levels depth (word ++ rest) depth rest := by
  refine .of_eq ?_
  induction word with
  | nil => rfl
  | cons c word ih =>
    rw [List.all_cons, Bool.and_eq_true] at h
    rw [List.cons_append, nestingFrom_plain h.1]
    exact ih h.2

lemma gauges_readNumberWord (word : List Char) (h : word.all isPlain = true) (value : Double) :
    Gauges levels depth (word ++ rest) depth (readNumberWord levels value rest) := by
  rw [readNumberWord]
  split_ifs with hlevels
  · exact .tooDeep (by omega)
  · exact .ok _ (passes_word word h)

lemma gauges_readAtom : Gauges levels depth text depth (readAtom levels text) := by
  fun_cases readAtom levels text with
  | case1 => exact .ok _ (passes_word ['n', 'u', 'l', 'l'] rfl)
  | case2 => exact .ok _ (passes_word ['t', 'r', 'u', 'e'] rfl)
  | case3 => exact .ok _ (passes_word ['f', 'a', 'l', 's', 'e'] rfl)
  | case4 => exact gauges_readNumberWord ['N', 'a', 'N'] rfl _
  | case5 => exact gauges_readNumberWord ['I', 'n', 'f', 'i', 'n', 'i', 't', 'y'] rfl _
  | case6 => exact gauges_readNumberWord ['-', 'I', 'n', 'f', 'i', 'n', 'i', 't', 'y'] rfl _
  | case7 =>
    exact ⟨fun _ _ h => .of_eq (nestingFrom_readNumber h),
      fun h => absurd h (readNumber_ne_tooDeep _)⟩

lemma gauges_readText : Gauges levels depth ('"' :: text) depth (readText bound text) where
  passes _ _ h := .of_eq (nestingFrom_readText h)
  outgrows h := absurd h (readText_ne_tooDeep _ _)

/-- All readings of values, members and items with a bound gauge the nesting. Members and items are
read inside of the brackets up to the closing one. -/
structure ReadersGauge (bound : Nat) : Prop where
  value : ∀ levels depth text, Gauges levels depth text depth (readValue bound levels text)
  members : ∀ levels depth text,
    Gauges levels (depth + 1) text depth (readMembers bound levels text)
  items : ∀ levels depth text, Gauges levels (depth + 1) text depth (readItems bound levels text)

lemma gauges_readValue :
    (∀ lower < bound, ReadersGauge lower) →
      Gauges levels depth text depth (readValue bound levels text) := by
  have hgaps (levels depth : Nat) (text : List Char) :
      Passes levels depth text depth (skipGaps text) := .of_eq nestingFrom_skipGaps
  fun_cases readValue bound levels text with
  | case1 => exact fun _ => .fault _ _
  | case2 bound rest => exact fun _ => gauges_readText.report.map _
  | case3 | case6 => exact fun _ => .tooDeep (by decide)
  | case4 _ _ _ _ hclose =>
    exact fun _ => .enclosed (.inr rfl) (.ok _ (.of_close (.inr rfl) hclose))
  | case7 _ _ _ _ hclose =>
    exact fun _ => .enclosed (.inl rfl) (.ok _ (.of_close (.inl rfl) hclose))
  | case5 bound rest levels =>
    intro ih
    have hmembers := (ih bound (Nat.lt_succ_self _)).members levels depth (skipGaps rest)
    exact .enclosed (.inr rfl)
      ((hmembers.behind (hgaps _ _ _)).report.map fun m => Json.obj (Members.ofMentions m))
  | case8 bound rest levels =>
    intro ih
    have hitems := (ih bound (Nat.lt_succ_self _)).items levels depth (skipGaps rest)
    exact .enclosed (.inl rfl) ((hitems.behind (hgaps _ _ _)).report.map Json.arr)
  | case9 => exact fun _ => gauges_readAtom

lemma gauges_readMembers :
    (∀ lower < bound, ReadersGauge lower) →
      Gauges levels (depth + 1) text depth (readMembers bound levels text) := by
  have hname {bound : Nat} {name : String} {text rest rest' : List Char}
      (h : readText bound text = .ok (name, rest)) (hcolon : skipGaps rest = ':' :: rest') :
      Passes levels (depth + 1) ('"' :: text) (depth + 1) (skipGaps rest') :=
    .trans (.of_eq (nestingFrom_readText h)) (.of_gap rfl hcolon)
  fun_cases readMembers bound levels text with
  | case1 | case6 | case7 | case8 => exact fun _ => .fault _ _
  | case2 bound _ rest _ hread => exact fun _ => gauges_readText.error hread
  | case3 bound _ _ _ _ hread rest hcolon _ hstop =>
    intro ih
    have hvalue := (ih bound (Nat.lt_succ_self _)).value levels (depth + 1) (skipGaps rest)
    exact .behind (hname hread hcolon) (hvalue.error hstop)
  | case4 bound _ _ _ _ hread rest hcolon _ _ hread' _ hclose =>
    intro ih
    have hvalue := (ih bound (Nat.lt_succ_self _)).value levels (depth + 1) (skipGaps rest)
    have hpassed := (hname hread hcolon).trans (hvalue.passes _ _ hread')
    exact .ok _ (hpassed.trans (.of_close (.inr rfl) hclose))
  | case5 bound _ _ _ _ hread rest hcolon _ _ hread' rest' hcomma =>
    intro ih
    have hvalue := (ih bound (Nat.lt_succ_self _)).value levels (depth + 1) (skipGaps rest)
    have hmembers := (ih bound (Nat.lt_succ_self _)).members levels depth (skipGaps rest')
    have hpassed := (hname hread hcolon).trans (hvalue.passes _ _ hread')
    exact .behind (hpassed.trans (.of_gap rfl hcomma)) (hmembers.map _)

lemma gauges_readItems :
    (∀ lower < bound, ReadersGauge lower) →
      Gauges levels (depth + 1) text depth (readItems bound levels text) := by
  fun_cases readItems bound levels text with
  | case1 | case5 => exact fun _ => .fault _ _
  | case2 bound _ _ _ hstop =>
    intro ih
    exact ((ih bound (Nat.lt_succ_self _)).value levels (depth + 1) text).error hstop
  | case3 bound _ _ _ _ hread _ hclose =>
    intro ih
    have hvalue := (ih bound (Nat.lt_succ_self _)).value levels (depth + 1) text
    exact .ok _ ((hvalue.passes _ _ hread).trans (.of_close (.inl rfl) hclose))
  | case4 bound _ _ _ _ hread rest hcomma =>
    intro ih
    have hvalue := (ih bound (Nat.lt_succ_self _)).value levels (depth + 1) text
    have hitems := (ih bound (Nat.lt_succ_self _)).items levels depth (skipGaps rest)
    exact .behind ((hvalue.passes _ _ hread).trans (.of_gap rfl hcomma)) (hitems.map _)

lemma readersGauge (bound : Nat) : ReadersGauge bound := by
  induction bound using Nat.strongRecOn with
  | _ bound ih =>
    exact ⟨fun _ _ _ => gauges_readValue ih, fun _ _ _ => gauges_readMembers ih,
      fun _ _ _ => gauges_readItems ih⟩

end

/-! ### Whole texts -/

variable {levels : Nat} {text : List Char}

/-- What can be read is nested no deeper than there are levels. -/
theorem nesting_le_of_readAll {v : Json} (h : readAll levels text = .ok v) :
    nesting text ≤ levels := by
  have hgauges := (readersGauge (2 * text.length + 1)).value levels 0 (skipGaps text)
  unfold readAll at h
  split at h
  · cases h
  · split at h
    · cases h
    · next hread =>
      split at h
      · next rest _ hend =>
        have hpassed := (hgauges.passes _ _ hread).2
        have hrest : nestingFrom .outside 0 rest = 0 := by
          rw [← nestingFrom_skipGaps, hend]
          rfl
        rw [nestingFrom_skipGaps] at hpassed
        rw [nesting]
        omega
      · cases h

/-- Where levels are wanting, there are less than three more of them than the text is nested deep.
-/
theorem lt_nesting_of_readAll (h : readAll levels text = .error .tooDeep) :
    levels < nesting text + 3 := by
  have hgauges := (readersGauge (2 * text.length + 1)).value levels 0 (skipGaps text)
  unfold readAll at h
  split at h
  · cases h
  · split at h
    · next hread =>
      cases h
      have hlt := hgauges.outgrows hread
      rw [nestingFrom_skipGaps] at hlt
      rw [nesting]
      omega
    · split at h <;> cases h

end Json

end SchemaGraph
