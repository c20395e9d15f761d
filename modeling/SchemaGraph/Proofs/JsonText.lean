import SchemaGraph.Proofs.NumberText

/-!
# Written values read back

The reader inverts the writer: the text of a value reads as that value (`Json.read_write`). Each
part of the reader undoes the part of the writer that it belongs to, from escapes and numbers to
lists and objects. Left out are only values that have no text of their own (numbers that are not
finite, integers beyond the reader's limit, and objects that name a member twice) and those that are
nested deeper than the reader can go.
-/

namespace SchemaGraph

namespace Members

lemma set_of_not_mem {members : Members} {name : String} (h : name ∉ members.map (·.1))
    (value : Json) : members.set name value = members ++ [(name, value)] := by
  induction members with
  | nil => rfl
  | cons m rest ih =>
    rw [List.map_cons, List.mem_cons, not_or] at h
    rw [set, if_neg (Ne.symm h.1), ih h.2, List.cons_append]

lemma foldl_set_of_nodup {members mentions : Members}
    (h : ((members ++ mentions).map (·.1)).Nodup) :
    mentions.foldl (fun members m => members.set m.1 m.2) members = members ++ mentions := by
  induction mentions generalizing members with
  | nil => rw [List.append_nil]; rfl
  | cons m rest ih =>
    have hsplit : members ++ m :: rest = (members ++ [m]) ++ rest := by simp
    have hnew : m.1 ∉ members.map (·.1) := by
      rw [List.map_append, List.map_cons] at h
      exact fun hm => (List.nodup_append.mp h).2.2 _ hm _ List.mem_cons_self rfl
    rw [List.foldl_cons, set_of_not_mem hnew, hsplit]
    exact ih (hsplit ▸ h)

/-- Mentions of distinct names are the members that they describe. -/
lemma ofMentions_of_nodup {mentions : Members} (h : (mentions.map (·.1)).Nodup) :
    ofMentions mentions = mentions :=
  foldl_set_of_nodup h

end Members

namespace Json

/-! ### Texts -/

lemma hexDigit?_digitChar : ∀ n < 16, hexDigit? (Nat.digitChar n) = some n := by
  decide

lemma codeUnit?_digits {a b c d : Nat} (ha : a < 16) (hb : b < 16) (hc : c < 16) (hd : d < 16)
    {rest : List Char} (hrest : rest ≠ []) :
    codeUnit? (a.digitChar :: b.digitChar :: c.digitChar :: d.digitChar :: rest) =
      some (((a * 16 + b) * 16 + c) * 16 + d, rest) := by
  obtain ⟨next, more, rfl⟩ := List.exists_cons_of_ne_nil hrest
  simp [codeUnit?, hexDigit?_digitChar, ha, hb, hc, hd]

lemma readCodePoint_control {c : Char} (h : c.toNat < 0x20) {rest : List Char} (hrest : rest ≠ []) :
    readCodePoint
        ('0' :: '0' :: Nat.digitChar (c.toNat / 16) :: Nat.digitChar (c.toNat % 16) :: rest) =
      .ok (c, rest) := by
  have hunit := codeUnit?_digits (show 0 < 16 by decide) (show 0 < 16 by decide)
    (show c.toNat / 16 < 16 by omega) (show c.toNat % 16 < 16 by omega) hrest
  have hvalue : ((0 * 16 + 0) * 16 + c.toNat / 16) * 16 + c.toNat % 16 = c.toNat := by omega
  have hhigh : isHighSurrogate c.toNat = false := by
    simp [isHighSurrogate]
    omega
  have hlow : isLowSurrogate c.toNat = false := by
    simp [isLowSurrogate]
    omega
  have hchar : unitChar c.toNat = c := by
    simp [unitChar, hhigh, hlow]
  rw [hvalue] at hunit
  rw [readCodePoint, show ('0' : Char) = Nat.digitChar 0 from rfl, hunit]
  simp only [hhigh, hchar]

lemma readUnit_plain (start : List Char) {c : Char} (hquote : c ≠ '"') (hbackslash : c ≠ '\\')
    (hcontrol : ¬ c.toNat < 0x20) (rest : List Char) :
    readUnit start (c :: rest) = .ok (some c, rest) := by
  unfold readUnit
  split <;> simp_all

/-- The escape of a character reads as that character. -/
lemma readUnit_escape (start : List Char) (c : Char) {rest : List Char} (hrest : rest ≠ []) :
    readUnit start (escape c ++ rest) = .ok (some c, rest) := by
  unfold escape
  split
  case h_8 hquote hbackslash _ _ _ _ _ =>
    split_ifs with hcontrol
    · have hread := readCodePoint_control hcontrol hrest
      simp only [List.cons_append, List.nil_append, readUnit, hread]
      rfl
    · exact readUnit_plain start hquote hbackslash hcontrol rest
  all_goals rfl

lemma readChars_escapes (start : List Char) {chars : List Char} {bound : Nat}
    (h : chars.length < bound) (rest : List Char) :
    readChars start bound (chars.flatMap escape ++ '"' :: rest) = .ok (chars, rest) := by
  induction chars generalizing bound with
  | nil =>
    obtain ⟨n, rfl⟩ := Nat.exists_eq_add_of_lt h
    rfl
  | cons c cs ih =>
    cases bound with
    | zero => cases h
    | succ bound =>
      have hne : cs.flatMap escape ++ '"' :: rest ≠ [] := by simp
      rw [List.flatMap_cons, List.append_assoc, readChars, readUnit_escape start c hne]
      simp only [ih (Nat.lt_of_succ_lt_succ h)]
      rfl

lemma length_le_escapes (chars : List Char) : chars.length ≤ (chars.flatMap escape).length := by
  have hpos (c : Char) : 0 < (escape c).length := by
    unfold escape
    split
    case h_8 => split_ifs <;> exact Nat.succ_pos _
    all_goals exact Nat.succ_pos _
  induction chars with
  | nil => exact Nat.zero_le _
  | cons c cs ih =>
    rw [List.flatMap_cons, List.length_append, List.length_cons]
    have hc := hpos c
    omega

lemma writeText_append (s : String) (text : List Char) :
    writeText s ++ text = '"' :: (s.toList.flatMap escape ++ '"' :: text) := by
  simp [writeText]

/-- What a text between quotes holds is read up to the closing quote. -/
lemma readText_escapes {s : String} {bound : Nat} (h : (writeText s).length ≤ bound + 1)
    (rest : List Char) :
    readText bound (s.toList.flatMap escape ++ '"' :: rest) = .ok (s, rest) := by
  have hlength := length_le_escapes s.toList
  have hbound : s.toList.length < bound := by
    simp only [writeText, List.length_append, List.length_cons, List.length_nil] at h
    omega
  rw [readText, readChars_escapes _ hbound]
  simp [Except.map]

/-! ### Values with a text of their own -/

/-- A value whose text can be read back where so many levels are left: each list and each object
takes one for what it holds. -/
inductive Writable : (levels : Nat) → Json → Prop
  | null {levels : Nat} : Writable levels .null
  | bool {levels : Nat} (b : Bool) : Writable levels (.bool b)
  | int {levels : Nat} {i : Int} (h : (Nat.toDigits 10 i.natAbs).length ≤ integerLimit) :
    Writable levels (.int i)
  | float {levels : Nat} (negative : Bool) (rank : Fin rankCount) :
    Writable levels (.float (.finite negative rank))
  | str {levels : Nat} (s : String) : Writable levels (.str s)
  | arr {levels : Nat} {items : List Json} (h : ∀ v ∈ items, Writable levels v) :
    Writable (levels + 1) (.arr items)
  | obj {levels : Nat} {members : Members} (hnames : (members.map (·.1)).Nodup)
      (h : ∀ m ∈ members, Writable levels m.2) : Writable (levels + 1) (.obj members)

/-- The first characters of values. -/
def isValueStart (c : Char) : Bool :=
  c.isDigit || ['-', 'n', 't', 'f', '"', '[', '{'].contains c

/-- A text begins as the text of a value does. -/
def StartsValue (text : List Char) : Prop :=
  ∃ c rest, text = c :: rest ∧ isValueStart c = true

lemma StartsNumber.startsValue {text : List Char} (h : StartsNumber text) : StartsValue text := by
  obtain ⟨negative, c, rest, rfl, hc⟩ := h
  cases negative
  · exact ⟨c, rest, rfl, by simp [isValueStart, hc]⟩
  · exact ⟨'-', c :: rest, rfl, rfl⟩

lemma Writable.startsValue {levels : Nat} {v : Json} (h : v.Writable levels) (level : Nat)
    (rest : List Char) :
    StartsValue (v.writeAt level ++ rest) := by
  cases h with
  | null => exact ⟨'n', _, rfl, rfl⟩
  | bool b => cases b <;> exact ⟨_, _, rfl, rfl⟩
  | int _ => exact (startsNumber_toString _ rest).startsValue
  | float negative rank => exact (startsNumber_writeDouble negative rank rest).startsValue
  | str s => exact ⟨'"', _, rfl, rfl⟩
  | @arr _ items _ => cases items <;> exact ⟨'[', _, rfl, rfl⟩
  | @obj _ members _ _ => rcases members with _ | ⟨⟨name, value⟩, rest⟩ <;> exact ⟨'{', _, rfl, rfl⟩

/-! ### Gaps -/

lemma skipGaps_of_startsValue {text : List Char} (h : StartsValue text) : skipGaps text = text := by
  obtain ⟨c, rest, rfl, hc⟩ := h
  have hgap : isGap c = false := by
    rw [Bool.eq_false_iff]
    intro hgap
    simp only [isGap, Bool.or_eq_true, beq_iff_eq] at hgap
    obtain ((rfl | rfl) | rfl) | rfl := hgap <;> cases hc
  simp [skipGaps, hgap]

lemma skipGaps_lineBreak (level : Nat) (text : List Char) :
    skipGaps (lineBreak level ++ text) = skipGaps text := by
  refine List.dropWhile_append_of_pos fun c hc => ?_
  obtain rfl | hc := List.mem_cons.mp hc
  · rfl
  · rw [List.eq_of_mem_replicate hc]
    rfl

lemma endsNumber_cons {c : Char} (h : c.isDigit = false ∧ c ≠ '.' ∧ c ≠ 'e' ∧ c ≠ 'E')
    (rest : List Char) : EndsNumber (c :: rest) := by
  intro d hd
  cases hd
  exact h

lemma endsNumber_lineBreak (level : Nat) (rest : List Char) :
    EndsNumber (lineBreak level ++ rest) :=
  endsNumber_cons (by decide) _

/-! ### Values -/

/-- The text of a value, with whatever comes behind it, reads as that value where so many levels are
left. -/
def ReadsBack (levels : Nat) (v : Json) : Prop :=
  ∀ (level bound : Nat) (rest : List Char), (v.writeAt level).length < bound → EndsNumber rest →
    readValue bound levels (v.writeAt level ++ rest) = .ok (v, rest)

/-- Reading begins with one step, whatever the value is. -/
lemma ReadsBack.of_succ {levels : Nat} {v : Json}
    (h : ∀ (level bound : Nat) (rest : List Char), (v.writeAt level).length ≤ bound →
      EndsNumber rest → readValue (bound + 1) levels (v.writeAt level ++ rest) = .ok (v, rest)) :
    v.ReadsBack levels := by
  intro level bound rest hbound hrest
  obtain ⟨bound, rfl⟩ := Nat.exists_eq_succ_of_ne_zero (Nat.ne_zero_of_lt hbound)
  exact h level bound rest (Nat.le_of_lt_succ hbound) hrest

lemma readValue_number (bound levels : Nat) {text : List Char} (h : StartsNumber text) :
    readValue (bound + 1) levels text = readNumber text := by
  obtain ⟨negative, c, rest, rfl, hc⟩ := h
  have hne {d : Char} (hd : d.isDigit = false) : c ≠ d := by
    rintro rfl
    rw [hc] at hd
    cases hd
  rw [readValue.eq_def]
  cases negative <;> simp [readAtom, sign, hne]

lemma readsBack_text (levels : Nat) (s : String) : (str s).ReadsBack levels := by
  refine .of_succ fun level bound rest hbound _ => ?_
  rw [writeAt] at hbound ⊢
  rw [writeText_append, readValue, readText_escapes (Nat.le_succ_of_le hbound) rest]
  rfl

lemma endsNumber_comma (rest : List Char) : EndsNumber (',' :: rest) :=
  endsNumber_cons (by decide) rest

lemma skipGaps_comma (rest : List Char) : skipGaps (',' :: rest) = ',' :: rest :=
  rfl

section Compound

variable {levels level outer bound : Nat} {rest : List Char}

lemma readItems_writeItems {item : Json} {items : List Json}
    (h : ∀ v ∈ item :: items, v.Writable levels ∧ v.ReadsBack levels)
    (hbound : (item.writeAt level).length + (writeItems level items).length + 1 < bound) :
    readItems bound levels (item.writeAt level ++
        (writeItems level items ++ (lineBreak outer ++ ']' :: rest))) =
      .ok (item :: items, rest) := by
  obtain ⟨-, hitem⟩ := h item List.mem_cons_self
  induction items generalizing item bound with
  | nil =>
    obtain ⟨bound, rfl⟩ := Nat.exists_eq_succ_of_ne_zero (Nat.ne_zero_of_lt hbound)
    have hread := hitem level bound _ (show (item.writeAt level).length < bound by omega)
      (endsNumber_lineBreak outer (']' :: rest))
    simp only [writeItems, List.nil_append, readItems, hread, skipGaps_lineBreak]
    rfl
  | cons next items ih =>
    obtain ⟨bound, rfl⟩ := Nat.exists_eq_succ_of_ne_zero (Nat.ne_zero_of_lt hbound)
    obtain ⟨hnext, hread⟩ := h next (List.mem_cons_of_mem _ List.mem_cons_self)
    simp only [writeItems, List.length_append, List.length_cons] at hbound
    -- an item takes one step of the bound, and its comma and line break at least two characters
    have hlength : (next.writeAt level).length + (writeItems level items).length + 1 < bound := by
      omega
    have hitems := ih (fun v hv => h v (List.mem_cons_of_mem _ hv)) hlength hread
    have hstart := skipGaps_of_startsValue
      (hnext.startsValue level (writeItems level items ++ (lineBreak outer ++ ']' :: rest)))
    simp only [writeItems, List.cons_append, List.append_assoc, readItems, skipGaps_lineBreak,
      hitem level bound _ (show (item.writeAt level).length < bound by omega) (endsNumber_comma _),
      skipGaps_comma, hstart, hitems]
    rfl

/-- The name and the value of a member read back one after the other. -/
lemma readMember {name : String} {value : Json}
    (h : value.Writable levels ∧ value.ReadsBack levels)
    (hbound : (writeText name).length + (value.writeAt level).length < bound) {text : List Char}
    (htext : EndsNumber text) :
    readText bound
        (name.toList.flatMap escape ++ '"' :: ':' :: ' ' :: (value.writeAt level ++ text)) =
      .ok (name, ':' :: ' ' :: (value.writeAt level ++ text)) ∧
    readValue bound levels (skipGaps (' ' :: (value.writeAt level ++ text))) =
      .ok (value, text) := by
  have hblank (text : List Char) : skipGaps (' ' :: text) = skipGaps text := rfl
  constructor
  · exact readText_escapes (by omega) _
  · rw [hblank, skipGaps_of_startsValue (h.1.startsValue level text)]
    exact h.2 level bound text (by omega) htext

lemma readMembers_writeMembers {name : String} {value : Json} {members : Members}
    (h : ∀ m ∈ (name, value) :: members, m.2.Writable levels ∧ m.2.ReadsBack levels)
    (hbound : (writeText name).length + (value.writeAt level).length +
      (writeMembers level members).length + 1 < bound) :
    readMembers bound levels (writeText name ++ ':' :: ' ' :: (value.writeAt level ++
        (writeMembers level members ++ (lineBreak outer ++ '}' :: rest)))) =
      .ok ((name, value) :: members, rest) := by
  have hcolon (text : List Char) : skipGaps (':' :: text) = ':' :: text := rfl
  have hfirst : value.Writable levels ∧ value.ReadsBack levels := h (name, value) List.mem_cons_self
  induction members generalizing name value bound with
  | nil =>
    obtain ⟨bound, rfl⟩ := Nat.exists_eq_succ_of_ne_zero (Nat.ne_zero_of_lt hbound)
    obtain ⟨hname, hvalue⟩ := readMember hfirst
      (show (writeText name).length + (value.writeAt level).length < bound by omega)
      (endsNumber_lineBreak outer ('}' :: rest))
    rw [writeMembers, writeText_append]
    simp only [List.nil_append, readMembers, hname, hcolon, hvalue, skipGaps_lineBreak]
    rfl
  | cons next members ih =>
    obtain ⟨bound, rfl⟩ := Nat.exists_eq_succ_of_ne_zero (Nat.ne_zero_of_lt hbound)
    obtain ⟨nextName, nextValue⟩ := next
    simp only [writeMembers, List.length_append, List.length_cons] at hbound
    -- as for items: the text gets shorter faster than the bound falls
    have hlength : (writeText nextName).length + (nextValue.writeAt level).length +
        (writeMembers level members).length + 1 < bound := by omega
    have hmembers := ih (fun m hm => h m (List.mem_cons_of_mem _ hm)) hlength
      (h (nextName, nextValue) (List.mem_cons_of_mem _ List.mem_cons_self))
    have hquote (text : List Char) :
        skipGaps (writeText nextName ++ text) = writeText nextName ++ text := rfl
    obtain ⟨hname, hvalue⟩ := readMember hfirst
      (show (writeText name).length + (value.writeAt level).length < bound by omega)
      (endsNumber_comma (lineBreak level ++ (writeText nextName ++ ':' :: ' ' ::
        (nextValue.writeAt level ++
          (writeMembers level members ++ (lineBreak outer ++ '}' :: rest))))))
    rw [writeMembers, writeText_append name]
    simp only [List.cons_append, List.append_assoc, readMembers, hname, hcolon, hvalue,
      skipGaps_comma, skipGaps_lineBreak, hquote, hmembers]
    rfl

end Compound

lemma readValue_bracket (level bound levels : Nat) {text : List Char} (h : StartsValue text) :
    readValue (bound + 1) (levels + 1) ('[' :: (lineBreak level ++ text)) =
      (report levels (readItems bound levels text)).map fun r => (.arr r.1, r.2) := by
  have hstart := skipGaps_of_startsValue h
  obtain ⟨c, rest, rfl, hc⟩ := h
  rw [readValue, skipGaps_lineBreak, hstart]
  split
  · next heq =>
    cases heq
    cases hc
  · rfl

lemma readsBack_arr {levels : Nat} {items : List Json}
    (h : ∀ v ∈ items, v.Writable levels ∧ v.ReadsBack levels) :
    (arr items).ReadsBack (levels + 1) := by
  refine .of_succ fun level bound rest hbound _ => ?_
  cases items with
  | nil => rfl
  | cons item items =>
    simp only [writeAt, lineBreak, List.length_append, List.length_cons] at hbound
    have hitems : readItems bound levels (item.writeAt (level + 1) ++
        (writeItems (level + 1) items ++ (lineBreak level ++ ']' :: rest))) =
          .ok (item :: items, rest) :=
      readItems_writeItems h (by omega)
    have hstart := (h item List.mem_cons_self).1.startsValue (level + 1)
      (writeItems (level + 1) items ++ (lineBreak level ++ ']' :: rest))
    simp only [writeAt, List.cons_append, List.append_assoc, List.nil_append]
    rw [readValue_bracket _ _ _ hstart, hitems]
    rfl

lemma readValue_brace (level bound levels : Nat) (name : String) (text : List Char) :
    readValue (bound + 1) (levels + 1) ('{' :: (lineBreak level ++ (writeText name ++ text))) =
      (report levels (readMembers bound levels (writeText name ++ text))).map
        fun r => (.obj (Members.ofMentions r.1), r.2) := by
  rw [readValue, skipGaps_lineBreak]
  rfl

lemma readsBack_obj {levels : Nat} {members : Members} (hnames : (members.map (·.1)).Nodup)
    (h : ∀ m ∈ members, m.2.Writable levels ∧ m.2.ReadsBack levels) :
    (obj members).ReadsBack (levels + 1) := by
  refine .of_succ fun level bound rest hbound _ => ?_
  rcases members with _ | ⟨⟨name, value⟩, members⟩
  · rfl
  · simp only [writeAt, lineBreak, List.length_append, List.length_cons] at hbound
    have hmembers : readMembers bound levels (writeText name ++ ':' :: ' ' ::
        (value.writeAt (level + 1) ++
          (writeMembers (level + 1) members ++ (lineBreak level ++ '}' :: rest)))) =
        .ok ((name, value) :: members, rest) :=
      readMembers_writeMembers h (by omega)
    simp only [writeAt, List.cons_append, List.append_assoc, List.nil_append]
    rw [readValue_brace, hmembers]
    simp only [report, Except.map, Members.ofMentions_of_nodup hnames]

/-- By induction on the value: what is read back by itself is read back inside a list or an object.
-/
lemma Writable.readsBack {levels : Nat} {v : Json} (h : v.Writable levels) :
    v.ReadsBack levels := by
  induction h with
  | null => exact .of_succ fun _ _ _ _ _ => rfl
  | bool b => cases b <;> exact .of_succ fun _ _ _ _ _ => rfl
  | int h =>
    refine .of_succ fun _ bound rest _ hrest => ?_
    exact (readValue_number bound _ (startsNumber_toString _ rest)).trans
      (readNumber_toString _ h hrest)
  | float negative rank =>
    refine .of_succ fun _ bound rest _ hrest => ?_
    exact (readValue_number bound _ (startsNumber_writeDouble negative rank rest)).trans
      (readNumber_writeDouble negative rank hrest)
  | str s => exact readsBack_text _ s
  | arr hitems ih => exact readsBack_arr fun v hv => ⟨hitems v hv, ih v hv⟩
  | obj hnames hmembers ih => exact readsBack_obj hnames fun m hm => ⟨hmembers m hm, ih m hm⟩

/-- The text of a value reads as that value. -/
theorem read_write {levels : Nat} {v : Json} (h : v.Writable levels) :
    readWithin levels v.write = .ok v := by
  have hlength : (v.writeAt 0).length < 2 * (v.writeAt 0).length + 1 := by omega
  have hread := h.readsBack 0 _ _ hlength (show EndsNumber [] from fun _ hc => by cases hc)
  have hstart := h.startsValue 0 []
  rw [List.append_nil] at hread hstart
  have hgaps := skipGaps_of_startsValue hstart
  have hall : readAll levels (v.writeAt 0) = .ok v := by
    unfold readAll
    split
    · next heq =>
      obtain ⟨c, rest, htext, hc⟩ := hstart
      rw [heq] at htext
      cases htext
      cases hc
    · rw [hgaps, hread]
      rfl
  rw [readWithin, write, String.toList_ofList, hall]
  rfl

end Json

end SchemaGraph
