import Mathlib.Data.List.TakeWhile
import Mathlib.Tactic.Lemma

/-!
# Reading identifiers between brackets

An identifier runs from an opening bracket to the first closing bracket that is not doubled, and two
closing brackets stand for one. A text with names between brackets need not read as these names: a
closing bracket in a name ends it, or is taken together with the one behind it.
`Block.readMentions_foldr_write` says that the names are read back just when none of them has a
closing bracket in it.
-/

namespace SchemaGraph

/-! ### Reading identifiers -/

/-- The identifier after an opening bracket and the text behind it. The identifier ends at the first
closing bracket that is not doubled; a doubled one stands for one. -/
def readIdentifier : List Char → Option (List Char × List Char)
  | [] => none
  | ']' :: ']' :: rest => (readIdentifier rest).map fun (name, after) => (']' :: name, after)
  | ']' :: rest => some ([], rest)
  | c :: rest => (readIdentifier rest).map fun (name, after) => (c :: name, after)

/-- A name as it would have to be written between brackets. -/
def doubled (name : List Char) : List Char :=
  name.flatMap fun c => if c = ']' then [']', ']'] else [c]

lemma doubled_cons_bracket (name : List Char) :
    doubled (']' :: name) = ']' :: ']' :: doubled name := rfl

lemma doubled_cons_of_ne {c : Char} (h : c ≠ ']') (name : List Char) :
    doubled (c :: name) = c :: doubled name := by
  simp [doubled, h]

lemma doubled_eq_self {name : List Char} (h : ']' ∉ name) : doubled name = name := by
  induction name with
  | nil => rfl
  | cons c name ih =>
    rw [List.mem_cons, not_or] at h
    rw [doubled_cons_of_ne (Ne.symm h.1), ih h.2]

variable {text name after rest : List Char}

/-- A name is read back if its closing brackets are doubled. -/
lemma readIdentifier_doubled (name : List Char) (h : rest.head? ≠ some ']') :
    readIdentifier (doubled name ++ ']' :: rest) = some (name, rest) := by
  induction name with
  | nil =>
    cases rest with
    | nil => rfl
    | cons c rest =>
      have hc : c ≠ ']' := by simpa using h
      simp [doubled, readIdentifier, hc]
  | cons c name ih =>
    by_cases hc : c = ']'
    · subst hc
      simp [doubled_cons_bracket, readIdentifier, ih]
    · rw [doubled_cons_of_ne hc, List.cons_append, readIdentifier, ih]
      · rfl
      · simp [hc]
      · simp [hc]

/-- Whatever is read as an identifier has its closing brackets doubled. -/
lemma eq_of_readIdentifier (h : readIdentifier text = some (name, after)) :
    text = doubled name ++ ']' :: after := by
  induction text using readIdentifier.induct generalizing name after with
  | case1 => simp [readIdentifier] at h
  | case2 rest ih =>
    simp only [readIdentifier, Option.map_eq_some_iff, Prod.mk.injEq, Prod.exists] at h
    obtain ⟨name, after, hrest, rfl, rfl⟩ := h
    rw [ih hrest]
    rfl
  | case3 rest hrest =>
    rw [readIdentifier] at h
    · cases h
      rfl
    · exact hrest
  | case4 c rest hdouble hclose ih =>
    rw [readIdentifier] at h
    · simp only [Option.map_eq_some_iff, Prod.mk.injEq, Prod.exists] at h
      obtain ⟨name, after, hrest, rfl, rfl⟩ := h
      rw [doubled_cons_of_ne (fun hc => hclose hc), List.cons_append, ih hrest]
    · exact hdouble
    · exact hclose

/-- A name that is the same between brackets with and without doubling has no closing bracket. The
brackets in front are those by which the left side has got ahead. -/
lemma not_mem_of_doubled_append {k : Nat} (h : rest.head? ≠ some ']')
    (heq : List.replicate k ']' ++ (doubled name ++ ']' :: after) = name ++ ']' :: rest) :
    k = 0 ∧ ']' ∉ name := by
  induction name generalizing k with
  | nil =>
    cases k with
    | zero => exact ⟨rfl, List.not_mem_nil⟩
    | succ k =>
      -- the text behind the identifier would start with one more closing bracket
      rw [List.replicate_succ, List.cons_append, List.nil_append, List.cons.injEq] at heq
      refine absurd ?_ h
      rw [← heq.2]
      cases k <;> rfl
  | cons c name ih =>
    by_cases hc : c = ']'
    · subst hc
      have hmore : List.replicate (k + 1) ']' ++ (doubled name ++ ']' :: after) =
          name ++ ']' :: rest := by
        rw [doubled_cons_bracket, List.cons_append, List.cons_append, List.append_cons,
          ← List.replicate_succ', List.append_cons, ← List.replicate_succ',
          List.replicate_succ] at heq
        exact (List.cons.inj heq).2
      exact absurd (ih hmore).1 (Nat.succ_ne_zero k)
    · cases k with
      | zero =>
        rw [doubled_cons_of_ne hc] at heq
        obtain ⟨-, hname⟩ := ih (k := 0) (List.cons.inj heq).2
        refine ⟨rfl, ?_⟩
        rw [List.mem_cons, not_or]
        exact ⟨Ne.symm hc, hname⟩
      | succ k => exact absurd (List.cons.inj heq).1.symm hc

/-- A name that is written as it is reads as itself just when it has no closing bracket. -/
lemma readIdentifier_append_iff (h : rest.head? ≠ some ']') :
    readIdentifier (name ++ ']' :: rest) = some (name, after) ↔ ']' ∉ name ∧ after = rest := by
  constructor
  · intro hread
    have heq := (eq_of_readIdentifier hread).symm
    have hname : ']' ∉ name := (not_mem_of_doubled_append (k := 0) h heq).2
    rw [doubled_eq_self hname, List.append_cancel_left_eq, List.cons.injEq] at heq
    exact ⟨hname, heq.2⟩
  · rintro ⟨hname, rfl⟩
    have hread := readIdentifier_doubled name h
    rwa [doubled_eq_self hname] at hread

/-! ### Reading statements -/

/-- An identifier with the text that leads to it. -/
structure Mention where
  lead : List Char
  name : List Char
deriving DecidableEq

/-- Behind an identifier there is less to read than before it. -/
lemma length_lt_of_readIdentifier {c : Char} {inside : List Char}
    (hopen : text.dropWhile (· != '[') = c :: inside)
    (hread : readIdentifier inside = some (name, after)) : after.length < text.length := by
  have hsuffix : (text.dropWhile (· != '[')).length ≤ text.length :=
    (List.dropWhile_suffix _).length_le
  rw [hopen, eq_of_readIdentifier hread, List.length_cons, List.length_append,
    List.length_cons] at hsuffix
  omega

/-- The identifiers of a text from left to right, if each of them ends. -/
def readMentions (text : List Char) : Option (List Mention) :=
  match _ : text.dropWhile (· != '[') with
  | [] => some []
  | _ :: inside =>
    match _ : readIdentifier inside with
    | none => none
    | some (name, after) => (readMentions after).map (⟨text.takeWhile (· != '['), name⟩ :: ·)
termination_by text.length
decreasing_by
  exact length_lt_of_readIdentifier ‹_› ‹_›

lemma readMentions_of_not_mem (h : '[' ∉ text) : readMentions text = some [] := by
  have hnone : text.dropWhile (· != '[') = [] := by
    refine List.dropWhile_eq_nil_iff.mpr fun c hc => bne_iff_ne.mpr ?_
    rintro rfl
    exact h hc
  rw [readMentions]
  split
  · rfl
  · next hsome =>
    rw [hnone] at hsome
    cases hsome

lemma readMentions_append {lead : List Char} (h : '[' ∉ lead) :
    readMentions (lead ++ '[' :: rest) =
      (readIdentifier rest).bind fun (name, after) =>
        (readMentions after).map (⟨lead, name⟩ :: ·) := by
  have hlead : ∀ c ∈ lead, (c != '[') = true := by
    intro c hc
    rw [bne_iff_ne]
    rintro rfl
    exact h hc
  have hdrop : (lead ++ '[' :: rest).dropWhile (· != '[') = '[' :: rest := by
    rw [List.dropWhile_append_of_pos hlead]
    rfl
  have htake : (lead ++ '[' :: rest).takeWhile (· != '[') = lead := by
    rw [List.takeWhile_append_of_pos hlead]
    simp
  rw [readMentions, htake]
  split
  · next hnone =>
    rw [hdrop] at hnone
    cases hnone
  · next inside hsome =>
    rw [hdrop] at hsome
    cases hsome
    split
    · next hread => rw [hread]; rfl
    · next hread => rw [hread]; rfl

/-! ### Texts around identifiers -/

/-- A text without brackets. -/
def Unbracketed (text : List Char) : Prop :=
  '[' ∉ text ∧ ']' ∉ text

instance (text : List Char) : Decidable (Unbracketed text) :=
  inferInstanceAs (Decidable (_ ∧ _))

lemma unbracketed_append {text text' : List Char} :
    Unbracketed (text ++ text') ↔ Unbracketed text ∧ Unbracketed text' := by
  simp only [Unbracketed, List.mem_append, not_or]
  exact and_and_and_comm

/-- A name between brackets with the text before and behind it. -/
structure Block where
  front : List Char
  name : List Char
  trail : List Char

namespace Block

/-- The text of a block before some other text. -/
def write (b : Block) (text : List Char) : List Char :=
  b.front ++ '[' :: (b.name ++ ']' :: (b.trail ++ text))

/-- The identifiers of some blocks with the texts that lead to them; `pending` is what stands before
the first block. -/
def mentions (pending : List Char) : List Block → List Mention
  | [] => []
  | b :: bs => ⟨pending ++ b.front, b.name⟩ :: mentions b.trail bs

/-- Brackets stand around the name and nowhere else outside of it. -/
structure Plain (b : Block) : Prop where
  front : Unbracketed b.front
  trail : Unbracketed b.trail

variable {b : Block} {bs : List Block} {pending : List Char}

lemma map_name_mentions (pending : List Char) (bs : List Block) :
    (mentions pending bs).map (·.name) = bs.map (·.name) := by
  induction bs generalizing pending with
  | nil => rfl
  | cons b bs ih => rw [mentions, List.map_cons, List.map_cons, ih]

/-- Behind an identifier no closing bracket follows. -/
lemma head?_foldr_write (hpending : Unbracketed pending) (hbs : ∀ b ∈ bs, b.Plain)
    (htext : Unbracketed text) : (pending ++ bs.foldr write text).head? ≠ some ']' := by
  intro hhead
  cases pending with
  | cons c pending =>
    obtain rfl : c = ']' := by simpa using hhead
    exact hpending.2 List.mem_cons_self
  | nil =>
    cases bs with
    | nil => exact htext.2 (List.mem_of_mem_head? hhead)
    | cons b bs =>
      have hfront := (hbs b List.mem_cons_self).front
      rw [List.nil_append, List.foldr_cons, write] at hhead
      cases hb : b.front with
      | nil => simp [hb] at hhead
      | cons c front =>
        obtain rfl : c = ']' := by simpa [hb] using hhead
        exact hfront.2 (hb ▸ List.mem_cons_self)

/-- Of plain blocks just those without closing brackets in their names are read by their names, and
then they are read with what leads to them. -/
theorem readMentions_foldr_write (hpending : Unbracketed pending) (hbs : ∀ b ∈ bs, b.Plain)
    (htext : Unbracketed text) {ms : List Mention} :
    readMentions (pending ++ bs.foldr write text) = some ms ∧
        ms.map (·.name) = bs.map (·.name) ↔
      ms = mentions pending bs ∧ ∀ b ∈ bs, ']' ∉ b.name := by
  induction bs generalizing pending ms with
  | nil =>
    have hnone : '[' ∉ pending ++ text := (unbracketed_append.mpr ⟨hpending, htext⟩).1
    rw [List.foldr_nil, readMentions_of_not_mem hnone, mentions]
    constructor
    · rintro ⟨hms, -⟩
      exact ⟨(Option.some.inj hms).symm, fun b hb => absurd hb List.not_mem_nil⟩
    · rintro ⟨rfl, -⟩
      exact ⟨rfl, rfl⟩
  | cons b bs ih =>
    obtain ⟨hb, hbs⟩ := List.forall_mem_cons.mp hbs
    have hlead : '[' ∉ pending ++ b.front := (unbracketed_append.mpr ⟨hpending, hb.front⟩).1
    have hrest := head?_foldr_write hb.trail hbs htext
    rw [List.foldr_cons, write, ← List.append_assoc, readMentions_append hlead]
    constructor
    · rintro ⟨hread, hnames⟩
      obtain ⟨⟨name, after⟩, hname, hread⟩ := Option.bind_eq_some_iff.mp hread
      obtain ⟨ms, hms, rfl⟩ := Option.map_eq_some_iff.mp hread
      obtain ⟨rfl, hothers⟩ := List.cons.inj hnames
      obtain ⟨hclean, rfl⟩ := (readIdentifier_append_iff hrest).mp hname
      obtain ⟨rfl, hall⟩ := (ih hb.trail hbs).mp ⟨hms, hothers⟩
      exact ⟨rfl, List.forall_mem_cons.mpr ⟨hclean, hall⟩⟩
    · rintro ⟨rfl, hall⟩
      obtain ⟨hclean, hall⟩ := List.forall_mem_cons.mp hall
      have hname := (readIdentifier_append_iff hrest).mpr ⟨hclean, rfl⟩
      have hms := ((ih hb.trail hbs).mpr ⟨rfl, hall⟩).1
      refine ⟨Option.bind_eq_some_iff.mpr ⟨_, hname, ?_⟩, map_name_mentions pending (b :: bs)⟩
      exact Option.map_eq_some_iff.mpr ⟨_, hms, rfl⟩

end Block

end SchemaGraph
