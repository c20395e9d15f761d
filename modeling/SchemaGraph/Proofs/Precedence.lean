import Mathlib.Data.List.Nodup
import Mathlib.Tactic.MkIffOfInductiveProp
import SchemaGraph.Settings

/-!
# The precedence of settings

A setting is taken from a variable of the environment, which may be named in any case of letters, or
else from the nearest environment file, or else from the default. The file is looked for near the
working directory, and if nothing is there, near the directory that the program is installed in
(`EnvironmentFile.IsTaken`). It adds only variables that are not set yet, but it tells names apart
letter by letter. So a variable of the environment that is written in another case than in the file
does not keep the file from setting the same setting again, and what is set last counts.
`World.settings_precedence` says that the settings are the promised ones unless that happens
(`World.Overruled`), which it does (`World.settings_overruled`).
-/

namespace SchemaGraph

/-! ### Names in ASCII letters -/

namespace LetterCase

/-- Whether the name of a variable can be written with a character: an ASCII letter or the
underscore. -/
def isNameLetter (c : Char) : Bool :=
  inRanges [(0x41, 0x5A), (0x5F, 0x5F), (0x61, 0x7A)] c

lemma smalls_image_of_isNameLetter {c : Char} (h : isNameLetter c = true) :
    smalls.image c = [c.toLower] := by
  have hletters : ∀ n < 123, isNameLetter (Char.ofNat n) = true →
      smalls.image (Char.ofNat n) = [(Char.ofNat n).toLower] := by
    decide +kernel
  have hlt : c.toNat < 123 := by
    simp only [isNameLetter, inRanges, List.any_cons, List.any_nil, Bool.or_false, Bool.or_eq_true,
      Bool.and_eq_true, decide_eq_true_eq] at h
    omega
  have himage := hletters c.toNat hlt
  rw [Char.ofNat_toNat] at himage
  exact himage h

lemma lowerAfter_of_isNameLetter {text : List Char} (h : ∀ c ∈ text, isNameLetter c = true)
    (before : List Char) : lowerAfter before text = text.map Char.toLower := by
  induction text generalizing before with
  | nil => rfl
  | cons c text ih =>
    rw [List.forall_mem_cons] at h
    have hsigma : c ≠ 'Σ' := by
      rintro rfl
      exact absurd h.1 (by decide)
    rw [lowerAfter, if_neg hsigma, smalls_image_of_isNameLetter h.1, ih h.2]
    rfl

end LetterCase

lemma lowerCase_of_isNameLetter {s : String} (h : s.toList.all LetterCase.isNameLetter = true) :
    lowerCase s = String.ofList (s.toList.map Char.toLower) := by
  rw [lowerCase, LetterCase.lowerAfter_of_isNameLetter (List.all_eq_true.mp h)]

/-! ### Variables in any case of letters -/

namespace Environment

variable {e : Environment} {name value : String} {vars : List (String × String)}

/-- No two names differ in the case of letters only, and none occurs twice. -/
def Apart (e : Environment) : Prop :=
  (e.entries.map fun v => lowerCase v.1).Nodup

instance (e : Environment) : Decidable e.Apart :=
  List.nodupDecidable _

lemma get?_eq_none_iff : e.get? name = none ↔ ∀ v ∈ e.entries, v.1 ≠ name := by
  rw [get?, List.lookup_eq_none_iff]
  simp only [bne_iff_ne, ne_comm]

lemma get?_append (vars more : List (String × String)) (name : String) :
    (⟨vars ++ more⟩ : Environment).get? name =
      ((⟨vars⟩ : Environment).get? name).or ((⟨more⟩ : Environment).get? name) :=
  List.lookup_append

/-- A variable that is not set yet is set at the end. -/
lemma set_of_get?_eq_none (h : e.get? name = none) :
    e.set name value = ⟨e.entries ++ [(name, value)]⟩ := by
  simp [set, h]

lemma get?_append_of_ne {v : String × String} (h : name ≠ v.1) :
    (⟨e.entries ++ [v]⟩ : Environment).get? name = e.get? name := by
  have hother : (⟨[v]⟩ : Environment).get? name = none :=
    get?_eq_none_iff.mpr (by simpa using h.symm)
  rw [get?_append, hother, Option.or_none]

lemma find?_append (vars more : List (String × String)) (name : String) :
    (⟨vars ++ more⟩ : Environment).find? name =
      ((⟨more⟩ : Environment).find? name).or ((⟨vars⟩ : Environment).find? name) := by
  simp only [find?, List.reverse_append, List.find?_append, Option.map_or]

lemma find?_eq_none_iff :
    e.find? name = none ↔ ∀ v ∈ e.entries, lowerCase v.1 ≠ lowerCase name := by
  simp [find?]

/-- What is found under a name hangs on the variables whose names differ from it in the case of
letters only. -/
lemma find?_filter_congr {p q : String × String → Bool}
    (h : ∀ v ∈ vars, lowerCase v.1 = lowerCase name → p v = q v) :
    (⟨vars.filter p⟩ : Environment).find? name = (⟨vars.filter q⟩ : Environment).find? name := by
  have hfound (l : List (String × String)) : (⟨l⟩ : Environment).find? name =
      ((l.filter fun v => lowerCase v.1 == lowerCase name).reverse.head?).map (·.2) := by
    rw [find?, ← List.head?_filter, List.filter_reverse]
  have hsame : vars.filter (fun v => lowerCase v.1 == lowerCase name && p v) =
      vars.filter fun v => lowerCase v.1 == lowerCase name && q v := by
    apply List.filter_congr
    intro v hv
    by_cases hname : lowerCase v.1 = lowerCase name
    · rw [h v hv hname]
    · rw [beq_false_of_ne hname, Bool.false_and, Bool.false_and]
  rw [hfound, hfound, List.filter_filter, List.filter_filter, hsame]

lemma Apart.eq_of_lowerCase (h : e.Apart) {v v' : String × String} (hv : v ∈ e.entries)
    (hv' : v' ∈ e.entries) (hsame : lowerCase v.1 = lowerCase v'.1) : v = v' :=
  List.inj_on_of_nodup_map h hv hv' hsame

lemma Apart.find?_eq_some_iff (h : e.Apart) :
    e.find? name = some value ↔
      ∃ own, (own, value) ∈ e.entries ∧ lowerCase own = lowerCase name := by
  constructor
  · intro hvalue
    obtain ⟨v, hv, rfl⟩ := Option.map_eq_some_iff.mp hvalue
    exact ⟨v.1, by simpa using List.mem_of_find?_eq_some hv, by simpa using List.find?_some hv⟩
  · rintro ⟨own, hmem, hown⟩
    cases hfound : e.find? name with
    | none =>
      have hne := find?_eq_none_iff.mp hfound _ hmem
      contradiction
    | some value' =>
      obtain ⟨v, hv, rfl⟩ := Option.map_eq_some_iff.mp hfound
      have hsame : lowerCase v.1 = lowerCase own := by
        rw [hown]
        simpa using List.find?_some hv
      have hv' : v ∈ e.entries := by simpa using List.mem_of_find?_eq_some hv
      rw [h.eq_of_lowerCase hv' hmem hsame]

end Environment

/-! ### Loading a file -/

/-- The variable of a binding, if it gives a value. -/
def Binding.entry? (b : Binding) : Option (String × String) :=
  b.value.map (b.name, ·)

namespace Environment

variable {e : Environment} {b : Binding} {v : String × String}

/-- The variable that a binding adds: one that is not set yet. -/
def addition? (e : Environment) (b : Binding) : Option (String × String) :=
  b.entry?.filter fun v => (e.get? v.1).isNone

lemma addition?_eq_some_iff :
    e.addition? b = some v ↔ b = ⟨v.1, some v.2⟩ ∧ e.get? v.1 = none := by
  obtain ⟨name, value⟩ := b
  obtain ⟨name', value'⟩ := v
  cases value with
  | none => simp [addition?, Binding.entry?]
  | some value =>
    simp only [addition?, Binding.entry?, Option.map_some, Option.filter_eq_some_iff,
      Option.some.injEq, Prod.mk.injEq, Option.isNone_iff_eq_none, Binding.mk.injEq]

/-- A variable that has been set changes nothing for other names. -/
lemma addition?_append_of_ne (h : b.name ≠ v.1) :
    (⟨e.entries ++ [v]⟩ : Environment).addition? b = e.addition? b := by
  obtain ⟨name, value⟩ := b
  cases value with
  | none => rfl
  | some value =>
    rw [addition?, addition?, Binding.entry?, Option.map_some, Option.filter_some,
      Option.filter_some, get?_append_of_ne h]

end Environment

namespace EnvironmentFile

variable {e e' : Environment} {b : Binding} {bs : List Binding} {v : String × String}

/-- The variables of a file whose references stand for variables of an environment. -/
def contents (e : Environment) (text : String) : Environment where
  entries := (merge (expandAll e [] (bindings text))).filterMap Binding.entry?

lemma nodup_merge (bs : List Binding) : ((merge bs).map (·.name)).Nodup := by
  refine List.foldlRecOn (motive := fun merged : List Binding => (merged.map (·.name)).Nodup)
    bs _ ?_ ?_
  · exact List.nodup_nil
  · intro merged h b _
    split
    · have hnames : (merged.map fun m => if m.name = b.name then b else m).map (·.name) =
          merged.map (·.name) := by
        rw [List.map_map]
        apply List.map_congr_left
        intro m _
        rw [Function.comp_apply]
        split
        · next hname => exact hname.symm
        · rfl
      rw [hnames]
      exact h
    · next hnew =>
      rw [List.map_append, List.map_singleton, ← List.concat_eq_append, List.nodup_concat]
      exact ⟨by simpa using hnew, h⟩

lemma setMissing_cons_of_none (h : e.addition? b = none) :
    setMissing e (b :: bs) = setMissing e bs := by
  obtain ⟨name, value⟩ := b
  cases value with
  | none =>
    rw [setMissing]
    split <;> rfl
  | some value =>
    cases hname : e.get? name with
    | some old =>
      rw [setMissing, hname]
      rfl
    | none => simp [Environment.addition?, Binding.entry?, hname] at h

lemma setMissing_cons_of_some (h : e.addition? b = some v) :
    setMissing e (b :: bs) =
      if isSettable v.1 v.2 then setMissing ⟨e.entries ++ [v]⟩ bs
      else (e, some (.unsettable v.1)) := by
  obtain ⟨rfl, hnew⟩ := Environment.addition?_eq_some_iff.mp h
  rw [setMissing, hnew, Environment.set_of_get?_eq_none hnew]
  rfl

/-- Where the names of bindings are distinct, they can be loaded just when each variable that is
added can be set, and then these come at the end. -/
lemma setMissing_eq_none_iff (hdistinct : (bs.map (·.name)).Nodup) :
    setMissing e bs = (e', none) ↔
      (∀ v ∈ bs.filterMap e.addition?, isSettable v.1 v.2 = true) ∧
        e' = ⟨e.entries ++ bs.filterMap e.addition?⟩ := by
  induction bs generalizing e with
  | nil =>
    constructor
    · rintro ⟨⟩
      exact ⟨by simp, by simp⟩
    · rintro ⟨-, rfl⟩
      simp [setMissing]
  | cons b bs ih =>
    rw [List.map_cons, List.nodup_cons] at hdistinct
    cases hb : e.addition? b with
    | none => rw [setMissing_cons_of_none hb, ih hdistinct.2, List.filterMap_cons_none hb]
    | some v =>
      obtain ⟨rfl, -⟩ := Environment.addition?_eq_some_iff.mp hb
      have hrest : bs.filterMap (Environment.addition? ⟨e.entries ++ [v]⟩) =
          bs.filterMap e.addition? := by
        apply List.filterMap_congr
        intro b' hb'
        apply Environment.addition?_append_of_ne
        rintro hname
        exact hdistinct.1 (List.mem_map.mpr ⟨b', hb', hname⟩)
      rw [setMissing_cons_of_some hb, List.filterMap_cons_some hb, List.forall_mem_cons]
      by_cases hset : isSettable v.1 v.2 = true
      · rw [if_pos hset, ih hdistinct.2, hrest, List.append_assoc, List.singleton_append,
          and_iff_right hset]
      · rw [if_neg hset]
        simp [hset]

lemma load_eq_none_iff {text : String} :
    load e text = (e', none) ↔
      (∀ v ∈ (contents e text).entries, e.get? v.1 = none → isSettable v.1 v.2 = true) ∧
        e' = ⟨e.entries ++ (contents e text).entries.filter fun v => (e.get? v.1).isNone⟩ := by
  have hadditions : (merge (expandAll e [] (bindings text))).filterMap e.addition? =
      (contents e text).entries.filter fun v => (e.get? v.1).isNone :=
    List.filter_filterMap.symm
  unfold load
  rw [setMissing_eq_none_iff (nodup_merge _), hadditions]
  simp only [List.mem_filter, and_imp, Option.isNone_iff_eq_none]

/-! ### Finding the file -/

section

variable {start root : Location} {s : Store} {node : Node}

/-- What is at the nearest place of an environment file from a directory upwards: nothing of its
name is nearer. -/
def IsNearest (s : Store) (start : Location) (node : Node) : Prop :=
  ∃ level < 4, s.node? (place start level) = some node ∧
    ∀ nearer < level, s.node? (place start nearer) = none

/-- There is no environment file in a directory or up to three levels above it. -/
def Bare (s : Store) (start : Location) : Prop :=
  ∀ level < 4, s.node? (place start level) = none

/-- What is taken for the environment file of a program: what is nearest to the working directory,
or where nothing is, what is nearest to the directory that the program is installed in. -/
def IsTaken (s : Store) (root : Location) (node : Node) : Prop :=
  IsNearest s .here node ∨ Bare s .here ∧ IsNearest s root node

lemma nearestLevelAbove?_eq_none_iff : nearestLevelAbove? start s = none ↔ Bare s start := by
  simp [nearestLevelAbove?, Bare]

lemma bind_nearestLevelAbove?_eq_some_iff :
    ((nearestLevelAbove? start s).map (place start)).bind s.node? = some node ↔
      IsNearest s start node := by
  have hlevel (level : Nat) : nearestLevelAbove? start s = some level ↔
      (s.node? (place start level)).isSome = true ∧ level < 4 ∧
        ∀ nearer < level, s.node? (place start nearer) = none := by
    simp [nearestLevelAbove?, List.find?_range_eq_some]
  rw [Option.bind_map, Option.bind_eq_some_iff]
  constructor
  · rintro ⟨level, hnearest, hnode⟩
    obtain ⟨-, hlt, hnearer⟩ := (hlevel level).mp hnearest
    exact ⟨level, hlt, hnode, hnearer⟩
  · rintro ⟨level, hlt, hnode, hnearer⟩
    have hsome : (s.node? (place start level)).isSome = true := by
      rw [hnode]
      rfl
    exact ⟨level, (hlevel level).mpr ⟨hsome, hlt, hnearer⟩, hnode⟩

lemma nearest?_bind_eq_some_iff :
    (nearest? root s).bind s.node? = some node ↔ IsTaken s root node := by
  rw [nearest?, IsTaken, ← nearestLevelAbove?_eq_none_iff]
  change ((((nearestLevelAbove? .here s).map (place .here)).or _).bind _ = _) ↔ _
  rw [← bind_nearestLevelAbove?_eq_some_iff, ← bind_nearestLevelAbove?_eq_some_iff]
  cases nearestLevelAbove? .here s with
  | none => simp
  | some level => simp

/-- Where nothing is near the working directory, the file four levels above it is taken for a
program that is installed there. -/
example : nearest? ⟨false, 4, []⟩ ⟨[(⟨false, 4, [".env"]⟩, .file "")]⟩ =
    some ⟨false, 4, [".env"]⟩ := by
  decide

end

/-- The variables of the environment file that is taken. -/
def nearestContents (root : Location) (s : Store) (e : Environment) : Environment :=
  match (nearest? root s).bind s.node? with
  | some (.file text) => contents e text
  | _ => ⟨[]⟩

/-- What is taken for the environment file can be loaded: its bytes are text, and each of its
variables that is not set yet can be set. -/
def Loads (root : Location) (s : Store) (e : Environment) : Prop :=
  ¬IsTaken s root .binary ∧
    ∀ v ∈ (nearestContents root s e).entries, e.get? v.1 = none → isSettable v.1 v.2 = true

lemma isSettable_iff {name value : String} :
    isSettable name value = true ↔
      '=' ∉ name.toList ∧ '\x00' ∉ name.toList ∧ '\x00' ∉ value.toList := by
  simp [isSettable, String.contains_char_eq, and_assoc]

instance (root : Location) (s : Store) (e : Environment) : Decidable (Loads root s e) :=
  decidable_of_iff
    ((nearest? root s).bind s.node? ≠ some .binary ∧
      ∀ v ∈ (nearestContents root s e).entries, e.get? v.1 = none →
        '=' ∉ v.1.toList ∧ '\x00' ∉ v.1.toList ∧ '\x00' ∉ v.2.toList)
    (by simp only [Loads, isSettable_iff, ← nearest?_bind_eq_some_iff, ne_eq])

lemma loadNearestFrom_eq_none_iff {root : Location} {s : Store} {e e' : Environment} :
    loadNearestFrom root s e = (e', none) ↔
      Loads root s e ∧ e' = ⟨e.entries ++
        (nearestContents root s e).entries.filter fun v => (e.get? v.1).isNone⟩ := by
  rw [loadNearestFrom, Loads, nearestContents, ← nearest?_bind_eq_some_iff]
  rcases (nearest? root s).bind s.node? with _ | _ | text | _
  · simp [eq_comm (a := e)]
  · simp [eq_comm (a := e)]
  · simpa using load_eq_none_iff
  · simp

end EnvironmentFile

/-! ### Reading settings -/

namespace Settings

/-- A setting is what a text says, or the default if there is none. -/
def Takes {α : Type} (check : Json → Checked α) (default : α) (text : Option String) (value : α) :
    Prop :=
  match text with
  | some text => check (.str text) = .valid value
  | none => value = default

lemma choose_eq_valid_iff {α : Type} {e : Environment} {name : String} {default value : α}
    {check : Json → Checked α} :
    choose [] e name default check = .valid value ↔
      Takes check default (e.find? (variablePrefix ++ name)) value := by
  have hgiven : Members.get? [] name = none := rfl
  rw [choose, hgiven]
  cases e.find? (variablePrefix ++ name) with
  | none => simp [Takes, eq_comm]
  | some text => simp [Takes]

/-- The settings are what texts under the names of variables say, and else the defaults. -/
@[mk_iff]
structure Follow (s : Settings) (texts : String → Option String) : Prop where
  dialect : Takes Json.checkWord .access (texts (variablePrefix ++ "default_dialect")) s.dialect
  naming : Takes Json.checkWord .bare (texts (variablePrefix ++ "fk_naming")) s.naming
  cardinality :
    Takes Json.checkWord .oneToMany (texts (variablePrefix ++ "default_cardinality")) s.cardinality
  onDelete :
    Takes Json.checkWord .cascade (texts (variablePrefix ++ "default_on_delete")) s.onDelete
  onUpdate :
    Takes Json.checkWord .cascade (texts (variablePrefix ++ "default_on_update")) s.onUpdate
  logLevel : Takes Json.checkWord .info (texts (variablePrefix ++ "log_level")) s.logLevel
  logFile : Takes Json.checkOptionalPath none (texts (variablePrefix ++ "log_file")) s.logFile

lemma check_eq_valid_iff {e : Environment} {s : Settings} :
    check [] e = .valid s ↔ s.Follow e.find? := by
  simp only [check, Checked.seq_eq_valid_iff, Checked.functorMap_eq_valid_iff, choose_eq_valid_iff]
  constructor
  · rintro ⟨_, _, ⟨_, _, ⟨_, _, ⟨_, _, ⟨_, _, ⟨_, _, ⟨_, hdialect, rfl⟩, hnaming, rfl⟩,
      hcardinality, rfl⟩, honDelete, rfl⟩, honUpdate, rfl⟩, hlogLevel, rfl⟩, hlogFile, rfl⟩
    exact ⟨hdialect, hnaming, hcardinality, honDelete, honUpdate, hlogLevel, hlogFile⟩
  · rintro ⟨hdialect, hnaming, hcardinality, honDelete, honUpdate, hlogLevel, hlogFile⟩
    exact ⟨_, _, ⟨_, _, ⟨_, _, ⟨_, _, ⟨_, _, ⟨_, _, ⟨_, hdialect, rfl⟩, hnaming, rfl⟩,
      hcardinality, rfl⟩, honDelete, rfl⟩, honUpdate, rfl⟩, hlogLevel, rfl⟩, hlogFile, rfl⟩

/-- The names of settings. -/
def names : List String :=
  ["default_dialect", "fk_naming", "default_cardinality", "default_on_delete", "default_on_update",
    "log_level", "log_file"]

lemma lowerCase_name :
    ∀ name ∈ names, lowerCase (variablePrefix ++ name) = "schemabuilder_" ++ name := by
  intro name hname
  rw [lowerCase_of_isNameLetter]
  · revert name
    decide +kernel
  · revert name
    decide +kernel

lemma follow_congr {texts texts' : String → Option String} {s : Settings}
    (h : ∀ name ∈ names, texts (variablePrefix ++ name) = texts' (variablePrefix ++ name)) :
    s.Follow texts ↔ s.Follow texts' := by
  simp only [names, List.forall_mem_cons] at h
  obtain ⟨hdialect, hnaming, hcardinality, honDelete, honUpdate, hlogLevel, hlogFile, -⟩ := h
  rw [follow_iff, follow_iff, hdialect, hnaming, hcardinality, honDelete, honUpdate, hlogLevel,
    hlogFile]

end Settings

/-! ### Precedence -/

namespace World

variable {root : Location} {w : World} {s : Settings} {name : String}

/-- The variables of the environment file that is taken for a program in some directory; their
references stand for the environment. -/
def fileVariables (root : Location) (w : World) : Environment :=
  EnvironmentFile.nearestContents root w.store w.environment

/-- The text under a name as it is promised: that of the environment, in any case of letters, and
else that of the environment file. -/
def promised? (root : Location) (w : World) (name : String) : Option String :=
  (w.environment.find? name).or ((w.fileVariables root).find? name)

/-- The environment after the environment file was loaded. -/
def loaded (root : Location) (w : World) : Environment where
  entries := w.environment.entries ++
    (w.fileVariables root).entries.filter fun v => (w.environment.get? v.1).isNone

/-- A variable of the environment is overruled: the file gives another value to a name that differs
from it in the case of letters only. -/
def Overruled (root : Location) (w : World) (name : String) : Prop :=
  ∃ v ∈ w.environment.entries, lowerCase v.1 = lowerCase name ∧
    ∃ other ∈ ((w.fileVariables root).unset v.1).find? name, other ≠ v.2

/-- The directory of the log file is there or can be made. -/
def KeepsLog (w : World) (s : Settings) : Prop :=
  ∀ file, s.logFile = some file → ∃ store, w.store.makeDirectories file.parent = .ok store

/-- The file adds under a name what it gives to names that no variable of the environment has. -/
lemma find?_added (h : w.environment.Apart) {own value : String}
    (hmem : (own, value) ∈ w.environment.entries) (hown : lowerCase own = lowerCase name) :
    (⟨(w.fileVariables root).entries.filter fun v => (w.environment.get? v.1).isNone⟩ :
      Environment).find? name = ((w.fileVariables root).unset own).find? name := by
  apply Environment.find?_filter_congr
  intro v _ hv
  rw [Bool.eq_iff_iff, Option.isNone_iff_eq_none, decide_eq_true_iff, Environment.get?_eq_none_iff]
  constructor
  · intro hnew hsame
    exact hnew _ hmem hsame.symm
  · intro hne v' hv' hsame
    have hletters : lowerCase v'.1 = lowerCase own := by rw [hsame, hv, hown]
    exact hne (by rw [← hsame, h.eq_of_lowerCase hv' hmem hletters])

lemma overruled_iff (h : w.environment.Apart) {v : String × String}
    (hmem : v ∈ w.environment.entries) (hown : lowerCase v.1 = lowerCase name) :
    w.Overruled root name ↔
      ∃ other ∈ ((w.fileVariables root).unset v.1).find? name, other ≠ v.2 := by
  constructor
  · rintro ⟨v', hmem', hown', hother⟩
    rw [h.eq_of_lowerCase hmem' hmem (hown'.trans hown.symm)] at hother
    exact hother
  · intro hother
    exact ⟨v, hmem, hown, hother⟩

/-- Nothing is overruled where the file names no variable of the environment, in any case of
letters. -/
lemma not_overruled_of_apart
    (h : (⟨w.environment.entries ++ (w.fileVariables root).entries⟩ : Environment).Apart) :
    ¬w.Overruled root name := by
  rintro ⟨v, hmem, hown, other, hother, -⟩
  obtain ⟨v', hv', -⟩ := Option.map_eq_some_iff.mp hother
  have hmem' : v' ∈ (w.fileVariables root).entries :=
    List.mem_of_mem_filter (List.mem_reverse.mp (List.mem_of_find?_eq_some hv'))
  have hletters : lowerCase v.1 = lowerCase v'.1 := by
    rw [hown, eq_comm]
    simpa using List.find?_some hv'
  rw [Environment.Apart, List.map_append, List.nodup_append] at h
  exact h.2.2 _ (List.mem_map_of_mem hmem) _ (List.mem_map_of_mem hmem') hletters

/-- What is found under a name after loading is what is promised, unless a variable of that name is
overruled. -/
lemma find?_loaded_iff (h : w.environment.Apart) :
    (w.loaded root).find? name = w.promised? root name ↔ ¬w.Overruled root name := by
  rw [loaded, Environment.find?_append, promised?]
  cases hfound : w.environment.find? name with
  | none =>
    have hunset := Environment.find?_eq_none_iff.mp hfound
    refine iff_of_true ?_ ?_
    · rw [Option.or_none, Option.none_or]
      have hall : ∀ v ∈ (w.fileVariables root).entries, lowerCase v.1 = lowerCase name →
          (w.environment.get? v.1).isNone = true := by
        intro v _ hv
        rw [Option.isNone_iff_eq_none, Environment.get?_eq_none_iff]
        intro v' hv' hsame
        exact hunset v' hv' (by rw [hsame, hv])
      rw [Environment.find?_filter_congr (q := fun _ => true) hall, List.filter_true]
    · rintro ⟨v, hmem, hown, -⟩
      exact hunset v hmem hown
  | some value =>
    obtain ⟨own, hmem, hown⟩ := h.find?_eq_some_iff.mp hfound
    rw [find?_added h hmem hown, overruled_iff h hmem hown, Option.some_or]
    cases ((w.fileVariables root).unset own).find? name with
    | none => simp
    | some other => simp

lemma settingsFrom_eq_ok_iff :
    (w.settingsFrom root []).1 = .ok s ↔
      EnvironmentFile.Loads root w.store w.environment ∧ s.Follow (w.loaded root).find? ∧
        w.KeepsLog s := by
  have hloaded {e : Environment} :
      EnvironmentFile.loadNearestFrom root w.store w.environment = (e, none) ↔
        EnvironmentFile.Loads root w.store w.environment ∧ e = w.loaded root :=
    EnvironmentFile.loadNearestFrom_eq_none_iff
  cases hresult : EnvironmentFile.loadNearestFrom root w.store w.environment with
  | mk e bad =>
    rw [settingsFrom, hresult]
    cases bad with
    | some cause =>
      refine iff_of_false (by rintro ⟨⟩) ?_
      rintro ⟨hloads, -⟩
      rw [hloaded.mpr ⟨hloads, rfl⟩] at hresult
      cases hresult
    | none =>
      obtain ⟨hloads, rfl⟩ := hloaded.mp hresult
      rw [and_iff_right hloads, ← Settings.check_eq_valid_iff]
      cases hcheck : Settings.check [] (w.loaded root) with
      | invalid issues => simp [hcheck]
      | valid t =>
        have hkeeps : (t = s ∧ w.KeepsLog s) ↔ t = s ∧ w.KeepsLog t :=
          and_congr_right fun hsame => by rw [hsame]
        rw [Checked.valid.injEq, hkeeps, KeepsLog]
        cases hfile : t.logFile with
        | none => simp [hcheck, hfile]
        | some file =>
          cases hmade : w.store.makeDirectories file.parent with
          | ok store => simp [hcheck, hfile, hmade]
          | error error => simp [hcheck, hfile, hmade]

/-- The names of variables differ in more than the case of letters. Then, wherever the program is
installed, loading the environment file that is taken changes no variable of the environment, and
what is found under a name afterwards is what is promised just when no variable of that name is
overruled. The settings are made from what is found whenever the file can be loaded, the texts can
be read and the log has its place; and if no setting is overruled, they are the promised ones. -/
theorem settings_precedence (root : Location) (h : w.environment.Apart) :
    (∀ text, EnvironmentFile.IsTaken w.store root (.file text) →
      w.fileVariables root = EnvironmentFile.contents w.environment text) ∧
    ((∀ text, ¬EnvironmentFile.IsTaken w.store root (.file text)) → w.fileVariables root = ⟨[]⟩) ∧
    (EnvironmentFile.Loads root w.store w.environment →
      EnvironmentFile.loadNearestFrom root w.store w.environment = (w.loaded root, none)) ∧
    (∀ name value, w.environment.get? name = some value →
      (w.loaded root).get? name = some value) ∧
    (∀ name, (w.loaded root).find? name = w.promised? root name ↔ ¬w.Overruled root name) ∧
    (∀ s, (w.settingsFrom root []).1 = .ok s ↔
      EnvironmentFile.Loads root w.store w.environment ∧ s.Follow (w.loaded root).find? ∧
        w.KeepsLog s) ∧
    ((∀ name ∈ Settings.names, ¬w.Overruled root (Settings.variablePrefix ++ name)) →
      ∀ s : Settings, s.Follow (w.loaded root).find? ↔ s.Follow (w.promised? root)) := by
  refine ⟨?_, ?_, ?_, ?_, ?_, ?_, ?_⟩
  · intro text htext
    rw [fileVariables, EnvironmentFile.nearestContents,
      EnvironmentFile.nearest?_bind_eq_some_iff.mpr htext]
  · intro hnone
    rw [fileVariables, EnvironmentFile.nearestContents]
    split
    · next text htext =>
      exact absurd (EnvironmentFile.nearest?_bind_eq_some_iff.mp htext) (hnone text)
    · rfl
  · intro hloads
    exact EnvironmentFile.loadNearestFrom_eq_none_iff.mpr ⟨hloads, rfl⟩
  · intro name value hvalue
    rw [loaded, Environment.get?_append, hvalue, Option.some_or]
  · intro name
    exact find?_loaded_iff h
  · intro s
    exact settingsFrom_eq_ok_iff
  · intro hnone s
    exact Settings.follow_congr fun name hname => (find?_loaded_iff h).mpr (hnone name hname)

/-- The directory four levels above the working directory. -/
private def checkout : Location :=
  ⟨false, 4, []⟩

/-- A variable of the environment in mixed letters, and environment files one, two and four levels
above the working directory. -/
private def layered : World where
  environment := ⟨[("SCHEMABUILDER_Fk_NAMING", "prefixed")]⟩
  store := ⟨[(EnvironmentFile.place checkout 0, .file "SCHEMABUILDER_LOG_LEVEL=INFO\n"),
    (EnvironmentFile.location 2, .file "SCHEMABUILDER_LOG_LEVEL=ERROR\n"),
    (EnvironmentFile.location 1, .file "SCHEMABUILDER_LOG_LEVEL=DEBUG\n")]⟩

theorem settings_precedence_layered :
    layered.environment.Apart ∧
      (∀ name ∈ Settings.names, ¬layered.Overruled checkout (Settings.variablePrefix ++ name)) ∧
      ∃ s, (layered.settingsFrom checkout []).1 = .ok s ∧ s.naming = .prefixed ∧
        s.logLevel = .debug ∧ s.dialect = .access ∧ s.Follow (layered.promised? checkout) := by
  have hapart : layered.environment.Apart := by decide +kernel
  have hnone : ∀ name ∈ Settings.names,
      ¬layered.Overruled checkout (Settings.variablePrefix ++ name) :=
    fun name _ => not_overruled_of_apart (by decide +kernel)
  have hloads : EnvironmentFile.Loads checkout layered.store layered.environment := by
    decide +kernel
  let texts : Environment :=
    ⟨[("SCHEMABUILDER_fk_naming", "prefixed"), ("SCHEMABUILDER_log_level", "DEBUG")]⟩
  have hfound : ∀ name ∈ Settings.names,
      (layered.loaded checkout).find? (Settings.variablePrefix ++ name) =
        texts.get? (Settings.variablePrefix ++ name) := by
    intro name hname
    rw [Environment.find?, Settings.lowerCase_name name hname]
    revert name
    decide +kernel
  have hfollow : Settings.Follow ⟨.access, .prefixed, .oneToMany, .cascade, .cascade, .debug, none⟩
      (layered.loaded checkout).find? :=
    (Settings.follow_congr hfound).mpr (by constructor <;> rfl)
  obtain ⟨-, -, -, -, -, hsettings, hprecedence⟩ := settings_precedence checkout hapart
  exact ⟨hapart, hnone, _, (hsettings _).mpr ⟨hloads, hfollow, fun _ hfile => by cases hfile⟩, rfl,
    rfl, rfl, (hprecedence hnone _).mp hfollow⟩

/-- A variable of the environment whose name the environment file writes in other letters. -/
private def respelled : World where
  environment := ⟨[("SCHEMABUILDER_fk_naming", "bare")]⟩
  store := ⟨[(EnvironmentFile.location 0, .file "SCHEMABUILDER_FK_NAMING=prefixed\n")]⟩

/-- The file overrides that variable: the settings are not the promised ones. -/
theorem settings_overruled :
    respelled.environment.Apart ∧
      respelled.promised? EnvironmentFile.installation (Settings.variablePrefix ++ "fk_naming") =
        some "bare" ∧
      ∃ s, (respelled.settings []).1 = .ok s ∧ s.naming = .prefixed ∧
        ¬s.Follow (respelled.promised? EnvironmentFile.installation) := by
  have hapart : respelled.environment.Apart := by decide +kernel
  have hloads : EnvironmentFile.Loads EnvironmentFile.installation respelled.store
      respelled.environment := by
    decide +kernel
  have hpromised : respelled.promised? EnvironmentFile.installation
      (Settings.variablePrefix ++ "fk_naming") = some "bare" := by
    decide +kernel
  let texts : Environment := ⟨[("SCHEMABUILDER_fk_naming", "prefixed")]⟩
  have hfound : ∀ name ∈ Settings.names,
      (respelled.loaded EnvironmentFile.installation).find? (Settings.variablePrefix ++ name) =
        texts.get? (Settings.variablePrefix ++ name) := by
    intro name hname
    rw [Environment.find?, Settings.lowerCase_name name hname]
    revert name
    decide +kernel
  have hfollow : Settings.Follow ⟨.access, .prefixed, .oneToMany, .cascade, .cascade, .info, none⟩
      (respelled.loaded EnvironmentFile.installation).find? :=
    (Settings.follow_congr hfound).mpr (by constructor <;> rfl)
  have hsettings := settingsFrom_eq_ok_iff.mpr ⟨hloads, hfollow, fun _ hfile => by cases hfile⟩
  refine ⟨hapart, hpromised, _, hsettings, rfl, ?_⟩
  intro hbroken
  have hnaming := hbroken.naming
  rw [hpromised] at hnaming
  cases hnaming

end World

end SchemaGraph
