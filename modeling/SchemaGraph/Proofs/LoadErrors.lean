import Mathlib.Tactic.Lemma
import SchemaGraph.Command.Run
import SchemaGraph.Proofs.Levels

/-!
# Errors of loading

Whatever is wrong with the text of a schema file should end in an error that is told to the user.
`load_settles_iff` says how far this holds: for every text but that of some editor exports, and but
those that are nested too deep. An export is gone through before it is checked, and a value of the
wrong kind in the way breaks this off: a node that is no object, or data or a position that cannot
be gone through. What comes before such a value must be in order, since the first error counts. A
text that takes more levels than the reader has is not read to its end.
-/

namespace SchemaGraph

/-! ### First breaks -/

/-- One of some items is broken, and all before it are in order. -/
def FirstBreak {α : Type} (orderly broken : α → Prop) (items : List α) : Prop :=
  ∃ before item after, items = before ++ item :: after ∧ (∀ i ∈ before, orderly i) ∧ broken item

section

variable {α : Type} {orderly broken : α → Prop} {item : α} {items : List α}

lemma not_firstBreak_nil : ¬FirstBreak orderly broken [] := by
  rintro ⟨before, item, after, h, -, -⟩
  exact List.append_ne_nil_of_right_ne_nil before (List.cons_ne_nil item after) h.symm

lemma firstBreak_cons :
    FirstBreak orderly broken (item :: items) ↔
      broken item ∨ orderly item ∧ FirstBreak orderly broken items := by
  constructor
  · rintro ⟨before, other, after, h, hbefore, hbroken⟩
    cases before with
    | nil =>
      obtain ⟨rfl, -⟩ := List.cons.inj h
      exact .inl hbroken
    | cons first before =>
      obtain ⟨rfl, rfl⟩ := List.cons.inj h
      obtain ⟨hfirst, hbefore⟩ := List.forall_mem_cons.mp hbefore
      exact .inr ⟨hfirst, before, other, after, rfl, hbefore, hbroken⟩
  · rintro (hbroken | ⟨hitem, before, other, after, rfl, hbefore, hbroken⟩)
    · exact ⟨[], item, items, rfl, by simp, hbroken⟩
    · exact ⟨item :: before, other, after, rfl, List.forall_mem_cons.mpr ⟨hitem, hbefore⟩, hbroken⟩

end

/-! ### Readings -/

section

variable {α β : Type} {x : Except ExportFault α} {f : α → Except ExportFault β}

/-- A reading ends in a fault that is not told. -/
def Breaks (x : Except ExportFault α) : Prop :=
  ∃ fault, x = .error fault ∧ Command.isTold (.badExport fault) = false

@[simp] lemma breaks_error (fault : ExportFault) :
    Breaks (.error fault : Except ExportFault α) ↔ Command.isTold (.badExport fault) = false := by
  simp [Breaks]

@[simp] lemma not_breaks_ok (a : α) : ¬Breaks (.ok a) := by
  simp [Breaks]

lemma breaks_bind : Breaks (x >>= f) ↔ Breaks x ∨ ∃ a, x = .ok a ∧ Breaks (f a) := by
  cases x with
  | error fault => simp [bind, Except.bind]
  | ok a => simp [bind, Except.bind]

/-- A reading gives a result just where something is orderly, and it breaks just where something is
broken. Elsewhere it ends in a fault that is told. -/
structure Reads (x : Except ExportFault α) (orderly broken : Prop) : Prop where
  succeeds_iff : (∃ a, x = .ok a) ↔ orderly
  breaks_iff : Breaks x ↔ broken

namespace Reads

variable {orderly orderly' broken broken' : Prop}

lemma congr (h : Reads x orderly broken) (ho : orderly ↔ orderly') (hb : broken ↔ broken') :
    Reads x orderly' broken' :=
  ⟨h.succeeds_iff.trans ho, h.breaks_iff.trans hb⟩

lemma pure (a : α) : Reads (Pure.pure a) True False :=
  ⟨iff_true_intro ⟨a, rfl⟩, iff_false_intro (not_breaks_ok a)⟩

/-- A second reading that is the same whatever the first gives is reached when that succeeds. -/
lemma bind (h : Reads x orderly broken) (hf : ∀ a, Reads (f a) orderly' broken') :
    Reads (x >>= f) (orderly ∧ orderly') (broken ∨ orderly ∧ broken') := by
  constructor
  · rw [← h.succeeds_iff]
    cases x with
    | error fault => simp [Bind.bind, Except.bind]
    | ok a => simp [Bind.bind, Except.bind, (hf a).succeeds_iff]
  · simp only [breaks_bind, h.breaks_iff, (hf _).breaks_iff, ← h.succeeds_iff, exists_and_right]

/-- A second reading that always succeeds changes nothing. -/
lemma bind_ok (h : Reads x orderly broken) (hf : ∀ a, ∃ b, f a = .ok b) :
    Reads (x >>= f) orderly broken := by
  have hpure : ∀ a, Reads (f a) True False := fun a => by
    obtain ⟨b, hb⟩ := hf a
    rw [hb]
    exact .pure b
  exact (h.bind hpure).congr (Iff.of_eq (and_true _)) (by simp)

lemma map (h : Reads x orderly broken) (g : α → β) : Reads (g <$> x) orderly broken :=
  h.bind_ok fun a => ⟨g a, rfl⟩

end Reads

end

namespace EditorExport

/-! ### Entries -/

/-- A list or an object. -/
def Nested : Json → Prop
  | .arr _ | .obj _ => True
  | _ => False

/-- An entry of data: a name and a value. The name need not be a text. -/
def Entry (entry : Json) : Prop :=
  ∃ name value, items? entry = some [name, value] ∧ ¬Nested name

/-- A value that breaks off the reading of data: one without items, or one with something nested for
a name. Items of another number are an error that is told. -/
def BrokenEntry (entry : Json) : Prop :=
  items? entry = none ∨ ∃ name value, items? entry = some [name, value] ∧ Nested name

lemma mention?_reads (index : Nat) (entry : Json) :
    Reads (mention? index entry) (Entry entry) (BrokenEntry entry) := by
  rw [mention?, Entry, BrokenEntry]
  rcases items? entry with _ | ⟨_ | ⟨name, _ | ⟨value, _ | _⟩⟩⟩
  · constructor <;> simp [Command.isTold]
  · constructor <;> simp [Command.isTold]
  · cases name <;> constructor <;> simp [Command.isTold]
  · cases name <;> constructor <;> simp [Command.isTold, Nested]
  · constructor <;> simp [Command.isTold]

lemma mentions_reads (index : Nat) (entries : List Json) :
    Reads (mentions index entries) (∀ entry ∈ entries, Entry entry)
      (FirstBreak Entry BrokenEntry entries) := by
  induction entries generalizing index with
  | nil => exact (Reads.pure []).congr (by simp) (by simp [not_firstBreak_nil])
  | cons entry entries ih =>
    refine ((mention?_reads index entry).bind fun _ => (ih (index + 1)).bind fun _ =>
      .pure _).congr ?_ ?_
    · simp
    · simp [firstBreak_cons]

/-! ### Data and positions -/

/-- A value with members. -/
def IsObject (value : Json) : Prop :=
  ∃ members, value = .obj members

/-- Data that can be gone through: an object, or a value whose items are entries. -/
def OrderlyData (value : Json) : Prop :=
  IsObject value ∨ ∃ entries, items? value = some entries ∧ ∀ entry ∈ entries, Entry entry

/-- Data that breaks off the reading of its node: no object, and without items or with a broken
entry after orderly ones. -/
def BrokenData (value : Json) : Prop :=
  ¬IsObject value ∧
    ∀ entries, items? value = some entries → FirstBreak Entry BrokenEntry entries

lemma dataMembers_reads (value : Json) :
    Reads (dataMembers value) (OrderlyData value) (BrokenData value) := by
  cases value with
  | obj members =>
    refine (Reads.pure members).congr ?_ ?_
    · simp [OrderlyData, IsObject]
    · simp [BrokenData, IsObject]
  | arr items =>
    refine ((mentions_reads 0 items).map _).congr ?_ ?_
    · simp [OrderlyData, IsObject, items?]
    · simp [BrokenData, IsObject, items?]
  | str s =>
    refine ((mentions_reads 0 _).map _).congr ?_ ?_
    · simp [OrderlyData, IsObject, items?]
    · simp [BrokenData, IsObject, items?]
  | _ =>
    constructor
    · simp [dataMembers, OrderlyData, IsObject, items?]
    · simp [dataMembers, BrokenData, IsObject, items?, Command.isTold]

/-- A position that should say where a node is on an axis and cannot: it is no object and has no
items, or it has the name of the axis among them. -/
def BrokenAxis (axis : Char) (position : Json) : Prop :=
  ¬IsObject position ∧ ∀ items, items? position = some items → .str axis.toString ∈ items

/-- A position that breaks off the reading of its node. -/
def BrokenPosition (position : Json) : Prop :=
  BrokenAxis 'x' position ∨ BrokenAxis 'y' position

lemma text?_eq_some {value : Json} {s : String} : value.text? = some s ↔ value = .str s := by
  cases value <;> simp [Json.text?]

/-- What is wrong with a position is never told. -/
lemma coordinate?_reads (position : Json) (axis : Char) :
    Reads (coordinate? position axis) (¬BrokenAxis axis position) (BrokenAxis axis position) := by
  cases position with
  | obj members => constructor <;> simp [coordinate?, BrokenAxis, IsObject]
  | arr items =>
    rw [coordinate?, BrokenAxis]
    split <;> constructor <;> simp_all [Command.isTold, IsObject, items?, text?_eq_some]
  | str s =>
    rw [coordinate?, BrokenAxis]
    split <;> constructor <;> simp_all [Command.isTold, IsObject, items?]
  | _ => constructor <;> simp [coordinate?, BrokenAxis, IsObject, items?, Command.isTold]

lemma placeOn_reads (position : Json) (axis : Char) (data : Members) :
    Reads (placeOn position axis data) (¬BrokenAxis axis position) (BrokenAxis axis position) := by
  refine (coordinate?_reads position axis).bind_ok fun coordinate => ?_
  cases coordinate with
  | some value => exact ⟨_, rfl⟩
  | none =>
    by_cases hdata : (data.get? axis.toString).isSome = true
    · exact ⟨_, if_pos hdata⟩
    · exact ⟨_, if_neg hdata⟩

/-! ### Nodes -/

/-- A node of a mode does not say that it is of another type. -/
def OfMode (mode : Mode) (node : Members) : Prop :=
  ∀ type, node.get? "type" = some type → type = .str (nodeType mode)

/-- A node that can be read: an object that is of another type, or whose data are orderly and whose
position is not broken. -/
def OrderlyNode (mode : Mode) (value : Json) : Prop :=
  ∃ node, value = .obj node ∧ (OfMode mode node →
    (∀ data, filled? node "data" = some data → OrderlyData data) ∧
      ∀ position, filled? node "position" = some position → ¬BrokenPosition position)

/-- A node that breaks off the reading of its export: it is no object, or it is of the mode and has
broken data, or a broken position beside orderly data. -/
def BrokenNode (mode : Mode) (value : Json) : Prop :=
  ¬IsObject value ∨ ∃ node, value = .obj node ∧ OfMode mode node ∧
    ((∃ data, filled? node "data" = some data ∧ BrokenData data) ∨
      (∀ data, filled? node "data" = some data → OrderlyData data) ∧
        ∃ position, filled? node "position" = some position ∧ BrokenPosition position)

lemma filledData_reads (node : Members) :
    Reads ((filled? node "data").elim (.ok []) dataMembers)
      (∀ data, filled? node "data" = some data → OrderlyData data)
      (∃ data, filled? node "data" = some data ∧ BrokenData data) := by
  cases filled? node "data" with
  | none => exact (Reads.pure []).congr (by simp) (by simp)
  | some data => exact (dataMembers_reads data).congr (by simp) (by simp)

lemma filledPosition_broken {node : Members} :
    BrokenPosition ((filled? node "position").getD (.obj [])) ↔
      ∃ position, filled? node "position" = some position ∧ BrokenPosition position := by
  cases filled? node "position" with
  | none => simp [BrokenPosition, BrokenAxis, IsObject]
  | some position => simp

lemma ofMode_iff {mode : Mode} {node : Members} :
    ((node.get? "type").all fun type => type.text? == some (nodeType mode)) = true ↔
      OfMode mode node := by
  simp [Option.all_eq_true, text?_eq_some, OfMode]

/-- A node is placed on one axis after the other. -/
lemma placed_reads (position : Json) (data : Members) :
    Reads (do
      let data ← placeOn position 'x' data
      let data ← placeOn position 'y' data
      return some (Json.obj data)) (¬BrokenPosition position) (BrokenPosition position) := by
  refine ((placeOn_reads position 'x' data).bind fun data =>
    (placeOn_reads position 'y' data).bind fun data => .pure _).congr ?_ ?_
  · simp [BrokenPosition]
  · by_cases hx : BrokenAxis 'x' position
    · simp [BrokenPosition, hx]
    · simp [BrokenPosition, hx]

lemma payload?_reads (mode : Mode) (value : Json) :
    Reads (payload? mode value) (OrderlyNode mode value) (BrokenNode mode value) := by
  cases value with
  | obj node =>
    rw [payload?]
    split
    · next h =>
      refine ((filledData_reads node).bind fun data => placed_reads _ data).congr ?_ ?_
      · simp [OrderlyNode, ofMode_iff.mp h, filledPosition_broken]
      · simp [BrokenNode, IsObject, ofMode_iff.mp h, filledPosition_broken]
    · next h =>
      refine (Reads.pure none).congr ?_ ?_
      · simp [OrderlyNode, (not_congr ofMode_iff).mp h]
      · simp [BrokenNode, IsObject, (not_congr ofMode_iff).mp h]
  | _ =>
    constructor
    · simp [payload?, OrderlyNode]
    · simp [payload?, BrokenNode, IsObject, Command.isTold]

lemma payloads_reads (mode : Mode) (nodes : List Json) :
    Reads (payloads mode nodes) (∀ node ∈ nodes, OrderlyNode mode node)
      (FirstBreak (OrderlyNode mode) (BrokenNode mode) nodes) := by
  induction nodes with
  | nil => exact (Reads.pure []).congr (by simp) (by simp [not_firstBreak_nil])
  | cons node nodes ih =>
    refine ((payload?_reads mode node).bind fun _ => ih.bind fun _ => .pure _).congr ?_ ?_
    · simp
    · simp [firstBreak_cons]

/-! ### Exports -/

/-- An export whose reading is broken off: its nodes have no items, or one of them is broken and
comes after orderly ones. -/
def BrokenExport (mode : Mode) (document : Members) : Prop :=
  ∃ value, filled? document "nodes" = some value ∧
    ∀ nodes, items? value = some nodes → FirstBreak (OrderlyNode mode) (BrokenNode mode) nodes

lemma unfold_breaks {mode : Mode} {document : Members} :
    Breaks (EditorExport.unfold mode document) ↔ BrokenExport mode document := by
  -- what follows the nodes cannot fail
  have hpayloads : ∀ (nodes : List Json) (g : List Json → Members),
      Breaks (do
        let payloads ← payloads mode nodes
        return g payloads) ↔ FirstBreak (OrderlyNode mode) (BrokenNode mode) nodes :=
    fun nodes _ => ((payloads_reads mode nodes).bind_ok fun _ => ⟨_, rfl⟩).breaks_iff
  rw [EditorExport.unfold, BrokenExport]
  split
  · rw [breaks_bind, nodes]
    simp only [hpayloads]
    rcases filled? document "nodes" with _ | value
    · simp [not_firstBreak_nil]
    · cases hitems : items? value with
      | none => simp [hitems, Command.isTold]
      | some nodes => simp [hitems]
  · next h =>
    have hmissing : document.get? "nodes" = none := by simpa using h
    simp [filled?, hmissing]

end EditorExport

/-! ### Texts -/

/-- A loading that ends in a schema, or in an error that is told and that is not about finding or
decoding the file. -/
def Settles {α : Type} (loaded : Except LoadError α) : Prop :=
  ∀ e, loaded = .error e →
    Command.isTold e = true ∧ (∀ path, e ≠ .notFound path) ∧ e ≠ .undecodable

/-- The fault that breaks off a loading before anything is checked. -/
def exportFault? {α : Type} : Except LoadError α → Option ExportFault
  | .error (.badExport fault) => some fault
  | _ => none

lemma not_settles_of_exportFault? {α : Type} {loaded : Except LoadError α} {fault : ExportFault}
    (h : exportFault? loaded = some fault) (hfault : Command.isTold (.badExport fault) = false) :
    ¬Settles loaded := by
  intro hsettles
  unfold exportFault? at h
  split at h
  · cases h
    exact Bool.false_ne_true (hfault.symm.trans (hsettles _ rfl).1)
  · cases h

section

variable {ε ε' α : Type} (f : ε → ε')

lemma mapError_error (e : ε) : (.error e : Except ε α).mapError f = .error (f e) := rfl

lemma mapError_ok (a : α) : (.ok a : Except ε α).mapError f = .ok a := rfl

end

namespace Document

variable {α : Type} {levels : Nat} {mode : Mode} {check : Members → Checked α}
  {path text : String}

/-- The levels are enough to read the text, and no value in it breaks off the reading of an export.
-/
structure Readable (levels : Nat) (mode : Mode) (path text : String) : Prop where
  shallow : Json.levelsFor (content text) ≤ levels
  unbroken : ∀ members, readMembers levels path text = .ok members →
    ¬EditorExport.BrokenExport mode members

lemma readMembers_eq_tooDeep_iff :
    readMembers levels path text = .error .tooDeep ↔ levels < Json.levelsFor (content text) := by
  rw [← Json.readAll_eq_tooDeep_iff, readMembers]
  cases content text with
  | nil => exact iff_of_false (by rintro ⟨⟩) (by rintro ⟨⟩)
  | cons c content =>
    simp only [Json.readWithin, String.toList_ofList]
    rcases Json.readAll levels (c :: content) with stop | value
    · cases stop <;> simp [mapError_error, Json.Stop.locate]
    · cases value <;> simp [mapError_ok]

/-- Of all that can be wrong with a text by itself, only a nesting that is too deep is not told. -/
lemma readMembers_error {e : LoadError} (h : readMembers levels path text = .error e) :
    (Command.isTold e = true ↔ e ≠ .tooDeep) ∧ (∀ path, e ≠ .notFound path) ∧ e ≠ .undecodable := by
  rw [readMembers] at h
  split at h
  · cases h
    simp [Command.isTold]
  · split at h <;> cases h <;> simp [Command.isTold]

/-- What ends a loading: an error of the text, a value that breaks off the reading of an export, or
issues of the members that the export describes. -/
lemma loadWith_eq_error_iff {e : LoadError} :
    loadWith levels mode check path text = .error e ↔
      readMembers levels path text = .error e ∨
        ∃ members, readMembers levels path text = .ok members ∧
          ((∃ fault, EditorExport.unfold mode members = .error fault ∧ .badExport fault = e) ∨
            ∃ members', EditorExport.unfold mode members = .ok members' ∧
              ∃ issues, (check members').toExcept = .error issues ∧
                .invalid mode path issues = e) := by
  rw [loadWith]
  cases readMembers levels path text with
  | error e' => simp [bind, Except.bind]
  | ok members =>
    cases hunfold : EditorExport.unfold mode members with
    | error fault => simp [bind, Except.bind, hunfold, mapError_error]
    | ok members' =>
      cases hcheck : (check members').toExcept with
      | error issues => simp [bind, Except.bind, hunfold, hcheck, mapError_ok, mapError_error]
      | ok a => simp [bind, Except.bind, hunfold, hcheck, mapError_ok]

lemma loadWith_error {e : LoadError} (h : loadWith levels mode check path text = .error e) :
    (∀ path, e ≠ .notFound path) ∧ e ≠ .undecodable := by
  obtain hmembers | ⟨_, _, ⟨fault, _, rfl⟩ | ⟨_, _, issues, _, rfl⟩⟩ := loadWith_eq_error_iff.mp h
  · exact (readMembers_error hmembers).2
  · simp
  · simp

lemma loadWith_told_iff :
    (∀ e, loadWith levels mode check path text = .error e → Command.isTold e = true) ↔
      Readable levels mode path text := by
  constructor
  · intro h
    constructor
    · by_contra hdeep
      have hmembers : readMembers levels path text = .error .tooDeep :=
        readMembers_eq_tooDeep_iff.mpr (not_le.mp hdeep)
      have htold := h _ (loadWith_eq_error_iff.mpr (.inl hmembers))
      cases htold
    · intro members hmembers hbroken
      obtain ⟨fault, hfault, huntold⟩ := EditorExport.unfold_breaks.mpr hbroken
      have htold := h _ (loadWith_eq_error_iff.mpr
        (.inr ⟨members, hmembers, .inl ⟨fault, hfault, rfl⟩⟩))
      rw [huntold] at htold
      cases htold
  · rintro ⟨hshallow, hunbroken⟩ e h
    obtain hmembers | ⟨members, hmembers, ⟨fault, hfault, rfl⟩ | ⟨_, _, issues, _, rfl⟩⟩ :=
      loadWith_eq_error_iff.mp h
    · refine (readMembers_error hmembers).1.mpr ?_
      rintro rfl
      exact Nat.not_lt_of_le hshallow (readMembers_eq_tooDeep_iff.mp hmembers)
    · have hbreaks := mt EditorExport.unfold_breaks.mp (hunbroken members hmembers)
      by_contra huntold
      exact hbreaks ⟨fault, hfault, Bool.eq_false_of_not_eq_true huntold⟩
    · -- what is checked last is told whatever it is
      rfl

lemma settles_loadWith :
    Settles (loadWith levels mode check path text) ↔ Readable levels mode path text := by
  have htold : Settles (loadWith levels mode check path text) ↔
      ∀ e, loadWith levels mode check path text = .error e → Command.isTold e = true :=
    forall₂_congr fun _ h => and_iff_left (loadWith_error h)
  exact htold.trans loadWith_told_iff

/-- However many levels there are, a text that begins with more brackets than that does not settle,
whatever follows. -/
theorem not_settles_of_brackets {rest : List Char}
    (h : content text = List.replicate (levels + 1) '[' ++ rest) :
    ¬Settles (loadWith levels mode check path text) := by
  rw [settles_loadWith]
  intro hreadable
  have hdeep := Json.lt_levelsFor_brackets levels rest
  rw [← h] at hdeep
  exact Nat.not_lt_of_le hreadable.shallow hdeep

end Document

/-! ### Files -/

namespace Command

variable {α : Type} {w : World} {file text : String}
  {load : (path text : String) → Except LoadError α}

/-- A file is loaded, or the command ends with a message and a failing exit code. -/
def Tells (w : World) (file : String) (load : (path text : String) → Except LoadError α) : Prop :=
  ∀ outcome, loadFile w file load = .error outcome → ∃ message, outcome = .error message

lemma tells_iff (h : w.store.read (.ofText file) = .ok text) :
    Tells w file load ↔
      ∀ e, load (Path.ofText file).text text = .error e → isTold e = true := by
  have hread : readFile w (.ofText file) = .ok text := by
    rw [readFile, h]
  have hload : loadFile w file load = (load (Path.ofText file).text text).mapError fun e =>
      if isTold e then .error e.message else .broken (.load e) := by
    rw [loadFile, hread]
    rfl
  rw [Tells, hload]
  cases load (Path.ofText file).text text with
  | error e =>
    cases htold : isTold e with
    | true =>
      refine iff_of_true (fun outcome h => ⟨e.message, ?_⟩) (by simp [htold])
      simp only [mapError_error, htold, if_true, Except.error.injEq] at h
      exact h.symm
    | false => simp [mapError_error, htold, Outcome.broken, Outcome.error]
  | ok a => simp [mapError_ok]

end Command

/-! ### When all errors are told -/

open Document (Readable)

/-- Loading the text of a file, whichever mode it is of and however many levels are left to the
reader, ends in a schema or in an error about the text that is told, just when the levels are enough
for the text and no value in an export breaks its reading off; and just then a command that loads
the file goes on or ends with a message. -/
theorem load_settles_iff (levels : Nat) {w : World} {file text : String}
    (h : w.store.read (.ofText file) = .ok text) :
    ((Settles (Schema.loadWithin levels (Path.ofText file).text text) ↔
          Readable levels .logical (Path.ofText file).text text) ∧
        (Command.Tells w file (Schema.loadWithin levels) ↔
          Readable levels .logical (Path.ofText file).text text)) ∧
      (Settles (ConceptualSchema.loadWithin levels (Path.ofText file).text text) ↔
          Readable levels .conceptual (Path.ofText file).text text) ∧
        (Command.Tells w file (ConceptualSchema.loadWithin levels) ↔
          Readable levels .conceptual (Path.ofText file).text text) := by
  refine ⟨⟨Document.settles_loadWith, ?_⟩, Document.settles_loadWith, ?_⟩
  · exact (Command.tells_iff h).trans Document.loadWith_told_iff
  · exact (Command.tells_iff h).trans Document.loadWith_told_iff

/-- A world with one file. -/
private def worldWith (text : String) : World where
  environment := ⟨[]⟩
  store := ⟨[(⟨false, 0, ["s.json"]⟩, .file text)]⟩

/-- An export in which an entry of data is too long. -/
private def longEntry : String :=
  "\x7b\"nodes\": [\x7b\"data\": [\"no\", \"yes\"]\x7d]\x7d"

theorem load_settles_iff_longEntry :
    (worldWith longEntry).store.read (.ofText "s.json") = .ok longEntry ∧
      exportFault? (Schema.load "s.json" longEntry) = some (.notPair 1 3) ∧
      Readable Json.nestingLimit .logical "s.json" longEntry ∧
      Command.Tells (worldWith longEntry) "s.json" Schema.load := by
  have hread : (worldWith longEntry).store.read (.ofText "s.json") = .ok longEntry := rfl
  have hpath : (Path.ofText "s.json").text = "s.json" := by decide +kernel
  obtain ⟨⟨hsettles, htells⟩, -⟩ := load_settles_iff Json.nestingLimit hread
  rw [hpath] at hsettles htells
  have hfault : exportFault? (Schema.load "s.json" longEntry) = some (.notPair 1 3) := by
    decide +kernel
  have hreadable : Readable Json.nestingLimit .logical "s.json" longEntry := by
    refine hsettles.mp fun e he => ?_
    have hload : Schema.load "s.json" longEntry = .error e := he
    rw [hload] at hfault
    cases e <;> cases hfault
    exact ⟨rfl, by simp, by simp⟩
  exact ⟨hread, hfault, hreadable, htells.mpr hreadable⟩

/-- Nodes that are a number, and a node that is one, break the loading off. -/
theorem not_settles_numbers :
    exportFault? (Schema.load "s.json" "\x7b\"nodes\": 5\x7d") = some .noItems ∧
      exportFault? (ConceptualSchema.load "s.json" "\x7b\"nodes\": [1]\x7d") = some .notObject ∧
      ¬Settles (Schema.load "s.json" "\x7b\"nodes\": 5\x7d") ∧
      ¬Settles (ConceptualSchema.load "s.json" "\x7b\"nodes\": [1]\x7d") := by
  have hnodes : exportFault? (Schema.load "s.json" "\x7b\"nodes\": 5\x7d") = some .noItems := by
    decide +kernel
  have hnode : exportFault? (ConceptualSchema.load "s.json" "\x7b\"nodes\": [1]\x7d") =
      some .notObject := by
    decide +kernel
  exact ⟨hnodes, hnode, not_settles_of_exportFault? hnodes rfl,
    not_settles_of_exportFault? hnode rfl⟩

end SchemaGraph
