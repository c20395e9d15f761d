import SchemaGraph.Document.File
import SchemaGraph.Proofs.JsonText
import SchemaGraph.Proofs.KeyFlags

/-!
# Saved schemas load back

The file that a schema is saved to describes that schema (`load_save`). Loading undoes the saving
layer by layer: the encoding, the line breaks and the blanks around the text, then the text of the
object, then the objects of the tables, columns and relationships. Making the key flags of a column
consistent comes last and changes nothing where they are consistent already.
-/

namespace SchemaGraph

/-! ### Line breaks -/

lemma plainLineBreaks_of_return_not_mem {text : List Char} (h : '\r' ∉ text) :
    plainLineBreaks text = text := by
  fun_induction plainLineBreaks text with
  | case1 => rfl
  | case2 => exact absurd List.mem_cons_self h
  | case3 => exact absurd List.mem_cons_self h
  | case4 c rest _ _ ih => rw [ih fun hmem => h (List.mem_cons_of_mem _ hmem)]

lemma AllDigits.return_not_mem {digits : List Char} (h : AllDigits digits) : '\r' ∉ digits :=
  fun hmem => by cases h _ hmem

lemma DecimalStyle.Writes.return_not_mem {style : DecimalStyle} {text : List Char} {d : Decimal}
    (h : style.Writes text d) : '\r' ∉ text := by
  obtain ⟨⟨whole, fraction, exponent⟩, hp, rfl, -⟩ := h
  have hwhole := hp.whole_digits.return_not_mem
  have hfraction : '\r' ∉ (if fraction.isEmpty then [] else '.' :: fraction) := by
    have := hp.fraction_digits.return_not_mem
    split_ifs <;> simp_all
  have hexponent : '\r' ∉ exponent.elim [] style.exponentText := by
    cases exponent with
    | none => exact List.not_mem_nil
    | some power =>
      have hpadded := (Json.padded_digits style.exponentWidth power.natAbs).1.return_not_mem
      simp only [Option.elim_some, exponentText]
      split_ifs <;> simp [hpadded]
  simp only [NumberParts.tail, List.mem_append, not_or]
  exact ⟨hwhole, hfraction, hexponent⟩

namespace Json

lemma return_not_mem_sign (negative : Bool) : '\r' ∉ sign negative := by
  cases negative <;> decide

lemma return_not_mem_lineBreak (level : Nat) : '\r' ∉ lineBreak level := by
  simp [lineBreak]

lemma return_not_mem_escape (c : Char) : '\r' ∉ escape c := by
  unfold escape
  split
  case h_8 _ _ _ hreturn _ _ _ =>
    split_ifs
    · have hdigit (n : Nat) : '\r' ≠ n.digitChar := (Nat.digitChar_ne '\r' (by decide)).symm
      simp [hdigit]
    · simpa using Ne.symm hreturn
  all_goals decide

lemma return_not_mem_writeText (s : String) : '\r' ∉ writeText s := by
  simp [writeText, return_not_mem_escape]

lemma return_not_mem_writeItems {level : Nat} {items : List Json}
    (h : ∀ v ∈ items, '\r' ∉ v.writeAt level) : '\r' ∉ writeItems level items := by
  induction items with
  | nil => exact List.not_mem_nil
  | cons item items ih =>
    have hitem := h item List.mem_cons_self
    have hitems := ih fun v hv => h v (List.mem_cons_of_mem _ hv)
    simp [writeItems, return_not_mem_lineBreak, hitem, hitems]

lemma return_not_mem_writeMembers {level : Nat} {members : Members}
    (h : ∀ m ∈ members, '\r' ∉ m.2.writeAt level) : '\r' ∉ writeMembers level members := by
  induction members with
  | nil => exact List.not_mem_nil
  | cons m members ih =>
    have hm := h m List.mem_cons_self
    have hmembers := ih fun m hm => h m (List.mem_cons_of_mem _ hm)
    simp [writeMembers, return_not_mem_lineBreak, return_not_mem_writeText, hm, hmembers]

lemma Writable.return_not_mem {levels : Nat} {v : Json} (h : v.Writable levels) (level : Nat) :
    '\r' ∉ v.writeAt level := by
  induction h generalizing level with
  | null => simp [writeAt]
  | bool b => cases b <;> simp [writeAt]
  | @int _ i _ =>
    rw [writeAt, toList_toString_int, List.mem_append, not_or]
    exact ⟨return_not_mem_sign _, (allDigits_toDigits _).return_not_mem⟩
  | float negative rank =>
    obtain ⟨text, d, htext, hwrites, -⟩ := exists_writes_writeDouble negative rank
    rw [writeAt, htext, List.mem_append, not_or]
    exact ⟨return_not_mem_sign _, hwrites.return_not_mem⟩
  | str s => exact return_not_mem_writeText s
  | @arr _ items _ ih =>
    cases items with
    | nil => simp [writeAt]
    | cons item items =>
      have hitem := ih item List.mem_cons_self (level + 1)
      have hitems := return_not_mem_writeItems fun v hv =>
        ih v (List.mem_cons_of_mem _ hv) (level + 1)
      simp [writeAt, return_not_mem_lineBreak, hitem, hitems]
  | @obj _ members _ _ ih =>
    rcases members with _ | ⟨⟨name, value⟩, members⟩
    · simp [writeAt]
    · have hvalue := ih (name, value) List.mem_cons_self (level + 1)
      have hmembers := return_not_mem_writeMembers fun m hm =>
        ih m (List.mem_cons_of_mem _ hm) (level + 1)
      simp [writeAt, return_not_mem_lineBreak, return_not_mem_writeText, hvalue, hmembers]

end Json

/-! ### Files -/

lemma trim_of_ends {p : Char → Bool} {first last : Char} (hfirst : p first = false)
    (hlast : p last = false) (inner : List Char) :
    trim p (first :: (inner ++ [last])) = first :: (inner ++ [last]) := by
  simp [trim, trimEnd, hfirst, hlast]

lemma Json.exists_writeAt_obj (level : Nat) (members : Members) :
    ∃ inner, (Json.obj members).writeAt level = '{' :: (inner ++ ['}']) := by
  rcases members with _ | ⟨⟨name, value⟩, members⟩
  · exact ⟨[], rfl⟩
  · exact ⟨_, rfl⟩

/-- The text of an object is found again in a file, as neither line breaks nor blanks at the ends
are touched. -/
lemma Document.readMembers_write {levels : Nat} (path : String) {members : Members}
    (h : (Json.obj members).Writable levels) :
    Document.readMembers levels path (Json.obj members).write = .ok members := by
  have hbreaks := plainLineBreaks_of_return_not_mem (h.return_not_mem 0)
  have hread := Json.read_write h
  obtain ⟨inner, hinner⟩ := Json.exists_writeAt_obj 0 members
  have htrim : trim isBlank ((Json.obj members).writeAt 0) = (Json.obj members).writeAt 0 := by
    rw [hinner]
    exact trim_of_ends (by decide) (by decide) inner
  have hcontent : content (Json.obj members).write = (Json.obj members).writeAt 0 := by
    rw [content, Json.write, String.toList_ofList, hbreaks, htrim]
  unfold Document.readMembers
  rw [hcontent]
  split
  · next hempty =>
    rw [hinner] at hempty
    cases hempty
  · rw [← Json.write, hread]

/-- A file loads as whatever the members that its object stands for describe. -/
lemma Document.loadWith_eq {α : Type} {levels : Nat} {mode : Mode} {check : Members → Checked α}
    {path text : String} {members unfolded : Members}
    (hread : readMembers levels path text = .ok members)
    (hunfold : EditorExport.unfold mode members = .ok unfolded) :
    loadWith levels mode check path text =
      (check unfolded).toExcept.mapError (.invalid mode path) := by
  rw [loadWith, hread]
  show ((EditorExport.unfold mode members).mapError LoadError.badExport >>= _) = _
  rw [hunfold]
  rfl

lemma Document.loadWith_eq_ok {α : Type} {levels : Nat} {mode : Mode}
    {check : Members → Checked α} {path text : String} {members unfolded : Members} {a : α}
    (hread : readMembers levels path text = .ok members)
    (hunfold : EditorExport.unfold mode members = .ok unfolded)
    (hcheck : check unfolded = .valid a) : loadWith levels mode check path text = .ok a := by
  rw [loadWith_eq hread hunfold, hcheck]
  rfl

/-- A file with the object of a document loads as whatever the object describes. -/
lemma Document.loadWith_write {α : Type} {levels : Nat} {mode : Mode}
    {check : Members → Checked α} (path : String) {members : Members} {a : α}
    (h : (Json.obj members).Writable levels) (hplain : Members.get? members "nodes" = none)
    (hcheck : check members = .valid a) :
    Document.loadWith levels mode check path (Json.obj members).write = .ok a := by
  have hunfold : EditorExport.unfold mode members = .ok members := by
    simp [EditorExport.unfold, hplain]
  exact loadWith_eq_ok (readMembers_write path h) hunfold hcheck

lemma decodeBytes_toUTF8_bind {α : Type} (text : String) (f : String → Except LoadError α) :
    (decodeBytes text.toUTF8 >>= f) = f text := by
  have hdecode : String.fromUTF8? text.toUTF8 = some text := dif_pos text.isValidUTF8
  rw [decodeBytes, hdecode]
  rfl

/-! ### Documents -/

namespace Json

variable {α : Type} {check : Json → Checked α} {write : α → Json} {levels : Nat}

lemma checkItems_map (index : Nat) {values : List α}
    (h : ∀ a ∈ values, check (write a) = .valid a) :
    checkItems check index (values.map write) = .valid values := by
  induction values generalizing index with
  | nil => rfl
  | cons a values ih =>
    rw [List.map_cons, checkItems, h a List.mem_cons_self,
      ih (index + 1) fun a ha => h a (List.mem_cons_of_mem _ ha)]
    rfl

lemma checkList_map (values : List α) (h : ∀ a ∈ values, check (write a) = .valid a) :
    checkList check (.arr (values.map write)) = .valid values :=
  checkItems_map 0 h

lemma checkWord_spell {α : Type} [Vocabulary α] (word : α) :
    checkWord (.str (spell word)) = .valid word := by
  simp [checkWord, text?]

lemma checkOptionalText_optionalText (s : Option String) :
    checkOptionalText (optionalText s) = .valid s := by
  cases s <;> rfl

lemma writable_map (values : List α) (h : ∀ a ∈ values, (write a).Writable levels) :
    (arr (values.map write)).Writable (levels + 1) := by
  refine .arr fun v hv => ?_
  obtain ⟨a, ha, rfl⟩ := List.mem_map.mp hv
  exact h a ha

lemma writable_float {x : Double} (h : x.isFinite = true) : (float x).Writable levels := by
  cases x with
  | finite negative rank => exact .float negative rank
  | _ => cases h

lemma writable_optionalText (s : Option String) : (optionalText s).Writable levels := by
  cases s
  · exact .null
  · exact .str _

end Json

namespace Column

lemma ofJson_toJson {c : Column} (h : c.Normalized) : ofJson c.toJson = .valid c := by
  have hread : ofJson c.toJson = .valid c.normalize := by
    simp [ofJson, toJson, Json.checkModel, ofMembers, Members.required, Members.optional,
      Members.find?, Members.get?_cons, Member.id, Member.name, Member.type, Member.primaryKey,
      Member.nullable, Member.unique, Member.autoIncrement, Member.isForeignKey,
      Member.referencesTable, Member.referencesColumn, MemberName.only, Json.checkText,
      Json.checkFlag, Json.checkOptionalText_optionalText, Checked.map]
  rw [hread, normalized_iff.mp h]

lemma writable_toJson (c : Column) (levels : Nat) : c.toJson.Writable (levels + 1) := by
  refine .obj (by simp only [List.map_cons, List.map_nil]; decide) ?_
  simp [Json.Writable.str, Json.Writable.bool, Json.writable_optionalText]

end Column

namespace Table

/-- Both coordinates of a table are finite. -/
def Positioned (t : Table) : Prop :=
  t.x.isFinite = true ∧ t.y.isFinite = true

lemma ofJson_toJson {t : Table} (h : t.Normalized) : ofJson t.toJson = .valid t := by
  have hcolumns := Json.checkList_map t.columns fun c hc => Column.ofJson_toJson (h c hc)
  simp [ofJson, toJson, Json.checkModel, ofMembers, Members.required, Members.optional,
    Members.find?, Members.get?_cons, Member.id, Member.name, Member.columns, Member.x, Member.y,
    MemberName.only, Json.checkText, Json.checkNumber, hcolumns]

lemma writable_toJson {t : Table} (h : t.Positioned) (levels : Nat) :
    t.toJson.Writable (levels + 3) := by
  refine .obj (by simp only [List.map_cons, List.map_nil]; decide) ?_
  have hcolumns := Json.writable_map t.columns fun c _ => c.writable_toJson levels
  simp [Json.Writable.str, Json.writable_float h.1, Json.writable_float h.2, hcolumns]

end Table

namespace Relationship

lemma ofJson_toJson (r : Relationship) : ofJson r.toJson = .valid r := by
  simp [ofJson, toJson, Json.checkModel, ofMembers, Members.required, Members.optional,
    Members.find?, Members.get?_cons, Member.id, Member.sourceTable, Member.sourceColumn,
    Member.targetTable, Member.targetColumn, Member.cardinality, Member.sourceOptional,
    Member.targetOptional, Member.onDelete, Member.onUpdate, MemberName.only, Json.checkText,
    Json.checkFlag, Json.checkWord_spell]

lemma writable_toJson (r : Relationship) (levels : Nat) : r.toJson.Writable (levels + 1) := by
  refine .obj (by simp only [List.map_cons, List.map_nil]; decide) ?_
  simp [Json.Writable.str, Json.Writable.bool]

end Relationship

namespace Schema

/-- The coordinates of all tables are finite. -/
def Positioned (s : Schema) : Prop :=
  ∀ t ∈ s.tables, t.Positioned

lemma ofJson_toJson {s : Schema} (h : s.Normalized) : ofJson s.toJson = .valid s := by
  have htables := Json.checkList_map s.tables fun t ht => Table.ofJson_toJson (h t ht)
  have hrelationships := Json.checkList_map s.relationships
    fun r _ => r.ofJson_toJson
  simp [ofJson, toJson, Json.checkModel, ofMembers, Members.optional, Members.find?,
    Members.get?_cons, Member.tables, Member.relationships, MemberName.only, htables,
    hrelationships]

lemma writable_toJson {s : Schema} (h : s.Positioned) (levels : Nat) :
    s.toJson.Writable (levels + 5) := by
  refine .obj (by simp only [List.map_cons, List.map_nil]; decide) ?_
  have htables := Json.writable_map s.tables fun t ht => t.writable_toJson (h t ht) levels
  have hrelationships := Json.writable_map s.relationships
    fun r _ => r.writable_toJson (levels + 2)
  simp [htables, hrelationships]

/-- A schema is nested five levels deep. -/
lemma loadWithin_saved {s : Schema} (hpositioned : s.Positioned) (hnormalized : s.Normalized)
    (levels : Nat) (path : String) :
    Schema.loadWithin (levels + 5) path (Document.logical s).save = .ok s :=
  Document.loadWith_write path (writable_toJson hpositioned levels) rfl
    (ofJson_toJson hnormalized)

end Schema

/-! ### Conceptual schemas -/

namespace Attribute

lemma ofJson_toJson (a : Attribute) : ofJson a.toJson = .valid a := by
  simp [ofJson, toJson, Json.checkModel, ofMembers, Members.required, Members.optional,
    Members.find?, Members.get?_cons, Member.id, Member.name, Member.kind, Member.dataType,
    MemberName.only, Json.checkText, Json.checkWord_spell, Json.checkOptionalText_optionalText]

lemma writable_toJson (a : Attribute) (levels : Nat) : a.toJson.Writable (levels + 1) := by
  refine .obj (by simp only [List.map_cons, List.map_nil]; decide) ?_
  simp [Json.Writable.str, Json.writable_optionalText]

end Attribute

namespace Entity

/-- Both coordinates of an entity are finite. -/
def Positioned (e : Entity) : Prop :=
  e.x.isFinite = true ∧ e.y.isFinite = true

lemma ofJson_toJson (e : Entity) : ofJson e.toJson = .valid e := by
  have hattributes := Json.checkList_map e.attributes fun a _ => a.ofJson_toJson
  simp [ofJson, toJson, Json.checkModel, ofMembers, Members.required, Members.optional,
    Members.find?, Members.get?_cons, Member.id, Member.name, Member.attributes, Member.x, Member.y,
    MemberName.only, Json.checkText, Json.checkNumber, hattributes]

lemma writable_toJson {e : Entity} (h : e.Positioned) (levels : Nat) :
    e.toJson.Writable (levels + 3) := by
  refine .obj (by simp only [List.map_cons, List.map_nil]; decide) ?_
  have hattributes := Json.writable_map e.attributes fun a _ => a.writable_toJson levels
  simp [Json.Writable.str, Json.writable_float h.1, Json.writable_float h.2, hattributes]

end Entity

namespace Association

lemma ofJson_toJson (a : Association) : ofJson a.toJson = .valid a := by
  simp [ofJson, toJson, Json.checkModel, ofMembers, Members.required, Members.optional,
    Members.find?, Members.get?_cons, Member.id, Member.sourceEntity, Member.targetEntity,
    Member.cardinality, Member.sourceOptional, Member.targetOptional, Member.role, MemberName.only,
    Json.checkText, Json.checkFlag, Json.checkWord_spell]

lemma writable_toJson (a : Association) (levels : Nat) : a.toJson.Writable (levels + 1) := by
  refine .obj (by simp only [List.map_cons, List.map_nil]; decide) ?_
  simp [Json.Writable.str, Json.Writable.bool]

end Association

namespace ConceptualSchema

/-- The coordinates of all entities are finite. -/
def Positioned (s : ConceptualSchema) : Prop :=
  ∀ e ∈ s.entities, e.Positioned

lemma ofJson_toJson (s : ConceptualSchema) : ofJson s.toJson = .valid s := by
  have hentities := Json.checkList_map s.entities fun e _ => e.ofJson_toJson
  have hassociations := Json.checkList_map s.associations fun a _ => a.ofJson_toJson
  simp [ofJson, toJson, Json.checkModel, ofMembers, Members.optional, Members.find?,
    Members.get?_cons, Member.entities, Member.relationships, MemberName.only, hentities,
    hassociations]

lemma writable_toJson {s : ConceptualSchema} (h : s.Positioned) (levels : Nat) :
    s.toJson.Writable (levels + 5) := by
  refine .obj (by simp only [List.map_cons, List.map_nil]; decide) ?_
  have hentities := Json.writable_map s.entities fun e he => e.writable_toJson (h e he) levels
  have hassociations := Json.writable_map s.associations
    fun a _ => a.writable_toJson (levels + 2)
  simp [hentities, hassociations]

lemma loadWithin_saved {s : ConceptualSchema} (hpositioned : s.Positioned) (levels : Nat)
    (path : String) :
    ConceptualSchema.loadWithin (levels + 5) path (Document.conceptual s).save = .ok s :=
  Document.loadWith_write path (writable_toJson hpositioned levels) rfl s.ofJson_toJson

end ConceptualSchema

/-! ### Loading what was saved -/

/-- Whatever path it is loaded from, the file of a schema holds that schema: of a logical one whose
key flags are consistent and of any conceptual one, if no position is without a number. -/
theorem load_save (path : String) :
    (∀ s : Schema, s.Positioned → s.Normalized →
      (decodeBytes (Document.logical s).save.toUTF8 >>= Schema.load path) = .ok s) ∧
    (∀ s : ConceptualSchema, s.Positioned →
      (decodeBytes (Document.conceptual s).save.toUTF8 >>= ConceptualSchema.load path) =
        .ok s) := by
  constructor
  · intro s hpositioned hnormalized
    rw [decodeBytes_toUTF8_bind]
    exact Schema.loadWithin_saved hpositioned hnormalized 988 path
  · intro s hpositioned
    rw [decodeBytes_toUTF8_bind]
    exact ConceptualSchema.loadWithin_saved hpositioned 988 path

/-- Names with quotes, backslashes, control characters, foreign line breaks and blanks at their
ends, and coordinates of every layout. -/
private def awkward : Schema where
  tables := [
    ⟨"\" ", "\\\n\r\n", [
      ⟨"\x00", "\x1f\u2028", " \t", true, false, true, true, false, none, some ""⟩,
      ⟨"", "\u0085é😀", "TEXT", false, true, false, false, true, some "\x0c\x08/", none⟩],
      .ofDecimal true ⟨0, 0⟩, .ofDecimal false ⟨5, -324⟩⟩,
    ⟨"\" ", "", [], .ofDecimal true ⟨17976931348623157, 292⟩, .ofDecimal false ⟨1, -1⟩⟩]
  relationships := [
    ⟨"r", "a", "", "b", "\u00a0", .manyToMany, true, false, .setNull, .noAction⟩]

private def blankEntity : ConceptualSchema where
  entities := [⟨" ", "\r", [⟨"", "\n", .multivalued, none⟩], .ofDecimal false ⟨15, -1⟩, .zero⟩]
  associations := [⟨"", " ", "x", .oneToOne, false, true, "\\u0041"⟩]

theorem load_save_awkward :
    (awkward.Positioned ∧ awkward.Normalized ∧ blankEntity.Positioned) ∧
      (decodeBytes (Document.logical awkward).save.toUTF8 >>= Schema.load "a.json") = .ok awkward ∧
      (decodeBytes (Document.conceptual blankEntity).save.toUTF8 >>=
        ConceptualSchema.load "b.json") = .ok blankEntity := by
  have hpositioned : awkward.Positioned := by
    show ∀ t ∈ awkward.tables, t.x.isFinite = true ∧ t.y.isFinite = true
    decide +kernel
  have hnormalized : awkward.Normalized := by
    show ∀ t ∈ awkward.tables, ∀ c ∈ t.columns, c.Normalized
    decide
  have hentity : blankEntity.Positioned := by
    show ∀ e ∈ blankEntity.entities, e.x.isFinite = true ∧ e.y.isFinite = true
    decide +kernel
  exact ⟨⟨hpositioned, hnormalized, hentity⟩,
    (load_save "a.json").1 awkward hpositioned hnormalized,
    (load_save "b.json").2 blankEntity hentity⟩

end SchemaGraph
