import SchemaGraph.Advice.Remedy
import SchemaGraph.Proofs.Drawing

/-!
# Runs of edits

A logical schema is edited by requests of many kinds: it is resolved, tables are connected and
deleted, junctions are materialized, remedies are applied, and the mode is switched there and back.
A request that is refused leaves the schema as it is. `Schema.edit_edited` is the inversion of a
single edit: whatever was asked for, the schema has changed in one of seven ways. A property that
each of these ways keeps holds after every run of edits (`Schema.editAll_keeps`).
-/

namespace SchemaGraph

/-- Conversion with given actions is conversion with some actions, if it is not refused. -/
lemma ConceptualSchema.exists_eq_toLogical {c : ConceptualSchema} {actions : ActionRequest}
    {s : Schema} (h : c.toLogicalWith actions = .valid s) :
    ∃ onDelete onUpdate, s = c.toLogical onDelete onUpdate := by
  rw [toLogicalWith] at h
  split at h
  · obtain ⟨a, -, rfl⟩ := Checked.map_eq_valid_iff.mp h
    exact ⟨a.1, a.2, rfl⟩
  · cases h
    exact ⟨.cascade, .cascade, rfl⟩

/-! ### Requests -/

/-- A request to change a logical schema, with all that its caller can choose. -/
inductive Edit
  | resolve (naming : Naming)
  | connect (settings : Settings) (fresh : String) (request : Connection)
  | materialize (naming : Naming) (choice : JunctionChoice)
  | deleteTable (table : String)
  | remedy (naming : Naming) (kind : String) (params : Members)
  | switchModes (actions : ActionRequest)

namespace Schema

/-- The schema after an edit. -/
def edit (s : Schema) : Edit → Schema
  | .resolve naming => s.resolve naming
  | .connect settings fresh request =>
    match s.connect settings fresh request with
    | .ok (some s') => s'
    | _ => s
  | .materialize naming choice =>
    match s.materialize naming choice with
    | .ok s' => s'
    | .error _ => s
  | .deleteTable table => s.deleteTable table
  | .remedy naming kind params =>
    match (Document.logical s).applyRequest naming kind params with
    | .ok outcome => (outcome.result (.logical s)).asLogical
    | .error _ => s
  | .switchModes actions =>
    match s.toConceptual.toLogicalWith actions with
    | .valid s' => s'
    | .invalid _ => s

/-- The schema after some edits, one after the other. -/
def editAll (s : Schema) (edits : List Edit) : Schema :=
  edits.foldl edit s

/-! ### What an edit can do -/

/-- The ways in which an edit can change a schema, with what the change rests on. -/
inductive Edited (s : Schema) : Schema → Prop
  | unchanged : Edited s s
  | resolved (naming : Naming) : Edited s (s.resolve naming)
  | linked (naming : Naming) (r : Relationship) (source : s.hasTable r.sourceTable = true)
      (target : s.hasTable r.targetTable = true) : Edited s (s.linked naming r)
  | joined (naming : Naming) (r : Relationship) (e : JunctionEnds)
      (ends : s.junctionEnds r = .ok e) : Edited s (s.withJunction naming r e)
  | deleted (table : String) : Edited s (s.deleteTable table)
  | keyed (table : String) : Edited s (s.addPrimaryKey table)
  | converted (onDelete onUpdate : ReferentialAction) :
      Edited s (s.toConceptual.toLogical onDelete onUpdate)

variable {s s' : Schema} {naming : Naming}

lemma edited_of_link? {r : Relationship} (h : s.link? naming r = some s') : s.Edited s' := by
  rw [link?] at h
  split at h
  · next hends =>
    rw [Bool.and_eq_true] at hends
    cases h
    exact .linked naming r hends.1 hends.2
  · cases h

lemma edited_of_connect {settings : Settings} {fresh : String} {request : Connection}
    (h : s.connect settings fresh request = .ok (some s')) : s.Edited s' := by
  unfold connect at h
  cases hends : request.endsExist s with
  | error e =>
    rw [hends] at h
    cases h
  | ok exist =>
    rw [hends] at h
    cases exist with
    | false => cases h
    | true =>
      cases hcheck : request.check settings fresh with
      | valid r =>
        rw [hcheck] at h
        exact edited_of_link? (Except.ok.inj h)
      | invalid issues =>
        rw [hcheck] at h
        cases h

/-- A relationship is replaced just when it is the chosen one, its junction has two ends, and no
table has the name of the junction. -/
lemma materialize_eq_ok_iff {choice : JunctionChoice} :
    s.materialize naming choice = .ok s' ↔
      ∃ r e, s.choose? choice = some r ∧ s.junctionEnds r = .ok e ∧
        (∀ t ∈ s.tables, t.name ≠ e.source.name ++ "_" ++ e.target.name) ∧
        s' = s.withJunction naming r e := by
  constructor
  · intro h
    rw [materialize] at h
    split at h
    · cases h
    · next r hr =>
      split at h
      · cases h
      · next e hends =>
        simp only at h
        split at h
        · cases h
        · next hfree =>
          cases h
          exact ⟨r, e, hr, hends, by simpa using hfree, rfl⟩
  · rintro ⟨r, e, hr, hends, hfree, rfl⟩
    have hunnamed : s.tables.any (·.name == e.source.name ++ "_" ++ e.target.name) = false := by
      simpa using hfree
    simp [materialize, hr, hends, hunnamed]

/-- A relationship that is replaced is the chosen one, and its junction has two ends. -/
lemma exists_of_materialize {choice : JunctionChoice}
    (h : s.materialize naming choice = .ok s') :
    ∃ r e, s.choose? choice = some r ∧ s.junctionEnds r = .ok e ∧
      s' = s.withJunction naming r e := by
  obtain ⟨r, e, hr, hends, -, hs'⟩ := materialize_eq_ok_iff.mp h
  exact ⟨r, e, hr, hends, hs'⟩

lemma edited_of_materialize {choice : JunctionChoice}
    (h : s.materialize naming choice = .ok s') : s.Edited s' := by
  obtain ⟨r, e, -, hends, rfl⟩ := exists_of_materialize h
  exact .joined naming r e hends

lemma edited_of_junctionOutcome (naming : Naming) (s : Schema) (choice : JunctionChoice) :
    s.Edited ((s.junctionOutcome naming choice).result (.logical s)).asLogical := by
  rw [junctionOutcome]
  split
  · exact .unchanged
  · next result hresult =>
    split
    · exact .unchanged
    · exact edited_of_materialize hresult

lemma edited_of_keyOutcome (s : Schema) (table : Option String) :
    s.Edited ((s.keyOutcome table).result (.logical s)).asLogical := by
  rw [keyOutcome]
  split
  · exact .unchanged
  · split
    · exact .unchanged
    · exact .keyed _

lemma edited_of_apply {remedy : Remedy} {outcome : Outcome}
    (h : (Document.logical s).apply naming remedy = .ok outcome) :
    s.Edited (outcome.result (.logical s)).asLogical := by
  cases remedy with
  | createJunctionTable relationship source target =>
    cases h
    exact edited_of_junctionOutcome naming s _
  | addPrimaryKey table =>
    cases table with
    | none => cases h
    | some value =>
      cases h
      exact edited_of_keyOutcome s _
  | renameDuplicateColumns | addIndex | checkLength | addPrimaryAttribute =>
    cases h
    exact .unchanged

/-- Whatever is asked for, the schema changes in one of the known ways. -/
theorem edit_edited (s : Schema) (e : Edit) : s.Edited (s.edit e) := by
  cases e with
  | resolve naming => exact .resolved naming
  | connect settings fresh request =>
    simp only [edit]
    split
    · next hs' => exact edited_of_connect hs'
    · exact .unchanged
  | materialize naming choice =>
    simp only [edit]
    split
    · next hs' => exact edited_of_materialize hs'
    · exact .unchanged
  | deleteTable table => exact .deleted table
  | remedy naming kind params =>
    simp only [edit, Document.applyRequest]
    cases Remedy.ofRequest? kind params with
    | none => exact .unchanged
    | some remedy =>
      simp only
      split
      · next houtcome => exact edited_of_apply houtcome
      · exact .unchanged
  | switchModes actions =>
    simp only [edit]
    split
    · next hs' =>
      obtain ⟨onDelete, onUpdate, rfl⟩ := ConceptualSchema.exists_eq_toLogical hs'
      exact .converted onDelete onUpdate
    · exact .unchanged

/-- What every single change keeps, every run of edits keeps. -/
theorem editAll_keeps {P : Schema → Prop} (step : ∀ s s' : Schema, s.Edited s' → P s → P s')
    (edits : List Edit) (h : P s) : P (s.editAll edits) := by
  induction edits generalizing s with
  | nil => exact h
  | cons e es ih => exact ih (step s (s.edit e) (s.edit_edited e) h)

end Schema

end SchemaGraph
