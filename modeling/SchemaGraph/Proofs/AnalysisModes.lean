import SchemaGraph.Proofs.Findings
import SchemaGraph.Proofs.ModeSwitch

/-!
# The same findings in both modes

A schema can be analyzed in either mode; one of the two analyses looks at what the schema is
converted into. `Document.analyze_agree` says that they find the same keys missing, and the same
many-to-many relationships, in the same order. The conversion of a conceptual schema may drop
associations, but only such as join an unknown entity, and of those no analysis tells.
-/

namespace SchemaGraph

/-! ### Findings of both modes -/

/-- A finding about an entity without a primary attribute and one about a table without a key, of
one id and one name. -/
structure MissingKeyTwins (f g : Finding) : Prop where
  sameId : ∃ id, f.id = "conc-nopk-" ++ id ∧ g.id = "val-nopk-" ++ id
  sameName : ∃ name,
    f.description = "Entity \"" ++ name ++ "\" has no primary key attribute." ∧
    g.description = "Table \"" ++ name ++ "\" has no primary key."

/-- A finding about a many-to-many association and one about a relationship, of one id and between
two ends of the same names. -/
structure ManyToManyTwins (f g : Finding) : Prop where
  sameId : ∃ id, f.id = "conc-nm-" ++ id ∧ g.id = "rec-nm-" ++ id
  sameNames : ∃ source target,
    f.description = "The relationship between \"" ++ source ++ "\" and \"" ++ target ++
      "\" is N:M. Converting to a logical schema will require a junction table." ∧
    g.description = "The relationship between \"" ++ source ++ "\" and \"" ++ target ++
      "\" is N:M. A junction table is recommended."

lemma missingKeyTwins {e : Entity} {t : Table} (hid : e.id = t.id) (hname : e.name = t.name) :
    MissingKeyTwins e.missingKeyFinding t.missingKeyFinding where
  sameId := ⟨t.id, by rw [Entity.missingKeyFinding, hid], rfl⟩
  sameName := ⟨t.name, by rw [Entity.missingKeyFinding, hname], rfl⟩

/-- An association and a relationship of one id and one cardinality, whose ends have the same names,
are both reported or neither is. -/
lemma rel_manyToManyFinding? {c : ConceptualSchema} {s : Schema} {a : Association}
    {r : Relationship} (hid : a.id = r.id) (hcardinality : a.cardinality = r.cardinality)
    (hsource : (c.entity? a.sourceEntity).map (·.name) = (s.table? r.sourceTable).map (·.name))
    (htarget : (c.entity? a.targetEntity).map (·.name) = (s.table? r.targetTable).map (·.name)) :
    Option.Rel ManyToManyTwins (c.manyToManyFinding? a) (s.manyToManyFinding? r) := by
  rw [ConceptualSchema.manyToManyFinding?, Schema.manyToManyFinding?, Relationship.isManyToMany,
    hcardinality]
  by_cases hmany : r.cardinality = .manyToMany
  · cases hs : s.table? r.sourceTable with
    | none =>
      have he : c.entity? a.sourceEntity = none := by simpa [hs] using hsource
      simp [hmany, he]
    | some source =>
      obtain ⟨e, he, hname⟩ : ∃ e, c.entity? a.sourceEntity = some e ∧ e.name = source.name := by
        simpa [hs] using hsource
      cases ht : s.table? r.targetTable with
      | none =>
        have he' : c.entity? a.targetEntity = none := by simpa [ht] using htarget
        simp [hmany, he, he']
      | some target =>
        obtain ⟨e', he', hname'⟩ :
            ∃ e', c.entity? a.targetEntity = some e' ∧ e'.name = target.name := by
          simpa [ht] using htarget
        simp only [hmany, he, he', hname, hname', hid]
        exact .some ⟨⟨r.id, rfl, rfl⟩, source.name, target.name, rfl, rfl⟩
  · simp [hmany]

/-! ### Reports on conceptual schemas -/

namespace ConceptualSchema

variable {c : ConceptualSchema} {a : Association} {f : Finding}

lemma kind_of_manyToManyFinding? (h : c.manyToManyFinding? a = some f) :
    f.kind = .manyToMany := by
  rw [manyToManyFinding?] at h
  split at h
  · cases h
  · split at h
    · cases h
      rfl
    · cases h

lemma ofKind_noPrimaryKey (c : ConceptualSchema) :
    c.analyze.ofKind .noPrimaryKey =
      (c.entities.filter (·.primaryAttribute?.isNone)).map Entity.missingKeyFinding := by
  have hkind (e : Entity) : e.missingKeyFinding.kind = .noPrimaryKey := rfl
  simp [Report.ofKind, Report.findings, analyze, filter_kind_map hkind,
    filter_kind_filterMap fun _ _ h => kind_of_manyToManyFinding? h]

lemma ofKind_manyToMany (c : ConceptualSchema) :
    c.analyze.ofKind .manyToMany = c.associations.filterMap c.manyToManyFinding? := by
  have hkind (e : Entity) : e.missingKeyFinding.kind = .noPrimaryKey := rfl
  simp [Report.ofKind, Report.findings, analyze, filter_kind_map hkind,
    filter_kind_filterMap fun _ _ h => kind_of_manyToManyFinding? h]

end ConceptualSchema

/-! ### Logical schemas -/

namespace Schema

lemma missingKeys_toConceptual (s : Schema) :
    List.Forall₂ MissingKeyTwins (s.toConceptual.analyze.ofKind .noPrimaryKey)
      (s.analyze.ofKind .noPrimaryKey) := by
  have hkeys : (fun e : Entity => e.primaryAttribute?.isNone) ∘ Table.toEntity =
      (·.primaryKey?.isNone) := by
    funext t
    simp [Table.primaryAttribute?_toEntity]
  rw [ConceptualSchema.ofKind_noPrimaryKey, ofKind_noPrimaryKey, toConceptual, List.filter_map,
    hkeys, List.map_map]
  apply forall₂_map_map
  intro t _
  exact missingKeyTwins rfl rfl

lemma manyToMany_toConceptual (s : Schema) :
    List.Forall₂ ManyToManyTwins (s.toConceptual.analyze.ofKind .manyToMany)
      (s.analyze.ofKind .manyToMany) := by
  have hassociations : s.toConceptual.associations =
      s.relationships.map Relationship.toAssociation := rfl
  rw [ConceptualSchema.ofKind_manyToMany, ofKind_manyToMany, hassociations, List.filterMap_map]
  apply forall₂_filterMap
  intro r _
  apply rel_manyToManyFinding?
  · rfl
  · rfl
  · rw [entity?_toConceptual, Option.map_map]
    rfl
  · rw [entity?_toConceptual, Option.map_map]
    rfl

end Schema

/-! ### Conceptual schemas -/

namespace ConceptualSchema

variable {c : ConceptualSchema} {onDelete onUpdate : ReferentialAction}

lemma missingKeys_toLogical (c : ConceptualSchema) :
    List.Forall₂ MissingKeyTwins (c.analyze.ofKind .noPrimaryKey)
      ((c.toLogical onDelete onUpdate).analyze.ofKind .noPrimaryKey) := by
  have hkeys : (fun t : Table => t.primaryKey?.isNone) ∘ Entity.toTable =
      (·.primaryAttribute?.isNone) := by
    funext e
    simp [Entity.primaryKey?_toTable]
  rw [ofKind_noPrimaryKey, Schema.ofKind_noPrimaryKey, toLogical, List.filter_map, hkeys,
    List.map_map]
  apply forall₂_map_map
  intro t _
  exact missingKeyTwins rfl rfl

/-- The table of a known entity has its name. -/
lemma name_table?_toLogical {id : String} {e : Entity} (h : c.entity? id = some e) :
    (c.entity? id).map (·.name) =
      ((c.toLogical onDelete onUpdate).table? e.id).map (·.name) := by
  have hid : e.id = id := by simpa using List.find?_some h
  rw [table?_toLogical, hid, h]
  rfl

/-- An association that is reported is converted, and so it is reported as a relationship. -/
lemma rel_bind_relationship? (c : ConceptualSchema) (onDelete onUpdate : ReferentialAction)
    (a : Association) :
    Option.Rel ManyToManyTwins (c.manyToManyFinding? a)
      ((c.relationship? onDelete onUpdate a).bind
        (c.toLogical onDelete onUpdate).manyToManyFinding?) := by
  cases hs : c.entity? a.sourceEntity with
  | none => simp [manyToManyFinding?, relationship?, ends?, hs]
  | some source =>
    cases ht : c.entity? a.targetEntity with
    | none => simp [manyToManyFinding?, relationship?, ends?, hs, ht]
    | some target =>
      have hconverted : c.relationship? onDelete onUpdate a =
          some (a.toRelationship source target onDelete onUpdate) := by
        simp [relationship?, ends?, hs, ht]
      rw [hconverted, Option.bind_some]
      apply rel_manyToManyFinding?
      · rfl
      · rfl
      · exact name_table?_toLogical hs
      · exact name_table?_toLogical ht

lemma manyToMany_toLogical (c : ConceptualSchema) :
    List.Forall₂ ManyToManyTwins (c.analyze.ofKind .manyToMany)
      ((c.toLogical onDelete onUpdate).analyze.ofKind .manyToMany) := by
  have hrelationships : (c.toLogical onDelete onUpdate).relationships =
      c.associations.filterMap (c.relationship? onDelete onUpdate) := rfl
  rw [ofKind_manyToMany, Schema.ofKind_manyToMany, hrelationships, List.filterMap_filterMap]
  apply forall₂_filterMap
  intro a _
  exact c.rel_bind_relationship? onDelete onUpdate a

end ConceptualSchema

/-- In both modes an analysis finds the same tables or entities without a key, and the same
many-to-many relationships or associations, in the same order. -/
theorem Document.analyze_agree (d : Document) :
    List.Forall₂ MissingKeyTwins ((d.analyze .conceptual).ofKind .noPrimaryKey)
      ((d.analyze .logical).ofKind .noPrimaryKey) ∧
    List.Forall₂ ManyToManyTwins ((d.analyze .conceptual).ofKind .manyToMany)
      ((d.analyze .logical).ofKind .manyToMany) := by
  cases d with
  | logical s => exact ⟨s.missingKeys_toConceptual, s.manyToMany_toConceptual⟩
  | conceptual c => exact ⟨c.missingKeys_toLogical, c.manyToMany_toLogical⟩

/-- Two entities of one id, of which the first has no primary attribute, and two associations; the
conversion drops the one to an unknown entity. -/
private def halfKnown : ConceptualSchema where
  entities := [⟨"e", "E", [⟨"k", "key", .normal, none⟩], .zero, .zero⟩,
    ⟨"e", "F", [⟨"l", "key", .primary, some "TEXT"⟩], .zero, .zero⟩]
  associations := [
    ⟨"s1", "e", "unknown", .manyToMany, false, false, ""⟩,
    ⟨"s2", "e", "e", .manyToMany, true, false, "knows"⟩]

example :
    (((Document.conceptual halfKnown).analyze .conceptual).ofKind .manyToMany).map (·.id) =
      ["conc-nm-s2"] ∧
    (((Document.conceptual halfKnown).analyze .logical).ofKind .manyToMany).map (·.id) =
      ["rec-nm-s2"] := by
  decide +kernel

end SchemaGraph
