import SchemaGraph.ConceptualSchema
import SchemaGraph.Document.Logical

/-!
# Documents of conceptual schemas

How entities and associations are written in a document, and which documents are accepted. The
rules are those of logical schemas; the kind of an attribute is written as its type.
-/

namespace SchemaGraph

/-! ### Names of members

The members that only entities, attributes and associations have. -/

namespace Member

def kind : MemberName := ⟨"type", "kind"⟩
def dataType : MemberName := ⟨"dataType", "data_type"⟩
def attributes : MemberName := .only "attributes"
def sourceEntity : MemberName := ⟨"sourceEntityId", "source_entity_id"⟩
def targetEntity : MemberName := ⟨"targetEntityId", "target_entity_id"⟩
def role : MemberName := .only "role"
def entities : MemberName := .only "entities"

end Member

/-! ### Attributes -/

/-- The attribute that an object describes. -/
def Attribute.ofMembers (m : Members) : Checked Attribute :=
  Attribute.mk
    <$> m.required Member.id Json.checkText
    <*> m.required Member.name Json.checkText
    <*> m.optional Member.kind .normal Json.checkWord
    <*> m.optional Member.dataType none Json.checkOptionalText

/-- The attribute that a value describes. -/
def Attribute.ofJson : Json → Checked Attribute :=
  Json.checkModel "Attribute" Attribute.ofMembers

/-- The object that describes an attribute. -/
def Attribute.toJson (a : Attribute) : Json :=
  .obj [
    (Member.id.usual, .str a.id),
    (Member.name.usual, .str a.name),
    (Member.kind.usual, .str (spell a.kind)),
    (Member.dataType.usual, .optionalText a.dataType)]

/-! ### Entities -/

/-- The entity that an object describes. -/
def Entity.ofMembers (m : Members) : Checked Entity :=
  Entity.mk
    <$> m.required Member.id Json.checkText
    <*> m.required Member.name Json.checkText
    <*> m.optional Member.attributes [] (Json.checkList Attribute.ofJson)
    <*> m.optional Member.x .zero Json.checkNumber
    <*> m.optional Member.y .zero Json.checkNumber

/-- The entity that a value describes. -/
def Entity.ofJson : Json → Checked Entity :=
  Json.checkModel "Entity" Entity.ofMembers

/-- The object that describes an entity. -/
def Entity.toJson (e : Entity) : Json :=
  .obj [
    (Member.id.usual, .str e.id),
    (Member.name.usual, .str e.name),
    (Member.attributes.usual, .arr (e.attributes.map Attribute.toJson)),
    (Member.x.usual, .float e.x),
    (Member.y.usual, .float e.y)]

/-! ### Associations -/

/-- The association that an object describes. -/
def Association.ofMembers (m : Members) : Checked Association :=
  Association.mk
    <$> m.required Member.id Json.checkText
    <*> m.required Member.sourceEntity Json.checkText
    <*> m.required Member.targetEntity Json.checkText
    <*> m.optional Member.cardinality .oneToMany Json.checkWord
    <*> m.optional Member.sourceOptional false Json.checkFlag
    <*> m.optional Member.targetOptional false Json.checkFlag
    <*> m.optional Member.role "" Json.checkText

/-- The association that a value describes. -/
def Association.ofJson : Json → Checked Association :=
  Json.checkModel "ConceptualRelationship" Association.ofMembers

/-- The object that describes an association. -/
def Association.toJson (a : Association) : Json :=
  .obj [
    (Member.id.usual, .str a.id),
    (Member.sourceEntity.usual, .str a.sourceEntity),
    (Member.targetEntity.usual, .str a.targetEntity),
    (Member.cardinality.usual, .str (spell a.cardinality)),
    (Member.sourceOptional.usual, .bool a.sourceOptional),
    (Member.targetOptional.usual, .bool a.targetOptional),
    (Member.role.usual, .str a.role)]

/-! ### Schemas -/

/-- The conceptual schema that an object describes; missing lists are empty. -/
def ConceptualSchema.ofMembers (m : Members) : Checked ConceptualSchema :=
  ConceptualSchema.mk
    <$> m.optional Member.entities [] (Json.checkList Entity.ofJson)
    <*> m.optional Member.relationships [] (Json.checkList Association.ofJson)

/-- The conceptual schema that a value describes. -/
def ConceptualSchema.ofJson : Json → Checked ConceptualSchema :=
  Json.checkModel "ConceptualSchema" ConceptualSchema.ofMembers

/-- The object that describes a conceptual schema. -/
def ConceptualSchema.toJson (s : ConceptualSchema) : Json :=
  .obj [
    (Member.entities.usual, .arr (s.entities.map Entity.toJson)),
    (Member.relationships.usual, .arr (s.associations.map Association.toJson))]

end SchemaGraph
