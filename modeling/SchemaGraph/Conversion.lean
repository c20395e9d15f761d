import SchemaGraph.Document.Basic
import SchemaGraph.Journal

/-!
# Conversion between modes

Tables become entities and entities become tables. Ids, names, positions and the types of columns
survive; of the key flags only being a key does, and of a relationship its actions and columns are
lost: on the way back it is bound to the anchors of its entities.
-/

namespace SchemaGraph

/-! ### From tables to entities -/

/-- The attribute of a column. -/
def Column.toAttribute (c : Column) : Attribute where
  id := c.id
  name := c.name
  kind := if c.primaryKey then .primary else .normal
  dataType := some c.type

/-- The entity of a table. -/
def Table.toEntity (t : Table) : Entity where
  id := t.id
  name := t.name
  attributes := t.columns.map Column.toAttribute
  x := t.x
  y := t.y

/-- The association of a relationship. -/
def Relationship.toAssociation (r : Relationship) : Association where
  id := r.id
  sourceEntity := r.sourceTable
  targetEntity := r.targetTable
  cardinality := r.cardinality
  sourceOptional := r.sourceOptional
  targetOptional := r.targetOptional
  role := ""

/-- The conceptual schema of a logical one. -/
def Schema.toConceptual (s : Schema) : ConceptualSchema where
  entities := s.tables.map Table.toEntity
  associations := s.relationships.map Relationship.toAssociation

/-! ### From entities to tables -/

/-- The type of the column of an attribute: the one it kept, or else a default. -/
def Attribute.columnType (a : Attribute) : String :=
  match a.dataType with
  | some type => if type.isEmpty then fallback else type
  | none => fallback
where
  fallback : String := if a.kind = .primary then "INTEGER" else "TEXT"

/-- The column of an attribute. Primary attributes become counting keys; the other kinds all become
ordinary columns. -/
def Attribute.toColumn (a : Attribute) : Column where
  id := a.id
  name := a.name
  type := a.columnType
  primaryKey := a.kind == .primary
  nullable := a.kind != .primary
  unique := a.kind == .primary
  autoIncrement := a.kind == .primary
  isForeignKey := false
  referencesTable := none
  referencesColumn := none

/-- The table of an entity. -/
def Entity.toTable (e : Entity) : Table where
  id := e.id
  name := e.name
  columns := e.attributes.map Attribute.toColumn
  x := e.x
  y := e.y

/-- The id of the attribute that relationships are bound to: the first primary one, or else the
first one at all. -/
def Entity.anchor (e : Entity) : String :=
  match e.primaryAttribute?.or e.attributes.head? with
  | some a => a.id
  | none => ""

/-- The relationship of an association between two entities. -/
def Association.toRelationship (a : Association) (source target : Entity)
    (onDelete onUpdate : ReferentialAction) : Relationship where
  id := a.id
  sourceTable := source.id
  sourceColumn := source.anchor
  targetTable := target.id
  targetColumn := target.anchor
  cardinality := a.cardinality
  sourceOptional := a.sourceOptional
  targetOptional := a.targetOptional
  onDelete
  onUpdate

namespace ConceptualSchema

/-- The two entities of an association. -/
def ends? (s : ConceptualSchema) (a : Association) : Option (Entity × Entity) :=
  match s.index.get? a.sourceEntity, s.index.get? a.targetEntity with
  | some source, some target => some (source, target)
  | _, _ => none

/-- The relationship of an association, unless one of its entities is unknown. -/
def relationship? (s : ConceptualSchema) (onDelete onUpdate : ReferentialAction)
    (a : Association) : Option Relationship :=
  (s.ends? a).map fun e => a.toRelationship e.1 e.2 onDelete onUpdate

/-- The logical schema of a conceptual one. -/
def toLogical (s : ConceptualSchema) (onDelete onUpdate : ReferentialAction) : Schema where
  tables := s.entities.map Entity.toTable
  relationships := s.associations.filterMap (s.relationship? onDelete onUpdate)

end ConceptualSchema

/-! ### Any mode -/

namespace Document

/-- The schema in logical mode, converted with cascading actions if need be. -/
def asLogical : Document → Schema
  | .logical s => s
  | .conceptual s => s.toLogical .cascade .cascade

/-- The schema in conceptual mode, converted if need be. -/
def asConceptual : Document → ConceptualSchema
  | .logical s => s.toConceptual
  | .conceptual s => s

end Document

/-! ### Conversion with given actions -/

/-- The referential actions of converted relationships as a caller gives them; the default is to
cascade. -/
structure ActionRequest where
  onDelete : Json
  onUpdate : Json

namespace ActionRequest

/-- The actions of a request that names none. -/
def default : ActionRequest :=
  ⟨.str (spell ReferentialAction.cascade), .str (spell ReferentialAction.cascade)⟩

/-- Checks the two actions. -/
def check (r : ActionRequest) : Checked (ReferentialAction × ReferentialAction) :=
  Prod.mk
    <$> (Json.checkWord r.onDelete).within (.member Member.onDelete.other)
    <*> (Json.checkWord r.onUpdate).within (.member Member.onUpdate.other)

end ActionRequest

/-- The logical schema of a conceptual one with the actions of a request. The request is looked at
only if some relationship is converted. -/
def ConceptualSchema.toLogicalWith (s : ConceptualSchema) (r : ActionRequest) : Checked Schema :=
  if s.associations.any fun a => (s.ends? a).isSome then
    .map (fun actions => s.toLogical actions.1 actions.2) r.check
  else .valid (s.toLogical .cascade .cascade)

/-! ### Records -/

/-- What the conversion of a logical schema tells. -/
def Schema.toConceptualRecords (s : Schema) : List Record :=
  [⟨.debug, .modes, "Converted " ++ toString s.tables.length ++ " table(s) to entities"⟩]

namespace ConceptualSchema

/-- What the conversion of an association tells: that it is dropped. -/
def droppedRecord (a : Association) : Record :=
  ⟨.debug, .modes, "Conceptual relationship " ++ a.id ++ ": unknown entity, dropped"⟩

/-- What the conversion of a conceptual schema tells. -/
def toLogicalRecords (s : ConceptualSchema) : List Record :=
  (s.associations.filter fun a => (s.ends? a).isNone).map droppedRecord ++
    [⟨.debug, .modes, "Converted " ++ toString s.entities.length ++ " entities to tables"⟩]

/-- What a conversion with a request tells: if the request is refused, only what is dropped before
the first converted relationship. -/
def toLogicalWithRecords (s : ConceptualSchema) (r : ActionRequest) : List Record :=
  match s.toLogicalWith r with
  | .valid _ => s.toLogicalRecords
  | .invalid _ =>
    (s.associations.takeWhile fun a => (s.ends? a).isNone).map droppedRecord

end ConceptualSchema

end SchemaGraph
