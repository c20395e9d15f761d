import SchemaGraph.Dictionary
import SchemaGraph.Number.Double
import SchemaGraph.Vocabulary

/-!
# Conceptual schemas

A conceptual schema describes the same domain before tables: entities with attributes, and
associations between whole entities. As in a logical schema, lookups take the first match.
-/

namespace SchemaGraph

/-- An attribute of an entity. The data type is kept only for a later conversion to columns. -/
structure Attribute where
  id : String
  name : String
  kind : AttributeKind
  dataType : Option String
deriving DecidableEq, Repr

/-- An entity and its position on the canvas. -/
structure Entity where
  id : String
  name : String
  attributes : List Attribute
  x : Double
  y : Double
deriving DecidableEq, Repr

/-- The first primary attribute. -/
def Entity.primaryAttribute? (e : Entity) : Option Attribute :=
  e.attributes.find? (·.kind == .primary)

/-- An association between two entities. -/
structure Association where
  id : String
  sourceEntity : String
  targetEntity : String
  cardinality : Cardinality
  sourceOptional : Bool
  targetOptional : Bool
  role : String
deriving DecidableEq, Repr

/-- Entities and the associations between them. -/
structure ConceptualSchema where
  entities : List Entity
  associations : List Association
deriving DecidableEq, Repr

namespace ConceptualSchema

/-- The first entity with an id. -/
def entity? (s : ConceptualSchema) (id : String) : Option Entity :=
  s.entities.find? (·.id == id)

/-- The entities under their ids. They are set one after the other from the last one on, so of
several entities with one id the first counts. -/
def index (s : ConceptualSchema) : Dictionary Entity :=
  .ofLast (s.entities.reverse.map fun e => (e.id, e))

@[simp] theorem get?_index (s : ConceptualSchema) (id : String) :
    s.index.get? id = s.entity? id := by
  rw [index, Dictionary.get?_ofLast, List.map_reverse, List.reverse_reverse,
    Dictionary.lookup_map_entry, entity?]

end ConceptualSchema

end SchemaGraph
