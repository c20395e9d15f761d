import SchemaGraph.Document.Conceptual

/-!
# Documents

A document holds a schema of either mode.
-/

namespace SchemaGraph

/-- A schema of either mode. -/
inductive Document
  | logical (schema : Schema)
  | conceptual (schema : ConceptualSchema)
deriving DecidableEq, Repr

namespace Document

/-- The mode of the schema. -/
def mode : Document → Mode
  | .logical _ => .logical
  | .conceptual _ => .conceptual

/-- The object that describes the schema. -/
def toJson : Document → Json
  | .logical s => s.toJson
  | .conceptual s => s.toJson

/-- The schema of a mode that an object describes. -/
def ofMembers : Mode → Members → Checked Document
  | .logical, members => .map .logical (Schema.ofMembers members)
  | .conceptual, members => .map .conceptual (ConceptualSchema.ofMembers members)

end Document

end SchemaGraph
