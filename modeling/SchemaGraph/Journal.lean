import SchemaGraph.Vocabulary

/-!
# The journal

Every operation can tell what it did. Operations are plain functions; what they tell is a list of
records computed beside them, in the order in which things happen.
-/

namespace SchemaGraph

/-- How important a record is. -/
inductive LogLevel
  | debug
  | info
  | warning
  | error
  | critical
deriving DecidableEq, Repr

instance : Vocabulary LogLevel where
  words := [.debug, .info, .warning, .error, .critical]
  spell
    | .debug => "DEBUG"
    | .info => "INFO"
    | .warning => "WARNING"
    | .error => "ERROR"
    | .critical => "CRITICAL"

/-- The part of the library that a record comes from. -/
inductive Channel
  | keys
  | resolver
  | junction
  | dialects
  | script
  | modes
  | analysis
  | remedies
  | connections
deriving DecidableEq, Repr

/-- The name of a channel. -/
def Channel.name : Channel → String
  | .keys => "schemabuilder.compile.keys"
  | .resolver => "schemabuilder.compile.resolver"
  | .junction => "schemabuilder.compile.junction"
  | .dialects => "schemabuilder.compile.dialects"
  | .script => "schemabuilder.compile.ddl"
  | .modes => "schemabuilder.convert.modes"
  | .analysis => "schemabuilder.advisory.engine"
  | .remedies => "schemabuilder.advisory.remediation"
  | .connections => "schemabuilder.editing.connect"

/-- Something that an operation tells. -/
structure Record where
  level : LogLevel
  channel : Channel
  text : String
deriving DecidableEq, Repr

end SchemaGraph
