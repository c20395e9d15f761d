import SchemaGraph.ForeignKey.Resolution
import SchemaGraph.Junction
import SchemaGraph.Sql.Statement

/-!
# SQL scripts

The script of a schema creates a junction table for each many-to-many relationship, then every table
with its foreign key columns, and then adds a foreign key for each other relationship. What cannot
be built is left out; every schema has a script.
-/

namespace SchemaGraph

namespace Schema

/-- The many-to-many relationships. -/
def manyToMany (s : Schema) : List Relationship :=
  s.relationships.filter (·.isManyToMany)

/-- The relationships that foreign keys keep. -/
def others (s : Schema) : List Relationship :=
  s.relationships.filter (!·.isManyToMany)

/-- The junction tables of the script. -/
def junctions (s : Schema) (naming : Naming) : List Table :=
  s.manyToMany.filterMap fun r => (s.synthesize naming r).toOption

/-- The schema whose tables the script creates: the foreign keys of the other relationships are
resolved. -/
def prepared (s : Schema) (naming : Naming) : Schema :=
  resolve naming { s with relationships := s.others }

/-- The foreign keys that the script adds. -/
def placements (s : Schema) (naming : Naming) : List Placement :=
  s.others.filterMap fun r => ((s.prepared naming).place naming r).toOption

/-- The statements of the script. -/
def statements (s : Schema) (d : Dialect) (naming : Naming) (generatedAt : String) :
    List Statement :=
  .header d.name generatedAt ::
    (s.junctions naming).map (·.createJunction d) ++
    (s.prepared naming).tables.map (·.create d) ++
    (s.placements naming).map (·.statement)

/-- The script of a schema in a dialect. -/
def script (s : Schema) (d : Dialect) (naming : Naming) (generatedAt : String) : String :=
  "\n\n".intercalate ((s.statements d naming generatedAt).map (·.render)) ++ "\n"

/-! ### Records -/

/-- What the writing of a script tells. -/
def scriptRecords (s : Schema) (d : Dialect) (naming : Naming) : List Record :=
  let prepared := s.prepared naming
  s.manyToMany.flatMap s.synthesizeRecords ++
    resolveRecords naming { s with relationships := s.others } ++
    s.others.flatMap (prepared.placeRecords naming) ++
    [⟨.info, .script, "Generated " ++ spell d.name ++ " DDL: " ++
      toString (s.junctions naming).length ++ " junction table(s), " ++
      toString prepared.tables.length ++ " table(s), " ++
      toString (s.placements naming).length ++ " foreign key(s)"⟩]

end Schema

end SchemaGraph
