import SchemaGraph.ForeignKey.Placement

/-!
# Resolution of foreign keys

Resolving a schema adds the foreign key column that each relationship calls for, one relationship
after the other. A column is added only where no column of its name stands yet, so nothing is added
twice.
-/

namespace SchemaGraph

/-! ### The resolver -/

/-- The places of ids; of several places of one id the first counts. -/
def firstPlaces (ids : List String) : Dictionary Nat :=
  .ofFirst ids.zipIdx

/-- The state of a resolution between two relationships: the tables as they are now, the index that
relationships are placed in, where the first table of each id stands, and how many columns have been
added. -/
structure Resolver where
  tables : List Table
  index : Dictionary Table
  places : Dictionary Nat
  added : Nat
deriving DecidableEq, Repr

namespace Resolver

/-- The state before the first relationship. -/
def start (tables : List Table) : Resolver :=
  ⟨tables, indexTables tables, firstPlaces (tables.map (·.id)), 0⟩

/-- The state with a table that has changed, in its place and in the index. -/
def update (w : Resolver) (place : Nat) (t : Table) : Resolver :=
  { w with
    tables := w.tables.set place t
    index := w.index.set t.id t
    added := w.added + 1 }

/-- The state after the turn of a relationship. The table that takes the column is found by its
id. -/
def step (naming : Naming) (w : Resolver) (r : Relationship) : Resolver :=
  match r.placeIn naming w.index with
  | .error _ => w
  | .ok p =>
    match w.index.get? p.holder.id, w.places.get? p.holder.id with
    | some destination, some place =>
      if destination.hasColumnNamed p.columnName then w
      else w.update place (destination.append p.column)
    | _, _ => w

/-- The state after the turns of some relationships, in their order. -/
def run (naming : Naming) (w : Resolver) (rs : List Relationship) : Resolver :=
  rs.foldl (step naming) w

@[simp] theorem run_nil (naming : Naming) (w : Resolver) : w.run naming [] = w := rfl

@[simp] theorem run_cons (naming : Naming) (w : Resolver) (r : Relationship)
    (rs : List Relationship) : w.run naming (r :: rs) = (w.step naming r).run naming rs := rfl

/-- What the placement of each of some relationships tells, in their order. -/
def records (naming : Naming) (w : Resolver) : List Relationship → List Record
  | [] => []
  | r :: rs => r.placeRecords naming w.index ++ records naming (w.step naming r) rs

end Resolver

namespace Schema

/-- The schema with the foreign key columns of all its relationships. -/
def resolve (naming : Naming) (s : Schema) : Schema :=
  { s with tables := ((Resolver.start s.tables).run naming s.relationships).tables }

@[simp] theorem resolve_relationships (naming : Naming) (s : Schema) :
    (s.resolve naming).relationships = s.relationships := rfl

/-- What the resolution of a schema tells. -/
def resolveRecords (naming : Naming) (s : Schema) : List Record :=
  let start := Resolver.start s.tables
  start.records naming s.relationships ++ [⟨.debug, .resolver,
    "Resolved " ++ toString s.relationships.length ++ " relationship(s), added " ++
      toString (start.run naming s.relationships).added ++ " FK column(s)"⟩]

end Schema

/-! ### A single foreign key -/

/-- What happens to a relationship when its turn comes. -/
inductive Resolution
  /-- It cannot be placed. -/
  | skipped (gap : PlacementGap)
  /-- A column of the name is there already. -/
  | present (placement : Placement)
  /-- The column is added. -/
  | added (placement : Placement)
deriving DecidableEq, Repr

namespace Schema

/-- What happens to a relationship at the present state of the tables. -/
def resolution (s : Schema) (naming : Naming) (r : Relationship) : Resolution :=
  match s.place naming r with
  | .error gap => .skipped gap
  | .ok p => if p.holder.hasColumnNamed p.columnName then .present p else .added p

/-- The schema with the foreign key column of a relationship, if it calls for one. -/
def addForeignKey (naming : Naming) (s : Schema) (r : Relationship) : Schema :=
  match s.resolution naming r with
  | .added p => s.modifyTable p.holder.id (·.append p.column)
  | _ => s

@[simp] theorem addForeignKey_relationships (naming : Naming) (s : Schema) (r : Relationship) :
    (s.addForeignKey naming r).relationships = s.relationships := by
  unfold addForeignKey
  split <;> rfl

end Schema

end SchemaGraph
