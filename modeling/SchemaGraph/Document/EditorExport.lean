import SchemaGraph.Json.Value
import SchemaGraph.Vocabulary

/-!
# Editor exports

The diagram editor writes its own documents: a list of nodes, each with the data of one table or
entity and its position on the canvas. An export is recognised by its member `nodes` and is turned
into the members of an ordinary document. The position of a node replaces the coordinates that its
data may still hold.
-/

namespace SchemaGraph

/-- What can be wrong with an export before its tables or entities are looked at. -/
inductive ExportFault
  /-- A value that has no items stands where items are needed. -/
  | noItems
  /-- A node is no object. -/
  | notObject
  /-- An entry of a list of entries does not have exactly a name and a value. -/
  | notPair (index length : Nat)
  /-- A list or an object stands where the name of an entry is needed. -/
  | unusableName
  /-- A position that is no object mentions a coordinate but cannot give it. -/
  | noCoordinate
deriving DecidableEq, Repr

namespace EditorExport

/-- The type of the nodes that hold the tables or entities of a mode. -/
def nodeType : Mode → String
  | .logical => "tableNode"
  | .conceptual => "entityNode"

/-- The member of an ordinary document that holds the tables or entities of a mode. -/
def collection : Mode → String
  | .logical => "tables"
  | .conceptual => "entities"

/-- The member of an export that holds the relationships of a mode. -/
def relationships : Mode → String
  | .logical => "relationships"
  | .conceptual => "conceptualRelationships"

/-- The items of a value: those of a list, the characters of a text, the names of an object. -/
def items? : Json → Option (List Json)
  | .arr items => some items
  | .str s => some (s.toList.map fun c => .str c.toString)
  | .obj members => some (members.map fun m => .str m.1)
  | _ => none

/-- The value of a member, unless it is missing or says nothing. -/
def filled? (members : Members) (name : String) : Option Json :=
  match members.get? name with
  | some value => if value.isVoid then none else some value
  | none => none

/-- An entry as a mention of a member. An entry whose name is no text mentions none. -/
def mention? (index : Nat) (entry : Json) : Except ExportFault (Option (String × Json)) :=
  match items? entry with
  | none => .error .noItems
  | some [.str name, value] => .ok (some (name, value))
  | some [.arr _, _] => .error .unusableName
  | some [.obj _, _] => .error .unusableName
  | some [_, _] => .ok none
  | some items => .error (.notPair index items.length)

/-- The mentions of a list of entries; the first one has the given index. -/
def mentions (index : Nat) : List Json → Except ExportFault (List (String × Json))
  | [] => .ok []
  | entry :: entries => do
    let mention ← mention? index entry
    let others ← mentions (index + 1) entries
    return mention.toList ++ others

/-- The members of the data of a node: those of an object, or those that a list of entries
mentions. -/
def dataMembers : Json → Except ExportFault Members
  | .obj members => .ok members
  | value =>
    match items? value with
    | some entries => Members.ofMentions <$> mentions 0 entries
    | none => .error .noItems

/-- What a position says about an axis, if anything. -/
def coordinate? (position : Json) (axis : Char) : Except ExportFault (Option Json) :=
  match position with
  | .obj members => .ok (Members.get? members axis.toString)
  | .arr items =>
    if items.any fun item => item.text? == some axis.toString then .error .noCoordinate
    else .ok none
  | .str s => if s.contains axis then .error .noCoordinate else .ok none
  | _ => .error .noItems

/-- The data with a coordinate: that of the position, else its own, else zero. -/
def placeOn (position : Json) (axis : Char) (data : Members) : Except ExportFault Members := do
  match ← coordinate? position axis with
  | some value => return data.set axis.toString value
  | none =>
    if (data.get? axis.toString).isSome then return data
    else return data.set axis.toString (.int 0)

/-- The data of a node with its position, unless the node is of another type. -/
def payload? (mode : Mode) : Json → Except ExportFault (Option Json)
  | .obj node =>
    if (Members.get? node "type").all fun type => type.text? == some (nodeType mode) then do
      let data ← (filled? node "data").elim (.ok []) dataMembers
      let position := (filled? node "position").getD (.obj [])
      let data ← placeOn position 'x' data
      let data ← placeOn position 'y' data
      return some (.obj data)
    else return none
  | _ => .error .notObject

/-- The data of the nodes of a mode. -/
def payloads (mode : Mode) : List Json → Except ExportFault (List Json)
  | [] => .ok []
  | node :: nodes => do
    let payload ← payload? mode node
    let others ← payloads mode nodes
    return payload.toList ++ others

/-- The nodes of an export. -/
def nodes (document : Members) : Except ExportFault (List Json) :=
  match filled? document "nodes" with
  | none => .ok []
  | some value =>
    match items? value with
    | some nodes => .ok nodes
    | none => .error .noItems

/-- The members of the ordinary document that an export stands for; other documents stand for
themselves. -/
def unfold (mode : Mode) (document : Members) : Except ExportFault Members :=
  if (document.get? "nodes").isSome then do
    let payloads ← payloads mode (← nodes document)
    return [
      (collection mode, .arr payloads),
      ("relationships", (filled? document (relationships mode)).getD (.arr []))]
  else .ok document

end EditorExport

end SchemaGraph
