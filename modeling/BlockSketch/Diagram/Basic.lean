import BlockSketch.Value.Number
import BlockSketch.Value.Written

/-!
# BlockSketch.Diagram.Basic

Diagrams: blocks placed on a canvas and the links between their ports.
-/

namespace BlockSketch

/-- A block placed on a canvas. -/
structure Node where
  uid : Text
  type : Value
  x : Float := 0.0
  y : Float := 0.0
  params : List (Text × Value) := []
deriving Inhabited, DecidableEq

/-- A link from a port of one block to a port of another. -/
structure Link where
  fromUid : Text
  fromPort : Text
  toUid : Text
  toPort : Text
deriving Inhabited, DecidableEq, Repr

structure Diagram where
  nodes : List Node := []
  links : List Link := []
deriving Inhabited, DecidableEq

namespace Node

def toDocument (n : Node) : Value :=
  .dict [("uid", .text n.uid), ("type_id", n.type), ("x", .float n.x), ("y", .float n.y),
    ("params", .dict n.params)]

/-- The dictionary under a key; anything else counts as an empty one. -/
def dictOr (fs : Fields) (key : Text) : Fields := (fs.opt key).asDict?.getD []

/-- A block from a document. -/
def ofFields (fs : Fields) : Outcome Node := do
  let x ← (fs.get "x" (.float 0.0)).toFloat
  let y ← (fs.get "y" (.float 0.0)).toFloat
  return {
    uid := (fs.get "uid" (.text "")).shown
    type := .text (fs.get "type_id" (.text "")).shown
    x, y
    params := dictOr fs "params" }

end Node

namespace Link

/-- The text that names a link. -/
def key (l : Link) : Text :=
  l.fromUid ++ ":" ++ l.fromPort ++ "->" ++ l.toUid ++ ":" ++ l.toPort

/-- Whether a link touches a block. -/
def touches (l : Link) (uid : Text) : Bool := l.fromUid == uid || l.toUid == uid

def toDocument (l : Link) : Value :=
  .dict [("from_uid", .text l.fromUid), ("from_port", .text l.fromPort),
    ("to_uid", .text l.toUid), ("to_port", .text l.toPort)]

/-- The plain text of a field, empty when it is absent. -/
def shownOr (fs : Fields) (key : Text) : Text := (fs.get key (.text "")).shown

/-- A link from a document, whose ends are either fields of the link or dictionaries of their
own. -/
def ofFields (fs : Fields) : Link :=
  if Assoc.has fs "from_uid" || Assoc.has fs "to_uid" then
    ⟨shownOr fs "from_uid", shownOr fs "from_port", shownOr fs "to_uid", shownOr fs "to_port"⟩
  else
    let source := Node.dictOr fs "from"
    let target := Node.dictOr fs "to"
    ⟨shownOr source "block_uid", shownOr source "port", shownOr target "block_uid",
      shownOr target "port"⟩

/-- A link from any value; what is no dictionary counts as an empty one. -/
def ofValue (v : Value) : Link := ofFields (v.asDict?.getD [])

end Link

namespace Diagram

def addNode (d : Diagram) (n : Node) : Diagram := { d with nodes := d.nodes ++ [n] }

/-- Remove the blocks of an identifier and the links that touch it. -/
def removeNode (d : Diagram) (uid : Text) : Diagram :=
  { nodes := d.nodes.filter fun n => n.uid ≠ uid, links := d.links.filter fun l => !l.touches uid }

def addLink (d : Diagram) (l : Link) : Diagram := { d with links := d.links ++ [l] }

/-- Remove every copy of a link. -/
def removeLink (d : Diagram) (l : Link) : Diagram :=
  { d with links := d.links.filter fun other => other ≠ l }

/-- The links that touch a block. -/
def linksOf (d : Diagram) (uid : Text) : List Link := d.links.filter fun l => l.touches uid

/-- Set a parameter of the first block. -/
def setFirstParam (d : Diagram) (key : Text) (v : Value) : Diagram :=
  match d.nodes with
  | n :: rest => { d with nodes := { n with params := Assoc.put n.params key v } :: rest }
  | [] => d

def toDocument (d : Diagram) : Value :=
  .dict [("blocks", .list (d.nodes.map Node.toDocument)),
    ("connections", .list (d.links.map Link.toDocument))]

/-- The dictionaries among the items of a field. -/
def dictItems (fs : Fields) (key : Text) : Outcome (List Fields) := do
  return (← (fs.get key (.list [])).items).filterMap Value.asDict?

/-- A diagram from a document; what is no dictionary gives an empty diagram. -/
def ofDocument (v : Value) : Outcome Diagram :=
  match v with
  | .dict fs => do
    let nodes ← (← dictItems fs "blocks").mapM Node.ofFields
    let links := (← dictItems fs "connections").map Link.ofFields
    return ⟨nodes, links⟩
  | _ => .ok {}

end Diagram

end BlockSketch
