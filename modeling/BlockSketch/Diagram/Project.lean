import BlockSketch.Diagram.Basic
import BlockSketch.Json.Content
import BlockSketch.Json.Writer
import BlockSketch.Value.Table

/-!
# BlockSketch.Diagram.Project

Project files: a diagram with the board and the port it is meant for.  Opening a
file replaces former block identifiers by the ones now in use.
-/

namespace BlockSketch

/-- The content of a project file. -/
structure Project where
  diagram : Diagram := {}
  board : Value := .null
  port : Value := .null
deriving Inhabited, DecidableEq

/-- A former identifier that was replaced. -/
structure Replacement where
  former : Text
  current : Value
deriving DecidableEq

/-- The line that reports a replacement. -/
def Replacement.message (r : Replacement) : Text :=
  "[RoboLab] Блок " ++ r.former ++ " заменён на " ++ r.current.shown ++ " (совместимость)"

namespace Project

/-- The identifiers now in use, by the former ones. -/
def aliasesOf : Value → Outcome Fields
  | .null => .ok []
  | v => do return (← Value.Table.ofValue v).fields

/-- Check a list of the identifiers that are known, which may be absent. -/
def checkKnown : Value → Outcome Unit
  | .null => .ok ()
  | v => do (← v.items).forM fun id => do let _ ← id.asKey

def currentType (aliases : Fields) (type : Text) : Value := aliases.get type (.text type)

/-- The block that a node of a file describes, `none` for a node without a type. -/
def readNode (aliases : Fields) (fs : Fields) : Outcome (Option Node) := do
  let type := Link.shownOr fs "type"
  if type.isEmpty then return none
  else
    let pos := Node.dictOr fs "pos"
    let x ← (Fields.get pos "x" (.float 0.0)).toFloat
    let y ← (Fields.get pos "y" (.float 0.0)).toFloat
    let uid := Link.shownOr fs "uid"
    return some {
      uid := if uid.isEmpty then type else uid
      type := currentType aliases type
      x, y
      params := Node.dictOr fs "params" }

/-- The replacement that reading a node makes. -/
def replacement? (aliases : Fields) (fs : Fields) : Option Replacement :=
  let type := Link.shownOr fs "type"
  let current := currentType aliases type
  if type.isEmpty || current = .text type then none else some ⟨type, current⟩

/-- The link that an edge of a file describes, `none` when an end is missing. -/
def readEdge (fs : Fields) : Option Link :=
  let source := Node.dictOr fs "from"
  let target := Node.dictOr fs "to"
  let link : Link := ⟨Link.shownOr source "node", Link.shownOr source "port",
    Link.shownOr target "node", Link.shownOr target "port"⟩
  if link.fromUid.isEmpty || link.toUid.isEmpty then none else some link

def ofDocument (aliases : Fields) (v : Value) : Outcome Project := do
  let fs ← v.fields
  let nodes ← (← Diagram.dictItems fs "nodes").mapM (readNode aliases)
  let edges ← Diagram.dictItems fs "edges"
  return {
    diagram := ⟨nodes.filterMap id, edges.filterMap readEdge⟩
    board := fs.opt "board"
    port := fs.opt "port" }

/-- The replacements that reading a document makes, in order. -/
def replacements (aliases : Fields) (v : Value) : List Replacement :=
  match v with
  | .dict fs =>
    match Diagram.dictItems fs "nodes" with
    | .ok nodes => nodes.filterMap (replacement? aliases)
    | .error _ => []
  | _ => []

/-- A block as a node of a file. -/
def nodeDocument (n : Node) : Value :=
  .dict [("uid", .text n.uid), ("type", n.type),
    ("pos", .dict [("x", .float n.x), ("y", .float n.y)]), ("params", .dict n.params)]

/-- A link as an edge of a file. -/
def edgeDocument (l : Link) : Value :=
  .dict [("uid", .text l.key),
    ("from", .dict [("node", .text l.fromUid), ("port", .text l.fromPort)]),
    ("to", .dict [("node", .text l.toUid), ("port", .text l.toPort)])]

def toDocument (p : Project) : Value :=
  .dict [("version", .int 1), ("board", p.board), ("port", p.port),
    ("nodes", .list (p.diagram.nodes.map nodeDocument)),
    ("edges", .list (p.diagram.links.map edgeDocument))]

def fileText (p : Project) : Text := Json.render p.toDocument ++ "\n"

/-- The text of a project file that can be stored. -/
def storedText (p : Project) : Outcome Text :=
  p.fileText.encoded

/-- Open a project file: the project and the lines that report replacements.  The aliases and the
known identifiers may be any values, and are looked at only when the file is a dictionary. -/
def load (aliases known : Value) (content : Json.Content) : Outcome (Project × List Text) := do
  let v ← content.document
  let _ ← v.fields
  let aliases ← aliasesOf aliases
  checkKnown known
  let p ← ofDocument aliases v
  return (p, (replacements aliases v).map Replacement.message)

end Project

end BlockSketch
