import BlockSketch.Library.Spec
import BlockSketch.Value.Table

/-!
# BlockSketch.Catalog

What the canvas and the property sheet know of each type of block: the text
shown for it, its ports, its parameters and their preset values.  A catalog is
built from the entries of a palette, the last entry of an identifier winning.
-/

namespace BlockSketch

/-- The entries of the block types, by identifier. -/
abbrev Catalog := Fields

/-- The ports that a list of descriptors gives on one side.  A port without a name is named for
its side and its place, counted from one. -/
def PortSpec.readSide (side : Text) (v : Value) : List PortSpec :=
  (v.asList?.getD []).mapIdx fun index item =>
    let placed := side ++ toString (index + 1)
    match item with
    | .dict d =>
      { name := (Fields.get d "name" (.text placed)).shown
        type := (Fields.text? d "type").map Text.trim }
    | _ => { name := placed }

namespace Catalog

/-- The entry of a type, empty for a type that is not listed; only texts are listed. -/
def entry (c : Catalog) (type : Value) : Outcome Fields := do
  match ← type.asKey with
  | .text id =>
    match Assoc.get? c id with
    | some v => v.fields
    | none => return []
  | _ => return []

/-- The text shown for a type: the title of its entry, or else its identifier. -/
def title (c : Catalog) (type : Value) : Outcome Text := do
  return (Fields.get (← c.entry type) "title" type).shown

/-- The port that a block has when its type lists no outputs. -/
def flowOut : PortSpec := { name := "out", type := some "flow" }

/-- Add the default of a parameter that has none yet. -/
def addDefault (defaults : Fields) (param : Value) : Outcome Fields :=
  match param with
  | .dict d =>
    let default := Fields.opt d "default"
    match Fields.opt d "name" with
    | .text name => .ok (if name.isEmpty then defaults else Assoc.putNew defaults name default)
    | .list items => if items.isEmpty then .ok defaults else .error .wrongKind
    | .dict entries => if entries.isEmpty then .ok defaults else .error .wrongKind
    | name => .ok (if name.isSet then Assoc.put defaults name.shown default else defaults)
  | _ => .ok defaults

/-- The preset values of a palette entry: its own, then the defaults of its parameters. -/
def presets (fs : Fields) (params : List Value) : Outcome Fields :=
  params.foldlM addDefault ((fs.opt "default_params").asDict?.getD [])

/-- A port as a field of a catalog entry. -/
def portField (p : PortSpec) : Value := .dict [("name", .text p.name), ("type", .ofText? p.type)]

/-- The catalog entry of a palette entry. -/
def entryOf (id : Text) (fs : Fields) : Outcome Fields := do
  let ports := (Fields.opt fs "ports").asDict?.getD []
  let inputs := PortSpec.readSide "in" (Fields.opt ports "inputs")
  let outputs := PortSpec.readSide "out" (Fields.opt ports "outputs")
  let params := (Fields.opt fs "params").asList?.getD []
  let defaults ← presets fs params
  return [("title", fs.get "title" (.text id)), ("category", fs.opt "category"),
    ("color", fs.opt "color"), ("section", fs.opt "section"),
    ("inputs", .list (inputs.map portField)),
    ("outputs", .list ((if outputs.isEmpty then [flowOut] else outputs).map portField)),
    ("params", .list params), ("default_params", .dict defaults)]

/-- Add a palette entry; what has no identifier is passed over. -/
def addEntry (c : Catalog) (block : Value) : Outcome Catalog :=
  match block with
  | .dict fs =>
    let id := Text.trim (Fields.get fs "id" (.text "")).shown
    if id.isEmpty then .ok c
    else do return Assoc.put c id (.dict (← entryOf id fs))
  | _ => .ok c

/-- The catalog of a list of palette entries. -/
def ofBlocks (blocks : List Value) : Outcome Catalog := blocks.foldlM addEntry []

end Catalog

end BlockSketch
