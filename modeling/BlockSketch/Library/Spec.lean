import BlockSketch.Value.Written
import BlockSketch.Text.Blank

/-!
# BlockSketch.Library.Spec

One block of a library: its texts, parameters and ports, beside the document
entry it was read from.  `BlockSpec.paletteEntry` gives the entry back with the
fields that it left out.
-/

namespace BlockSketch

/-- A parameter of a block. -/
structure ParamSpec where
  name : Text
  type : Option Text := none
  default : Value := .null
  raw : Fields := []
deriving Inhabited

structure PortSpec where
  name : Text
  type : Option Text := none
deriving Inhabited, DecidableEq

structure BlockSpec where
  id : Text := ""
  category : Text := ""
  title : Text := ""
  -- the section of the sketch its code goes to
  sectionName : Option Text := none
  description : Option Text := none
  color : Option Text := none
  params : List ParamSpec := []
  ports : Assoc Text (List PortSpec) := []
  -- preset parameter values
  defaultParams : Fields := []
  -- identifiers it was known by before
  aliases : List Text := []
  -- the entry it was read from
  raw : Fields := []
deriving Inhabited

/-- Put a value under a key that is absent, when there is a value. -/
def Fields.fill (fs : Fields) (key : Text) (v : Option Value) : Fields :=
  match v with
  | some v => Assoc.putNew fs key v
  | none => fs

/-- The descriptor of a parameter: the one it was read from, completed. -/
def ParamSpec.descriptor (p : ParamSpec) : Fields :=
  let fs := Assoc.putNew p.raw "name" (.text p.name)
  let fs := Fields.fill fs "type" (p.type.map .text)
  Fields.fill fs "default" (if p.default = .null then none else some p.default)

def PortSpec.descriptor (p : PortSpec) : Fields :=
  ("name", .text p.name) :: (p.type.map fun t => (("type" : Text), Value.text t)).toList

def PortSpec.descriptors (ports : List PortSpec) : Value :=
  .list (ports.map fun p => .dict p.descriptor)

namespace BlockSpec

/-- The directions of a block's ports that a dictionary of ports leaves out. -/
def completePorts (spec : BlockSpec) (ports : Fields) : Fields :=
  let ports := spec.ports.foldl (fun fs e => Assoc.putNew fs e.1 (PortSpec.descriptors e.2)) ports
  Assoc.putNew (Assoc.putNew ports "inputs" (.list [])) "outputs" (.list [])

/-- The ports of a palette entry, given those of the raw entry. -/
def entryPorts (spec : BlockSpec) : Option Value → Value
  | none => .dict (spec.ports.map fun e => (e.1, PortSpec.descriptors e.2))
  | some (.dict ports) => .dict (spec.completePorts ports)
  | some _ => .dict (spec.completePorts [])

/-- The entry of a block as the palette and the canvas take it. -/
def paletteEntry (spec : BlockSpec) : Fields :=
  let fs := Assoc.putNew spec.raw "id" (.text spec.id)
  let fs := Assoc.putNew fs "category" (.text spec.category)
  let fs := Assoc.putNew fs "title" (.text spec.title)
  let fs := Fields.fill fs "section" (spec.sectionName.map .text)
  let fs := Fields.fill fs "description" (spec.description.map .text)
  let fs := Fields.fill fs "color" (spec.color.map .text)
  let fs := Assoc.putNew fs "params" (.list (spec.params.map fun p => .dict p.descriptor))
  let fs := Assoc.put fs "ports" (spec.entryPorts (Assoc.get? fs "ports"))
  let fs := Fields.fill fs "default_params"
    (if spec.defaultParams.isEmpty then none else some (.dict spec.defaultParams))
  Fields.fill fs "aliases"
    (if spec.aliases.isEmpty then none else some (.list (spec.aliases.map .text)))

/-- The raw entry once a palette entry was made of it: its dictionary of ports is completed. -/
def settledRaw (spec : BlockSpec) : Fields :=
  Assoc.update spec.raw "ports" fun
    | .dict ports => .dict (spec.completePorts ports)
    | other => other

end BlockSpec

end BlockSketch
