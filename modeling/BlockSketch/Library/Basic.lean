import BlockSketch.Library.Fallback
import BlockSketch.Library.Spec
import BlockSketch.Json.Content
import BlockSketch.Text.Substitute

/-!
# BlockSketch.Library.Basic

Block libraries.  A library is read from a document that is either a list of
palette entries or an object whose `blocks` also define code; entries without an
identifier or a category are passed over.
-/

namespace BlockSketch

/-- The two shapes of a library document. -/
inductive LibraryFormat where
  | list
  | mapping
deriving DecidableEq, Repr

def LibraryFormat.name : LibraryFormat → Text
  | .list => "list"
  | .mapping => "mapping"

structure Library where
  blocks : List BlockSpec
  -- the registry document for code generation
  definitions : Option Value
  format : LibraryFormat
  -- former identifiers and the identifiers they stand for
  aliases : Assoc Text Text

namespace Library

/-- The trimmed text of a field. -/
def trimmed (fs : Fields) (key : Text) : Text := Text.trim (fs.get key (.text "")).shown

/-- The parameters that a value describes; what does not describe one is passed over. -/
def readParams (v : Value) : List ParamSpec :=
  (v.items?.getD []).filterMap fun
    | .dict d =>
      let name := trimmed d "name"
      if name.isEmpty then none
      else some { name, type := Fields.text? d "type", default := Fields.opt d "default", raw := d }
    | _ => none

def readAliases (v : Value) : List Text :=
  (v.items?.getD []).filterMap fun
    | .text s => let s := Text.trim s; if s.isEmpty then none else some s
    | _ => none

/-- The ports that a value describes. -/
def readPortList (v : Value) : List PortSpec :=
  (v.items?.getD []).filterMap fun
    | .dict d =>
      let name := trimmed d "name"
      if name.isEmpty then none else some { name, type := Fields.text? d "type" }
    | _ => none

/-- The ports of both directions. -/
def readPorts (v : Value) : Assoc Text (List PortSpec) :=
  match v with
  | .dict d =>
    (["inputs", "outputs"] : List Text).map fun direction =>
      (direction, readPortList (Fields.get d direction (.list [])))
  | _ => [("inputs", []), ("outputs", [])]

/-- The dictionary of preset values. -/
def readDefaults (fs : Fields) : Fields := (fs.opt "default_params").asDict?.getD []

/-- What the shape of a library decides about an entry. -/
structure EntryRule where
  paramsKey : Text
  -- the fields tried for the title, before the identifier
  titleKeys : List Text
  color : Fields → Text → Outcome (Option Text)

/-- The first present value among some fields, or the identifier. -/
def readTitle (keys : List Text) (fs : Fields) (id : Text) : Text :=
  (((keys.map fs.opt).find? Value.isSet).getD (.text id)).shown

/-- Read an entry; `none` for one that is passed over. -/
def readEntry (rule : EntryRule) (v : Value) : Outcome (Option BlockSpec) :=
  match v with
  | .dict fs => do
    let id := trimmed fs "id"
    let category := trimmed fs "category"
    if id.isEmpty || category.isEmpty then return none
    let color ← rule.color fs category
    return some {
      id, category, color
      title := readTitle rule.titleKeys fs id
      sectionName := Fields.text? fs "section"
      description := Fields.text? fs "description"
      params := readParams (Fields.get fs rule.paramsKey (.list []))
      ports := readPorts (Fields.get fs "ports" (.dict []))
      defaultParams := readDefaults fs
      aliases := readAliases (Fields.opt fs "aliases")
      raw := fs }
  | _ => return none

/-- Former identifiers; the first block that claims one keeps it. -/
def collectAliases (blocks : List BlockSpec) : Assoc Text Text :=
  blocks.foldl (fun m b => b.aliases.foldl (fun m a => Assoc.putNew m a b.id) m) []

/-- Entries of a palette list carry their own colour. -/
def listRule : EntryRule :=
  ⟨"params", ["title"], fun fs _ => .ok (Fields.text? fs "color")⟩

/-- Whether a value holds a text: a key of a dictionary, an item of a list, a part of a text. -/
def holdsText (v : Value) (s : Text) : Outcome Bool :=
  match v with
  | .dict fs => .ok (Assoc.has fs s)
  | .list items => .ok (items.contains (.text s))
  | .text t => .ok (Text.contains t s)
  | _ => .error .wrongKind

/-- The colour of a category, from the table of categories. -/
def categoryColor (categories : Value) (category : Text) : Outcome (Option Text) := do
  if ← holdsText categories category then
    let table ← categories.fields
    return match Fields.opt table category with
      | .dict fs => Fields.text? fs "color"
      | _ => none
  else return none

/-- Entries that define code take the colour of their category when they have none. -/
def mappingRule (categories : Value) : EntryRule :=
  ⟨"parameters", ["title", "name"], fun fs category =>
    match Fields.text? fs "color" with
    | some c => .ok (some c)
    | none => categoryColor categories category⟩

/-- A library from a list of palette entries. -/
def ofList (entries : List Value) : Outcome Library := do
  let blocks := (← entries.mapM (readEntry listRule)).filterMap id
  return ⟨blocks, some (.dict fallback), .list, collectAliases blocks⟩

/-- A library from an object with a list of blocks, of which it keeps a copy. -/
def ofMapping (room : Json.Room) (fs : Fields) : Outcome Library :=
  match fs.opt "blocks" with
  | .list entries => do
    let rule := mappingRule (fs.get "categories" (.dict []))
    let blocks := (← entries.mapM (readEntry rule)).filterMap id
    if room.copies (.dict fs) then return ⟨blocks, some (.dict fs), .mapping, collectAliases blocks⟩
    else .error .tooDeep
  | _ => .error (.library .noBlockList)

/-- A library from a document of either shape. -/
def ofDocument (room : Json.Room) : Value → Outcome Library
  | .list entries => ofList entries
  | .dict fs => ofMapping room fs
  | _ => .error (.library .wrongShape)

/-- A library from a file. -/
def load (file : Text) (content : Json.Content) : Outcome Library :=
  match content.document with
  | .ok v => ofDocument content.room v
  | .error .noSuchFile => .error (.library (.missing file))
  | .error (.notJson problem) => .error (.library (.notJson file problem))
  | .error fault => .error fault

/-- The blocks by category, in order of first appearance. -/
def byCategory (lib : Library) : Assoc Text (List BlockSpec) :=
  lib.blocks.foldl (fun m b => Assoc.addToGroup m b.category b) []

def paletteEntries (lib : Library) : List Fields := lib.blocks.map BlockSpec.paletteEntry

/-- The registry document, which has to be there. -/
def requireDefinitions (definitions : Option Value) : Outcome Value :=
  match definitions with
  | some v => .ok v
  | none => .error (.library .noDefinitions)

end Library

end BlockSketch
