import BlockSketch.Library.Bundled
import BlockSketch.Sketch.Section
import BlockSketch.Value.Table

/-!
# BlockSketch.Registry.Basic

Definitions of blocks for code generation, read from a registry document.
-/

namespace BlockSketch

structure Parameter where
  name : Text
  type : Text
  -- the value used when a block gives none
  default : Value := .null
deriving Inhabited

/-- A place for child blocks. -/
structure Container where
  -- the name under which a block holds its children
  name : Text
  target : Section
  -- the mark in the block's template that its children replace
  placeholder : Option Text := none
deriving Inhabited

structure Definition where
  id : Text
  name : Text := ""
  category : Text := ""
  kind : Text := ""
  -- the section its template writes to
  target : Option Section := none
  template : Value := .null
  -- the type of the value it yields
  returns : Value := .null
  parameters : List Parameter := []
  setup : List Text := []
  globals : List Text := []
  includes : List Text := []
  functions : List Text := []
  containers : List Container := []
deriving Inhabited

def Definition.isExpression (d : Definition) : Bool := d.kind == "expression"

/-- The definitions by identifier, and a table of categories. -/
structure Registry where
  definitions : Assoc Text Definition
  categories : Value.Table Value := []

namespace Registry

/-- The definition of an identifier. -/
def get (r : Registry) (id : Text) : Outcome Definition :=
  match Assoc.get? r.definitions id with
  | some d => .ok d
  | none => .error (.unknownBlock id)

/-- Whether an identifier has a definition. -/
def has (r : Registry) (id : Text) : Bool := Assoc.has r.definitions id

/-- The definition that any key stands for; only texts are identifiers. -/
def getKey (r : Registry) (key : Value) : Outcome Definition := do
  match ← key.asKey with
  | .text id => r.get id
  | key => .error (.unknownBlock key.shown)

/-- Whether any key has a definition. -/
def hasKey (r : Registry) (key : Value) : Outcome Bool := do
  match ← key.asKey with
  | .text id => return r.has id
  | _ => return false

/-! ## reading -/

/-- The texts of a value: one text by itself, or the texts among its items. -/
def textList : Value → List Text
  | .text s => [s]
  | v => (v.items?.getD []).filterMap Value.asText?

/-- The required fields of an entry as texts, or the complaint about it. -/
def needTexts (fs : Fields) (keys : List Text) (complaint : LibraryFault) :
    Outcome (List Text) :=
  keys.mapM fun key =>
    match Assoc.get? fs key with
    | some v => .ok v.shown
    | none => .error (.library complaint)

def readContainer (block : Text) (fs : Fields) : Outcome Container := do
  let complaint := LibraryFault.badContainer block
  match ← needTexts fs ["name", "section"] complaint with
  | [name, target] =>
    match Section.ofName? target with
    | some target => return { name, target, placeholder := Fields.text? fs "placeholder" }
    | none => .error (.library complaint)
  | _ => .error (.library complaint)

def readParameter (block : Text) (fs : Fields) : Outcome Parameter := do
  let complaint := LibraryFault.badParameter block
  match ← needTexts fs ["name", "type"] complaint with
  | [name, type] => return { name, type, default := Fields.opt fs "default" }
  | _ => .error (.library complaint)

/-- The dictionaries among the items of a value, which has to allow going through it. -/
def dictItems (v : Value) : Outcome (List Fields) := do
  return (← v.items).filterMap Value.asDict?

/-- The section of a block, if it names one. -/
def readTarget : Value → Outcome (Option Section)
  | .text s => if s.isEmpty then .ok none else (Section.ofValue (.text s)).map some
  | _ => .ok none

def readDefinition (fs : Fields) : Outcome Definition := do
  match ← needTexts fs ["id", "name", "category", "kind"] .incompleteBlock with
  | [id, name, category, kind] =>
    let containers ← (← dictItems (fs.get "containers" (.list []))).mapM (readContainer id)
    let parameters ← (← dictItems (fs.get "parameters" (.list []))).mapM (readParameter id)
    let target ← readTarget (fs.opt "section")
    return {
      id, name, category, kind, target, parameters, containers
      template := fs.opt "template"
      returns := fs.opt "returns"
      setup := textList (fs.opt "setup")
      globals := textList (fs.opt "globals")
      includes := textList (fs.opt "includes")
      functions := textList (fs.opt "functions") }
  | _ => .error (.library .incompleteBlock)

/-- A registry from its document. -/
def ofFields (fs : Fields) : Outcome Registry := do
  let categories := fs.get "categories" (.dict [])
  match (fs.get "blocks" (.list [])).items? with
  | none => .error (.library .blocksNotListed)
  | some items =>
    let definitions ← (items.filterMap Value.asDict?).foldlM (fun m entry => do
      let d ← readDefinition entry
      return Assoc.put m d.id d) []
    return ⟨definitions, ← Value.Table.ofValue categories⟩

/-- A registry from a value, which has to be a dictionary. -/
def ofDocument (v : Value) : Outcome Registry := do ofFields (← v.fields)

def ofLibrary (lib : Library) : Outcome Registry := do
  ofDocument (← Library.requireDefinitions lib.definitions)

/-- A registry from a library file. -/
def load (file : Text) (content : Json.Content) : Outcome Registry := do
  ofLibrary (← Library.load file content)

/-- The registry of the bundled library. -/
def bundled : Outcome Registry := do ofLibrary (← Library.bundled)

end Registry

end BlockSketch
