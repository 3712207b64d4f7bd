import BlockSketch.Canvas.Edit
import BlockSketch.Sheet.Editor

/-!
# BlockSketch.Sheet.Basic

The property sheet: editors for the parameters of one block.  Opening the sheet
for a block writes what its editors hold back into the block.
-/

namespace BlockSketch

variable [Platform]

/-- A parameter on the sheet: its descriptor and its editor. -/
structure SheetField where
  descriptor : Fields
  editor : Editor

structure Sheet where
  catalog : Catalog := []
  card : Option Nat := none
  heading : Text := "Не выбран блок"
  title : Text := "Свойства блока"
  canReset : Bool := false
  -- the rows: a label with the kind of its editor, or a plain text
  rows : List (Option EditorKind × Text) := []
  fields : Assoc Text SheetField := []
deriving Inhabited

/-- A scene with a property sheet beside it. -/
structure Inspector where
  session : Canvas.Session := {}
  sheet : Sheet := {}
deriving Inhabited

/-- A step at the property sheet; what was done before a fault stays. -/
abbrev Inspect := ExceptT Fault (StateM Inspector)

namespace Inspect

def sheet : Inspect Sheet := return (← get).sheet

def change (f : Sheet → Sheet) : Inspect Unit := modify fun i => { i with sheet := f i.sheet }

/-- Edit the scene. -/
def onCanvas {α : Type} (e : Canvas.Edit α) : Inspect α := do
  let i ← get
  let (result, session) := e.run i.session
  set { i with session }
  MonadExcept.ofExcept result

/-- The block of a card. -/
def node (h : Nat) : Inspect Node := return ((← get).session.scene.card h).node

/-- Set a parameter value of a card's block. -/
def setParam (h : Nat) (name : Text) (v : Value) : Inspect Unit :=
  onCanvas (Canvas.Edit.change fun s => s.setCard h fun c =>
    { c with node := { c.node with params := Assoc.put c.node.params name v } })

/-- Show no block. -/
def clear : Inspect Unit := change fun s => { catalog := s.catalog }

/-- The value that a parameter starts from: the block's own, or else the preset of its type, or
else the default of its descriptor. -/
def startValue (params presets descriptor : Fields) (name : Text) : Value :=
  match Fields.opt params name with
  | .null =>
    if Assoc.has presets name then Fields.opt presets name else Fields.opt descriptor "default"
  | v => v

/-- What a parameter is labelled with. -/
def labelOf (descriptor : Fields) (name : Text) : Value :=
  (Fields.opt descriptor "label").orElse ((Fields.opt descriptor "title").orElse (.text name))

/-- Put a parameter on the sheet; what has no name is passed over. -/
def addField (params presets : Fields) (item : Value) : Inspect Unit := do
  if let .dict d := item then
    if let .text name := Fields.opt d "name" then
      if !name.isEmpty then
        let fresh ← MonadExcept.ofExcept (Editor.ofDescriptor d)
        let editor ← MonadExcept.ofExcept (fresh.display d (startValue params presets d name))
        let label ← MonadExcept.ofExcept (labelOf d name).spelled
        change fun s => { s with
          rows := s.rows ++ [(some editor.kind, label)]
          fields := Assoc.put s.fields name ⟨d, editor⟩ }

/-- Show the block of a card. -/
def bind (h : Nat) : Inspect Unit := do
  change fun s => { s with card := some h }
  let n ← node h
  let entry ← MonadExcept.ofExcept ((← sheet).catalog.entry n.type)
  let params := (Fields.opt entry "params").asList?.getD []
  let presets := (Fields.opt entry "default_params").asDict?.getD []
  let title ← MonadExcept.ofExcept (Fields.get entry "title" n.type).spelled
  change fun s => { s with
    heading := "<b>" ++ title ++ "</b><br/>UID: " ++ n.uid
    title := "Свойства — " ++ title ++ " (" ++ n.uid ++ ")"
    rows := if params.isEmpty then [(none, "Этот блок не имеет настраиваемых параметров.")] else []
    fields := []
    canReset := !params.isEmpty }
  params.forM (addField n.params presets)
  (← sheet).fields.forM fun e => do setParam h e.1 (← MonadExcept.ofExcept e.2.editor.value)

/-- Take over a value that an editor announced. -/
def takeOver (name : Text) (v : Value) : Inspect Unit := do
  if let some h := (← sheet).card then
    setParam h name v
    onCanvas (Canvas.Edit.announceParams h)

/-- The parameter of a name. -/
def field (name : Text) : Inspect SheetField := do
  match Assoc.get? (← sheet).fields name with
  | some f => return f
  | none => throw (.missingKey name)

/-- An input in the editor of a parameter. -/
def edit (name : Text) (input : Editor → Outcome (Editor × Option (Outcome Value))) :
    Inspect Unit := do
  let f ← field name
  let (editor, announced) ← MonadExcept.ofExcept (input f.editor)
  change fun s => { s with fields := Assoc.put s.fields name { f with editor } }
  if let some v := announced then takeOver name (← MonadExcept.ofExcept v)

/-- An input in an editor whose block is no longer shown: nothing takes it over. -/
def editAfterClear (name : Text) (input : Editor → Outcome (Editor × Option (Outcome Value))) :
    Inspect Unit := do
  let f ← field name
  clear
  let _ ← MonadExcept.ofExcept (input f.editor)

/-- Set the parameters back to the presets of the block's type. -/
def reset : Inspect Unit := do
  let s ← sheet
  if let some h := s.card then
    let entry ← MonadExcept.ofExcept (s.catalog.entry (← node h).type)
    let presets := (Fields.opt entry "default_params").asDict?.getD []
    if !presets.isEmpty then
      s.fields.forM fun e => do
        let value := match Fields.opt presets e.1 with
          | .null => Fields.opt e.2.descriptor "default"
          | v => v
        let editor ← MonadExcept.ofExcept (e.2.editor.display e.2.descriptor value)
        change fun s => { s with fields := Assoc.put s.fields e.1 { e.2 with editor } }
        setParam h e.1 (← MonadExcept.ofExcept editor.value)
      onCanvas (Canvas.Edit.announceParams h)

/-- The kind of the first editor, which takes the focus. -/
def focus? : Inspect (Option EditorKind) :=
  return (← sheet).fields.head?.map fun e => e.2.editor.kind

end Inspect

end BlockSketch
