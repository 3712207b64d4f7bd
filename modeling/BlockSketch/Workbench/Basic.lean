import BlockSketch.Canvas.View
import BlockSketch.Files.Tree
import BlockSketch.Library.Basic
import BlockSketch.Sheet.Basic

/-!
# BlockSketch.Workbench.Basic

The workbench: a scene with its property sheet, the panels around it, the project
at hand and the status line.  The workbench listens to the scene: what an edit
announces is taken up in order, each announcement with the scene as it was when
it was made.  What becomes of a fault while one is taken up is for the platform to
say: it stops the edit there, or it is passed over.
-/

namespace BlockSketch

/-- The panels around the scene. -/
inductive Dock where
  | palette
  | code
  | sheet
  | monitor
deriving DecidableEq, Repr, Inhabited

/-- The panels in the order of the menu. -/
def Dock.all : List Dock := [.palette, .code, .sheet, .monitor]

/-- A panel and its entry in the menu. -/
structure Panel where
  visible : Bool
  ticked : Bool := visible
deriving DecidableEq, Repr, Inhabited

/-- Show the panel or hide it; a change is passed on to the menu entry. -/
def Panel.setVisible (p : Panel) (on : Bool) : Panel :=
  if p.visible = on then p else { visible := on }

/-- What the user is told or asked, in order. -/
inductive Note where
  -- a text in the status line, with the time it stays in milliseconds
  | status (text : Text) (time : Nat)
  | information (title text : Text)
  | about (title text : Text)
  | failure (title : Text)
  -- a question, with the answer that is offered
  | question (title label : Text) (offered : Value)
  -- the input focus went to an editor
  | focus (kind : EditorKind)
  | copied (text : Text)
  | menu (entries : List Text)
  | passedOn (event : Text)
  | waiting
  | closed
deriving DecidableEq, Inhabited

/-- What is shown for a board or a port that is not chosen. -/
def notChosen : Text := "—"

variable [Platform]

structure Workbench where
  inspector : Inspector := {}
  library : List Fields := []
  catalog : Catalog := []
  -- the current identifiers of former ones
  aliases : Assoc Text Text := []
  panels : Assoc Dock Panel :=
    [(.palette, { visible := true }), (.code, { visible := true }), (.sheet, { visible := false }),
     (.monitor, { visible := false })]
  canDelete : Bool := false
  -- the permanent text of the status line
  label : Text := ""
  project : Option Text.FilePath := none
  -- the folder in which files are asked for
  folder : Text.FilePath := ⟨"", []⟩
  board : Value := .text notChosen
  port : Value := .text notChosen
  code : Text := ""
  monitor : Text := ""
  -- the folder of projects
  disk : FileTree := {}
  notes : List Note := []
  scalings : List Canvas.Scaling := []
deriving Inhabited

namespace Workbench

def scene (w : Workbench) : Canvas.Scene := w.inspector.session.scene

def panel (w : Workbench) (d : Dock) : Panel := Assoc.getD w.panels d { visible := false }

def setPanel (w : Workbench) (d : Dock) (f : Panel → Panel) : Workbench :=
  { w with panels := Assoc.put w.panels d (f (w.panel d)) }

/-- The permanent text of the status line for a scene. -/
def labelFor (w : Workbench) (s : Canvas.Scene) : Text :=
  let chosen (v : Value) : Text := (v.orElse (.text notChosen)).shown
  "Блоков на сцене: " ++ toString s.nodes.length ++ " | Плата: " ++ chosen w.board ++
    " | Порт: " ++ chosen w.port

end Workbench

/-- A scene with the parameter values that its blocks have in a later one. -/
def Canvas.Scene.withParamsOf (s later : Canvas.Scene) : Canvas.Scene :=
  { s with cards := s.cards.mapIdx fun h c =>
      { c with node := { c.node with params := (later.card h).node.params } } }

/-- A step at the workbench; what was done before a fault stays. -/
abbrev Work := ExceptT Fault (StateM Workbench)

namespace Work

/-- Tell or ask the user something. -/
def note (n : Note) : Work Unit := modify fun w => { w with notes := w.notes ++ [n] }

/-- Show a text in the status line. -/
def status (text : Text) (time : Nat) : Work Unit := note (.status text time)

/-- Show a message. -/
def inform (title text : Text) : Work Unit := note (.information title text)

/-- Show the permanent text of the status line anew. -/
def relabel (s : Canvas.Scene) : Work Unit := modify fun w => { w with label := w.labelFor s }

/-- Show a panel or hide it. -/
def setVisible (d : Dock) (on : Bool) : Work Unit :=
  modify fun w => w.setPanel d fun p => p.setVisible on

/-- Tick the menu entry of a panel or not. -/
def tick (d : Dock) (on : Bool) : Work Unit :=
  modify fun w => w.setPanel d fun p => { p with ticked := on }

/-- Work at the property sheet without being listened to. -/
def atSheet {α : Type} (e : Inspect α) : Work α := do
  let w ← get
  let (result, inspector) := e.run w.inspector
  set { w with inspector }
  MonadExcept.ofExcept result

/-! ## listening to the scene -/

/-- Whether there is something to delete, shown anew. -/
def updateDelete (s : Canvas.Scene) : Work Unit :=
  modify fun w => { w with canDelete := !s.selection.isEmpty }

/-- Show the block on the property sheet that alone is selected. -/
def followSelection (s : Canvas.Scene) : Work Unit := do
  match s.selection.filterMap fun | .card h => some h | .wire _ => none with
  | [h] =>
    atSheet (Inspect.bind h)
    let p := (← get).panel .sheet
    if p.ticked && !p.visible then setVisible .sheet true
  | _ => atSheet Inspect.clear

/-- Take up an announcement, made at the given scene. -/
def hear (n : Canvas.Notice) (s : Canvas.Scene) : Work Unit := do
  match n with
  | .blockAdded b =>
    let title ← MonadExcept.ofExcept ((← get).catalog.title b.type)
    status ("Добавлен блок: " ++ title) 3000
    relabel s
    followSelection s
  | .blocksRemoved count =>
    if count ≠ 0 then
      status ("Удалено блоков: " ++ toString count) 3000
      relabel s
  | .linksRemoved count =>
    if count ≠ 0 then status ("Удалено соединений: " ++ toString count) 2000
  | .linkAdded _ => status "Создано соединение" 2000
  | .changed _ => relabel s
  | .status text time => status text time
  | .selectionChanged =>
    updateDelete s
    followSelection s
  | .menu entries => note (.menu entries)
  | .passedOn event => note (.passedOn event)
  | .properties _ _ => return

/-- Take up an announcement.  A fault that stops the edit leaves the scene as it was when the
announcement was made, but for the values that the property sheet wrote. -/
def hearOrStop (n : Canvas.Notice) (s : Canvas.Scene) : Work Unit :=
  tryCatch (hear n s) fun f => do
    if Platform.stopsAtFault then
      modify fun w => { w with inspector.session.scene := s.withParamsOf w.scene }
      throw f

/-- Work at the scene or the sheet, and have its announcements taken up. -/
def heardBy (listen : Canvas.Notice → Canvas.Scene → Work Unit) {α : Type} (e : Inspect α) :
    Work α := do
  let w ← get
  let (result, i) := e.run { w.inspector with session.log := [] }
  set { w with inspector := { i with session.log := [] } }
  i.session.log.forM fun (n, s) => listen n s
  MonadExcept.ofExcept result

/-- Open the property sheet for the block of a card, which becomes the selection. -/
def openSheet (h : Nat) : Work Unit := do
  if !(← get).scene.isSelected (.card h) then
    heardBy hearOrStop (Inspect.onCanvas do
      Canvas.Edit.clearSelection
      Canvas.Edit.select (.card h) true)
  atSheet (Inspect.bind h)
  tick .sheet true
  setVisible .sheet true
  if let some kind ← atSheet Inspect.focus? then note (.focus kind)

/-- Work at the scene or the sheet.  Properties are asked for at the end of an edit, so that the
sheet is opened for the scene as it is then. -/
def perform {α : Type} (e : Inspect α) : Work α :=
  heardBy (fun n s => match n with
    | .properties h _ => tryCatch (openSheet h) fun f => do if Platform.stopsAtFault then throw f
    | _ => hearOrStop n s) e

def edit {α : Type} (e : Canvas.Edit α) : Work α := perform (Inspect.onCanvas e)

end Work

end BlockSketch
