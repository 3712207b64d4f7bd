import BlockSketch.Canvas.Scene
import BlockSketch.Diagram.Cycle

/-!
# BlockSketch.Canvas.Edit

Editing a scene.  An `Edit` changes the scene step by step and announces what it
did; an announcement is kept with the scene as it was at that moment, for those
who listen to it.  When an edit stops for a fault, what it did before stays.
-/

namespace BlockSketch.Canvas

/-- What a scene announces. -/
inductive Notice where
  | blockAdded (n : Node)
  | blocksRemoved (count : Nat)
  | linksRemoved (count : Nat)
  | linkAdded (l : Link)
  | changed (d : Diagram)
  -- a text for the status line, with the time it stays in milliseconds
  | status (text : Text) (time : Nat)
  -- the properties of a card's block were asked for
  | properties (card : Nat) (uid : Text)
  | selectionChanged
  | menu (entries : List Text)
  -- an event was left to the usual handling
  | passedOn (event : Text)
deriving Inhabited, DecidableEq

/-- A scene under edit, with its announcements. -/
structure Session where
  scene : Scene := {}
  -- the announcements in order, each with the scene at that moment
  log : List (Notice × Scene) := []
deriving Inhabited

abbrev Edit := ExceptT Fault (StateM Session)

namespace Edit

def scene : Edit Scene := return (← get).scene

def change (f : Scene → Scene) : Edit Unit := modify fun t => { t with scene := f t.scene }

def announce (n : Notice) : Edit Unit :=
  modify fun t => { t with log := t.log ++ [(n, t.scene)] }

/-- Take the value of an outcome, or stop for its fault. -/
def ofOutcome {α : Type} (o : Outcome α) : Edit α := MonadExcept.ofExcept o

/-- Take a value from the scene, or stop for its fault. -/
def look {α : Type} (f : Scene → Outcome α) : Edit α := do ofOutcome (f (← scene))

/-- Announce a text for the status line. -/
def status (text : Text) : Edit Unit := announce (.status text 4000)

def announceDiagram : Edit Unit := do announce (.changed (← scene).diagram)

/-! ## selection -/

/-- Select an item or not. -/
def select (item : Item) (on : Bool) : Edit Unit := do
  let s ← scene
  if s.canSelect item && s.isSelected item != on then
    change fun s => s.mark item on
    announce .selectionChanged

/-- Select nothing. -/
def clearSelection : Edit Unit := do
  let chosen := (← scene).selection
  if !chosen.isEmpty then
    change fun s => chosen.foldl (fun s item => s.mark item false) s
    announce .selectionChanged

/-- Take an item out of the scene. -/
def takeOut (item : Item) : Edit Unit := do
  let wasSelected := (← scene).selection.contains item
  change fun s => s.takeOut item
  if wasSelected then announce .selectionChanged

/-- Select the given blocks and links, and if asked to the wire that is being drawn, which then
has to be there. -/
def selectOnly (blocks keys : List Text) (preview : Bool) : Edit Unit := do
  clearSelection
  blocks.forM fun uid => do select (.card (← look fun s => s.cardOf uid)) true
  keys.forM fun key => do select (.wire (← look fun s => s.wireOf key)) true
  if preview then
    match (← scene).drawn with
    | some w => select (.wire w) true
    | none => throw .noMember

/-! ## the wire being drawn -/

/-- Give up the wire that is being drawn. -/
def cancelPreview : Edit Unit := do
  if let some w := (← scene).drawn then takeOut (.wire w)
  change fun s => { s with drawn := none, drawnFrom := none }

/-- Begin to draw a wire at a port, which has to be an output. -/
def beginWire (r : PortRef) : Edit Unit := do
  match r.side with
  | .input =>
    if ((← scene).wiresAt r).isEmpty then status "Соединение начинается с выходного порта."
    else status "Вход уже соединён. Удалите связь для замены."
  | .output =>
    cancelPreview
    change fun s =>
      { s.addWire { start := r, loose := s.anchor r, selectable := false } with
        drawn := some s.wires.length
        drawnFrom := some r }
    status "Перетащите соединение к целевому входу"

/-- Let the free end of the wire that is being drawn follow a place. -/
def dragWire (p : Point) : Edit Unit := do
  if let some h := (← scene).drawn then
    change fun s => (s.setWire h fun w => { w with loose := some p }).redraw h

/-- End the wire that is being drawn at a port, without making a link of it. -/
def endPreview (r : PortRef) : Edit Unit := do
  match (← scene).drawn with
  | some h =>
    change fun s =>
      (s.setWire h fun w => { w with finish := some r, loose := none, selectable := true }).redraw h
  | none => throw .noMember

/-! ## blocks -/

/-- Where a card at one place comes to stand when it is put at another: on the nearest point of
the grid.  The place itself, with the cause, when there is no such point. -/
def settle (current target : Point) : Point × Option Fault :=
  if target.sameAs current then (current, none)
  else
    match snap target with
    | .ok p => (if p.sameAs target then target else p, none)
    | .error f => (target, some f)

/-- The card of a block, on the nearest point of the grid and with the ports of the block's type;
a block without outputs gets one. -/
def cardFor (c : Catalog) (n : Node) : Outcome Card := do
  let fs ← c.entry n.type
  let title ← c.title n.type
  let (p, fault) := settle {} ⟨n.x, n.y⟩
  if let some f := fault then throw f
  let lowered (side : Text) (key : Text) := (PortSpec.readSide side (Fields.opt fs key)).map
    fun p => { p with type := p.type.map Text.lower }
  let outputs := lowered "out" "outputs"
  let card : Card := {
    node := n
    title
    inputs := lowered "in" "inputs"
    outputs := if outputs.isEmpty then [{ name := "out" }] else outputs }
  return card.moveTo p

def makeCard (n : Node) : Edit Nat := do
  let card ← look fun s => cardFor s.catalog n
  let h := (← scene).cards.length
  change fun s => s.addCard card
  return h

/-- The parameter values of a new block: the presets of its type's entry, or the defaults of the
parameters listed there, under the given ones. -/
def startValues (fs : Fields) (given : Fields) : Fields :=
  let defaults := match Fields.opt fs "default_params" with
    | .dict d => d
    | _ => ((Fields.opt fs "params").asList?.getD []).foldl (fun acc p =>
      match p with
      | .dict d =>
        match Fields.opt d "name" with
        | .null => acc
        | name => Assoc.put acc name.shown (Fields.opt d "default")
      | _ => acc) []
  Assoc.putAll defaults given

/-- An identifier that was not given out before. -/
def freshUid : Edit Text := do
  let n := (← scene).minted + 1
  change fun s => { s with minted := n }
  return "uuid-" ++ toString n

/-- Add a block of a type. -/
def add (type : Value) (p : Point) (uid : Text) (given : Fields) : Edit Nat := do
  let fs ← look fun s => s.catalog.entry type
  let params := startValues fs given
  let uid ← if uid.isEmpty then freshUid else pure uid
  let h ← makeCard { uid, type, x := p.x, y := p.y, params }
  announce (.blockAdded ((← scene).card h).node)
  announceDiagram
  status ("Добавлен блок: " ++ (← look fun s => s.catalog.title type))
  return h

def move (h : Nat) (target : Point) : Edit Unit := do
  let current := ((← scene).card h).position
  if !target.sameAs current then
    let (p, fault) := settle current target
    change fun s => s.setCard h fun c => c.moveTo p
    match fault with
    | some f => throw f
    | none => change fun s => s.redrawOn h

/-- Announce that parameter values of a card's block changed. -/
def announceParams (h : Nat) : Edit Unit := do
  let title ← look fun s => s.catalog.title (s.card h).node.type
  announceDiagram
  status ("Параметры обновлены: " ++ title)

/-- Set parameter values of a card's block. -/
def setParams (h : Nat) (values : Fields) : Edit Unit := do
  change fun s => s.setCard h fun c =>
    { c with node := { c.node with params := Assoc.putAll c.node.params values } }
  announceParams h

/-! ## links -/

/-- Whether what leaves a port of one type may arrive at a port of another. -/
def compatible (source target : Option Text) : Bool :=
  let free (t : Option Text) :=
    t.all fun (name : Text) => name == "" || name == "any" || name == "*"
  free source || free target || source == target

/-- Why a wire that is being drawn cannot end at a port. -/
inductive Refusal where
  | samePort
  | notInput
  | notOutput
  | taken
  | typesDiffer
  | exists
  | cycle
deriving DecidableEq, Repr

def Refusal.message : Refusal → Text
  | .samePort => "Соединение отменено"
  | .notInput => "Целевой порт должен быть входом"
  | .notOutput => "Соединение начинается с выходного порта"
  | .taken => "Вход уже использован"
  | .typesDiffer => "Несовместимые типы портов"
  | .exists => "Такое соединение уже существует"
  | .cycle => "Соединение создаёт цикл — запрещено"

/-- The link between two ports. -/
def linkBetween (s : Scene) (start finish : PortRef) : Link :=
  ⟨s.uidAt start, (s.portSpec start).name, s.uidAt finish, (s.portSpec finish).name⟩

/-- Why a wire begun at one port cannot end at another, if it cannot. -/
def refusal? (s : Scene) (start finish : PortRef) : Option Refusal :=
  let link := linkBetween s start finish
  if finish = start then some .samePort
  else if finish.side ≠ .input then some .notInput
  else if start.side ≠ .output then some .notOutput
  else if !(s.wiresAt finish).isEmpty then some .taken
  else if !compatible (s.portSpec start).type (s.portSpec finish).type then some .typesDiffer
  else if Assoc.has s.byKey link.key then some .exists
  else if Diagram.closesCycle s.links link.fromUid link.toUid then some .cycle
  else none

/-- End the wire that is being drawn at a port. -/
def completeWire (finish : PortRef) : Edit Unit := do
  let s ← scene
  match s.preview with
  | none => return
  | some p =>
    match refusal? s p.start finish with
    | some why =>
      status why.message
      if why ≠ .notInput then cancelPreview
    | none =>
      cancelPreview
      let link := linkBetween s p.start finish
      change fun s => { s.joinPorts link p.start finish with links := s.links ++ [link] }
      let typeAt (r : PortRef) := (s.card r.card).node.type
      let titleFrom ← look fun t => t.catalog.title (typeAt p.start)
      let titleTo ← look fun t => t.catalog.title (typeAt finish)
      announce (.linkAdded link)
      announceDiagram
      status ("Создано соединение: " ++ titleFrom ++ " → " ++ titleTo)

/-! ## opening a diagram -/

/-- Put up the wire of a link, or drop the link when a port of it is missing. -/
def restoreLink (l : Link) : Edit Unit := do
  let s ← scene
  let port (uid name : Text) (side : Side) :=
    (Assoc.get? s.byUid uid).bind fun h => s.portOn? h side name
  match port l.fromUid l.fromPort .output, port l.toUid l.toPort .input with
  | some start, some finish => change fun s => s.joinPorts l start finish
  | _, _ =>
    announce (.status "Не удалось восстановить соединение при загрузке проекта" 6000)
    change fun s => { s with links := s.links.filter fun other => other ≠ l }

/-- Show a diagram in place of what is in the scene. -/
def load (d : Diagram) : Edit Unit := do
  cancelPreview
  let hadSelection := !(← scene).selection.isEmpty
  change fun s => { s with items := [] }
  if hadSelection then announce .selectionChanged
  change fun s => { s with byUid := [], byKey := [], links := d.links }
  d.nodes.forM fun n => do let _ ← makeCard n
  d.links.forM restoreLink

/-! ## deleting -/

/-- Remove a wire and its link; a wire that shows no link stays. -/
def removeWire (h : Nat) : Edit Bool := do
  match ((← scene).wire h).link with
  | none => return false
  | some l =>
    change fun s =>
      let s := s.detach h
      { s with
        byKey := Assoc.erase s.byKey l.key
        links := s.links.filter fun other => other ≠ l }.tell (.link l.key)
    takeOut (.wire h)
    return true

/-- Remove the wires of the links that touch a block; the number of them. -/
def removeWiresOf (uid : Text) : Edit Nat := do
  let s ← scene
  let touching :=
    s.byKey.values.filter fun h => ((s.wire h).link.map fun l => l.touches uid) == some true
  let removed ← touching.mapM removeWire
  return removed.countP id

def removeCard (h : Nat) : Edit Unit := do
  let uid := ((← scene).card h).node.uid
  change fun s =>
    { s with
      links := s.links.filter fun l => !l.touches uid
      byUid := Assoc.erase s.byUid uid }.tell (.block uid)
  takeOut (.card h)

/-- How many blocks and links were removed. -/
structure Removed where
  blocks : Nat
  links : Nat
deriving DecidableEq, Repr

/-- Remove what is selected: first the links, then the blocks with the links that touch them. -/
def removeSelected : Edit Removed := do
  let chosen := (← scene).selection
  let wires := chosen.filterMap fun | .wire h => some h | .card _ => none
  let cards := chosen.filterMap fun | .card h => some h | .wire _ => none
  let gone ← wires.mapM removeWire
  let touching ← cards.mapM fun h => do
    let count ← removeWiresOf ((← scene).card h).node.uid
    removeCard h
    return count
  return ⟨cards.length, gone.countP id + touching.foldl Nat.add 0⟩

/-- Remove what is selected and announce it. -/
def deleteSelected : Edit Removed := do
  let removed ← removeSelected
  if removed.blocks ≠ 0 then
    announce (.blocksRemoved removed.blocks)
    status ("Удалено блоков: " ++ toString removed.blocks)
  if removed.links ≠ 0 then
    announce (.linksRemoved removed.links)
    status ("Удалено соединений: " ++ toString removed.links)
  if removed.blocks ≠ 0 ∨ removed.links ≠ 0 then announceDiagram
  return removed

/-- Whether anything was removed. -/
def Removed.any (r : Removed) : Bool := r.blocks != 0 || r.links != 0

end Edit

end BlockSketch.Canvas
