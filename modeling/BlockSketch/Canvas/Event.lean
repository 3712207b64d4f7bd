import BlockSketch.Canvas.Edit

/-!
# BlockSketch.Canvas.Event

What the mouse does in a scene: drawing wires from port to port, dropping blocks
from the palette, menus and double clicks.  An event that nothing here wants is
passed on.
-/

namespace BlockSketch.Canvas

/-- How an event ended. -/
inductive Verdict where
  | none
  | accepted
  | proposed
  | ignored
deriving DecidableEq, Repr, Inhabited

/-- The word for how an event ended. -/
def Verdict.word? : Verdict → Option Text
  | .none => Option.none
  | .accepted => some "accepted"
  | .proposed => some "proposed"
  | .ignored => some "ignored"

/-- What is dragged: a text in a format. -/
structure Payload where
  format : Text
  text : Text
deriving DecidableEq, Inhabited

/-- The format in which the palette hands out blocks. -/
def blockFormat : Text := "application/x-robolab-block"

/-- What an event can be aimed at. -/
inductive Target where
  | item (i : Item)
  | port (r : PortRef)
deriving DecidableEq, Inhabited

/-- The item that is in the scene for a target to be. -/
def Target.owner : Target → Item
  | .item i => i
  | .port r => .card r.card

namespace Edit

/-- Leave an event to the usual handling. -/
def passOn (event : Text) : Edit Verdict := do
  announce (.passedOn event)
  return .none

/-- Whether a target is in the scene. -/
def isThere (t : Target) : Edit Bool := return (← scene).items.contains t.owner

/-! ## the mouse -/

/-- The left button goes down or up on a port: a wire begins or ends there. -/
def onPort (event : Text) (act : PortRef → Edit Unit) (left : Bool) (r : PortRef) :
    Edit Verdict := do
  if left && (← isThere (.port r)) then
    act r
    return .accepted
  else passOn event

/-- A button goes down. -/
def press (left : Bool) : Target → Edit Verdict
  | .port r => onPort "mousePressEvent" beginWire left r
  | .item _ => passOn "mousePressEvent"

/-- A button goes up on a target. -/
def release (left : Bool) : Target → Edit Verdict
  | .port r => onPort "mouseReleaseEvent" completeWire left r
  | .item _ => passOn "mouseReleaseEvent"

/-- The mouse moves in the scene. -/
def hoverAt (p : Point) : Edit Verdict := do
  dragWire p
  passOn "mouseMoveEvent"

/-- A button goes up somewhere in the scene. -/
def releaseAt (left : Bool) (p : Point) : Edit Verdict := do
  let s ← scene
  if s.drawn.isSome && left then
    match (s.portsNear p).find? fun r => r.side = .input with
    | some r => completeWire r
    | none =>
      status "Соединение отменено: отпустите над входным портом"
      cancelPreview
    return .accepted
  else passOn "mouseReleaseEvent"

/-- A double click asks for the properties of a block. -/
def doubleClick (t : Target) : Edit Verdict := do
  match t with
  | .item (.card h) =>
    if ← isThere t then
      announce (.properties h ((← scene).card h).node.uid)
      return .accepted
    else passOn "mouseDoubleClickEvent"
  | _ => passOn "mouseDoubleClickEvent"

/-! ## menus -/

/-- The menu entry that asks for properties. -/
def propertiesEntry : Text := "Свойства…"

/-- The menu entry that deletes. -/
def deleteEntry : Text := "Удалить"

/-- Open the menu of the selection and do what is chosen; whether anything was done. -/
def openMenu (choice : Option Text) : Edit Bool := do
  let chosen := (← scene).selection
  if chosen.isEmpty then return false
  else
    let block := chosen.findSome? fun | .card h => some h | .wire _ => none
    announce (.menu (if block.isSome then [propertiesEntry, deleteEntry] else [deleteEntry]))
    match block with
    | some h =>
      if choice = some propertiesEntry then
        announce (.properties h ((← scene).card h).node.uid)
        return true
      else if choice = some deleteEntry then return (← deleteSelected).any
      else return false
    | none => if choice = some deleteEntry then return (← deleteSelected).any else return false

def menu (choice : Option Text) : Edit Verdict := do
  if ← openMenu choice then return .accepted else passOn "contextMenuEvent"

/-- The menu of a wire or a port, which becomes the selection if it can be. -/
def menuOn (choice : Option Text) (t : Target) : Edit Verdict := do
  match t with
  | .item (.card _) => passOn "contextMenuEvent"
  | .item (.wire h) =>
    if ← isThere t then
      if !(← scene).isSelected (.wire h) then
        clearSelection
        select (.wire h) true
      menu choice
    else passOn "contextMenuEvent"
  | .port _ =>
    if ← isThere t then
      clearSelection
      menu choice
    else passOn "contextMenuEvent"

/-! ## dropping -/

/-- Whether a drop would be taken. -/
def takesDrop (s : Scene) (payload : Option Payload) : Bool :=
  s.acceptsDrops && (payload.map (·.format)) == some blockFormat

/-- Something is dragged over the scene. -/
def dragOver (payload : Option Payload) : Edit Verdict := do
  return if takesDrop (← scene) payload then .proposed else .ignored

/-- Something is dropped: a block of the type that it names, on the grid. -/
def drop (payload : Option Payload) (p : Point) : Edit Verdict := do
  if takesDrop (← scene) payload then
    let type := Text.trim ((payload.map (·.text)).getD "")
    let _ ← add (.text type) (← ofOutcome (snap p)) "" []
    return .proposed
  else return .ignored

end Edit

end BlockSketch.Canvas
