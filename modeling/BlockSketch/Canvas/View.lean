import BlockSketch.Canvas.Event

/-!
# BlockSketch.Canvas.View

The two views on a scene.  One zooms with the wheel while the control key is held
and draws a grid; the other zooms with the wheel alone.  Both are moved by dragging
and delete what is selected.
-/

namespace BlockSketch.Canvas

inductive ViewKind where
  -- zooms between bounds with the control key
  | zooming
  -- zooms freely
  | panning
deriving DecidableEq, Repr, Inhabited

inductive Cursor where
  | arrow
  | closedHand
deriving DecidableEq, Repr, Inhabited

/-- What a view does to its scale. -/
inductive Scaling where
  | by (factor : Float)
  | reset
deriving Inhabited

inductive Button where
  | left
  | middle
  | other
deriving DecidableEq, Repr, Inhabited

/-- The keys that a view looks at. -/
inductive Key where
  | delete
  | backspace
  | zero
  | other
deriving DecidableEq, Repr, Inhabited

/-- The keys held down during an event. -/
structure Held where
  control : Bool := false
  shift : Bool := false
deriving DecidableEq, Inhabited

structure View where
  kind : ViewKind
  session : Session := {}
  zoom : Float := 1.0
  dragged : Bool := false
  -- the last place of the mouse at which it was dragged
  grip : Option (Int × Int) := if kind = .panning then some (0, 0) else none
  right : Int := 0
  down : Int := 0
  cursor : Option Cursor := none
  -- the changes of scale since the last step
  scalings : List Scaling := []
deriving Inhabited

/-- A step in a view; what was done before a fault stays. -/
abbrev Viewing := ExceptT Fault (StateM View)

namespace View

def leastZoom : Float := 0.25

def greatestZoom : Float := 3.0

/-- The distance of the lines drawn behind the scene. -/
def lineStep : Int := 16

/-- The scale after a turn of the wheel. -/
def nextZoom (zoom : Float) (out : Bool) : Float :=
  let z := zoom * (if out then 0.9 else 1.1)
  let z := if z < greatestZoom then z else greatestZoom
  if z > leastZoom then z else leastZoom

/-- The factor of a free turn of the wheel. -/
def freeFactor (inward : Bool) : Float := if inward then 1.15 else 1.0 / 1.15

/-- Whether a button with these keys takes hold of the view. -/
def grabs (kind : ViewKind) (button : Button) (held : Held) : Bool :=
  button = .middle || kind = .zooming && button = .left && held.shift

/-- Whether a button lets go of the view. -/
def letsGo (kind : ViewKind) (button : Button) : Bool :=
  button = .middle || kind = .zooming && button = .left

/-- Whether a key deletes what is selected. -/
def deletes (kind : ViewKind) (key : Key) : Bool :=
  key = .delete || kind = .zooming && key = .backspace

end View

namespace Viewing

/-- Edit the scene. -/
def onCanvas {α : Type} (e : Edit α) : Viewing α := do
  let v ← get
  let (result, session) := e.run v.session
  set { v with session }
  MonadExcept.ofExcept result

/-- Leave an event to the usual handling. -/
def passOn (event : Text) : Viewing Verdict := onCanvas (Edit.passOn event)

def scale (s : Scaling) : Viewing Unit := modify fun v => { v with scalings := v.scalings ++ [s] }

def pixel (p : Point) : Viewing (Int × Int) := do
  let x ← MonadExcept.ofExcept (Value.toInt (.float p.x))
  let y ← MonadExcept.ofExcept (Value.toInt (.float p.y))
  return (x, y)

/-- The wheel turns, by a whole number of steps where it counts. -/
def wheel (delta : Value) (held : Held) : Viewing Verdict := do
  let v ← get
  match v.kind with
  | .panning =>
    let turn ← MonadExcept.ofExcept delta.toInt
    scale (.by (View.freeFactor (decide (0 < turn))))
    return .none
  | .zooming =>
    if held.control then
      let turn ← MonadExcept.ofExcept delta.toInt
      let zoom := View.nextZoom v.zoom (decide (turn < 0))
      set { v with zoom }
      scale (.by (zoom / v.zoom))
      return .accepted
    else passOn "wheelEvent"

/-- A button goes down. -/
def press (button : Button) (held : Held) (p : Point) : Viewing Verdict := do
  if View.grabs (← get).kind button held then
    modify fun v => { v with dragged := true }
    let place ← pixel p
    modify fun v => { v with grip := some place, cursor := some .closedHand }
    return .accepted
  else passOn "mousePressEvent"

/-- The mouse moves. -/
def move (p : Point) : Viewing Verdict := do
  let v ← get
  match v.dragged, v.grip with
  | true, some last =>
    let place ← pixel p
    set { v with
      grip := some place
      right := v.right - (place.1 - last.1)
      down := v.down - (place.2 - last.2) }
    return .accepted
  | _, _ => passOn "mouseMoveEvent"

/-- A button goes up. -/
def release (button : Button) : Viewing Verdict := do
  let v ← get
  if v.dragged && View.letsGo v.kind button then
    set { v with dragged := false, cursor := some .arrow }
    return .accepted
  else passOn "mouseReleaseEvent"

/-- A key goes down; in a text field it belongs to the text. -/
def key (k : Key) (held : Held) (inText : Bool) : Viewing Verdict := do
  let kind := (← get).kind
  let deleted ← if View.deletes kind k && !inText then
      pure (← onCanvas Edit.deleteSelected).any else pure false
  if deleted then return .accepted
  else if kind = .zooming && k = .zero && held.control then
    scale .reset
    modify fun v => { v with zoom := 1.0 }
    return .accepted
  else passOn "keyPressEvent"

/-- Add a block and select it as well. -/
def addSelected (uid : Text) (p : Point) : Viewing Unit := onCanvas do
  let h ← Edit.add (.text "b") p uid []
  Edit.select (.card h) true

end Viewing

/-! ## the grid behind the scene -/

inductive GridLine where
  | upright (x : Int) (top bottom : Float)
  | level (y : Int) (left right : Float)
deriving Inhabited

/-- The quotient by the line distance, rounded down or up. -/
def lineIndex (up : Bool) (x : Float) : Outcome Int :=
  let q := x / 16.0
  match Decimal.Binary.ofFloat q with
  | .finite negative m e =>
    let (num, den) := Decimal.ratio m e
    let n : Int := Decimal.withSign negative num
    .ok (if up then -(Int.fdiv (-n) den) else Int.fdiv n den)
  | _ => .error (if q.isNaN then .malformed else .tooLarge)

/-- The numbers from one to another, both included. -/
def numbersFrom (low high : Int) : List Int :=
  (List.range (high - low + 1).toNat).map fun i => low + Int.ofNat i

/-- The grid lines that cover an area, with one to spare on each side. -/
def gridLines (x y width height : Float) : Outcome (List GridLine) := do
  let right := x + width
  let bottom := y + height
  let first ← lineIndex false x
  let last ← lineIndex true right
  let upper ← lineIndex false y
  let lower ← lineIndex true bottom
  return (numbersFrom (first - 1) (last + 1)).map
    (fun i => .upright (i * View.lineStep) y bottom) ++
    (numbersFrom (upper - 1) (lower + 1)).map fun i => .level (i * View.lineStep) x right

end BlockSketch.Canvas
