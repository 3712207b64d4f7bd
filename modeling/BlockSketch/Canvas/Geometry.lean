import BlockSketch.Decimal.Layout
import BlockSketch.Fault

/-!
# BlockSketch.Canvas.Geometry

Where things stand on the canvas: the grid that blocks snap to, the places of
their ports, and the curve drawn for a link.
-/

namespace BlockSketch.Canvas

structure Point where
  x : Float := 0.0
  y : Float := 0.0
deriving Inhabited, DecidableEq

namespace Point

/-- Whether two points are the same place; the two zeros are. -/
def sameAs (p q : Point) : Bool := p.x == q.x && p.y == q.y

/-- The sum of two points. -/
def add (p q : Point) : Point := ⟨p.x + q.x, p.y + q.y⟩

/-- Whether a point lies within a distance of another, the border included. -/
def within (p q : Point) (distance : Float) : Bool :=
  let dx := p.x - q.x
  let dy := p.y - q.y
  dx * dx + dy * dy <= distance * distance

end Point

/-! ## the grid -/

/-- The distance of the grid lines. -/
def gridStep : Nat := 20

/-- The nearest multiple of the grid step, a half going to the even one. -/
def snapCoordinate (x : Float) : Outcome Float :=
  let steps := x / 20.0
  match Decimal.round? steps with
  | some n =>
    match Decimal.ofInt? (n * gridStep) with
    | some y => .ok y
    | none => .error .tooLarge
  | none => .error (if steps.isNaN then .malformed else .tooLarge)

/-- The nearest point of the grid. -/
def snap (p : Point) : Outcome Point := do
  let x ← snapCoordinate p.x
  let y ← snapCoordinate p.y
  return ⟨x, y⟩

/-! ## cards -/

def cardWidth : Nat := 180

/-- The height of the strip that holds the title. -/
def headerHeight : Nat := 28

/-- Where the first port stands below the top. -/
def firstPortY : Nat := 64

/-- The distance between ports. -/
def portSpacing : Nat := 24

def leastHeight : Nat := 96

/-- The height of a block with so many ports on its two sides. -/
def heightFor (inputs outputs : Nat) : Nat :=
  max leastHeight (firstPortY + portSpacing * max (max inputs outputs) 1)

/-- How far from its centre a port can be hit. -/
def hitRadius : Float := 9.0

/-! ## curves -/

/-- A cubic curve by its end points and control points. -/
structure Curve where
  start : Point
  first : Point
  second : Point
  finish : Point
deriving Inhabited, DecidableEq

/-- The curve of a link: it leaves and arrives horizontally, with the control points halfway. -/
def Curve.between (s e : Point) : Curve :=
  let dx := (e.x - s.x) * 0.5
  ⟨s, ⟨s.x + dx, s.y⟩, ⟨e.x - dx, e.y⟩, e⟩

def Curve.coordinates (c : Curve) : List Float :=
  [c.start.x, c.start.y, c.first.x, c.first.y, c.second.x, c.second.y, c.finish.x, c.finish.y]

end BlockSketch.Canvas
