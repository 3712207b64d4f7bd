import BlockSketch.Canvas.Scene

/-!
# BlockSketch.Canvas.Drawing

How cards, ports and wires look.
-/

namespace BlockSketch.Canvas

/-- A colour by its red, green and blue parts. -/
structure Color where
  red : Nat
  green : Nat
  blue : Nat
deriving DecidableEq, Repr, Inhabited

structure Pen where
  color : Color
  width : Float
  styles : List Text := []
deriving Inhabited

/-- A rectangle by its left upper corner and its size. -/
structure Rect where
  x : Float
  y : Float
  width : Float
  height : Float
deriving Inhabited

/-- A step in the drawing of a card. -/
inductive Stroke where
  | pen (p : Pen)
  | ink (c : Color)
  | brush (c : Color)
  | noBrush
  | rounded (r : Rect) (radius : Nat)
  | rect (x y width height : Nat)
  | font
  | text (r : Rect) (flags : List Text) (s : Text)
deriving Inhabited

/-- The colour of an ordinary wire. -/
def wireColor : Color := ⟨120, 144, 156⟩

/-- The colour of what is selected, and of a wire under the mouse. -/
def selectedColor : Color := ⟨255, 193, 7⟩

/-- The colour of a port, under the mouse or not. -/
def portColor (under : Bool) : Color := if under then ⟨255, 241, 118⟩ else ⟨236, 239, 241⟩

/-- The colour of a wire, under the mouse or not. -/
def wireColorAt (under : Bool) : Color := if under then selectedColor else wireColor

def wirePen : Pen := ⟨wireColor, 2.0, ["SolidLine", "RoundCap", "RoundJoin"]⟩

/-- How wide the area is in which a wire can be hit. -/
def wireHitWidth : Float := 12.0

/-- A whole number as a coordinate. -/
def coordinate (n : Nat) : Float := Decimal.ofInt (Int.ofNat n)

namespace Card

/-- The area of a card. -/
def bounds (c : Card) : Rect := ⟨0.0, 0.0, coordinate cardWidth, coordinate c.height⟩

/-- The steps that draw a card. -/
def drawing (c : Card) : List Stroke :=
  [.pen { color := ⟨96, 125, 139⟩, width := 1.5 }, .brush ⟨38, 50, 56⟩, .rounded c.bounds 8,
    .brush ⟨55, 71, 79⟩,
    .rounded ⟨0.0, 0.0, coordinate cardWidth, coordinate headerHeight⟩ 8,
    .rect 0 (headerHeight - 1) cardWidth 1, .ink ⟨236, 239, 241⟩, .font,
    .text ⟨8.0, 0.0, coordinate (cardWidth - 16), coordinate headerHeight⟩
      ["AlignLeft", "AlignVCenter"] c.title] ++
  if c.selected then
    [.pen { color := selectedColor, width := 2.0, styles := ["DashLine"] }, .noBrush,
      .rounded ⟨1.0, 1.0, coordinate (cardWidth - 2), coordinate (c.height - 2)⟩ 8]
  else []

end Card

def portHint (side : Side) (p : PortSpec) : Text :=
  side.word ++ ": " ++ p.name ++
    match p.type with
    | some t => if t.isEmpty then "" else " (" ++ t ++ ")"
    | none => ""

end BlockSketch.Canvas
