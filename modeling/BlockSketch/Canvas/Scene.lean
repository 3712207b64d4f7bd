import BlockSketch.Canvas.Geometry
import BlockSketch.Catalog
import BlockSketch.Diagram.Basic
import BlockSketch.Text.Case

/-!
# BlockSketch.Canvas.Scene

The scene on the canvas: a card for every block, a wire for every link, and at
most one wire that is being drawn.  Cards and wires are numbered in order of
making and keep their number, so that what was removed can still be named; `items`
lists those that are in the scene.  `Scene.diagram` is the diagram that the scene
shows.
-/

namespace BlockSketch.Canvas

/-- The two sides of a card. -/
inductive Side where
  | input
  | output
deriving DecidableEq, Repr, Inhabited

def Side.word : Side → Text
  | .input => "in"
  | .output => "out"

def Side.ofWord? : String → Option Side
  | "in" => some .input
  | "out" => some .output
  | _ => none

/-- A port, named by the number of its card and its place on a side. -/
structure PortRef where
  card : Nat
  side : Side
  index : Nat
deriving DecidableEq, Repr, Inhabited

/-- A block in the scene. -/
structure Card where
  -- the block; its position is the position of the card
  node : Node
  title : Text
  inputs : List PortSpec := []
  outputs : List PortSpec := []
  selected : Bool := false
deriving Inhabited, DecidableEq

/-- A link in the scene, or one that is being drawn. -/
structure Wire where
  -- the port it leaves; none once it was taken off its ports
  start : Option PortRef
  finish : Option PortRef := none
  -- the link it shows; none while it is being drawn
  link : Option Link := none
  -- the place its free end follows
  loose : Option Point := none
  curve : Option Curve := none
  selectable : Bool := true
  selected : Bool := false
deriving Inhabited, DecidableEq

/-- What the scene holds. -/
inductive Item where
  | card (h : Nat)
  | wire (h : Nat)
deriving DecidableEq, Repr, Inhabited

/-- A wire that is being drawn. -/
structure Preview where
  wire : Nat
  start : PortRef
deriving DecidableEq, Inhabited

/-- A removal as it is told to a listening project. -/
inductive Removal where
  | block (uid : Text)
  | link (key : Text)
deriving DecidableEq, Inhabited

/-- A project that listens to removals. -/
structure Listener where
  -- whether it takes removals at all
  takes : Bool
  taken : List Removal := []
deriving DecidableEq, Inhabited

/-- The order in which the selected items are listed, which is for the platform to choose. -/
structure Arrangement where
  order : List Item → List Item
  perm : ∀ items, (order items).Perm items

def Arrangement.asAdded : Arrangement := ⟨id, fun _ => .refl _⟩

instance : Inhabited Arrangement := ⟨.asAdded⟩

structure Scene where
  catalog : Catalog := []
  -- every card made so far, by number
  cards : List Card := []
  -- every wire made so far, by number
  wires : List Wire := []
  -- what is in the scene, in order of adding
  items : List Item := []
  -- the card of each block
  byUid : Assoc Text Nat := []
  -- the wire of each link, by the link's key
  byKey : Assoc Text Nat := []
  -- which wires were put on which ports
  plugged : List (PortRef × Nat) := []
  -- which wires were put on which cards
  holding : List (Nat × Nat) := []
  links : List Link := []
  drawn : Option Nat := none
  -- the port where drawing was begun
  drawnFrom : Option PortRef := none
  acceptsDrops : Bool := true
  listener : Option Listener := none
  -- how many identifiers were given out
  minted : Nat := 0
  arrangement : Arrangement := .asAdded
deriving Inhabited

namespace Card

def position (c : Card) : Point := ⟨c.node.x, c.node.y⟩

/-- Put a card somewhere. -/
def moveTo (c : Card) (p : Point) : Card := { c with node := { c.node with x := p.x, y := p.y } }

def ports (c : Card) : Side → List PortSpec
  | .input => c.inputs
  | .output => c.outputs

/-- The place of the last port of a name on a side. -/
def port? (c : Card) (side : Side) (name : Text) : Option Nat :=
  ((c.ports side).mapIdx fun i p => (i, p)).foldl
    (fun found e => if e.2.name = name then some e.1 else found) none

def height (c : Card) : Nat := heightFor c.inputs.length c.outputs.length

end Card

/-- Where a port stands on its card. -/
def PortRef.offset (r : PortRef) : Point :=
  let y := Decimal.ofInt (Int.ofNat (firstPortY + portSpacing * r.index))
  match r.side with
  | .input => ⟨0.0, y⟩
  | .output => ⟨Decimal.ofInt (Int.ofNat cardWidth), y⟩

def Wire.ends (w : Wire) : List PortRef := w.start.toList ++ w.finish.toList

namespace Scene

/-! ## looking up -/

def card (s : Scene) (h : Nat) : Card := s.cards.getD h default

def wire (s : Scene) (h : Nat) : Wire := s.wires.getD h default

def cardOf (s : Scene) (uid : Text) : Outcome Nat :=
  match Assoc.get? s.byUid uid with
  | some h => .ok h
  | none => .error (.missingKey uid)

def wireOf (s : Scene) (key : Text) : Outcome Nat :=
  match Assoc.get? s.byKey key with
  | some h => .ok h
  | none => .error (.missingKey key)

/-- The port of a name on a side of a card. -/
def portOn? (s : Scene) (h : Nat) (side : Side) (name : Text) : Option PortRef :=
  ((s.card h).port? side name).map fun index => ⟨h, side, index⟩

/-- The port of a name on a card; without a side, an input before an output. -/
def portOf (s : Scene) (h : Nat) (name : Text) (side : Option Side) : Outcome PortRef :=
  let found := match side with
    | some side => s.portOn? h side name
    | none => (s.portOn? h .input name).or (s.portOn? h .output name)
  match found with
  | some r => .ok r
  | none => .error .noSuchPort

def portSpec (s : Scene) (r : PortRef) : PortSpec :=
  ((s.card r.card).ports r.side).getD r.index default

/-- Where a port stands in the scene. -/
def anchor (s : Scene) (r : PortRef) : Point := (s.card r.card).position.add r.offset

/-- The identifier of the block that a port belongs to. -/
def uidAt (s : Scene) (r : PortRef) : Text := (s.card r.card).node.uid

/-- The wire that is being drawn, together with the port where that was begun. -/
def preview (s : Scene) : Option Preview :=
  match s.drawn, s.drawnFrom with
  | some wire, some start => some { wire, start }
  | _, _ => none

def wiresAt (s : Scene) (r : PortRef) : List Nat :=
  (s.plugged.filter fun e => e.1 = r).map Prod.snd

def wiresOn (s : Scene) (h : Nat) : List Nat := (s.holding.filter fun e => e.1 = h).map Prod.snd

/-! ## views -/

/-- The blocks of the diagram. -/
def nodes (s : Scene) : List Node := s.byUid.map fun e => (s.card e.2).node

/-- The diagram that the scene shows. -/
def diagram (s : Scene) : Diagram := ⟨s.nodes, s.links⟩

def isSelected (s : Scene) : Item → Bool
  | .card h => (s.card h).selected
  | .wire h => (s.wire h).selected

/-- The selected items. -/
def selection (s : Scene) : List Item := s.arrangement.order (s.items.filter s.isSelected)

/-- The curve of a wire as its ends now stand; none once it was taken off its ports. -/
def curveOf (s : Scene) (w : Wire) : Option Curve :=
  w.start.map fun r =>
    let start := s.anchor r
    Curve.between start
      (match w.finish, w.loose with
        | some e, _ => s.anchor e
        | none, some p => p
        | none, none => start)

/-- The ports near a place: those of the card added last first, its last port first. -/
def portsNear (s : Scene) (p : Point) : List PortRef :=
  (s.items.reverse.flatMap fun
    | .card h =>
      let c := s.card h
      let refs := (List.range c.inputs.length).map (PortRef.mk h .input) ++
        (List.range c.outputs.length).map (PortRef.mk h .output)
      refs.reverse
    | .wire _ => []).filter fun r => p.within (s.anchor r) hitRadius

/-- What names stand for, given what they stood for before: blocks and links that are gone keep
their names until others take them, and the key of a link goes before the name of a block. -/
def names (s : Scene) (before : Assoc Text Item) : Assoc Text Item :=
  let blocks := s.byUid.foldl (fun m e => Assoc.put m e.1 (.card e.2)) before
  s.byKey.foldl (fun m e => Assoc.put m e.1 (.wire e.2)) blocks

/-! ## changes -/

/-- Change the card of a number. -/
def setCard (s : Scene) (h : Nat) (f : Card → Card) : Scene :=
  { s with cards := s.cards.modify h f }

/-- Change the wire of a number. -/
def setWire (s : Scene) (h : Nat) (f : Wire → Wire) : Scene :=
  { s with wires := s.wires.modify h f }

/-- Change the selected mark of an item. -/
def mark (s : Scene) (item : Item) (on : Bool) : Scene :=
  match item with
  | .card h => s.setCard h fun c => { c with selected := on }
  | .wire h => s.setWire h fun w => { w with selected := on }

def canSelect (s : Scene) : Item → Bool
  | .card _ => true
  | .wire h => (s.wire h).selectable

/-- Draw a wire anew. -/
def redraw (s : Scene) (h : Nat) : Scene := s.setWire h fun w => { w with curve := s.curveOf w }

/-- Draw the wires on a card anew. -/
def redrawOn (s : Scene) (h : Nat) : Scene := (s.wiresOn h).foldl redraw s

/-- Put a new card into the scene. -/
def addCard (s : Scene) (c : Card) : Scene :=
  { s with
    cards := s.cards ++ [c]
    items := s.items ++ [.card s.cards.length]
    byUid := Assoc.put s.byUid c.node.uid s.cards.length }

/-- Put a new wire into the scene, without a place in the diagram. -/
def addWire (s : Scene) (w : Wire) : Scene :=
  { s with
    wires := s.wires ++ [{ w with curve := s.curveOf w }]
    items := s.items ++ [.wire s.wires.length] }

/-- Put a wire on a port and the port's card. -/
def attach (s : Scene) (h : Nat) (r : PortRef) : Scene :=
  { s with plugged := s.plugged.insert (r, h), holding := s.holding.insert (r.card, h) }

/-- Take a wire off a port and the port's card. -/
def unplug (s : Scene) (h : Nat) (r : PortRef) : Scene :=
  { s with
    plugged := s.plugged.filter fun e => e ≠ (r, h)
    holding := s.holding.filter fun e => e ≠ (r.card, h) }

/-- Take a wire off the ports at its ends. -/
def detach (s : Scene) (h : Nat) : Scene :=
  ((s.wire h).ends.foldl (fun s r => s.unplug h r) s).setWire h fun w =>
    { w with start := none, finish := none }

/-- Put the wire of a link between two ports. -/
def joinPorts (s : Scene) (l : Link) (start finish : PortRef) : Scene :=
  ({ s.addWire { start, finish, link := l } with
    byKey := Assoc.put s.byKey l.key s.wires.length }.attach s.wires.length start).attach
      s.wires.length finish

/-- Take an item out of the scene. -/
def takeOut (s : Scene) (item : Item) : Scene :=
  { s with items := s.items.filter fun other => other ≠ item }

/-- Tell the listening project of a removal. -/
def tell (s : Scene) (r : Removal) : Scene :=
  { s with listener := s.listener.map fun l =>
      if l.takes then { l with taken := l.taken ++ [r] } else l }

end Scene

end BlockSketch.Canvas
