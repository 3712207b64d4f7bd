import BlockSketch.Canvas.Scene
import BlockSketch.Json.Reader

/-!
# BlockSketch.Platform.Basic

What the workbench asks of the platform that it runs on.  The platform brings the widgets in which
values are entered, lists what is selected in an order of its own, has room for documents up to
some depth, and decides what becomes of a fault in the midst of an announcement.  Nothing is known
of a widget but what stands here: it may round, cut or refuse what is set in it.
-/

namespace BlockSketch

/-- An integer as it was given, which may have been as a truth value. -/
structure WholeNumber where
  amount : Int
  isTruth : Bool := false
deriving DecidableEq, Repr, Inhabited

/-- The value that an integer stands for. -/
def WholeNumber.value (n : WholeNumber) : Value :=
  if n.isTruth then .bool (decide (n.amount ≠ 0)) else .int n.amount

/-- The bounds and the step that a box for numbers is made with. -/
structure Range (bound step : Type) where
  low : bound
  high : bound
  step : step

/-- A widget that is made from an `ι`, in which an `α` is set and from which a `β` is read. -/
structure Widget (ι α β : Type) where
  State : Type
  make : ι → Outcome State
  -- the widget after the program set something in it; no signal of that is heard
  set : State → α → Outcome State
  -- the widget after an input of the user, with what its signal carries, if it gives one
  enter : State → Value → Outcome (State × Option Value)
  value : State → Outcome β
  -- a new widget can be read, and also once something was set in it
  readable : ∀ {i s}, make i = .ok s →
    (∃ b, value s = .ok b) ∧ ∀ {a s'}, set s a = .ok s' → ∃ b, value s' = .ok b

/-- What is left to a platform: its widgets, the order in which what is selected is listed, the room
for documents that lie in one another, and what becomes of a fault in a listener. -/
class Platform where
  -- a box for an integer; where no step is given it has one of its own
  whole : Widget (Range WholeNumber (Option WholeNumber)) Int Int
  -- a box for a double; where a bound is not given it has one of its own
  decimal : Widget (Range (Option Float) Float) Float Float
  -- rows of a text and a value each, one of which is chosen by its number
  rows : Widget (List (Text × Value)) Nat Value
  -- the number of the row that is found for a value
  find : rows.State → Value → Option Nat
  line : Widget Unit Text Value
  tick : Widget Unit Bool Bool
  -- the order in which what is selected is listed
  arrangement : Canvas.Arrangement
  room : Json.Room
  -- whether a fault while an announcement is taken up ends the work that made it; else it is
  -- reported, and the work goes on
  stopsAtFault : Bool

end BlockSketch
