import BlockSketch.Text.Case
import BlockSketch.Platform.Basic
import BlockSketch.Value.Number
import BlockSketch.Value.Written

/-!
# BlockSketch.Sheet.Editor

Editors for parameter values.  The type in a parameter's descriptor decides which
editor it gets.  An editor holds what its widget holds, so showing a value in it may
change the value.
-/

namespace BlockSketch

inductive EditorKind where
  | whole
  | decimal
  | choice
  | line
  | tick
  | color
  -- for any other value, as a text
  | free
deriving DecidableEq, Repr, Inhabited

variable [Platform]

inductive Editor where
  | whole (box : Platform.whole.State)
  | decimal (box : Platform.decimal.State)
  | choice (box : Platform.rows.State)
  | line (line : Platform.line.State)
  | tick (box : Platform.tick.State)
  | color (line : Platform.line.State)
  | free (line : Platform.line.State)

namespace Editor

def kind : Editor → EditorKind
  | .whole _ => .whole
  | .decimal _ => .decimal
  | .choice _ => .choice
  | .line _ => .line
  | .tick _ => .tick
  | .color _ => .color
  | .free _ => .free

/-- The value that an editor holds. -/
def value : Editor → Outcome Value
  | .whole s => return .int (← Platform.whole.value s)
  | .decimal s => return .float (← Platform.decimal.value s)
  | .choice s => Platform.rows.value s
  | .line s | .color s | .free s => Platform.line.value s
  | .tick s => return .bool (← Platform.tick.value s)

/-! ## what a descriptor says -/

/-- The integer that a value is, truth values counted as zero and one. -/
def whole? : Value → Option WholeNumber
  | .int n => some ⟨n, false⟩
  | .bool b => some ⟨if b then 1 else 0, true⟩
  | _ => none

def number? (v : Value) : Outcome (Option Float) :=
  match v with
  | .int _ | .bool _ | .float _ | .undefined _ => return some (← v.toFloat)
  | _ => .ok none

/-- The range of an integer: from -1000000 to 1000000 where the descriptor gives no integer
bound. -/
def wholeRange (d : Fields) : Range WholeNumber (Option WholeNumber) where
  low := (whole? (Fields.opt d "min")).getD ⟨-1000000, false⟩
  high := (whole? (Fields.opt d "max")).getD ⟨1000000, false⟩
  step := (whole? (Fields.opt d "step")).filter fun n => decide (0 < n.amount)

/-- The step of a double: what the descriptor gives above zero, or else a tenth. -/
def stepOf (d : Fields) : Outcome Float := do
  let given ← match Fields.opt d "step" with
    | .int n => if 0 < n then number? (.int n) else .ok none
    | v => number? v
  return (given.filter fun x => decide (0.0 < x)).getD 0.1

def decimalRange (d : Fields) : Outcome (Range (Option Float) Float) := do
  let low ← number? (Fields.opt d "min")
  let high ← number? (Fields.opt d "max")
  return ⟨low, high, ← stepOf d⟩

/-- The row of an option: its label, or else the text of its value. -/
def row (option : Value) : Outcome (Text × Value) := do
  match option with
  | .dict d =>
    let v := Fields.opt d "value"
    return (← (Fields.get d "label" v).spelled, v)
  | v => return (← v.spelled, v)

def rowsOf (d : Fields) : Outcome (List (Text × Value)) := do
  let options := Fields.opt d "options"
  if options.isSet then (← options.items).mapM row else return []

/-- The kind of editor for a descriptor. -/
def kindOf (d : Fields) : Outcome EditorKind := do
  let type ← ((Fields.opt d "type").orElse (.text "string")).spelled
  return match (Text.lower type).plain with
    | "int" | "integer" => .whole
    | "float" | "double" | "number" => .decimal
    | "enum" => .choice
    | "bool" | "boolean" => .tick
    | "color" => .color
    | "string" => .line
    | _ => .free

/-! ## choosing, showing, editing -/

def ofDescriptor (d : Fields) : Outcome Editor := do
  match ← kindOf d with
  | .whole => return .whole (← Platform.whole.make (wholeRange d))
  | .decimal => return .decimal (← Platform.decimal.make (← decimalRange d))
  | .choice => return .choice (← Platform.rows.make (← rowsOf d))
  | .tick => return .tick (← Platform.tick.make ())
  | .color => return .color (← Platform.line.make ())
  | .line => return .line (← Platform.line.make ())
  | .free => return .free (← Platform.line.make ())

/-- The colour shown when there is none. -/
def absentColor (d : Fields) : Outcome Text :=
  ((Fields.opt d "default").orElse (.text "#ffffff")).spelled

/-- The text that stands for a value in a line. -/
def lineText (v : Value) : Outcome Text := if v = .null then .ok "" else v.spelled

/-- The integer that is set for a value: of a number the integer part, else the default. -/
def wholeFor (d : Fields) (v : Value) : Outcome (Option Int) :=
  match v with
  | .float _ | .undefined _ => return some (← v.toInt)
  | _ => .ok (((whole? v).or (whole? (Fields.opt d "default"))).map WholeNumber.amount)

/-- The double that is set for a value. -/
def decimalFor (d : Fields) (v : Value) : Outcome (Option Float) := do
  match ← number? v with
  | some x => return some x
  | none => number? (Fields.opt d "default")

/-- The number of the row that is set for a value: of the value, else of the default, else the
first one. -/
def rowFor (d : Fields) (s : Platform.rows.State) (v : Value) : Nat :=
  ((Platform.find s v).or (Platform.find s (Fields.opt d "default"))).getD 0

/-- The text that is set for a colour. -/
def colorFor (d : Fields) : Value → Outcome Text
  | .text s => if s.isEmpty then absentColor d else .ok s
  | _ => absentColor d

/-- Set something in a widget, if there is something to set. -/
def setSome {ι α β : Type} (w : Widget ι α β) (s : w.State) : Option α → Outcome w.State
  | some a => w.set s a
  | none => .ok s

/-- Show a value, or the descriptor's default when the editor cannot show it. -/
def display (d : Fields) (v : Value) : Editor → Outcome Editor
  | .whole s => do return .whole (← setSome Platform.whole s (← wholeFor d v))
  | .decimal s => do return .decimal (← setSome Platform.decimal s (← decimalFor d v))
  | .choice s => do return .choice (← Platform.rows.set s (rowFor d s v))
  | .line s => do return .line (← Platform.line.set s (← lineText v))
  | .free s => do return .free (← Platform.line.set s (← lineText v))
  | .tick s => do return .tick (← Platform.tick.set s v.isSet)
  | .color s => do return .color (← Platform.line.set s (← colorFor d v))

/-- The editor after an input, and the value to take over if it announces one.  What the signal of
a choice or a tick carries is not used: the editor is read instead. -/
def edit (e : Editor) (v : Value) : Outcome (Editor × Option (Outcome Value)) := do
  match e with
  | .whole s =>
    let (s, told) ← Platform.whole.enter s v
    return (.whole s, told.map .ok)
  | .decimal s =>
    let (s, told) ← Platform.decimal.enter s v
    return (.decimal s, told.map .ok)
  | .choice s =>
    let (s, told) ← Platform.rows.enter s v
    return (.choice s, told.map fun _ => (choice s).value)
  | .tick s =>
    let (s, told) ← Platform.tick.enter s v
    return (.tick s, told.map fun _ => (tick s).value)
  | .line s =>
    let (s, told) ← Platform.line.enter s v
    return (.line s, told.map .ok)
  | .color s =>
    let (s, told) ← Platform.line.enter s v
    return (.color s, told.map .ok)
  | .free s =>
    let (s, told) ← Platform.line.enter s v
    return (.free s, told.map .ok)

/-- A colour editor after its dialog, which may have been cancelled. -/
def pick (e : Editor) (choice : Option Text) : Outcome (Editor × Option (Outcome Value)) := do
  match e, choice with
  | .color s, some c =>
    let e := .color (← Platform.line.set s c)
    return (e, some e.value)
  | _, _ => return (e, none)

end Editor

end BlockSketch
