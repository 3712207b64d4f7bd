import BlockSketch.Registry.Basic
import BlockSketch.Value.Number

/-!
# BlockSketch.Board

Boards: what a board is called, how code is loaded onto it, and which pins it
has.
-/

namespace BlockSketch

/-- The profile of a board.  The texts are kept as they stand in the table. -/
structure Board where
  id : Value
  name : Value
  -- its fully qualified name for the compiler
  fqbn : Value
  command : Value
  tool : Value
  speed : Value
  digital : List Int
  pwm : List Int
  analog : List Text
deriving Inhabited

namespace Board

/-- The numbers of a list of pins. -/
def readPins (pins : Fields) (key : Text) : Outcome (List Int) := do
  (← (pins.get key (.list [])).items).mapM Value.toInt

/-- The profile in an entry of a board table. -/
def ofEntry (v : Value) : Outcome Board := do
  let fs ← v.fields
  let pins := fs.get "pins" (.dict [])
  let id ← fs.need "id"
  let upload ← (fs.get "upload" (.dict [])).fields
  let pins ← pins.fields
  let digital ← readPins pins "digital"
  let pwm ← readPins pins "pwm"
  let analog := (← (Fields.get pins "analog" (.list [])).items).map Value.shown
  return {
    id, digital, pwm, analog
    name := fs.get "name" id
    fqbn := fs.get "fqbn" id
    command := Fields.get upload "command" (.text "")
    tool := Fields.get upload "tool" (.text "")
    speed := Fields.get upload "speed" (.int 115200) }

/-- The boards of a table by identifier. -/
def readTable (document : Value) : Outcome (Value.Table Board) := do
  let fs ← document.fields
  (← (fs.get "boards" (.list [])).items).foldlM (fun (table : Value.Table Board) entry => do
    let board ← ofEntry entry
    return table.put (← board.id.asKey) board) []

def bundledEntry : Value :=
  .dict [("id", .text "uno"), ("name", .text "Arduino Uno R3"), ("fqbn", .text "arduino:avr:uno"),
    ("mcu", .text "atmega328p"),
    ("upload", .dict [("tool", .text "avrdude"), ("protocol", .text "arduino"),
      ("speed", .int 115200),
      ("command", .text ("\x7bavrdude\x7d -v -p atmega328p -c arduino -P \x7bport\x7d " ++
        "-b \x7bspeed\x7d -D -U flash:w:\x7bhex_path\x7d:i"))]),
    ("pins", .dict [
      ("digital", .list ([2, 3, 4, 5, 6, 7, 8, 9, 10, 11, 12, 13].map .int)),
      ("pwm", .list ([3, 5, 6, 9, 10, 11].map .int)),
      ("analog", .list [.text "A0", .text "A1", .text "A2", .text "A3", .text "A4", .text "A5"])])]

def bundledTable : Value := .dict [("version", .int 1), ("boards", .list [bundledEntry])]

end Board

end BlockSketch
