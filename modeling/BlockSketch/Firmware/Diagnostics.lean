import BlockSketch.Value.Number
import BlockSketch.Text.Case
import BlockSketch.Text.Lines
import BlockSketch.Text.Substitute

/-!
# BlockSketch.Firmware.Diagnostics

Errors in the output of a compiler.  A line of the form `file:line:column:text`
is an error when its text says so.
-/

namespace BlockSketch.Firmware

/-- An error that the compiler reports. -/
structure Diagnostic where
  file : Text
  line : Int
  column : Int
  message : Text
deriving DecidableEq, Repr

/-- The line and the column that two texts spell. -/
def position (line column : Text) : Outcome (Int × Int) := do
  return (← Value.intOfText line, ← Value.intOfText column)

/-- The error on a line of output, if there is one.  A line whose numbers are malformed is passed
over. -/
def diagnosticOfLine (line : Text) : Outcome (Option Diagnostic) :=
  match Text.split ':' line with
  | file :: lineNo :: column :: first :: rest =>
    match position lineNo column with
    | .ok (lineNo, column) =>
      let message := Text.trim (Text.intercalate ":" (first :: rest))
      .ok (if Text.contains (Text.lower message) "error" then some ⟨file, lineNo, column, message⟩
        else none)
    | .error .malformed => .ok none
    | .error fault => .error fault
  | _ => .ok none

/-- The errors in a compiler's output. -/
def diagnostics (output : Text) : Outcome (List Diagnostic) := do
  return (← (Text.lines output).mapM diagnosticOfLine).filterMap id

end BlockSketch.Firmware
