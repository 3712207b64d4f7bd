import BlockSketch.Board
import BlockSketch.Format.Template
import BlockSketch.Text.FilePath

/-!
# BlockSketch.Firmware.Flasher

Commands that compile a sketch and load it onto a board.  What runs a command is a
parameter.
-/

namespace BlockSketch.Firmware

structure CommandResult where
  command : List Value
  code : Value := .int 0
  out : Value := .text ""
  err : Value := .text ""

def CommandResult.success (r : CommandResult) : Bool := r.code.same (.int 0)

/-- The command that compiles the sketch in a directory. -/
def compileCommand (tools : Text.FilePath) (board : Board) (sketch : Text) : List Value :=
  [.text ((tools.child "ArduinoCLI").child "arduino-cli").render, .text "compile",
    .text "--fqbn", board.fqbn, .text (Text.FilePath.ofText sketch).render]

/-- Where an upload tool lies below the directory of tools. -/
def toolPath (tools : Text.FilePath) (tool : Text) : Text.FilePath :=
  if tool = "avrdude" then ((tools.child "Tools").child "avrdude").child "avrdude.exe"
  else if tool = "esptool" then (tools.child "Tools").child "esptool.py"
  else if tool = "picotool" then (tools.child "Tools").child "picotool.exe"
  else tools.child tool

/-- The values that the marks of an upload command stand for. -/
def uploadContext (tools : Text.FilePath) (board : Board) (tool file : Text) (port : Value) :
    Fields :=
  [("avrdude", .text (toolPath tools tool).render), ("port", port),
    ("hex_path", .text (Text.FilePath.ofText file).render), ("speed", board.speed)]

/-- The words of the command that loads a file onto a board. -/
def flashWords (tools : Text.FilePath) (board : Board) (file : Text) (port : Value) :
    Outcome (List Text) := do
  match board.tool with
  | .text tool =>
    match board.command with
    | .text template =>
      let line ← Format.render template (uploadContext tools board tool file port)
      match Text.words line with
      | .ok words => return words
      | .error cause => .error (.badWords cause)
    | _ => .error .noMember
  | _ => .error .wrongKind

/-- The command that loads a file onto a board. -/
def flashCommand (tools : Text.FilePath) (board : Board) (file : Text) (port : Value) :
    Outcome (List Value) := do
  return (← flashWords tools board file port).map .text

/-- What runs a command, with a state of its own that is handed on. -/
abbrev Runner (σ : Type) := List Value → σ → Outcome CommandResult × σ

variable {σ : Type}

/-- Compile the sketch in a directory. -/
def compile (run : Runner σ) (tools : Text.FilePath) (board : Board) (sketch : Text) :
    σ → Outcome CommandResult × σ :=
  run (compileCommand tools board sketch)

/-- Load a file onto a board.  Where there is no command, nothing is run. -/
def flash (run : Runner σ) (tools : Text.FilePath) (board : Board) (file : Text) (port : Value)
    (s : σ) : Outcome CommandResult × σ :=
  match flashCommand tools board file port with
  | .ok command => run command s
  | .error f => (.error f, s)

end BlockSketch.Firmware
