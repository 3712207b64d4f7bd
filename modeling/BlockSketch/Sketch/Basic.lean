import BlockSketch.Sketch.Generator
import BlockSketch.Text.Blank

/-!
# BlockSketch.Sketch.Basic

Sketches: the text assembled from the collected lines, with the numbers of the
lines that every block wrote.
-/

namespace BlockSketch

structure Sketch where
  code : Text
  -- the line numbers of every block
  mapping : Assoc Text (List Nat)
  lines : Sketch.SectionLines

namespace Sketch

def globalsHeading : Text := "\n// ===== Globals ====="

/-- The rows of a sketch in order, each with the block it comes from. -/
def rows (s : SectionLines) : List Line :=
  let row (t : Text) : Line := (t, none)
  s.includes ++ [row globalsHeading] ++ s.globals ++
    (if s.globals.isEmpty then [] else [row ""]) ++
    [row "void setup() \x7b"] ++ s.setup ++ [row "\x7d", row ""] ++
    [row "void loop() \x7b"] ++ s.loop ++ [row "\x7d"] ++
    (if s.functions.isEmpty then [] else row "" :: s.functions)

def rowsText (rows : List Line) : Text :=
  Text.trim (Text.intercalate "\n" (rows.map Prod.fst)) ++ "\n"

/-- Note the number of a row under its block. -/
def noteRow (numbers : Assoc Text (List Nat)) (n : Nat) (line : Line) :
    Assoc Text (List Nat) :=
  match line.2 with
  | some id => if id.isEmpty then numbers else Assoc.addToGroup numbers id n
  | none => numbers

/-- Note the numbers of rows, the first of which has number `n`. -/
def noteRows : Nat → Assoc Text (List Nat) → List Line → Assoc Text (List Nat)
  | _, numbers, [] => numbers
  | n, numbers, row :: rest => noteRows (n + 1) (noteRow numbers n row) rest

/-- Move the waiting headers to their section. -/
def Generator.settleHeaders (g : Generator) : Generator :=
  { g with lines := g.lines.append .includes g.headers, headers := [] }

/-- Number the rows of what was collected. -/
def Generator.assemble (g : Generator) : Generator :=
  let g := g.settleHeaders
  { g with numbers := noteRows 1 g.numbers (rows g.lines) }

def Generator.sketch (g : Generator) : Sketch :=
  ⟨rowsText (rows g.lines), g.numbers, g.lines⟩

/-- The header every sketch begins with. -/
def baseHeader : Text := "#include <Arduino.h>"

/-- Collect what a program asks for and writes. -/
def collect (r : Registry) (p : Program) : Step Unit := do
  match p.root with
  | none => throw (.generation .noRoot)
  | some root =>
    modify fun g => g.addHeader (baseHeader, none)
    let _ ← action r root none 0

/-- Generate the sketch of a program with a generator that may have been used before. -/
def build (r : Registry) (p : Program) : Step Sketch := do
  collect r p
  modify Generator.assemble
  return (← get).sketch

/-- Generate the sketch of a program. -/
def generate (r : Registry) (p : Program) : Outcome Sketch := (build r p).run.run {} |>.1

/-- Generate the sketches of programs in turn with one generator. -/
def generateAll (r : Registry) (g : Generator) : List Program → List (Outcome Sketch)
  | [] => []
  | p :: rest =>
    let (result, g) := (build r p).run.run g
    result :: generateAll r g rest

end Sketch

end BlockSketch
