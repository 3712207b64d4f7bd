import BlockSketch.Diagram.Basic
import BlockSketch.Text.Lines

/-!
# BlockSketch.Diagram.Outline

The preview of a sketch: an empty program that lists the blocks and links of a
diagram in comments.
-/

namespace BlockSketch.Diagram

/-- The parameter values of a block in one line. -/
def paramsLine (params : List (Text × Value)) : Text :=
  let line := Text.intercalate ", " (params.map fun e => e.1 ++ "=" ++ e.2.shown)
  if line.isEmpty then "<без параметров>" else line

/-- The lines of a preview that every diagram has. -/
def opening : List Text :=
  ["// Arduino RoboLab preview sketch", "#include <Arduino.h>", "", "void setup() \x7b",
   "  // TODO: заполнить настройку по данным блоков", "\x7d", "", "void loop() \x7b",
   "  // TODO: автоматическая генерация логики", "\x7d", "", "// --- blocks on canvas ---"]

def nodeLine (n : Node) : Text := "// " ++ n.type.shown ++ ": " ++ paramsLine n.params

/-- The line in place of the blocks when there are none. -/
def noNodes : Text := "// канва пуста"

/-- The line above the links. -/
def linksHeading : Text := "// --- connections ---"

def linkLine (l : Link) : Text :=
  "// " ++ l.fromUid ++ ":" ++ l.fromPort ++ " -> " ++ l.toUid ++ ":" ++ l.toPort

/-- The line in place of the links when there are none. -/
def noLinks : Text := "// соединений нет"

/-- The last line. -/
def closing : Text := "// Конец предварительного скетча"

/-- The preview of the sketch of a diagram. -/
def outline (d : Diagram) : Text :=
  Text.unlines
    (opening ++ d.nodes.map nodeLine ++ (if d.nodes.isEmpty then [noNodes] else []) ++
      [("" : Text), linksHeading] ++ d.links.map linkLine ++
        (if d.links.isEmpty then [noLinks] else []) ++
      [("" : Text), closing])

end BlockSketch.Diagram
