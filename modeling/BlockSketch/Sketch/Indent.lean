import BlockSketch.Text.Lines

/-!
# BlockSketch.Sketch.Indent

Indentation of code.
-/

namespace BlockSketch.Sketch

/-- The blanks of an indentation level. -/
def indentation (level : Nat) : Text := .replicate (2 * level) ' '

/-- A line at an indentation level; an empty line stays empty. -/
def indentLine (level : Nat) (line : Text) : Text :=
  if line.isEmpty then line else indentation level ++ line

/-- Indent every line of a text. -/
def indent (level : Nat) (t : Text) : Text := Text.unlines (t.lines.map (indentLine level))

end BlockSketch.Sketch
