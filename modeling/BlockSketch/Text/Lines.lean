import BlockSketch.Text.Basic

/-!
# BlockSketch.Text.Lines

Cutting text into lines.  A line ends at any line boundary of Unicode, a
carriage return with its line feed counts once, and an end of text directly
after a boundary opens no further line.

* `lines_empty` — empty text has no line;
* `linesFrom_newline` — a line feed closes the line in hand.
-/

namespace BlockSketch.Text

def isLineEnd (c : Char) : Bool :=
  let n := c.toNat
  decide (0x0A ≤ n ∧ n ≤ 0x0D) || decide (0x1C ≤ n ∧ n ≤ 0x1E) || n == 0x85 || n == 0x2028 ||
    n == 0x2029

/-- The lines of a text whose first line begins with `current`, which is held reversed. -/
def linesFrom (current : List Letter) : List Letter → List (List Letter)
  | [] => if current.isEmpty then [] else [current.reverse]
  | .char '\r' :: .char '\n' :: rest => current.reverse :: linesFrom [] rest
  | l :: rest =>
    if l.isIn isLineEnd then current.reverse :: linesFrom [] rest
    else linesFrom (l :: current) rest

def lines (t : Text) : List Text := (linesFrom [] t.letters).map Text.mk

/-- Lines joined by line feeds. -/
def unlines (ls : List Text) : Text := intercalate "\n" ls

/-- Line ends of the two-character and the carriage return kind become line feeds. -/
def unifyChars : List Char → List Char
  | [] => []
  | '\r' :: '\n' :: rest => '\n' :: unifyChars rest
  | '\r' :: rest => '\n' :: unifyChars rest
  | c :: rest => c :: unifyChars rest

/-- A string with line feeds as its only line ends. -/
def unifyLineEnds (s : String) : String := String.ofList (unifyChars s.toList)

@[simp] theorem lines_empty : lines ⟨[]⟩ = [] := rfl

theorem linesFrom_newline (current rest : List Letter) :
    linesFrom current (.char '\n' :: rest) = current.reverse :: linesFrom [] rest := by
  rw [linesFrom]
  · simp [Letter.isIn, isLineEnd]
  · intro _ h; simp at h

end BlockSketch.Text
