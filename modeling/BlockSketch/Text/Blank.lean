import BlockSketch.Text.Basic

/-!
# BlockSketch.Text.Blank

White space and trimming.  A blank is a character that separates words in any
script; zero-width marks are not blanks.
-/

namespace BlockSketch.Text

/-- White space: the tabs and line ends, the information separators, and the spaces of Unicode. -/
def isBlank (c : Char) : Bool :=
  let n := c.toNat
  decide (0x09 ≤ n ∧ n ≤ 0x0D) || decide (0x1C ≤ n ∧ n ≤ 0x20) || n == 0x85 || n == 0xA0 ||
    n == 0x1680 || decide (0x2000 ≤ n ∧ n ≤ 0x200A) || n == 0x2028 || n == 0x2029 ||
    n == 0x202F || n == 0x205F || n == 0x3000

/-- A text without the characters of a class at its ends. -/
def trimBy (drop : Char → Bool) (t : Text) : Text :=
  ⟨((t.letters.dropWhile (·.isIn drop)).reverse.dropWhile (·.isIn drop)).reverse⟩

/-- A text without the blanks at its ends. -/
def trim (t : Text) : Text := t.trimBy isBlank

end BlockSketch.Text
