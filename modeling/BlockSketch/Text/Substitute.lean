import BlockSketch.Text.Basic

/-!
# BlockSketch.Text.Substitute

Plain search and replacement of one text in another, from left to right and
without looking again at what was put in.

* `substitute_of_not_occurs` — a text without the pattern is left alone.
-/

namespace BlockSketch.Text

/-- Whether a pattern occurs in a text. -/
def occurs (pattern : List Letter) : List Letter → Bool
  | [] => pattern.isEmpty
  | c :: rest => pattern.isPrefixOf (c :: rest) || occurs pattern rest

/-- Replace a pattern; `skip` characters still belong to a match in hand. -/
def substituteFrom (pattern new : List Letter) : Nat → List Letter → List Letter
  | _, [] => []
  | skip + 1, _ :: rest => substituteFrom pattern new skip rest
  | 0, c :: rest =>
    if pattern.isPrefixOf (c :: rest) then
      new ++ substituteFrom pattern new (pattern.length - 1) rest
    else c :: substituteFrom pattern new 0 rest

/-- Replace every match of a pattern that is not empty. -/
def substitute (pattern new text : Text) : Text :=
  ⟨substituteFrom pattern.letters new.letters 0 text.letters⟩

/-- Whether a text contains a pattern. -/
def contains (text pattern : Text) : Bool := occurs pattern.letters text.letters

/-- A name in braces, the mark that stands for a value in a template. -/
def mark (name : Text) : Text := "\x7b" ++ name ++ "\x7d"

/-- Cut a text at every separator character; there is always at least one piece. -/
def splitLetters (separator : Letter) : List Letter → List (List Letter)
  | [] => [[]]
  | l :: rest =>
    match splitLetters separator rest with
    | [] => [[]]
    | piece :: pieces => if l = separator then [] :: piece :: pieces else (l :: piece) :: pieces

/-- Cut a text at every separator character. -/
def split (separator : Letter) (t : Text) : List Text :=
  (splitLetters separator t.letters).map Text.mk

theorem substituteFrom_of_not_occurs (pattern new text : List Letter)
    (h : occurs pattern text = false) : substituteFrom pattern new 0 text = text := by
  induction text with
  | nil => rfl
  | cons c rest ih =>
    simp only [occurs, Bool.or_eq_false_iff] at h
    simp [substituteFrom, h.1, ih h.2]

theorem substitute_of_not_occurs (pattern new text : Text) (h : text.contains pattern = false) :
    substitute pattern new text = text := by
  rw [substitute, substituteFrom_of_not_occurs _ _ _ h]

end BlockSketch.Text
