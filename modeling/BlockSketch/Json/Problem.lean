/-!
# BlockSketch.Json.Problem

What can be wrong with a JSON text, and where.
-/

namespace BlockSketch.Json

/-- The kinds of syntax errors. -/
inductive ProblemKind where
  | expectedValue
  | expectedName
  | expectedColon
  -- an item is followed neither by a comma nor by the closing bracket
  | expectedComma
  | extraData
  | unterminatedString
  | controlCharacter
  | badEscape
  | badUnicodeEscape
  | byteOrderMark
deriving DecidableEq, Repr

/-- The wording of each kind. -/
def ProblemKind.message : ProblemKind → String
  | .expectedValue => "Expecting value"
  | .expectedName => "Expecting property name enclosed in double quotes"
  | .expectedColon => "Expecting ':' delimiter"
  | .expectedComma => "Expecting ',' delimiter"
  | .extraData => "Extra data"
  | .unterminatedString => "Unterminated string starting at"
  | .controlCharacter => "Invalid control character at"
  | .badEscape => "Invalid \\escape"
  | .badUnicodeEscape => "Invalid \\uXXXX escape"
  | .byteOrderMark => "Unexpected UTF-8 BOM (decode using utf-8-sig)"

/-- A syntax error with its place, counted in characters. -/
structure Problem where
  kind : ProblemKind
  -- the line, from one
  line : Nat
  column : Nat
  offset : Nat
deriving DecidableEq, Repr

/-- The place of an offset in a text. -/
def Problem.at (kind : ProblemKind) (text : List Char) (offset : Nat) : Problem :=
  let before := text.take offset
  ⟨kind, before.count '\n' + 1, (before.reverse.takeWhile (· ≠ '\n')).length + 1, offset⟩

/-- The full wording of a syntax error. -/
def Problem.message (p : Problem) : String :=
  p.kind.message ++ ": line " ++ toString p.line ++ " column " ++ toString p.column ++
    " (char " ++ toString p.offset ++ ")"

end BlockSketch.Json
