import BlockSketch.Value.Number
import BlockSketch.Text.Printable

/-!
# BlockSketch.Value.Written

The plain text of a value, which is what appears in generated code and in
messages.  A text by itself is written as it is; inside a list or a dictionary
it is quoted, with single quotes unless only those would have to be escaped.
A value with an integer of too many digits has no text.  Where values are known
to have one, as all that are read from a document have, `shown` is that text;
`spelled` is it where they are not.
-/

namespace BlockSketch.Value

/-- A natural number in hexadecimal, with leading zeros up to a width. -/
def hexLetters (width n : Nat) : List Letter :=
  let ds := Nat.toDigits 16 n
  (List.replicate (width - ds.length) '0' ++ ds).map .char

/-- The escape of a letter that is not written as it is. -/
def escapeLetter (c : Letter) : List Letter :=
  let n := c.code
  if n < 0x100 then .char '\\' :: .char 'x' :: hexLetters 2 n
  else if n < 0x10000 then .char '\\' :: .char 'u' :: hexLetters 4 n
  else .char '\\' :: .char 'U' :: hexLetters 8 n

/-- The quote for a text: double when the text has single quotes and no double ones. -/
def quoteFor (t : Text) : Letter := if t.has '\'' && !t.has '"' then '"' else '\''

/-- A letter inside quotes; `plain` says which characters stand for themselves. -/
def quotedLetter (plain : Char → Bool) (quote c : Letter) : List Letter :=
  if c = quote ∨ c = '\\' then ['\\', c]
  else if c = '\n' then ['\\', 'n']
  else if c = '\r' then ['\\', 'r']
  else if c = '\t' then ['\\', 't']
  else if c.isIn plain then [c]
  else escapeLetter c

/-- A text in quotes, with a choice of what stands for itself. -/
def quotedWith (plain : Char → Bool) (t : Text) : Text :=
  let q := quoteFor t
  ⟨q :: t.letters.flatMap (quotedLetter plain q) ++ [q]⟩

def quoted (s : Text) : Text := quotedWith Text.isPrintable s

def intText (n : Int) : Text :=
  .ofChars ((if n < 0 then ['-'] else []) ++ Nat.toDigits 10 n.natAbs)

mutual

/-- The text of a value inside another, or by itself with quotes. -/
def writtenWith (plain : Char → Bool) : Value → Text
  | .null => "None"
  | .bool b => if b then "True" else "False"
  | .int n => intText n
  | .float x => Decimal.Layout.plain.render x
  | .undefined _ => Decimal.Layout.plain.render Decimal.notANumber
  | .text s => quotedWith plain s
  | .list items => "[" ++ Text.intercalate ", " (writtenItems plain items) ++ "]"
  | .dict entries => "\x7b" ++ Text.intercalate ", " (writtenEntries plain entries) ++ "\x7d"

/-- The texts of the items of a list. -/
def writtenItems (plain : Char → Bool) : List Value → List Text
  | [] => []
  | v :: rest => writtenWith plain v :: writtenItems plain rest

/-- The texts of the entries of a dictionary. -/
def writtenEntries (plain : Char → Bool) : List (Text × Value) → List Text
  | [] => []
  | (k, v) :: rest =>
    (quotedWith plain k ++ ": " ++ writtenWith plain v) :: writtenEntries plain rest

end

/-- The text of a value with quotes around texts. -/
def written (v : Value) : Text := writtenWith Text.isPrintable v

/-- The plain text of a value. -/
def shown : Value → Text
  | .text s => s
  | v => v.written

mutual

/-- Whether a value has a text: no integer in it may have more digits than can be read. -/
def hasText : Value → Bool
  | .int n => decide (Decimal.digitCount n.natAbs ≤ maxDigits)
  | .list items => itemsHaveText items
  | .dict entries => entriesHaveText entries
  | .null | .bool _ | .float _ | .undefined _ | .text _ => true

/-- Whether all items of a list have a text. -/
def itemsHaveText : List Value → Bool
  | [] => true
  | v :: rest => v.hasText && itemsHaveText rest

/-- Whether the values of all entries have a text. -/
def entriesHaveText : List (Text × Value) → Bool
  | [] => true
  | (_, v) :: rest => v.hasText && entriesHaveText rest

end

/-- The plain text of a value that may have none. -/
def spelled (v : Value) : Outcome Text := if v.hasText then .ok v.shown else .error .malformed

theorem spelled_eq_ok_iff {v : Value} {t : Text} :
    v.spelled = .ok t ↔ v.hasText = true ∧ v.shown = t := by
  unfold spelled
  cases v.hasText <;> simp

end BlockSketch.Value
