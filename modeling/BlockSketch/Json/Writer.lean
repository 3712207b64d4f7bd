import BlockSketch.Value.Written

/-!
# BlockSketch.Json.Writer

Writing a value as JSON text: over several lines with two blanks of indentation
for files, or on one line.
-/

namespace BlockSketch.Json

/-- A letter inside a JSON string.  Half of a surrogate pair is escaped when `halves` says so. -/
def stringLetter (halves : Bool) (c : Letter) : List Letter :=
  if c = '"' ∨ c = '\\' then ['\\', c]
  else if c = '\n' then ['\\', 'n']
  else if c = '\r' then ['\\', 'r']
  else if c = '\t' then ['\\', 't']
  else if c = '\x08' then ['\\', 'b']
  else if c = '\x0c' then ['\\', 'f']
  else if c.code < 0x20 || (halves && c.char?.isNone) then
    .char '\\' :: .char 'u' :: Value.hexLetters 4 c.code
  else [c]

def stringText (halves : Bool) (t : Text) : Text :=
  "\"" ++ ⟨t.letters.flatMap (stringLetter halves)⟩ ++ "\""

/-- How the pieces of a list or dictionary are laid out. -/
structure Style where
  -- what stands between a bracket or comma and an item at a depth
  gap : Nat → Text
  -- what stands between items besides the comma
  comma : Text
  -- what stands behind a colon
  colon : Text
  -- whether halves of surrogate pairs are escaped
  halves : Bool

/-- A line end and the blanks of a depth. -/
def indentGap (depth : Nat) : Text := "\n" ++ Text.replicate (2 * depth) ' '

/-- Every item on a line of its own. -/
def Style.file : Style := ⟨indentGap, "", " ", false⟩

/-- Everything on one line, without blanks. -/
def Style.line : Style := ⟨fun _ => "", "", "", true⟩

/-- Brackets around pieces, or nothing between them when there are none. -/
def bracketed (style : Style) (depth : Nat) (opening closing : Text) (pieces : List Text) :
    Text :=
  if pieces.isEmpty then opening ++ closing
  else
    let gap := style.gap (depth + 1)
    opening ++ gap ++ Text.intercalate ("," ++ style.comma ++ gap) pieces ++ style.gap depth ++
      closing

mutual

/-- The JSON text of a value at a depth. -/
def renderAt (style : Style) (depth : Nat) : Value → Text
  | .null => "null"
  | .bool b => if b then "true" else "false"
  | .int n => Value.intText n
  | .float x => Decimal.Layout.document.render x
  | .undefined _ => Decimal.Layout.document.render Decimal.notANumber
  | .text s => stringText style.halves s
  | .list items => bracketed style depth "[" "]" (renderItems style depth items)
  | .dict entries => bracketed style depth "\x7b" "\x7d" (renderEntries style depth entries)

/-- The texts of the items of a list. -/
def renderItems (style : Style) (depth : Nat) : List Value → List Text
  | [] => []
  | v :: rest => renderAt style (depth + 1) v :: renderItems style depth rest

/-- The texts of the entries of a dictionary. -/
def renderEntries (style : Style) (depth : Nat) : List (Text × Value) → List Text
  | [] => []
  | (k, v) :: rest =>
    (stringText style.halves k ++ ":" ++ style.colon ++ renderAt style (depth + 1) v) ::
      renderEntries style depth rest

end

/-- JSON over several lines. -/
def render (v : Value) : Text := renderAt .file 0 v

def renderLine (v : Value) : Text := renderAt .line 0 v

end BlockSketch.Json
