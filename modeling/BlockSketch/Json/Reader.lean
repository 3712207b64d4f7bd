import BlockSketch.Json.Lexeme

/-!
# BlockSketch.Json.Reader

Reading a JSON text.  The reader goes once over the lexemes and keeps the open
lists and dictionaries on a stack; of several errors the first in the text is
reported.
-/

namespace BlockSketch.Json

/-- A list or dictionary that is still open, its content reversed. -/
inductive Frame where
  | list (before : List Value)
  -- an open dictionary and the name of the entry in hand
  | dict (before : List (Text × Value)) (name : Text)

/-- What has to come next. -/
inductive Expect where
  | value
  | valueOrClose
  | name
  | nameOrClose
  | colon
  | next
  | done (v : Value)

/-- Why reading stopped. -/
inductive Stop where
  | problem (kind : ProblemKind) (offset : Nat)
  | tooLong
  | tooDeep

/-- Hand a complete value to the innermost open list or dictionary. -/
def deliver : List Frame → Value → List Frame × Expect
  | [], v => ([], .done v)
  | .list before :: outer, v => (.list (v :: before) :: outer, .next)
  | .dict before name :: outer, v => (.dict ((name, v) :: before) "" :: outer, .next)

/-- The room that a machine has for lists and dictionaries in one another.  Where it ends depends on
the machine and on what else it is doing. -/
structure Room where
  -- whether a list or dictionary can be opened inside so many others
  reads : Nat → Bool
  -- whether a document can be copied
  copies : Value → Bool

/-- The room that is found on a usual machine. -/
def Room.usual : Room := ⟨fun depth => decide (depth < 990), fun v => decide (v.depth ≤ 496)⟩

/-- The next state when a list or dictionary begins. -/
def openFrame (room : Room) (stack : List Frame) (frame : Frame) (expect : Expect) :
    Except Stop (List Frame × Expect) :=
  if room.reads stack.length then .ok (frame :: stack, expect) else .error .tooDeep

/-- The next state when a value may start here. -/
def startValue (room : Room) (stack : List Frame) (pos : Nat) :
    Lexeme → Except Stop (List Frame × Expect)
  | .scalar v => .ok (deliver stack v)
  | .openList => openFrame room stack (.list []) .valueOrClose
  | .openDict => openFrame room stack (.dict [] "") .nameOrClose
  | .tooLong => .error .tooLong
  | .bad kind offset => .error (.problem kind offset)
  | _ => .error (.problem .expectedValue pos)

/-- The next state when a name has to come. -/
def startName (stack : List Frame) (pos : Nat) (lexeme : Lexeme) :
    Except Stop (List Frame × Expect) :=
  match lexeme, stack with
  | .scalar (.text name), .dict before _ :: outer => .ok (.dict before name :: outer, .colon)
  | .bad .expectedValue _, _ => .error (.problem .expectedName pos)
  | .bad kind offset, _ => .error (.problem kind offset)
  | _, _ => .error (.problem .expectedName pos)

/-- One lexeme taken in. -/
def advance (room : Room) (stack : List Frame) (expect : Expect) (pos : Nat) (lexeme : Lexeme) :
    Except Stop (List Frame × Expect) :=
  match expect, lexeme, stack with
  | .valueOrClose, .closeList, .list before :: outer => .ok (deliver outer (.list before.reverse))
  | .valueOrClose, _, _ | .value, _, _ => startValue room stack pos lexeme
  | .nameOrClose, .closeDict, .dict before _ :: outer =>
    .ok (deliver outer (.dict (Assoc.ofList before.reverse)))
  | .nameOrClose, _, _ | .name, _, _ => startName stack pos lexeme
  | .colon, .colon, _ => .ok (stack, .value)
  | .colon, _, _ => .error (.problem .expectedColon pos)
  | .next, .comma, .list _ :: _ => .ok (stack, .value)
  | .next, .comma, .dict _ _ :: _ => .ok (stack, .name)
  | .next, .closeList, .list before :: outer => .ok (deliver outer (.list before.reverse))
  | .next, .closeDict, .dict before _ :: outer =>
    .ok (deliver outer (.dict (Assoc.ofList before.reverse)))
  | .next, _, _ => .error (.problem .expectedComma pos)
  | .done _, _, _ => .error (.problem .extraData pos)

/-- Read the remaining lexemes. -/
def readFrom (room : Room) (stack : List Frame) (expect : Expect) :
    List (Nat × Lexeme) → Except Stop Value
  | [] => .error (.problem .expectedValue 0)
  | (pos, lexeme) :: rest =>
    match expect, lexeme with
    | .done v, .stop => .ok v
    | _, _ =>
      match advance room stack expect pos lexeme with
      | .ok (stack, expect) => readFrom room stack expect rest
      | .error stop => .error stop

/-- The value of the characters of a JSON text. -/
def parseChars (room : Room) (cs : List Char) : Outcome Value :=
  if cs.head? = some (Char.ofNat 0xFEFF) then .error (.notJson (.at .byteOrderMark cs 0))
  else match readFrom room [] .value (lexemes cs) with
    | .ok v => .ok v
    | .error .tooLong => .error .malformed
    | .error .tooDeep => .error .tooDeep
    | .error (.problem kind offset) => .error (.notJson (.at kind cs offset))

/-- The value of a JSON text. -/
def parse (room : Room) (text : String) : Outcome Value := parseChars room text.toList

end BlockSketch.Json
