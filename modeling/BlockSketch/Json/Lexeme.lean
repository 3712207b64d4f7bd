import BlockSketch.Json.Problem
import BlockSketch.Value.Number

/-!
# BlockSketch.Json.Lexeme

The lexemes of a JSON text with their places.  Cutting a text into lexemes never
fails: a place where no lexeme starts, or a string that is not well formed, ends
the list with a lexeme that carries the complaint, so that the reader can still
report an earlier error first.
-/

namespace BlockSketch.Json

inductive Lexeme where
  | openList
  | closeList
  | openDict
  | closeDict
  | comma
  | colon
  | scalar (v : Value)
  -- an integer with too many digits
  | tooLong
  | bad (kind : ProblemKind) (offset : Nat)
  | stop

/-- White space between lexemes. -/
def isGap (c : Char) : Bool := c = ' ' || c = '\t' || c = '\n' || c = '\r'

/-! ## strings -/

/-- The value of a hexadecimal digit. -/
def hexValue? (c : Char) : Option Nat :=
  let n := c.toNat
  if 0x30 ≤ n ∧ n ≤ 0x39 then some (n - 0x30)
  else if 0x41 ≤ n ∧ n ≤ 0x46 then some (n - 0x37)
  else if 0x61 ≤ n ∧ n ≤ 0x66 then some (n - 0x57)
  else none

/-- The number that the next four hexadecimal digits spell. -/
def hex4? : List Char → Option Nat
  | a :: b :: c :: d :: _ => do
    let a ← hexValue? a
    let b ← hexValue? b
    let c ← hexValue? c
    let d ← hexValue? d
    return ((a * 16 + b) * 16 + c) * 16 + d
  | _ => none

/-- What a `\u` escape stands for, given the text behind its `u`: the letter and how many
characters the escape takes from its `u` on, or how far behind the `u` the complaint lies. -/
def unicodeEscape (after : List Char) : Except Nat (Letter × Nat) :=
  if after.length ≤ 4 then .error 0
  else match hex4? after with
    | none => .error 0
    | some n =>
      let tail := after.drop 4
      if 0xD800 ≤ n ∧ n < 0xDC00 ∧ 6 < tail.length ∧ tail.take 2 = ['\\', 'u'] then
        match hex4? (tail.drop 2) with
        | none => .error 6
        | some low =>
          if 0xDC00 ≤ low ∧ low < 0xE000 then
            .ok (.ofCode (0x10000 + (n - 0xD800) * 0x400 + (low - 0xDC00)), 11)
          else .ok (.ofCode n, 5)
      else .ok (.ofCode n, 5)

/-- The character of a one-letter escape. -/
def simpleEscape? (c : Char) : Option Char :=
  if c = '"' ∨ c = '\\' ∨ c = '/' then some c
  else if c = 'b' then some '\x08'
  else if c = 'f' then some '\x0c'
  else if c = 'n' then some '\n'
  else if c = 'r' then some '\r'
  else if c = 't' then some '\t'
  else none

/-- Scan a string from behind its opening quote, which stands at `start`.  `skip` characters are
already accounted for; the letters read are held reversed.  The result is the string and the
place behind its closing quote. -/
def scanString (start : Nat) :
    Nat → Nat → List Letter → List Char → Except (ProblemKind × Nat) (List Letter × Nat)
  | skip + 1, pos, acc, _ :: rest => scanString start skip (pos + 1) acc rest
  | _, _, _, [] => .error (.unterminatedString, start)
  | 0, pos, acc, c :: rest =>
    if c = '"' then .ok (acc.reverse, pos + 1)
    else if c = '\\' then
      match rest.head? with
      | none => .error (.unterminatedString, start)
      | some e =>
        if e = 'u' then
          match unicodeEscape rest.tail with
          | .error behind => .error (.badUnicodeEscape, pos + 1 + behind)
          | .ok (ch, taken) => scanString start taken (pos + 1) (ch :: acc) rest
        else match simpleEscape? e with
          | some ch => scanString start 1 (pos + 1) (ch :: acc) rest
          | none => .error (.badEscape, pos)
    else if c.toNat < 0x20 then .error (.controlCharacter, pos)
    else scanString start 0 (pos + 1) (c :: acc) rest

/-! ## numbers -/

structure NumberParts where
  negative : Bool
  whole : List Char
  fraction : List Char
  exponent : Option Int
  -- how many characters it takes
  length : Nat

/-- The exponent at the front of a text and the characters it takes. -/
def scanExponent : List Char → Option Int × Nat
  | c :: rest =>
    if c = 'e' ∨ c = 'E' then
      let (negative, tail) := Value.takeSign rest
      let ds := tail.takeWhile Char.isDigit
      if ds.isEmpty then (none, 0)
      else (some (Decimal.withSign negative (Value.digitsValue ds)),
        1 + (rest.length - tail.length) + ds.length)
    else (none, 0)
  | [] => (none, 0)

/-- The fraction at the front of a text: a point needs a digit behind it. -/
def scanFraction : List Char → List Char
  | '.' :: rest => rest.takeWhile Char.isDigit
  | _ => []

/-- The number at the front of a text. -/
def scanNumber? (cs : List Char) : Option NumberParts :=
  let negative := cs.head? = some '-'
  let body := if negative then cs.drop 1 else cs
  let whole := match body with
    | '0' :: _ => ['0']
    | _ => body.takeWhile Char.isDigit
  if whole.isEmpty then none
  else
    let rest := body.drop whole.length
    let fraction := scanFraction rest
    let rest := if fraction.isEmpty then rest else rest.drop (fraction.length + 1)
    let (exponent, taken) := scanExponent rest
    some {
      negative, whole, fraction, exponent
      length := (if negative then 1 else 0) + whole.length +
        (if fraction.isEmpty then 0 else fraction.length + 1) + taken }

/-- The lexeme of a number: an integer unless it has a fraction or an exponent. -/
def NumberParts.lexeme (p : NumberParts) : Lexeme :=
  if p.fraction.isEmpty && p.exponent.isNone then
    if Value.maxDigits < p.whole.length then .tooLong
    else .scalar (.int (Decimal.withSign p.negative (Value.digitsValue p.whole)))
  else .scalar (.float (Decimal.ofDecimal p.negative (Value.digitsValue (p.whole ++ p.fraction))
    (p.exponent.getD 0 - Int.ofNat p.fraction.length)))

/-! ## lexemes -/

def constants : List (String × Value) :=
  [("null", .null), ("true", .bool true), ("false", .bool false),
   ("NaN", .float Decimal.notANumber), ("Infinity", .float Decimal.infinity),
   ("-Infinity", .float (Decimal.signed true Decimal.infinityBits))]

/-- The lexeme at the front of a text that begins at `pos`, and how many characters it takes;
a complaint takes none. -/
def lexemeAt (pos : Nat) (cs : List Char) : Lexeme × Nat :=
  match cs with
  | '[' :: _ => (.openList, 1)
  | ']' :: _ => (.closeList, 1)
  | '{' :: _ => (.openDict, 1)
  | '}' :: _ => (.closeDict, 1)
  | ',' :: _ => (.comma, 1)
  | ':' :: _ => (.colon, 1)
  | '"' :: rest =>
    match scanString pos 0 (pos + 1) [] rest with
    | .ok (s, stop) => (.scalar (.text ⟨s⟩), stop - pos)
    | .error (kind, offset) => (.bad kind offset, 0)
  | _ =>
    match constants.find? fun entry => entry.1.toList.isPrefixOf cs with
    | some entry => (.scalar entry.2, entry.1.length)
    | none =>
      match scanNumber? cs with
      | some parts => (parts.lexeme, parts.length)
      | none => (.bad .expectedValue pos, 0)

/-- The lexemes of a text, each with its place; `skip` characters belong to the lexeme before. -/
def lexemesFrom : Nat → Nat → List Char → List (Nat × Lexeme)
  | _, pos, [] => [(pos, .stop)]
  | skip + 1, pos, _ :: rest => lexemesFrom skip (pos + 1) rest
  | 0, pos, c :: rest =>
    if isGap c then lexemesFrom 0 (pos + 1) rest
    else
      let (lexeme, taken) := lexemeAt pos (c :: rest)
      match taken with
      | 0 => [(pos, lexeme)]
      | more + 1 => (pos, lexeme) :: lexemesFrom more (pos + 1) rest

def lexemes (cs : List Char) : List (Nat × Lexeme) := lexemesFrom 0 0 cs

end BlockSketch.Json
