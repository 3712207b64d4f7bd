import BlockSketch.Value.Basic
import BlockSketch.Decimal.Layout
import BlockSketch.Text.Blank
import BlockSketch.Text.Digit

/-!
# BlockSketch.Value.Number

Reading numbers out of values.  Texts may carry blanks around them, a sign,
digits of any script, and single underscores between digits.
-/

namespace BlockSketch.Value

/-- The most digits an integer text may have. -/
def maxDigits : Nat := 4300

/-- The blanks that may stand around a number: all but the information separators. -/
def isNumberGap (c : Char) : Bool := Text.isBlank c && !(0x1C ≤ c.toNat && c.toNat ≤ 0x1F)

/-- Fold every decimal digit to its ASCII form. -/
def asciiDigits (cs : List Char) : List Char :=
  cs.map fun c => match Text.digitValue? c with
    | some d => Char.ofNat (0x30 + d)
    | none => c

/-- A run of digits with single underscores between them, cut off the front of a text. -/
def takeDigits : List Char → List Char × List Char
  | c :: '_' :: d :: rest =>
    if c.isDigit then
      if d.isDigit then
        let (ds, tail) := takeDigits (d :: rest)
        (c :: ds, tail)
      else ([c], '_' :: d :: rest)
    else ([], c :: '_' :: d :: rest)
  | c :: rest =>
    if c.isDigit then
      let (ds, tail) := takeDigits rest
      (c :: ds, tail)
    else ([], c :: rest)
  | [] => ([], [])

/-- The number that decimal digits spell. -/
def digitsValue (ds : List Char) : Nat := ds.foldl (fun n c => n * 10 + (c.toNat - 0x30)) 0

/-- Cut a sign off the front. -/
def takeSign : List Char → Bool × List Char
  | '-' :: rest => (true, rest)
  | '+' :: rest => (false, rest)
  | cs => (false, cs)

/-- The integer a text spells. -/
def intOfText (t : Text) : Outcome Int :=
  let (negative, cs) := takeSign (asciiDigits (t.trimBy isNumberGap).plain.toList)
  let (ds, tail) := takeDigits cs
  if ds.isEmpty || !tail.isEmpty then .error .malformed
  else if maxDigits < ds.length then .error .malformed
  else .ok (Decimal.withSign negative (digitsValue ds))

/-- The integer part of a value that is a number, a truth value or the text of an integer. -/
def toInt : Value → Outcome Int
  | .bool b => .ok (if b then 1 else 0)
  | .int n => .ok n
  | .float x =>
    match Decimal.truncate? x with
    | some n => .ok n
    | none => .error (if x.isNaN then .malformed else .tooLarge)
  | .undefined _ => .error .malformed
  | .text s => intOfText s
  | _ => .error .wrongKind

/-- The names of the special floats, in lower case. -/
def specialFloat? (cs : List Char) : Option (Bool → Float) :=
  let word := String.ofList (cs.map Char.toLower)
  if word == "inf" || word == "infinity" then some fun negative =>
    Decimal.signed negative Decimal.infinityBits
  else if word == "nan" then some fun _ => Decimal.notANumber
  else none

/-- The fraction digits after a point. -/
def takeFraction : List Char → List Char × List Char
  | '.' :: rest => takeDigits rest
  | cs => ([], cs)

/-- The exponent after its mark; `none` when the mark has no digits. -/
def takeExponent : List Char → Option (Int × List Char)
  | c :: rest =>
    if c = 'e' ∨ c = 'E' then
      let (negative, rest) := takeSign rest
      let (ds, tail) := takeDigits rest
      if ds.isEmpty then none else some (Decimal.withSign negative (digitsValue ds), tail)
    else some (0, c :: rest)
  | [] => some (0, [])

/-- The float that the characters of a decimal spell. -/
def decimalFloat? (negative : Bool) (cs : List Char) : Option Float :=
  let (whole, rest) := takeDigits cs
  let (fraction, rest) := takeFraction rest
  match takeExponent rest with
  | some (exponent, []) =>
    if whole.isEmpty && fraction.isEmpty then none
    else some (Decimal.ofDecimal negative (digitsValue (whole ++ fraction))
      (exponent - Int.ofNat fraction.length))
  | _ => none

def floatOfText (t : Text) : Outcome Float :=
  let (negative, cs) := takeSign (asciiDigits (t.trimBy isNumberGap).plain.toList)
  match specialFloat? cs with
  | some f => .ok (f negative)
  | none =>
    match decimalFloat? negative cs with
    | some x => .ok x
    | none => .error .malformed

/-- The double for a value that is a number, a truth value or the text of a number. -/
def toFloat : Value → Outcome Float
  | .bool b => .ok (if b then 1.0 else 0.0)
  | .int n =>
    match Decimal.ofInt? n with
    | some x => .ok x
    | none => .error .tooLarge
  | .float x => .ok x
  | .undefined _ => .ok Decimal.notANumber
  | .text s => floatOfText s
  | _ => .error .wrongKind

end BlockSketch.Value
