import BlockSketch.Format.Spec
import BlockSketch.Decimal.Layout
import BlockSketch.Value.Number

/-!
# BlockSketch.Format.Number

Laying out texts and numbers by a specification.
-/

namespace BlockSketch.Format

/-- Pad to the width of a specification. -/
def pad (spec : Spec) (sign body : List Letter) : Text :=
  let missing := spec.width - (sign.length + body.length)
  let fill := List.replicate missing spec.fill
  let before := missing / 2
  ⟨match spec.align with
  | .left => sign ++ body ++ fill
  | .right => fill ++ sign ++ body
  | .inner => sign ++ fill ++ body
  | .center => fill.take before ++ sign ++ body ++ fill.drop before⟩

/-- Pad the characters of a number. -/
def padChars (spec : Spec) (sign body : List Char) : Text :=
  pad spec (sign.map .char) (body.map .char)

/-- The least width that asks for more memory than there is. -/
def hugeWidth : Nat := 100000000000

/-- Check that a text of the width of a specification fits into memory. -/
def checkWidth (spec : Spec) : Outcome Unit :=
  if spec.width < hugeWidth then .ok () else .error .outOfMemory

def text (spec : Spec) (t : Text) : Outcome Text := do
  if spec.sign.isSome || spec.plainZero || spec.alternate || spec.align = .inner ||
      !(spec.type = none || spec.type = some 's') || spec.grouping.isSome then .error .malformed
  else
    checkWidth spec
    return pad spec [] (match spec.precision with
      | some n => t.letters.take n
      | none => t.letters)

/-- The sign of a number under a sign option. -/
def signText (option : Option Char) (negative : Bool) : List Char :=
  if negative then ['-']
  else match option with
    | some '+' => ['+']
    | some ' ' => [' ']
    | _ => []

/-- Digits, least first, with a separator after every `size` of them. -/
def separate (size : Nat) (sep : Char) : Nat → List Char → List Char
  | _, [] => []
  | count, c :: rest =>
    if count = size then sep :: c :: separate size sep 1 rest
    else c :: separate size sep (count + 1) rest

/-- Group the digits of a whole number, most significant first. -/
def groupDigits (size : Nat) (sep : Char) (ds : List Char) : List Char :=
  (separate size sep 0 ds.reverse).reverse

/-- How many digits fill at least a width once they are grouped. -/
def digitsFor (size width : Nat) : Nat := width - (width - 1) / (size + 1)

/-- The digits of a number with grouping, zero filled up to a width when padding goes inside. -/
def groupedDigits (spec : Spec) (size : Nat) (width : Nat) (ds : List Char) : List Char :=
  match spec.grouping with
  | none => ds
  | some sep =>
    if spec.fill = '0' ∧ spec.align = .inner then
      groupDigits size sep (Decimal.padLeft (digitsFor size width) ds)
    else groupDigits size sep ds

/-- Lay out a number of sign, mark, whole digits and the rest. -/
def layout (spec : Spec) (size : Nat) (sign mark whole rest : List Char) : Text :=
  let lead := sign ++ mark
  let width := spec.width - (lead.length + rest.length)
  padChars spec lead (groupedDigits spec size width whole ++ rest)

/-- The digits of a natural number in a base. -/
def baseDigits (base n : Nat) : List Char := Nat.toDigits base n

/-- An integer in a base with the mark of its alternate form. -/
def inBase (spec : Spec) (n : Int) (base size : Nat) (mark : String) (upper : Bool) : Text :=
  let ds := baseDigits base n.natAbs
  let ds := if upper then ds.map Char.toUpper else ds
  layout spec size (signText spec.sign (decide (n < 0)))
    (if spec.alternate then mark.toList else []) ds []

/-- The letter of a code point. -/
def character (spec : Spec) (n : Int) : Outcome Text :=
  if spec.sign.isSome || spec.alternate then .error .malformed
  else if n < 0 ∨ 0x10FFFF < n then .error .tooLarge
  else .ok (pad spec [] [.ofCode n.toNat])

/-- An integer by a specification with an integer type.  Only its decimal digits must not be too
many. -/
def integer (spec : Spec) (type : Char) (n : Int) : Outcome Text := do
  if spec.precision.isSome || spec.plainZero then .error .malformed
  if (type = 'd' || type = 'n') && Value.maxDigits < Decimal.digitCount n.natAbs then
    .error .malformed
  checkWidth spec
  if type = 'c' then character spec n
  else if type = 'b' then return inBase spec n 2 4 "0b" false
  else if type = 'o' then return inBase spec n 8 4 "0o" false
  else if type = 'x' then return inBase spec n 16 4 "0x" false
  else if type = 'X' then return inBase spec n 16 4 "0X" true
  else return inBase spec n 10 3 "" false

/-! ## floats -/

/-- Scientific notation with a number of places: the digits and the exponent. -/
def scientificDigits (places num den : Nat) : List Char × Int :=
  if num = 0 then (Decimal.zeros (places + 1), 0)
  else
    let point := Decimal.decade num den
    let k := Int.ofNat places + 1 - point
    let n := if 0 ≤ k then Decimal.roundDiv (num * Decimal.tenPow k.toNat) den
      else Decimal.roundDiv num (den * Decimal.tenPow (-k).toNat)
    if n = Decimal.tenPow (places + 1) then (Decimal.digits (n / 10), point)
    else (Decimal.digits n, point - 1)

/-- A fraction behind its point, or a bare point in the alternate form. -/
def fractionText (alternate : Bool) (ds : List Char) : List Char :=
  if ds.isEmpty then if alternate then ['.'] else [] else '.' :: ds

def dropTrailingZeros (ds : List Char) : List Char := (ds.reverse.dropWhile (· = '0')).reverse

/-- The parts of a magnitude in fixed notation. -/
def fixedParts (alternate : Bool) (places num den : Nat) : List Char × List Char :=
  let n := Decimal.roundDiv (num * Decimal.tenPow places) den
  let ds := Decimal.padLeft (places + 1) (Decimal.digits n)
  (ds.take (ds.length - places), fractionText alternate (ds.drop (ds.length - places)))

/-- The parts of a magnitude in scientific notation. -/
def scientificParts (alternate : Bool) (places num den : Nat) : List Char × List Char :=
  let (ds, exponent) := scientificDigits places num den
  (ds.take 1, fractionText alternate (ds.drop 1) ++ Decimal.exponentText 'e' 2 exponent)

/-- No double has more digits than this. -/
def maxDigits : Nat := 1100

/-- The parts of a magnitude in general notation: fixed for moderate exponents, without
trailing zeros unless the alternate form is asked for.  With a digit kept behind the point one
digit less may stand before it. -/
def generalParts (alternate keepPoint : Bool) (precision num den : Nat) :
    List Char × List Char :=
  let p := max (if alternate then precision else min precision maxDigits) 1
  let (ds, exponent) := scientificDigits (p - 1) num den
  let limit := if keepPoint then p - 1 else p
  if -4 ≤ exponent ∧ exponent < Int.ofNat limit then
    let point := exponent + 1
    let (whole, fraction) :=
      if point ≤ 0 then (['0'], Decimal.zeros (-point).toNat ++ ds)
      else (ds.take point.toNat, ds.drop point.toNat)
    let fraction := if alternate then fraction else dropTrailingZeros fraction
    let fraction := if fraction.isEmpty && keepPoint then ['0'] else fraction
    (whole, fractionText alternate fraction)
  else
    let fraction := if alternate then ds.drop 1 else dropTrailingZeros (ds.drop 1)
    (ds.take 1, fractionText alternate fraction ++ Decimal.exponentText 'e' 2 exponent)

/-- The parts of a magnitude written with the fewest digits, with a point in the alternate form. -/
def shortestParts (alternate : Bool) (m : Nat) (e : Int) : List Char × List Char :=
  let cs := Decimal.Layout.plain.magnitude m e
  let rest := cs.dropWhile Char.isDigit
  (cs.takeWhile Char.isDigit, if alternate && rest.head? != some '.' then '.' :: rest else rest)

/-- The parts of a finite magnitude by a type and a precision. -/
def floatParts (spec : Spec) (m : Nat) (e : Int) : List Char × List Char :=
  let (num, den) := Decimal.ratio m e
  let places := spec.precision.getD 6
  match spec.type with
  | none =>
    match spec.precision with
    | none => shortestParts spec.alternate m e
    | some p => generalParts spec.alternate true p num den
  | some t =>
    let t := t.toLower
    if t = 'e' then scientificParts spec.alternate places num den
    else if t = 'g' ∨ t = 'n' then generalParts spec.alternate false places num den
    else fixedParts spec.alternate places num den

/-- Whether digits all are zero. -/
def isZeroText (cs : List Char) : Bool := cs.all fun c => !c.isDigit || c = '0'

/-- The largest precision of a double. -/
def maxPrecision : Nat := 2147483647

/-- A double by a specification. -/
def float (spec : Spec) (x : Float) : Outcome Text := do
  if maxPrecision < spec.precision.getD 0 then .error .malformed
  checkWidth spec
  let percent := spec.type = some '%'
  let x := if percent then x * 100.0 else x
  let upper := spec.type = some 'F' ∨ spec.type = some 'E' ∨ spec.type = some 'G'
  let tail := if percent then ['%'] else []
  let (negative, whole, rest) := match Decimal.Binary.ofFloat x with
    | .nan => (false, ['n', 'a', 'n'], [])
    | .infinite negative => (negative, ['i', 'n', 'f'], [])
    | .finite negative m e =>
      let (whole, rest) := floatParts spec m e
      (negative && !(spec.plainZero && isZeroText (whole ++ rest.takeWhile (· ≠ 'e'))), whole, rest)
  let raise (cs : List Char) := if upper then cs.map Char.toUpper else cs
  let sign := signText spec.sign negative
  return if whole.all Char.isDigit then layout spec 3 sign [] whole (raise rest ++ tail)
    else padChars spec sign (raise whole ++ tail)

end BlockSketch.Format
