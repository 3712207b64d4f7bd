import BlockSketch.Format.Number
import BlockSketch.Shell.Number

/-!
# BlockSketch.Shell.Directive

The directives of `printf`: how a word or a number is laid out by flags, a width
and a precision.
-/

namespace BlockSketch.Shell

/-- A directive between its percent sign and its letter. -/
structure Directive where
  flags : List Char := []
  width : Nat := 0
  precision : Option Nat := none
deriving Inhabited

namespace Directive

/-- Whether a flag is given. -/
def has (d : Directive) (flag : Char) : Bool := d.flags.contains flag

/-- A width that may be negative, which asks for the left side. -/
def withWidth (d : Directive) (n : Int) : Directive :=
  { d with width := n.natAbs, flags := if n < 0 then '-' :: d.flags else d.flags }

/-- Pad to the width.  Zeros stand behind the lead, and only when they are asked for. -/
def pad (d : Directive) (zeros : Bool) (lead body : Bytes) : Bytes :=
  let missing := d.width - (lead.length + body.length)
  if d.has '-' then lead ++ body ++ List.replicate missing ' '
  else if zeros then lead ++ List.replicate missing '0' ++ body
  else List.replicate missing ' ' ++ lead ++ body

/-- A word, cut to the precision. -/
def word (d : Directive) (w : Bytes) : Bytes :=
  d.pad false [] (match d.precision with
    | some n => w.take n
    | none => w)

/-- The first byte of a word, which for an empty word is the null byte. -/
def firstByte (d : Directive) (w : Bytes) : Bytes := d.pad false [] [w.headD '\x00']

def sign (d : Directive) (negative : Bool) : Bytes :=
  if negative then ['-'] else if d.has '+' then ['+'] else if d.has ' ' then [' '] else []

/-- The digits of a natural number, at least as many as the precision asks for. -/
def digits (d : Directive) (base n : Nat) : Bytes :=
  match d.precision with
  | some p =>
    if n = 0 ∧ p = 0 then [] else Decimal.padLeft p (Nat.toDigits base n)
  | none => Nat.toDigits base n

/-- Whether the flags ask for zeros before an integer. -/
def zeroFilled (d : Directive) : Bool := d.has '0' && d.precision.isNone

def signed (d : Directive) (n : Int) : Bytes :=
  d.pad d.zeroFilled (d.sign (decide (n < 0))) (d.digits 10 n.natAbs)

/-- An unsigned integer by its letter. -/
def unsigned (d : Directive) (letter : Char) (n : Nat) : Bytes :=
  if letter = 'u' then d.pad d.zeroFilled [] (d.digits 10 n)
  else if letter = 'o' then
    let ds := d.digits 8 n
    d.pad d.zeroFilled [] (if d.has '#' ∧ ds.head? ≠ some '0' then '0' :: ds else ds)
  else
    let raise (cs : Bytes) := if letter = 'X' then cs.map Char.toUpper else cs
    let lead := if d.has '#' ∧ n ≠ 0 then raise ['0', 'x'] else []
    d.pad d.zeroFilled lead (raise (d.digits 16 n))

/-! ## real numbers -/

/-- A magnitude in hexadecimal.  The digits behind the point have four bits each and those before
it the bits that are left over; a number too small for all its bits begins with zero bits. -/
def hexMagnitude (d : Directive) (p : Precision) (m : Nat) (e : Int) : Bytes :=
  let point (places : Nat) := if places = 0 ∧ !d.has '#' then [] else ['.']
  let exponent (n : Int) := 'p' :: (if n < 0 then '-' else '+') :: Nat.toDigits 10 n.natAbs
  if m = 0 then
    let places := d.precision.getD 0
    '0' :: point places ++ List.replicate places '0' ++ exponent 0
  else
    let places := (p.bits - 1) / 4
    let spare := m.log2 + 1 - p.bits
    let shift := min (p.bits - (m.log2 + 1)) (e - p.lowest).toNat
    let scaled := m / Decimal.twoPow spare * Decimal.twoPow shift
    let top := e + Int.ofNat spare - Int.ofNat shift + Int.ofNat (4 * places)
    let count := d.precision.getD places
    let kept :=
      if count < places then Decimal.roundDiv scaled (Decimal.twoPow (4 * (places - count)))
      else scaled * Decimal.twoPow (4 * (count - places))
    let ds := Nat.toDigits 16 kept
    let ds := List.replicate (count + 1 - ds.length) '0' ++ ds
    -- rounding up to the next power of sixteen moves the point
    let carried := 4 * (ds.length - (count + 1))
    let behind := (ds.drop 1).take count
    let behind := if d.precision.isSome then behind
      else (behind.reverse.dropWhile (· = '0')).reverse
    ds.take 1 ++ point behind.length ++ behind ++ exponent (top + Int.ofNat carried)

/-- The text of a magnitude by the small letter of its directive. -/
def magnitude (d : Directive) (letter : Char) (p : Precision) (m : Nat) (e : Int) : Bytes :=
  let (num, den) := Decimal.ratio m e
  let places := d.precision.getD 6
  let joined (parts : List Char × List Char) := parts.1 ++ parts.2
  if letter = 'f' then joined (Format.fixedParts (d.has '#') places num den)
  else if letter = 'e' then joined (Format.scientificParts (d.has '#') places num den)
  else if letter = 'g' then joined (Format.generalParts (d.has '#') false places num den)
  else d.hexMagnitude p m e

/-- A real number by the letter of its directive. -/
def real (d : Directive) (letter : Char) (p : Precision) (x : Decimal.Binary) : Bytes :=
  let small := letter.toLower
  let raise (cs : Bytes) := if letter = small then cs else cs.map Char.toUpper
  match x with
  | .nan => d.pad false (d.sign false) (raise ['n', 'a', 'n'])
  | .infinite negative => d.pad false (d.sign negative) (raise ['i', 'n', 'f'])
  | .finite negative m e =>
    let lead := d.sign negative ++ (if small = 'a' then raise ['0', 'x'] else [])
    d.pad (d.has '0') lead (raise (d.magnitude small p m e))

def realLetters : List Char := ['a', 'A', 'e', 'E', 'f', 'F', 'g', 'G']

end Directive

end BlockSketch.Shell
