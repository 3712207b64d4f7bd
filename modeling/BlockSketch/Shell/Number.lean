import BlockSketch.Decimal.Binary
import BlockSketch.Shell.Escape

/-!
# BlockSketch.Shell.Number

Numbers at the front of a word.  An integer may be written in decimal, octal,
hexadecimal or binary; a real number in decimal or hexadecimal, or by name.  Numbers that
are out of range come out as the nearest one in range.
-/

namespace BlockSketch.Shell

/-- Blanks before a number. -/
def isBlank (c : Char) : Bool :=
  c = ' ' || c = '\t' || c = '\n' || c = '\r' || c = '\x0b' || c = '\x0c'

/-- A number read from the front of a word. -/
structure Read (α : Type) where
  value : α
  rest : Bytes
  outOfRange : Bool := false

/-- The sign at the front of a word. -/
def takeMinus : Bytes → Bool × Bytes
  | '-' :: rest => (true, rest)
  | '+' :: rest => (false, rest)
  | cs => (false, cs)

/-! ## integers -/

def binaryDigit? (c : Char) : Option Nat :=
  if c = '0' then some 0 else if c = '1' then some 1 else none

/-- The natural number at the front of a word, its base told by how it begins. -/
def takeNatural? (cs : Bytes) : Option (Nat × Bytes) :=
  let all (digit? : Char → Option Nat) (base : Nat) (cs : Bytes) :=
    takeDigits digit? base cs.length 0 cs
  match cs with
  | '0' :: x :: rest =>
    if (x = 'x' ∨ x = 'X') ∧ startsWith hexDigit? rest then some (all hexDigit? 16 rest)
    else if (x = 'b' ∨ x = 'B') ∧ startsWith binaryDigit? rest then some (all binaryDigit? 2 rest)
    else some (all octalDigit? 8 cs)
  | _ => if startsWith decimalDigit? cs then some (all decimalDigit? 10 cs) else none

/-- The integer at the front of a word, of any size. -/
def takeInteger? (cs : Bytes) : Option (Bool × Nat × Bytes) := do
  let (negative, rest) := takeMinus (cs.dropWhile isBlank)
  let (n, rest) ← takeNatural? rest
  return (negative, n, rest)

def wordBound : Nat := Decimal.twoPow 64

/-- The bound of signed machine words. -/
def signBound : Nat := Decimal.twoPow 63

/-- The signed machine word at the front of a word; none is zero. -/
def readSigned (cs : Bytes) : Read Int :=
  match takeInteger? cs with
  | none => ⟨0, cs, false⟩
  | some (negative, n, rest) =>
    let limit := if negative then signBound else signBound - 1
    ⟨Decimal.withSign negative (min n limit), rest, decide (limit < n)⟩

/-- The unsigned machine word at the front of a word; a negative one counts from the bound. -/
def readUnsigned (cs : Bytes) : Read Nat :=
  match takeInteger? cs with
  | none => ⟨0, cs, false⟩
  | some (negative, n, rest) =>
    if wordBound ≤ n then ⟨wordBound - 1, rest, true⟩
    else ⟨if negative then (wordBound - n) % wordBound else n, rest, false⟩

/-! ## real numbers -/

/-- A format of binary real numbers. -/
structure Precision where
  bits : Nat
  -- the exponent of its smallest number
  lowest : Int
  -- the least exponent of two that is too large
  bound : Int

def Precision.double : Precision := ⟨53, -1074, 1024⟩

def Precision.extended : Precision := ⟨64, -16445, 16384⟩

/-- The number of a format nearest to a positive quotient, and whether it was out of range: too
large, or so small that bits were lost. -/
def Precision.nearest (p : Precision) (negative : Bool) (num den : Nat) : Decimal.Binary × Bool :=
  if num = 0 then (.finite negative 0 0, false)
  else
    let guess : Int := Int.ofNat num.log2 - Int.ofNat den.log2
    let (a, b) := if 0 ≤ guess then (num, den * Decimal.twoPow guess.toNat)
      else (num * Decimal.twoPow (-guess).toNat, den)
    let top := if b ≤ a then guess else guess - 1
    let e := max (top - Int.ofNat p.bits + 1) p.lowest
    let (a, b) := if 0 ≤ e then (num, den * Decimal.twoPow e.toNat)
      else (num * Decimal.twoPow (-e).toNat, den)
    let m := Decimal.roundDiv a b
    if p.bound ≤ top ∨ (m = Decimal.twoPow p.bits ∧ p.bound ≤ top + 1) then
      (.infinite negative, true)
    else (.finite negative m e, decide (m < Decimal.twoPow (p.bits - 1) ∧ m * b ≠ a))

/-- The digits of a mantissa: as one number, how many stand behind the point, and what follows;
`none` without any digit. -/
def takeMantissa? (digit? : Char → Option Nat) (base : Nat) (cs : Bytes) :
    Option (Nat × Nat × Bytes) :=
  let (whole, rest) := takeDigits digit? base cs.length 0 cs
  match rest with
  | '.' :: tail =>
    let (n, rest) := takeDigits digit? base tail.length whole tail
    if startsWith digit? cs || startsWith digit? tail then some (n, tail.length - rest.length, rest)
    else none
  | _ => if startsWith digit? cs then some (whole, 0, rest) else none

/-- An exponent behind one of two marks, zero when there is none. -/
def takeExponent (marks : List Char) (cs : Bytes) : Int × Bytes :=
  match cs with
  | c :: rest =>
    if marks.contains c then
      let (negative, ds) := takeMinus rest
      if startsWith decimalDigit? ds then
        let (n, rest) := takeDigits decimalDigit? 10 ds.length 0 ds
        (Decimal.withSign negative n, rest)
      else (0, cs)
    else (0, cs)
  | [] => (0, [])

/-- The exponents beyond which every number is out of range. -/
def farExponent : Int := 20000

/-- The number `mantissa · base ^ exponent` in a format. -/
def Precision.scaled (p : Precision) (negative : Bool) (mantissa base : Nat) (exponent : Int) :
    Decimal.Binary × Bool :=
  if mantissa = 0 then (.finite negative 0 0, false)
  else if farExponent < exponent then (.infinite negative, true)
  else if exponent < -farExponent - Int.ofNat mantissa.log2 then (.finite negative 0 0, true)
  else if 0 ≤ exponent then p.nearest negative (mantissa * Nat.pow base exponent.toNat) 1
  else p.nearest negative mantissa (Nat.pow base (-exponent).toNat)

/-- Whether a word begins with a name in small or capital letters. -/
def beginsWithName (name : String) (cs : Bytes) : Bool :=
  (cs.take name.length).map Char.toLower == name.toList

/-- What follows the number that is none; a remark in parentheses belongs to it. -/
def dropRemark (cs : Bytes) : Bytes :=
  match cs with
  | '(' :: rest =>
    match rest.dropWhile fun c => c.isAlphanum || c = '_' with
    | ')' :: rest => rest
    | _ => cs
  | _ => cs

/-- The real number at the front of a word; none is zero. -/
def Precision.read (p : Precision) (cs : Bytes) : Read Decimal.Binary :=
  let (negative, body) := takeMinus (cs.dropWhile isBlank)
  let hex := match body with
    | '0' :: x :: rest => if x = 'x' ∨ x = 'X' then takeMantissa? hexDigit? 16 rest else none
    | _ => none
  if beginsWithName "infinity" body then ⟨.infinite negative, body.drop 8, false⟩
  else if beginsWithName "inf" body then ⟨.infinite negative, body.drop 3, false⟩
  else if beginsWithName "nan" body then ⟨.nan, dropRemark (body.drop 3), false⟩
  else match hex with
    | some (n, places, rest) =>
      let (e, rest) := takeExponent ['p', 'P'] rest
      let (value, far) := p.scaled negative n 2 (e - 4 * Int.ofNat places)
      ⟨value, rest, far⟩
    | none =>
      match takeMantissa? decimalDigit? 10 body with
      | some (n, places, rest) =>
        let (e, rest) := takeExponent ['e', 'E'] rest
        let (value, far) := p.scaled negative n 10 (e - Int.ofNat places)
        ⟨value, rest, far⟩
      | none => ⟨.finite false 0 0, cs, false⟩

end BlockSketch.Shell
