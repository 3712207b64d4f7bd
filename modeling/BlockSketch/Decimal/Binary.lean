/-!
# BlockSketch.Decimal.Binary

The exact value of a double, and the double nearest to an exact value.  A finite
double is `± m · 2 ^ e` with natural `m`; all text and rounding rules of the
project are computed from that pair in exact arithmetic, and every result is
turned back into a double by one correctly rounding function.
-/

namespace BlockSketch.Decimal

def twoPow (k : Nat) : Nat := Nat.pow 2 k

def tenPow (k : Nat) : Nat := Nat.pow 10 k

/-- What the bits of a double say. -/
inductive Binary where
  | nan
  | infinite (negative : Bool)
  -- the number `m · 2 ^ e`, negated when asked
  | finite (negative : Bool) (m : Nat) (e : Int)
deriving DecidableEq, Repr

/-- Read the sign, the exponent and the fraction out of the bits. -/
def Binary.ofFloat (x : Float) : Binary :=
  let bits := x.toBits.toNat
  let negative := decide (twoPow 63 ≤ bits)
  let biased := bits / twoPow 52 % twoPow 11
  let fraction := bits % twoPow 52
  if biased = 2047 then
    if fraction = 0 then .infinite negative else .nan
  else if biased = 0 then .finite negative fraction (-1074)
  else .finite negative (fraction + twoPow 52) (Int.ofNat biased - 1075)

/-- The number `m · 2 ^ e` as a quotient of natural numbers. -/
def ratio (m : Nat) (e : Int) : Nat × Nat :=
  if 0 ≤ e then (m * twoPow e.toNat, 1) else (m, twoPow (-e).toNat)

/-- The quotient `num / den` rounded to a natural number, a half going to the even neighbour. -/
def roundDiv (num den : Nat) : Nat :=
  let q := num / den
  let r := num % den
  if 2 * r < den then q else if den < 2 * r then q + 1 else if q % 2 = 0 then q else q + 1

def infinityBits : Nat := 0x7FF0000000000000

/-- Give a double of known magnitude bits its sign. -/
def signed (negative : Bool) (bits : Nat) : Float :=
  Float.ofBits (UInt64.ofNat (if negative then bits + twoPow 63 else bits))

def infinity : Float := signed false infinityBits

def notANumber : Float := Float.ofBits 0x7FF8000000000000

/-- The double nearest to `num / den`, a half going to the even neighbour; too large a quotient
gives an infinity. -/
def nearest (negative : Bool) (num den : Nat) : Float :=
  if num = 0 then signed negative 0
  else
    let guess : Int := Int.ofNat num.log2 - Int.ofNat den.log2
    let atLeast := if 0 ≤ guess then decide (den * twoPow guess.toNat ≤ num)
      else decide (den ≤ num * twoPow (-guess).toNat)
    let top := if atLeast then guess else guess - 1
    let q := max (top - 52) (-1074)
    let m :=
      if 0 ≤ q then roundDiv num (den * twoPow q.toNat) else roundDiv (num * twoPow (-q).toNat) den
    let bits := (q + 1074).toNat * twoPow 52 + m
    signed negative (min bits infinityBits)

/-- How many decimal digits a natural number has; zero has one. -/
def digitCount (n : Nat) : Nat := (Nat.toDigits 10 n).length

/-- The double nearest to `± digits · 10 ^ exponent`. -/
def ofDecimal (negative : Bool) (digits : Nat) (exponent : Int) : Float :=
  if digits = 0 then signed negative 0
  else
    let top := Int.ofNat (digitCount digits) + exponent
    if 310 < top then signed negative infinityBits
    else if top < -326 then signed negative 0
    else if 0 ≤ exponent then nearest negative (digits * tenPow exponent.toNat) 1
    else nearest negative digits (tenPow (-exponent).toNat)

/-- The double nearest to an integer, or `none` when it lies beyond the largest double. -/
def ofInt? (n : Int) : Option Float :=
  let x := nearest (decide (n < 0)) n.natAbs 1
  if x.isInf then none else some x

/-- A natural number with a sign. -/
def withSign (negative : Bool) (n : Nat) : Int := if negative then -(Int.ofNat n) else Int.ofNat n

/-- The integer a finite double stands for, if it is one. -/
def Binary.toInt? : Binary → Option Int
  | .finite negative m e =>
    let (num, den) := ratio m e
    if num % den = 0 then some (withSign negative (num / den)) else none
  | _ => none

/-- The double nearest to a small integer; for lengths and positions of a drawing. -/
def ofInt (n : Int) : Float := nearest (decide (n < 0)) n.natAbs 1

end BlockSketch.Decimal
