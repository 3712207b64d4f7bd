import BlockSketch.Decimal.Shortest

/-!
# BlockSketch.Decimal.Layout

How numbers are written.  A layout says where positional notation ends and how
an exponent looks; the digits come from `Decimal.Shortest`, or from rounding to
a fixed number of places.
-/

namespace BlockSketch.Decimal

/-- The decisions of a float format. -/
structure Layout where
  -- the least exponent written positionally
  least : Int
  -- the least exponent, above those, that is written with an exponent mark
  limit : Int
  -- the least number of digits of a written exponent
  exponentWidth : Nat
  nan : String
  infinity : String

/-- Plain text of a float: positional from `0.0001` up to sixteen digits, `1e+16` and `1e-05`
beyond. -/
def Layout.plain : Layout := ⟨-4, 16, 2, "nan", "inf"⟩

/-- Floats in documents: the digits of plain text, with names for the special values. -/
def Layout.document : Layout := ⟨-4, 16, 2, "NaN", "Infinity"⟩

/-- Decimal digits of a natural number. -/
def digits (n : Nat) : List Char := Nat.toDigits 10 n

def zeros (n : Nat) : List Char := List.replicate n '0'

/-- Zeros in front, up to a width. -/
def padLeft (width : Nat) (cs : List Char) : List Char := zeros (width - cs.length) ++ cs

/-- The exponent mark with its sign. -/
def exponentText (mark : Char) (width : Nat) (exponent : Int) : List Char :=
  mark :: (if exponent < 0 then '-' else '+') :: padLeft width (digits exponent.natAbs)

/-- Write digits with a decimal point at the given place. -/
def positional (ds : List Char) (point : Int) : List Char :=
  if point ≤ 0 then '0' :: '.' :: zeros (-point).toNat ++ ds
  else if ds.length ≤ point.toNat then ds ++ zeros (point.toNat - ds.length) ++ ['.', '0']
  else ds.take point.toNat ++ '.' :: ds.drop point.toNat

/-- Write digits with one digit before the point and an exponent. -/
def scientific (width : Nat) (ds : List Char) (exponent : Int) : List Char :=
  (match ds with
    | [] => []
    | [d] => [d]
    | d :: rest => d :: '.' :: rest) ++ exponentText 'e' width exponent

/-- A minus sign when asked. -/
def minus (negative : Bool) : List Char := if negative then ['-'] else []

/-- The magnitude of a finite double in a layout. -/
def Layout.magnitude (f : Layout) (m : Nat) (e : Int) : List Char :=
  if m = 0 then ['0', '.', '0']
  else
    let d := shortest m e
    let ds := digits d.value
    let exponent := d.point - 1
    if f.least ≤ exponent ∧ exponent < f.limit then positional ds d.point
    else scientific f.exponentWidth ds exponent

/-- The text of a double. -/
def Layout.render (f : Layout) (x : Float) : String :=
  match Binary.ofFloat x with
  | .nan => f.nan
  | .infinite negative => String.ofList (minus negative) ++ f.infinity
  | .finite negative m e => String.ofList (minus negative ++ f.magnitude m e)

/-! ## fixed places -/

/-- A double rounded to a fixed number of decimal places. -/
def roundTo (places : Nat) (x : Float) : Float :=
  match Binary.ofFloat x with
  | .finite negative m e =>
    let (num, den) := ratio m e
    ofDecimal negative (roundDiv (num * tenPow places) den) (-(Int.ofNat places))
  | _ => x

/-- The integer part of a double, toward zero; `none` for the values that have none. -/
def truncate? (x : Float) : Option Int :=
  match Binary.ofFloat x with
  | .finite negative m e =>
    let (num, den) := ratio m e
    some (withSign negative (num / den))
  | _ => none

/-- The nearest integer, a half going to the even neighbour. -/
def round? (x : Float) : Option Int :=
  match Binary.ofFloat x with
  | .finite negative m e =>
    let (num, den) := ratio m e
    some (withSign negative (roundDiv num den))
  | _ => none

end BlockSketch.Decimal
