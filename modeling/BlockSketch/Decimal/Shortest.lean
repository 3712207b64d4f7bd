import BlockSketch.Decimal.Binary

/-!
# BlockSketch.Decimal.Shortest

The fewest decimal digits that read back as the same double, and of those the
nearest.  Each grid of 1, 2, … 17 digits is tried in turn: the two grid points
beside the value are tested against the interval of reals that round to it.
-/

namespace BlockSketch.Decimal

/-- A positive decimal `0.d₁d₂… · 10 ^ point`. -/
structure Digits where
  -- the digits as one number, without trailing zeros
  value : Nat
  -- how many digits stand before the decimal point
  point : Int
deriving DecidableEq, Repr

/-- The least `k` with `num / den < 10 ^ k`, for a positive quotient. -/
def decade (num den : Nat) : Int :=
  if den ≤ num then Int.ofNat (digitCount (num / den))
  else
    let zeros := digitCount (den / num)
    if den = num * tenPow (zeros - 1) then 2 - Int.ofNat zeros else 1 - Int.ofNat zeros

/-- The reals that round to a double, as ends over a common denominator. -/
structure Interval where
  low : Nat
  mid : Nat
  high : Nat
  -- the common denominator
  den : Nat
  -- whether the ends belong to the interval
  closed : Bool

/-- The rounding interval of `m · 2 ^ e`: half a step to each side, and only a quarter below a
power of two. -/
def Interval.around (m : Nat) (e : Int) : Interval :=
  let (unit, den) := ratio 1 (e - 2)
  let below := if m = twoPow 52 ∧ -1074 < e then 1 else 2
  ⟨(4 * m - below) * unit, 4 * m * unit, (4 * m + 2) * unit, den, decide (m % 2 = 0)⟩

/-- Whether `n · 10 ^ k` lies in the interval. -/
def Interval.contains (i : Interval) (n : Nat) (k : Int) : Bool :=
  let (n, low, high) := if 0 ≤ k then (n * tenPow k.toNat * i.den, i.low, i.high)
    else (n * i.den, i.low * tenPow (-k).toNat, i.high * tenPow (-k).toNat)
  if i.closed then decide (low ≤ n ∧ n ≤ high) else decide (low < n ∧ n < high)

/-- Drop trailing zeros, at most as many as the fuel says. -/
def dropZeros : Nat → Nat → Nat
  | 0, n => n
  | fuel + 1, n => if n % 10 = 0 ∧ n ≠ 0 then dropZeros fuel (n / 10) else n

/-- The grid points of `count` digits beside the value that read back, the nearer first. -/
def candidate? (i : Interval) (point : Int) (count : Nat) : Option Nat :=
  let k := point - Int.ofNat count
  let (num, den) :=
    if 0 ≤ k then (i.mid, i.den * tenPow k.toNat) else (i.mid * tenPow (-k).toNat, i.den)
  let below := num / den
  let near := roundDiv num den
  let far := if near = below then below + 1 else below
  if i.contains near k then some near else if i.contains far k then some far else none

/-- The first grid, from `count` digits on, with a point that reads back. -/
def searchGrid (i : Interval) (point : Int) : Nat → Nat → Option (Nat × Nat)
  | 0, _ => none
  | fuel + 1, count =>
    match candidate? i point count with
    | some n => some (n, count)
    | none => searchGrid i point fuel (count + 1)

/-- The shortest digits of `m · 2 ^ e`, for `m` above zero. -/
def shortest (m : Nat) (e : Int) : Digits :=
  let (num, den) := ratio m e
  let point := decade num den
  match searchGrid (Interval.around m e) point 17 1 with
  | none => ⟨0, 0⟩
  | some (n, count) =>
    let point := if n = tenPow count then point + 1 else point
    ⟨dropZeros 18 n, point⟩

end BlockSketch.Decimal
