import BlockSketch.Platform.Basic
import BlockSketch.Value.Number
import BlockSketch.Value.Same

/-!
# BlockSketch.Platform.Plain

A platform without windows.  Its widgets hold what is put into them, moved into their range where
they have one, and give a signal when that is not what they held before.  Bounds are held as they
were given.  What is selected is listed in order of adding, and a fault while an announcement is
taken up ends the work that made it.
-/

namespace BlockSketch.Plain

/-! ## integers -/

structure WholeBox where
  low : WholeNumber
  high : WholeNumber
  value : Int

/-- The number of a range that is nearest to an integer; a bound is taken as it was given. -/
def clamp (low high : WholeNumber) (n : Int) : WholeNumber :=
  if n < low.amount then low else if high.amount < n then high else ⟨n, false⟩

/-- A new box, which held zero in a range up to 99 before its bounds were set.  A bound below the
other moves it: the upper bound wins. -/
def WholeBox.new (low high : WholeNumber) : WholeBox :=
  let first := clamp low ⟨max 99 low.amount, false⟩ 0
  let low := if high.amount < low.amount then high else low
  ⟨low, high, (clamp low high first.amount).amount⟩

/-- Boxes for integers. -/
def whole : Widget (Range WholeNumber (Option WholeNumber)) Int Int where
  State := WholeBox
  make r := .ok (.new r.low r.high)
  set s n := .ok { s with value := (clamp s.low s.high n).amount }
  enter s v := do
    let n := clamp s.low s.high (← v.toInt)
    return if n.amount = s.value then (s, none) else ({ s with value := n.amount }, some n.value)
  value s := .ok s.value
  readable _ := ⟨⟨_, rfl⟩, fun _ => ⟨_, rfl⟩⟩

/-! ## doubles -/

structure DecimalBox where
  low : Float
  high : Float
  value : Float

/-- The decimals of a double while its bounds are set. -/
def boundPlaces : Nat := 2

/-- The decimals of a double after that. -/
def valuePlaces : Nat := 3

/-- The double of a range that is nearest to a number, all of them rounded.  A bound that is no
number does not bound. -/
def settle (places : Nat) (low high x : Float) : Float :=
  let low := Decimal.roundTo places low
  let high := Decimal.roundTo places high
  let x := Decimal.roundTo places x
  let x := if high < x then high else x
  if x < low then low else x

/-- A double after another was put in its place: equal ones are not told apart. -/
def replaceBy (old new : Float) : Float := if new == old then old else new

/-- A new box: from 0 to 99.99 where no bound is given. -/
def DecimalBox.new (given limit : Option Float) : DecimalBox :=
  let low := given.getD 0.0
  let high := if 99.99 < low then low else 99.99
  let first := replaceBy 0.0 (settle boundPlaces low high 0.0)
  let (low, high) := match limit with
    | some m => (if m < low then m else low, m)
    | none => (low, high)
  let first := replaceBy first (settle boundPlaces low high first)
  ⟨low, high, replaceBy first (settle valuePlaces low high first)⟩

/-- Boxes for doubles. -/
def decimal : Widget (Range (Option Float) Float) Float Float where
  State := DecimalBox
  make r := .ok (.new r.low r.high)
  set s x := .ok { s with value := replaceBy s.value (settle valuePlaces s.low s.high x) }
  enter s v := do
    let x := settle valuePlaces s.low s.high (← v.toFloat)
    return if x == s.value then (s, none) else ({ s with value := x }, some (.float x))
  value s := .ok s.value
  readable _ := ⟨⟨_, rfl⟩, fun _ => ⟨_, rfl⟩⟩

/-! ## rows -/

/-- Rows of a text and a value each, and the place of the current row: the number that was asked
for last.  Before the first row there is no current row. -/
structure RowBox where
  rows : List (Text × Value)
  place : Value

/-- The value of the row at a place; a place between rows is none of the right kind. -/
def RowBox.current (s : RowBox) : Outcome Value :=
  let at_ (i : Nat) : Outcome Value := .ok ((s.rows[i]?.map Prod.snd).getD .null)
  match s.place with
  | .int (.ofNat i) => at_ i
  | .bool b => at_ (if b then 1 else 0)
  | .float x => if 0.0 ≤ x then .error .wrongKind else .ok .null
  | _ => .ok .null

/-- Whether a number is beyond the last row. -/
def RowBox.isBeyond (s : RowBox) : Value → Outcome Bool
  | .int n => .ok (decide (Int.ofNat s.rows.length ≤ n))
  | .bool b => .ok (decide (s.rows.length ≤ if b then 1 else 0))
  | .float x => .ok (decide (Float.ofNat s.rows.length ≤ x))
  | .undefined _ => .ok false
  | _ => .error .wrongKind

/-- What is held after something was put in its place: equal ones are not told apart. -/
def heldAfter (old new : Value) : Value := if old.same new then old else new

/-- The rows after a number was asked for; beyond the last row the place is before the first one. -/
def RowBox.choose (s : RowBox) (wanted : Value) : Outcome RowBox := do
  return { s with place := heldAfter s.place (if ← s.isBeyond wanted then .int (-1) else wanted) }

/-- An integer is put in the place of another. -/
theorem heldAfter_int (old new : Int) : heldAfter (.int old) (.int new) = .int new := by
  unfold heldAfter
  by_cases h : old = new
  · simp [h]
  · simp [Value.same, Value.amount?, Value.Amount.same, h]

theorem RowBox.current_of_int {s : RowBox} {n : Int} (h : s.place = .int n) :
    ∃ v, s.current = .ok v := by
  unfold RowBox.current
  rw [h]
  cases n <;> exact ⟨_, rfl⟩

theorem RowBox.place_choose {s s' : RowBox} {n : Int} {i : Nat} (hplace : s.place = .int n)
    (h : s.choose (.int i) = .ok s') : ∃ n', s'.place = .int n' := by
  unfold RowBox.choose at h
  rw [hplace] at h
  cases hbeyond : decide (Int.ofNat s.rows.length ≤ (i : Int)) with
  | true =>
    simp only [isBeyond, hbeyond, bind, Except.bind, pure, Except.pure, if_true, heldAfter_int] at h
    cases h
    exact ⟨_, rfl⟩
  | false =>
    simp only [isBeyond, hbeyond, bind, Except.bind, pure, Except.pure,
      Bool.false_eq_true, if_false, heldAfter_int] at h
    cases h
    exact ⟨_, rfl⟩

/-- Boxes with rows, of which the first is chosen. -/
def rows : Widget (List (Text × Value)) Nat Value where
  State := RowBox
  make rows := .ok ⟨rows, .int (if rows.isEmpty then -1 else 0)⟩
  set s i := s.choose (.int i)
  enter s v := do
    let new ← s.choose v
    return if s.place.same new.place then (s, none) else (new, some new.place)
  value s := s.current
  readable hmake := by
    cases hmake
    refine ⟨RowBox.current_of_int rfl, fun hset => ?_⟩
    obtain ⟨n, hn⟩ := RowBox.place_choose rfl hset
    exact RowBox.current_of_int hn

/-- The first row that holds a value. -/
def find (s : RowBox) (v : Value) : Option Nat :=
  s.rows.findIdx? fun r => Value.sameKind r.2 v && Value.same r.2 v

/-! ## texts and truth values -/

/-- Lines, which hold whatever is entered in them. -/
def line : Widget Unit Text Value where
  State := Value
  make _ := .ok (.text "")
  set _ t := .ok (.text t)
  enter s v := .ok (heldAfter s v, some v)
  value s := .ok s
  readable _ := ⟨⟨_, rfl⟩, fun _ => ⟨_, rfl⟩⟩

/-- Boxes to be ticked, by whatever is set. -/
def tick : Widget Unit Bool Bool where
  State := Value
  make _ := .ok (.bool false)
  set _ b := .ok (.bool b)
  enter s v := .ok (if s.same v then (s, none) else (v, some v))
  value s := .ok s.isSet
  readable _ := ⟨⟨_, rfl⟩, fun _ => ⟨_, rfl⟩⟩

scoped instance platform : Platform where
  whole := whole
  decimal := decimal
  rows := rows
  find := find
  line := line
  tick := tick
  arrangement := .asAdded
  room := .usual
  stopsAtFault := true

end BlockSketch.Plain
