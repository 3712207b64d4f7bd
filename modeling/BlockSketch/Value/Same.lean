import BlockSketch.Value.Basic
import BlockSketch.Decimal.Binary

/-!
# BlockSketch.Value.Same

Equality of documents as data.  Numbers are equal when they stand for the same
number, whatever their kind, a truth value counting as zero or one; dictionaries
are equal when they hold equal values under the same keys, in any order.  The
undefined number differs from every number, itself included, but a list or a
dictionary that holds it is equal to itself.
-/

namespace BlockSketch.Value

/-- What a number stands for. -/
inductive Amount where
  | whole (n : Int)
  | other (x : Float)

/-- The number a value stands for, if it is a number or a truth value. -/
def amount? : Value → Option Amount
  | .bool b => some (.whole (if b then 1 else 0))
  | .int n => some (.whole n)
  | .float x =>
    match (Decimal.Binary.ofFloat x).toInt? with
    | some n => some (.whole n)
    | none => some (.other x)
  | .undefined _ => some (.other Decimal.notANumber)
  | _ => none

/-- Whether two numbers are equal. -/
def Amount.same : Amount → Amount → Bool
  | .whole a, .whole b => decide (a = b)
  | .other x, .other y => x == y
  | _, _ => false

/-- Whether both values are one undefined number.  Those without a mark are all one. -/
def oneUndefined : Value → Value → Bool
  | .float x, .float y => x.isNaN && y.isNaN
  | .undefined a, .undefined b => a == b
  | _, _ => false

mutual

/-- Whether two values are equal as data. -/
def same : Value → Value → Bool
  | .null, .null => true
  | .text a, .text b => decide (a = b)
  | .list as, .list bs => sameList as bs
  | .dict as, .dict bs => decide (as.length = bs.length) && sameEntries as bs
  | a, b =>
    match amount? a, amount? b with
    | some x, some y => x.same y
    | _, _ => false

/-- Whether two lists hold equal items. -/
def sameList : List Value → List Value → Bool
  | [], [] => true
  | a :: as, b :: bs => (oneUndefined a b || same a b) && sameList as bs
  | _, _ => false

/-- Whether every entry has an equal one on the other side. -/
def sameEntries : List (Text × Value) → List (Text × Value) → Bool
  | [], _ => true
  | (k, a) :: as, bs =>
    (match Assoc.get? bs k with
      | some b => oneUndefined a b || same a b
      | none => false) && sameEntries as bs

end

/-- Whether two values stand for the same key of a table. -/
def sameKey (a b : Value) : Bool := oneUndefined a b || same a b

/-- Whether two values are of one kind. -/
def sameKind : Value → Value → Bool
  | .null, .null | .bool _, .bool _ | .int _, .int _ | .text _, .text _ | .list _, .list _
  | .dict _, .dict _ | .float _, .float _ | .undefined _, .undefined _ | .float _, .undefined _
  | .undefined _, .float _ => true
  | _, _ => false

end BlockSketch.Value
