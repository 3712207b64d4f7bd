import BlockSketch.Assoc
import BlockSketch.Shell.Number
import BlockSketch.Shell.Tree

/-!
# BlockSketch.Shell.Arith

Arithmetic of scripts, on machine words with a sign.  An expression is evaluated
while it is read, so the first fault in reading order is the one reported; parts
that do not count are read without being evaluated.
-/

namespace BlockSketch.Shell

/-- The operators between two numbers. -/
inductive ArithSign where
  | mul | div | rem | add | sub | shiftLeft | shiftRight
  | less | lessEq | greater | greaterEq | equal | notEqual
  | bitAnd | bitXor | bitOr
deriving DecidableEq, Repr

/-- How tightly an operator binds; the smaller the tighter. -/
def ArithSign.rank : ArithSign → Nat
  | .mul | .div | .rem => 0
  | .add | .sub => 1
  | .shiftLeft | .shiftRight => 2
  | .less | .lessEq | .greater | .greaterEq => 3
  | .equal | .notEqual => 4
  | .bitAnd => 5
  | .bitXor => 6
  | .bitOr => 7

/-- A rank below all operators. -/
def ArithSign.lowest : Nat := 8

inductive ArithToken where
  | finish
  | bad
  | number (n : Int)
  | name (b : Bytes)
  | sign (s : ArithSign)
  | assign (s : Option ArithSign)
  | and
  | or
  | not
  | invert
  | open_
  | close
  | question
  | colon
deriving DecidableEq, Repr, Inhabited

/-- Take the operator at the front, or the assignment that an equals sign makes of it. -/
def orAssign (s : ArithSign) : Bytes → ArithToken × Bytes
  | '=' :: rest => (.assign (some s), rest)
  | rest => (.sign s, rest)

/-- Take the token at the front of an expression. -/
def takeArith (cs : Bytes) : ArithToken × Bytes :=
  match cs.dropWhile fun c => c = ' ' || c = '\t' || c = '\n' with
  | [] => (.finish, [])
  | '=' :: '=' :: rest => (.sign .equal, rest)
  | '=' :: rest => (.assign none, rest)
  | '>' :: '=' :: rest => (.sign .greaterEq, rest)
  | '>' :: '>' :: rest => orAssign .shiftRight rest
  | '>' :: rest => (.sign .greater, rest)
  | '<' :: '=' :: rest => (.sign .lessEq, rest)
  | '<' :: '<' :: rest => orAssign .shiftLeft rest
  | '<' :: rest => (.sign .less, rest)
  | '|' :: '|' :: rest => (.or, rest)
  | '|' :: rest => orAssign .bitOr rest
  | '&' :: '&' :: rest => (.and, rest)
  | '&' :: rest => orAssign .bitAnd rest
  | '!' :: '=' :: rest => (.sign .notEqual, rest)
  | '!' :: rest => (.not, rest)
  | '(' :: rest => (.open_, rest)
  | ')' :: rest => (.close, rest)
  | '*' :: rest => orAssign .mul rest
  | '/' :: rest => orAssign .div rest
  | '%' :: rest => orAssign .rem rest
  | '+' :: rest => orAssign .add rest
  | '-' :: rest => orAssign .sub rest
  | '^' :: rest => orAssign .bitXor rest
  | '~' :: rest => (.invert, rest)
  | '?' :: rest => (.question, rest)
  | ':' :: rest => (.colon, rest)
  | c :: rest =>
    if c.isDigit then
      let r := readSigned (c :: rest)
      (.number r.value, r.rest)
    else if isNameStart c then
      let name := c :: rest.takeWhile isNameChar
      (.name name, rest.dropWhile isNameChar)
    else (.bad, c :: rest)

/-- A number as a machine word with a sign. -/
def machineWord (n : Int) : Int := Int.bmod n wordBound

def ofCondition (b : Bool) : Int := if b then 1 else 0

/-- The bits of two numbers combined. -/
def bitwise (f : Nat → Nat → Nat) (a b : Int) : Int :=
  machineWord (f (a.emod wordBound).toNat (b.emod wordBound).toNat : Nat)

/-- What an operator gives; `none` for a division by zero. -/
def ArithSign.apply? (s : ArithSign) (a b : Int) : Option Int :=
  let places := (b.emod 64).toNat
  match s with
  | .mul => some (machineWord (a * b))
  | .div => if b = 0 then none else some (machineWord (a.tdiv b))
  | .rem => if b = 0 then none else some (a.tmod b)
  | .add => some (machineWord (a + b))
  | .sub => some (machineWord (a - b))
  | .shiftLeft => some (machineWord (a * Int.ofNat (Decimal.twoPow places)))
  | .shiftRight => some (a.fdiv (Int.ofNat (Decimal.twoPow places)))
  | .less => some (ofCondition (a < b))
  | .lessEq => some (ofCondition (a ≤ b))
  | .greater => some (ofCondition (b < a))
  | .greaterEq => some (ofCondition (b ≤ a))
  | .equal => some (ofCondition (a = b))
  | .notEqual => some (ofCondition (a ≠ b))
  | .bitAnd => some (bitwise Nat.land a b)
  | .bitXor => some (bitwise Nat.xor a b)
  | .bitOr => some (bitwise Nat.lor a b)

/-- What is wrong with an expression. -/
inductive ArithFault where
  -- the expression is malformed or divides by zero
  | expression (message : String)
  | number (value : Bytes)

/-- Where an evaluation stands. -/
structure ArithState where
  rest : Bytes
  next : ArithToken := .finish
  -- the values that were assigned, by name
  assigned : Assoc Bytes Int := []

/-- A step of an evaluation. -/
abbrev Arith := StateT ArithState (Except ArithFault)

namespace Arith

/-- Complain about the expression. -/
def fail {α : Type} (message : String) : Arith α := throw (.expression message)

/-- Go to the next token. -/
def advance : Arith Unit :=
  modify fun s =>
    let (t, rest) := takeArith s.rest
    { s with next := t, rest }

/-- Take the next token. -/
def take : Arith ArithToken := do
  let t := (← get).next
  advance
  return t

/-- The number that the value of a variable is; nothing is zero. -/
def ofValue (value : Bytes) : Arith Int :=
  let r := readSigned value
  if r.outOfRange || !(r.rest.dropWhile isBlank).isEmpty then throw (.number value)
  else return r.value

/-- The number in a variable. -/
def lookup (value? : Bytes → Option Bytes) (name : Bytes) : Arith Int := do
  match (← get).assigned.get? name with
  | some n => return n
  | none => ofValue ((value? name).getD [])

/-- What an operator gives. -/
def apply (s : ArithSign) (a b : Int) : Arith Int :=
  match s.apply? a b with
  | some n => return n
  | none => fail "division by zero"

mutual

/-- Evaluate an expression of at most so many tokens; `idle` ones are only read. -/
def expression (value? : Bytes → Option Bytes) (idle : Bool) : Nat → Arith Int
  | n + 1 => do
    let first := (← get).next
    match first with
    | .name name =>
      let s ← get
      match takeArith s.rest with
      | (.assign sign, rest) =>
        set { s with rest }
        advance
        let result ← expression value? idle n
        if idle then return result
        else
          let result ← match sign with
            | none => pure result
            | some sign => do apply sign (← lookup value? name) result
          modify fun s => { s with assigned := s.assigned.put name result }
          return result
      | _ => choice value? idle n
    | _ => choice value? idle n
  | 0 => fail "expecting primary"

/-- Evaluate a choice between two expressions, or what it chooses by. -/
def choice (value? : Bytes → Option Bytes) (idle : Bool) : Nat → Arith Int
  | n + 1 => do
    let a ← disjunction value? idle n
    if (← get).next ≠ .question then return a
    else
      advance
      let b ← expression value? (idle || a = 0) n
      if (← get).next ≠ .colon then fail "expecting ':'"
      advance
      let c ← choice value? (idle || a ≠ 0) n
      return if a ≠ 0 then b else c
  | 0 => fail "expecting primary"

/-- Evaluate conditions of which one suffices. -/
def disjunction (value? : Bytes → Option Bytes) (idle : Bool) : Nat → Arith Int
  | n + 1 => do
    let a ← conjunction value? idle n
    if (← get).next ≠ .or then return a
    else
      advance
      let b ← disjunction value? (idle || a ≠ 0) n
      return ofCondition (a ≠ 0 || b ≠ 0)
  | 0 => fail "expecting primary"

/-- Evaluate conditions that have to hold together. -/
def conjunction (value? : Bytes → Option Bytes) (idle : Bool) : Nat → Arith Int
  | n + 1 => do
    let a ← primary value? idle n
    let a ← operations value? idle ArithSign.lowest n a
    if (← get).next ≠ .and then return a
    else
      advance
      let b ← conjunction value? (idle || a = 0) n
      return ofCondition (a ≠ 0 && b ≠ 0)
  | 0 => fail "expecting primary"

/-- Apply the operators that come next and bind tighter than a rank. -/
def operations (value? : Bytes → Option Bytes) (idle : Bool) (rank : Nat) :
    Nat → Int → Arith Int
  | n + 1, a => do
    match (← get).next with
    | .sign s =>
      if rank ≤ s.rank then return a
      else
        advance
        let b ← primary value? idle n
        let b ← operations value? idle s.rank n b
        let a ← if idle then pure b else apply s a b
        operations value? idle rank n a
    | _ => return a
  | 0, a => return a

/-- Evaluate a number, a variable, or an expression in parentheses, with the signs before it. -/
def primary (value? : Bytes → Option Bytes) (idle : Bool) : Nat → Arith Int
  | n + 1 => do
    match ← take with
    | .open_ =>
      let a ← expression value? idle n
      if (← get).next ≠ .close then fail "expecting ')'"
      advance
      return a
    | .number a => return a
    | .name name => if idle then return 0 else lookup value? name
    | .sign .add => primary value? idle n
    | .sign .sub => return machineWord (-(← primary value? idle n))
    | .not => return ofCondition ((← primary value? idle n) = 0)
    | .invert => return -(← primary value? idle n) - 1
    | _ => fail "expecting primary"
  | 0 => fail "expecting primary"

end

/-- Evaluate a whole expression. -/
def whole (value? : Bytes → Option Bytes) (size : Nat) : Arith Int := do
  advance
  let a ← expression value? false (8 * size + 16)
  if (← get).next ≠ .finish then fail "expecting EOF"
  return a

end Arith

/-- The value of an expression and the variables it assigns. -/
def evaluate (value? : Bytes → Option Bytes) (expression : Bytes) :
    Except ArithFault (Int × Assoc Bytes Int) := do
  let (a, s) ← (Arith.whole value? expression.length).run { rest := expression }
  return (a, s.assigned)

end BlockSketch.Shell
