import BlockSketch.Shell.Number

/-!
# BlockSketch.Shell.Condition

The conditions of `test`: tests of files, texts and numbers, joined by `-a` and
`-o` and negated by an exclamation mark.  What a word means depends on the words
around it, so an operator that stands where an operand is needed is one.
-/

namespace BlockSketch.Shell

inductive ConditionWord where
  | finish
  | operand
  | single (letter : Char)
  | double (sign : String)
  | not
  | and
  | or
  | open_
  | close
deriving DecidableEq, Repr

/-- The letters of the tests of one value. -/
def singleLetters : List Char := "rwxefdcsztn".toList

/-- The signs of the tests of two values. -/
def doubleSigns : List String :=
  ["=", "!=", "<", ">", "-eq", "-ne", "-ge", "-gt", "-le", "-lt"]

/-- What a word is when nothing around it says otherwise. -/
def ConditionWord.of (w : Bytes) : ConditionWord :=
  match String.ofList w with
  | "!" => .not
  | "-a" => .and
  | "-o" => .or
  | "(" => .open_
  | ")" => .close
  | s =>
    if doubleSigns.contains s then .double s
    else match w with
      | ['-', c] => if singleLetters.contains c then .single c else .operand
      | _ => .operand

/-- Whether a word is a test of two values. -/
def ConditionWord.isDouble : ConditionWord → Bool
  | .double _ => true
  | _ => false

/-- What the first of some words is. -/
def ConditionWord.ofWords : List Bytes → ConditionWord
  | [] => .finish
  | w :: rest =>
    let isOperand := match rest with
      | [] => true
      | [_] => false
      | next :: _ => (ConditionWord.of next).isDouble
    match ConditionWord.of w with
    | .single c => if isOperand then .operand else .single c
    | .open_ => if rest.isEmpty then .operand else .open_
    | k => k

/-- A step in the evaluation of a condition: the words from the one in hand, or a complaint. -/
abbrev Test := StateT (List Bytes) (Except Bytes)

namespace Test

def fail {α : Type} (message : String) : Test α := throw (bytes message)

/-- Complain about a word. -/
def failAt {α : Type} (word : Bytes) (message : String) : Test α :=
  throw (if word.isEmpty then bytes message else word ++ bytes (": " ++ message))

/-- What a word of those that are left is. -/
def look (n : Nat) : Test ConditionWord := return .ofWords ((← get).drop n)

/-- Go on by some words. -/
def skip (n : Nat) : Test Unit := modify fun ws => ws.drop n

/-- The word in hand. -/
def here? : Test (Option Bytes) := return (← get).head?

def number (w : Bytes) : Test Int :=
  let (negative, ds) := takeMinus (w.dropWhile isBlank)
  let (n, rest) := takeDigits decimalDigit? 10 ds.length 0 ds
  let far := if negative then signBound < n else signBound ≤ n
  if !startsWith decimalDigit? ds || far || !(rest.dropWhile isBlank).isEmpty then
    throw (bytes "Illegal number: " ++ w)
  else return if negative then -n else n

/-- Whether a text comes before another. -/
def isBefore : Bytes → Bytes → Bool
  | _, [] => false
  | [], _ :: _ => true
  | a :: as, b :: bs => a < b || (a = b && isBefore as bs)

/-- A test of two values. -/
def double (sign : String) (a b : Bytes) : Test Bool := do
  let numbers (p : Int → Int → Bool) : Test Bool := do
    let m ← number a
    return p m (← number b)
  match sign with
  | "=" => return a = b
  | "!=" => return a ≠ b
  | "<" => return isBefore a b
  | ">" => return isBefore b a
  | "-eq" => numbers fun m n => m = n
  | "-ne" => numbers fun m n => m ≠ n
  | "-ge" => numbers fun m n => n ≤ m
  | "-gt" => numbers fun m n => n < m
  | "-le" => numbers fun m n => m ≤ n
  | _ => numbers fun m n => m < n

/-- A test of one value, where files are tested by the letter as told. -/
def single (file : Char → Bytes → Bool) (letter : Char) (w : Bytes) : Test Bool := do
  if letter = 'z' then return w.isEmpty
  else if letter = 'n' then return !w.isEmpty
  else if letter = 't' then
    let _ ← number w
    return false
  else return file letter w

mutual

/-- Evaluate conditions of which one suffices. -/
def disjunction (file : Char → Bytes → Bool) : Nat → ConditionWord → Test Bool
  | n + 1, k => do
    let a ← conjunction file n k
    if (← look 1) = .or then
      skip 2
      let b ← disjunction file n (← look 0)
      return a || b
    else return a
  | 0, _ => return false

/-- Evaluate conditions that have to hold together. -/
def conjunction (file : Char → Bytes → Bool) : Nat → ConditionWord → Test Bool
  | n + 1, k => do
    let a ← negation file n k
    if (← look 1) = .and then
      skip 2
      let b ← conjunction file n (← look 0)
      return a && b
    else return a
  | 0, _ => return false

/-- Evaluate a condition with the negations before it. -/
def negation (file : Char → Bytes → Bool) : Nat → ConditionWord → Test Bool
  | n + 1, .not => do
    let k ← look 1
    if k ≠ .finish then skip 1
    return !(← negation file n k)
  | n + 1, k => primary file n k
  | 0, _ => return false

/-- Evaluate a single test, or conditions in parentheses. -/
def primary (file : Char → Bytes → Bool) : Nat → ConditionWord → Test Bool
  | n + 1, k => do
    match k with
    | .finish => return false
    | .open_ =>
      skip 1
      let k ← look 0
      if k = .close then return false
      else
        let a ← disjunction file n k
        skip 1
        if (← look 0) ≠ .close then fail "closing paren expected"
        return a
    | .single c =>
      skip 1
      match ← here? with
      | some w => single file c w
      | none => failAt ['-', c] "argument expected"
    | _ =>
      let a := (← here?).getD []
      match ← look 1 with
      | .double sign =>
        skip 2
        match ← here? with
        | some b => double sign a b
        | none => failAt (bytes sign) "argument expected"
      | _ => return !a.isEmpty
  | 0, _ => return false

end

/-- Evaluate all words as one condition. -/
def whole (file : Char → Bytes → Bool) (asOperand : Bool) : Test Bool := do
  let size := 5 * (← get).length + 10
  let k ← if asOperand then pure .operand else look 0
  let a ← disjunction file size k
  match ← get with
  | w :: _ :: _ => failAt w "unexpected operator"
  | _ => return a

/-- The words of a condition without the parentheses around it and the negations before it, which
are taken away as long as it has three or four words, and whether there was a negation. -/
def unwrap : Nat → Bool → List Bytes → Bool × List Bytes
  | n + 1, negated, ws =>
    let asTest := match ws with
      | [_, sign, _] => (ConditionWord.of sign).isDouble
      | [_, _, _, _] => false
      | _ => true
    if asTest then (negated, ws)
    else if ws.head? = some ['('] && ws.getLast? = some [')'] then
      unwrap n negated (ws.drop 1).dropLast
    else if ws.head? = some ['!'] then unwrap n true (ws.drop 1)
    else (negated, ws)
  | 0, negated, ws => (negated, ws)

/-- Evaluate a condition. -/
def outer (file : Char → Bytes → Bool) : Test Bool := do
  let (negated, ws) := unwrap 4 false (← get)
  set ws
  let asOperand := match ws with
    | [_, sign, _] => (ConditionWord.of sign).isDouble
    | _ => false
  let holds ← if ws.isEmpty then pure false else whole file asOperand
  return holds != negated

end Test

/-- Whether a condition holds, or a complaint about it. -/
def condition (file : Char → Bytes → Bool) (words : List Bytes) : Except Bytes Bool := do
  return (← (Test.outer file).run words).1

end BlockSketch.Shell
