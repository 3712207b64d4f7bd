import BlockSketch.Fault
import BlockSketch.Text.Digit

/-!
# BlockSketch.Format.Spec

Format specifications: how a value is padded, signed, grouped and rounded when
it is put into a text.  A specification is read in a fixed order of optional
parts: fill and alignment, sign, `z`, `#`, `0`, width, grouping, precision, type.
-/

namespace BlockSketch.Format

/-- Where padding goes. -/
inductive Align where
  | left
  | right
  | center
  -- padding goes between the sign and the digits
  | inner
deriving DecidableEq, Repr

/-- A format specification. -/
structure Spec where
  fill : Letter
  align : Align
  sign : Option Char
  -- whether a negative zero loses its sign
  plainZero : Bool
  alternate : Bool
  width : Nat
  grouping : Option Char
  precision : Option Nat
  type : Option Char
deriving Repr

/-- The alignment a letter stands for. -/
def Align.ofLetter? (c : Letter) : Option Align :=
  if c = '<' then some .left else if c = '>' then some .right
  else if c = '^' then some .center else if c = '=' then some .inner else none

/-- The fill letter and alignment at the front of a specification. -/
def takeAlign (cs : List Letter) : Option Letter × Option Align × List Letter :=
  match cs with
  | a :: b :: rest =>
    match Align.ofLetter? b with
    | some align => (some a, some align, rest)
    | none =>
      match Align.ofLetter? a with
      | some align => (none, some align, b :: rest)
      | none => (none, none, cs)
  | [a] =>
    match Align.ofLetter? a with
    | some align => (none, some align, [])
    | none => (none, none, cs)
  | [] => (none, none, [])

/-- Cut a character off the front when it is among some. -/
def takeOneOf (choices : List Char) (cs : List Letter) : Option Char × List Letter :=
  match cs with
  | .char c :: rest => if choices.contains c then (some c, rest) else (none, cs)
  | _ => (none, cs)

/-- The largest width or precision. -/
def maxCount : Nat := 9223372036854775807

/-- The number at the front of a specification, in digits of any script. -/
def takeCount (cs : List Letter) : Outcome (Option Nat × List Letter) :=
  let digit? (c : Letter) := c.char?.bind Text.digitValue?
  let ds := cs.takeWhile fun c => (digit? c).isSome
  if ds.isEmpty then .ok (none, cs)
  else
    let n := ds.foldl (fun n c => n * 10 + (digit? c).getD 0) 0
    if maxCount < n then .error .malformed else .ok (some n, cs.drop ds.length)

/-- The grouping character; commas and underscores exclude each other. -/
def takeGrouping (cs : List Letter) : Outcome (Option Char × List Letter) :=
  let (comma, cs) := takeOneOf [','] cs
  let (line, cs) := takeOneOf ['_'] cs
  if comma.isSome && line.isSome then .error .malformed
  else if line.isSome && cs.head? = some (.char ',') then .error .malformed
  else .ok (if line.isSome then line else comma, cs)

/-- The precision behind a point. -/
def takePrecision (cs : List Letter) : Outcome (Option Nat × List Letter) :=
  match cs with
  | .char '.' :: rest => do
    let (n, rest) ← takeCount rest
    match n with
    | some n => return (some n, rest)
    | none => .error .malformed
  | _ => .ok (none, cs)

/-- Whether digits may be grouped in a type. -/
def groupable (grouping : Char) (type : Option Char) : Bool :=
  match type with
  | none => true
  | some t =>
    ['d', 'e', 'f', 'g', 'E', 'G', '%', 'F'].contains t ||
      (grouping = '_' && ['b', 'o', 'x', 'X'].contains t)

/-- The type letter that a specification ends in. -/
def takeType (cs : List Letter) : Outcome (Option Char) :=
  match cs with
  | [] => .ok none
  | [.char c] => .ok (some c)
  | _ => .error .malformed

/-- Read a specification; `usual` is the alignment of the kind of value. -/
def Spec.parse (usual : Align) (cs : List Letter) : Outcome Spec := do
  let (fill, align, cs) := takeAlign cs
  let (sign, cs) := takeOneOf [' ', '+', '-'] cs
  let (z, cs) := takeOneOf ['z'] cs
  let (alt, cs) := takeOneOf ['#'] cs
  let (zero, cs) := if fill.isNone then takeOneOf ['0'] cs else (none, cs)
  let (width, cs) ← takeCount cs
  let (grouping, cs) ← takeGrouping cs
  let (precision, cs) ← takePrecision cs
  let type ← takeType cs
  match grouping with
  | some g => if !groupable g type then .error .malformed else pure ()
  | none => pure ()
  return {
    fill := fill.getD (.char (if zero.isSome then '0' else ' '))
    align := align.getD (if zero.isSome ∧ usual = .right then .inner else usual)
    sign := sign
    plainZero := z.isSome
    alternate := alt.isSome
    width := width.getD 0
    grouping := grouping
    precision := precision
    type := type }

end BlockSketch.Format
