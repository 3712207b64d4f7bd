import BlockSketch.Format.Number
import BlockSketch.Format.Reach
import BlockSketch.Value.Number

/-!
# BlockSketch.Format.Template

Texts with fields in braces.  A field names a value of the context, may reach
into it, may ask for its quoted form, and may carry a format specification which
may itself hold fields.  A doubled brace stands for itself.  The text is cut into
segments first; a place where it is malformed ends the segments, so that the
fields before it are still looked up first.
-/

namespace BlockSketch.Format

/-- A piece of a template. -/
inductive Segment where
  | plain (c : Letter)
  | field (name : List Letter) (conversion : Option Letter) (spec : List Letter)
  -- the template is malformed from here on
  | bad

/-- Where the cutting stands; texts in hand are held reversed. -/
inductive CutState where
  | text
  | opened
  | closed
  | name (acc : List Letter)
  | bracket (acc : List Letter)
  | conversion (name : List Letter)
  | converted (name : List Letter) (conversion : Letter)
  -- in a specification, so many braces deep
  | spec (name : List Letter) (conversion : Option Letter) (depth : Nat) (acc : List Letter)

/-- Take in a letter of a field's name. -/
def cutName (acc : List Letter) (c : Letter) : Except Unit (Option Segment × CutState) :=
  if c = '{' then .error ()
  else if c = '[' then .ok (none, .bracket (c :: acc))
  else if c = '}' then .ok (some (.field acc.reverse none []), .text)
  else if c = ':' then .ok (none, .spec acc.reverse none 1 [])
  else if c = '!' then .ok (none, .conversion acc.reverse)
  else .ok (none, .name (c :: acc))

/-- Take in a letter. -/
def cutStep : CutState → Letter → Except Unit (Option Segment × CutState)
  | .text, c =>
    if c = '{' then .ok (none, .opened)
    else if c = '}' then .ok (none, .closed)
    else .ok (some (.plain c), .text)
  | .opened, c => if c = '{' then .ok (some (.plain c), .text) else cutName [] c
  | .closed, c => if c = '}' then .ok (some (.plain c), .text) else .error ()
  | .name acc, c => cutName acc c
  | .bracket acc, c => .ok (none, if c = ']' then .name (c :: acc) else .bracket (c :: acc))
  | .conversion name, c => .ok (none, .converted name c)
  | .converted name conversion, c =>
    if c = '}' then .ok (some (.field name (some conversion) []), .text)
    else if c = ':' then .ok (none, .spec name (some conversion) 1 [])
    else .error ()
  | .spec name conversion depth acc, c =>
    if c = '{' then .ok (none, .spec name conversion (depth + 1) (c :: acc))
    else if c = '}' then
      if depth ≤ 1 then .ok (some (.field name conversion acc.reverse), .text)
      else .ok (none, .spec name conversion (depth - 1) (c :: acc))
    else .ok (none, .spec name conversion depth (c :: acc))

def segmentsFrom : CutState → List Letter → List Segment
  | .text, [] => []
  | _, [] => [.bad]
  | state, c :: rest =>
    match cutStep state c with
    | .ok (some segment, state) => segment :: segmentsFrom state rest
    | .ok (none, state) => segmentsFrom state rest
    | .error () => [.bad]

def segments (cs : List Letter) : List Segment := segmentsFrom .text cs

/-! ## looking up -/

/-- A step from something to a part of it. -/
inductive Access where
  | member (name : List Letter)
  | item (name : List Letter)
  -- the name is malformed from here on
  | bad

/-- Where the reading of accesses stands. -/
inductive AccessState where
  | between
  | member (acc : List Letter)
  | item (acc : List Letter)

/-- A member access, which needs a name. -/
def memberAccess (acc : List Letter) : Access := if acc.isEmpty then .bad else .member acc.reverse

/-- The accesses behind the first part of a field's name. -/
def accessesFrom : AccessState → List Letter → List Access
  | .between, [] => []
  | .member acc, [] => [memberAccess acc]
  | .item _, [] => [.bad]
  | .between, c :: rest =>
    if c = '.' then accessesFrom (.member []) rest
    else if c = '[' then accessesFrom (.item []) rest
    else [.bad]
  | .member acc, c :: rest =>
    if c = '.' then memberAccess acc :: accessesFrom (.member []) rest
    else if c = '[' then memberAccess acc :: accessesFrom (.item []) rest
    else accessesFrom (.member (c :: acc)) rest
  | .item acc, c :: rest =>
    if c = ']' then
      (if acc.isEmpty then .bad else .item acc.reverse) :: accessesFrom .between rest
    else accessesFrom (.item (c :: acc)) rest

def Access.follow (r : Reached) : Access → Outcome Reached
  | .member name => r.member ⟨name⟩
  | .item name => r.item name
  | .bad => .error .malformed

/-- What a field names. -/
def lookup (context : Fields) (name : List Letter) : Outcome Reached := do
  let first := name.takeWhile fun c => c ≠ .char '.' ∧ c ≠ .char '['
  if first.isEmpty || (← Reached.index? first).isSome then .error .outOfRange
  else
    let v ← Fields.need context ⟨first⟩
    (accessesFrom .between (name.drop first.length)).foldlM Access.follow (.value v)

/-! ## rendering -/

/-- Something in the form that a conversion asks for. -/
def convert (r : Reached) : Option Letter → Outcome Reached
  | none => .ok r
  | some c =>
    if !r.hasText then .error .malformed
    else if c = 's' then .ok (.value (.text r.shown))
    else if c = 'r' then .ok (.value (.text r.written))
    else if c = 'a' then .ok (.value (.text r.writtenAscii))
    else .error .malformed

/-- The types under which an integer is written as a float. -/
def isFloatType (c : Char) : Bool := ['e', 'E', 'f', 'F', 'g', 'G', '%'].contains c

/-- An integer by a specification. -/
def formatInt (cs : List Letter) (n : Int) : Outcome Text := do
  let spec ← Spec.parse .right cs
  let type := spec.type.getD 'd'
  if ['b', 'c', 'd', 'o', 'x', 'X', 'n'].contains type then integer spec type n
  else if isFloatType type then
    match Decimal.ofInt? n with
    | some x => float spec x
    | none => .error .tooLarge
  else .error .malformed

/-- A double by a specification. -/
def formatFloat (cs : List Letter) (x : Float) : Outcome Text := do
  let spec ← Spec.parse .right cs
  match spec.type with
  | none => float spec x
  | some t => if isFloatType t || t = 'n' then float spec x else .error .malformed

/-- Something by a specification; only texts and numbers take one. -/
def formatReached (cs : List Letter) (r : Reached) : Outcome Text :=
  if cs.isEmpty then if r.hasText then .ok r.shown else .error .malformed
  else match r with
    | .value (.text s) => do text (← Spec.parse .left cs) s
    | .value (.int n) => formatInt cs n
    | .value (.bool b) => formatInt cs (if b then 1 else 0)
    | .value (.float x) => formatFloat cs x
    | .value (.undefined _) => formatFloat cs Decimal.notANumber
    | _ => .error .wrongKind

/-- Fill a template, specifications being filled in turn so many levels deep. -/
def renderDepth : Nat → Fields → List Letter → Outcome (List Letter)
  | 0, _, _ => .error .malformed
  | depth + 1, context, cs =>
    (segments cs).foldlM (fun done segment =>
      match segment with
      | .plain c => .ok (done ++ [c])
      | .bad => .error .malformed
      | .field name conversion spec => do
        let found ← lookup context name
        let found ← convert found conversion
        let spec ← if spec.contains '{' then renderDepth depth context spec else .ok spec
        return done ++ (← formatReached spec found).letters) []

/-- Fill the fields of a template from a context. -/
def render (template : Text) (context : Fields) : Outcome Text :=
  (renderDepth 2 context template.letters).map Text.mk

end BlockSketch.Format
