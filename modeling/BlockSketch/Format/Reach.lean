import BlockSketch.Format.Feature
import BlockSketch.Format.Spec
import BlockSketch.Value.Written

/-!
# BlockSketch.Format.Reach

What the name of a field reaches.  It starts from a value of the context; a point
leads on to a member, square brackets lead on to an item.  Besides values this
reaches kinds, rows of kinds, and the features of kinds and values.
-/

namespace BlockSketch.Format

/-- Something that a field reaches. -/
inductive Reached where
  | value (v : Value)
  | kind (k : Kind)
  | row (ks : List Kind)
  | variant (k : Kind) (argument : Value)
  -- a feature of something, added by a kind
  | bound (sort : FeatureSort) (owner : Kind) (name : String) (holder : Reached)
  | feature (sort : FeatureSort) (owner : Kind) (name : String)
deriving Inhabited

namespace Reached

/-- The text of an optional text, or the absent value. -/
def ofText? (t : Option Text) : Reached := .value (.ofText? t)

def kindOf : Reached → Kind
  | .value v => .ofValue v
  | .kind _ => .kind
  | .row _ => .row
  | .variant _ _ => .variant
  | .bound .operator _ _ _ => .operator
  | .bound _ _ _ _ => .method
  | .feature .operator _ _ => .kindOperator
  | .feature .attribute _ _ => .kindAttribute
  | .feature _ _ _ => .kindMethod

/-! ## texts -/

/-- The text of something, given how values are written. -/
def textWith (write : Value → Text) : Reached → Text
  | .value v => write v
  | .kind k => k.shown
  | .row [k] => "(" ++ k.shown ++ ",)"
  | .row ks => "(" ++ Text.intercalate ", " (ks.map fun k => k.shown) ++ ")"
  | .variant k argument => k.name ++ "[" ++ argument.written ++ "]"
  | .bound .operator _ name holder =>
    "<method-wrapper '" ++ name ++ "' of " ++ holder.kindOf.name ++ " object>"
  | .bound _ _ name holder =>
    "<built-in method " ++ name ++ " of " ++ holder.kindOf.name ++ " object>"
  | .feature .operator owner name =>
    "<slot wrapper '" ++ name ++ "' of '" ++ owner.name ++ "' objects>"
  | .feature .attribute owner name =>
    "<attribute '" ++ name ++ "' of '" ++ owner.name ++ "' objects>"
  | .feature _ owner name => "<method '" ++ name ++ "' of '" ++ owner.name ++ "' objects>"

/-- The plain text of something. -/
def shown (r : Reached) : Text := r.textWith Value.shown

/-- The text of something with quotes around texts. -/
def written (r : Reached) : Text := r.textWith Value.written

/-- The text of something with quotes around texts, and in ASCII. -/
def writtenAscii (r : Reached) : Text :=
  r.textWith (Value.writtenWith fun c => decide (0x20 ≤ c.toNat ∧ c.toNat < 0x7F))

/-- Whether something has a text: the values that are written in it need one. -/
def hasText : Reached → Bool
  | .value v => v.hasText
  | .variant _ argument => argument.hasText
  | .kind _ | .row _ | .bound _ _ _ _ | .feature _ _ _ => true

/-! ## members -/

/-- An attribute of a number: its parts as a fraction and as a complex number. -/
def numberPart (v : Value) (name : String) : Outcome Reached :=
  let whole (n : Int) : Value :=
    if name == "imag" then .int 0 else if name == "denominator" then .int 1 else .int n
  match v with
  | .int n => .ok (.value (whole n))
  | .bool b => .ok (.value (whole (if b then 1 else 0)))
  | .float x => .ok (.value (.float (if name == "imag" then 0.0 else x)))
  | .undefined mark => .ok (.value (if name == "imag" then .float 0.0 else .undefined mark))
  | _ => .error .noMember

/-- A feature of something as its member. -/
def boundFeature (r : Reached) (name : String) : Outcome Reached :=
  match r.kindOf.feature? name, r with
  | some (.attribute, _), .value v => numberPart v name
  | some (.operator, owner), r => .ok (.bound .operator owner name r)
  | some (.shared, _), r => .ok (.bound .shared r.kindOf name (.kind r.kindOf))
  | some (_, _), r => .ok (.bound .method r.kindOf name r)
  | none, _ => .error .noMember

def kindMember (k : Kind) (name : String) : Outcome Reached :=
  match name with
  | "__name__" | "__qualname__" => .ok (.value (.text k.name))
  | "__module__" => .ok (.value (.text k.collection))
  | "__doc__" => .ok (ofText? k.summary?)
  | "__base__" => .ok ((k.parent?.map Reached.kind).getD (.value .null))
  | "__bases__" => .ok (.row k.parent?.toList)
  | "__mro__" => .ok (.row k.line)
  | _ =>
    if name == "__hash__" && k.isNoKey then .ok (.value .null)
    else match k.feature? name with
      | some (.shared, _) => .ok (.bound .shared k name (.kind k))
      | some (sort, owner) => .ok (.feature sort owner name)
      | none => boundFeature (.kind k) name

def featureMember (r : Reached) (owner : Kind) (called name : String) : Outcome Reached :=
  match name with
  | "__name__" => .ok (.value (.text called))
  | "__qualname__" => .ok (.value (.text (owner.name ++ "." ++ called)))
  | _ => boundFeature r name

def member (r : Reached) (called : Text) : Outcome Reached :=
  let name := called.plain
  if name == "__class__" then .ok (.kind r.kindOf)
  else match r with
    | .kind k => kindMember k name
    | .variant k _ => if name == "__origin__" then .ok (.kind k) else kindMember k name
    | .feature _ owner called =>
      if name == "__objclass__" then .ok (.kind owner) else featureMember r owner called name
    | .bound sort owner called holder =>
      if name == "__self__" then .ok holder
      else if name == "__objclass__" && sort = .operator then .ok (.kind owner)
      else if name == "__module__" && sort ≠ .operator then .ok (.value .null)
      else featureMember r owner called name
    | r =>
      if name == "__doc__" then .ok (ofText? r.kindOf.summary?)
      else if name == "__hash__" && r.kindOf.isNoKey then .ok (.value .null)
      else boundFeature r name

/-! ## items -/

/-- The index that a name spells, when all of it is digits. -/
def index? (name : List Letter) : Outcome (Option Nat) := do
  match ← takeCount name with
  | (some n, []) => return some n
  | _ => return none

def itemAt {α : Type} (xs : List α) (i : Nat) : Outcome α :=
  match xs[i]? with
  | some x => .ok x
  | none => .error .outOfRange

/-- The item of something under a name or an index. -/
def item (r : Reached) (name : List Letter) : Outcome Reached := do
  match r, ← index? name with
  | .value (.list items), some i => return .value (← itemAt items i)
  | .value (.text s), some i => return .value (.ofLetter (← itemAt s.letters i))
  | .value (.dict _), some i => .error (.missingKey (toString i))
  | .value (.dict fs), none => return .value (← Fields.need fs ⟨name⟩)
  | .row ks, some i => return .kind (← itemAt ks i)
  | .kind k, index =>
    if k.takesArgument then
      return .variant k (match index with
        | some i => .int (Int.ofNat i)
        | none => .text ⟨name⟩)
    else .error .wrongKind
  | _, _ => .error .wrongKind

end Reached

end BlockSketch.Format
