import BlockSketch.Assoc
import BlockSketch.Fault

/-!
# BlockSketch.Value.Basic

Document values.  Block libraries, board tables and project files are documents
of any shape, so the fields that the program does not fix are kept as `Value`s:
integers and floats are different kinds, and the entries of a dictionary keep
their order.
-/

namespace BlockSketch

inductive Value where
  | null
  | bool (b : Bool)
  | int (n : Int)
  | float (x : Float)
  -- an undefined double of its own, told from others by its mark
  | undefined (mark : Nat)
  | text (s : Text)
  | list (items : List Value)
  -- a dictionary in order of its keys' first appearance
  | dict (entries : List (Text × Value))
deriving Inhabited

/-- A dictionary's entries. -/
abbrev Fields := Assoc Text Value

namespace Value

mutual

/-- Values are compared structurally. -/
def decEq : (a b : Value) → Decidable (a = b)
  | .null, .null => .isTrue rfl
  | .bool a, .bool b => decidable_of_iff (a = b) (by simp)
  | .int a, .int b => decidable_of_iff (a = b) (by simp)
  | .float a, .float b => decidable_of_iff (a = b) (by simp)
  | .undefined a, .undefined b => decidable_of_iff (a = b) (by simp)
  | .text a, .text b => decidable_of_iff (a = b) (by simp)
  | .list a, .list b =>
    match decEqList a b with
    | .isTrue h => .isTrue (by rw [h])
    | .isFalse h => .isFalse (by simpa using h)
  | .dict a, .dict b =>
    match decEqEntries a b with
    | .isTrue h => .isTrue (by rw [h])
    | .isFalse h => .isFalse (by simpa using h)
  | .null, .bool _ | .null, .int _ | .null, .float _ | .null, .undefined _ | .null, .text _
  | .null, .list _ | .null, .dict _ | .bool _, .null | .bool _, .int _ | .bool _, .float _
  | .bool _, .undefined _ | .bool _, .text _ | .bool _, .list _ | .bool _, .dict _ | .int _, .null
  | .int _, .bool _ | .int _, .float _ | .int _, .undefined _ | .int _, .text _ | .int _, .list _
  | .int _, .dict _ | .float _, .null | .float _, .bool _ | .float _, .int _
  | .float _, .undefined _ | .float _, .text _ | .float _, .list _ | .float _, .dict _
  | .undefined _, .null | .undefined _, .bool _ | .undefined _, .int _ | .undefined _, .float _
  | .undefined _, .text _ | .undefined _, .list _ | .undefined _, .dict _ | .text _, .null
  | .text _, .bool _ | .text _, .int _ | .text _, .float _ | .text _, .undefined _
  | .text _, .list _ | .text _, .dict _ | .list _, .null | .list _, .bool _ | .list _, .int _
  | .list _, .float _ | .list _, .undefined _ | .list _, .text _ | .list _, .dict _
  | .dict _, .null | .dict _, .bool _ | .dict _, .int _ | .dict _, .float _
  | .dict _, .undefined _ | .dict _, .text _ | .dict _, .list _ => .isFalse (by simp)

/-- Lists of values are compared item by item. -/
def decEqList : (a b : List Value) → Decidable (a = b)
  | [], [] => .isTrue rfl
  | [], _ :: _ => .isFalse (by simp)
  | _ :: _, [] => .isFalse (by simp)
  | a :: as, b :: bs =>
    match decEq a b, decEqList as bs with
    | .isTrue h, .isTrue hs => .isTrue (by rw [h, hs])
    | .isFalse h, _ => .isFalse (by simp [h])
    | _, .isFalse hs => .isFalse (by simp [hs])

/-- Entries are compared one by one, in order. -/
def decEqEntries : (a b : List (Text × Value)) → Decidable (a = b)
  | [], [] => .isTrue rfl
  | [], _ :: _ => .isFalse (by simp)
  | _ :: _, [] => .isFalse (by simp)
  | (k, a) :: as, (l, b) :: bs =>
    match (inferInstance : Decidable (k = l)), decEq a b, decEqEntries as bs with
    | .isTrue hk, .isTrue h, .isTrue hs => .isTrue (by rw [hk, h, hs])
    | .isFalse hk, _, _ => .isFalse (by simp [hk])
    | _, .isFalse h, _ => .isFalse (by simp [h])
    | _, _, .isFalse hs => .isFalse (by simp [hs])

end

instance : DecidableEq Value := decEq

mutual

/-- How many lists and dictionaries lie in one another at most. -/
def depth : Value → Nat
  | .list items => depthOfItems items + 1
  | .dict entries => depthOfEntries entries + 1
  | .null | .bool _ | .int _ | .float _ | .undefined _ | .text _ => 0

/-- The greatest depth of some items. -/
def depthOfItems : List Value → Nat
  | [] => 0
  | v :: rest => max v.depth (depthOfItems rest)

/-- The greatest depth of some entries. -/
def depthOfEntries : List (Text × Value) → Nat
  | [] => 0
  | (_, v) :: rest => max v.depth (depthOfEntries rest)

end

/-! ## kinds -/

def asText? : Value → Option Text
  | .text s => some s
  | _ => none

/-- The entries of a dictionary. -/
def asDict? : Value → Option Fields
  | .dict entries => some entries
  | _ => none

def asList? : Value → Option (List Value)
  | .list items => some items
  | _ => none

/-- Whether a value counts as present: not absent, not false, not zero and not empty. -/
def isSet : Value → Bool
  | .null => false
  | .bool b => b
  | .int n => decide (n ≠ 0)
  | .float x => !(x == 0.0)
  | .undefined _ => true
  | .text s => !s.isEmpty
  | .list items => !items.isEmpty
  | .dict entries => !entries.isEmpty

/-- A value, or another when it does not count as present. -/
def orElse (v other : Value) : Value := if v.isSet then v else other

/-- A text value, or the absent value. -/
def ofText? : Option Text → Value
  | some s => .text s
  | none => .null

/-- A letter as a text value. -/
def ofLetter (c : Letter) : Value := .text ⟨[c]⟩

/-- What a value yields when it is gone through: the items of a list, the letters of a text,
the keys of a dictionary. -/
def items? : Value → Option (List Value)
  | .list items => some items
  | .text s => some (s.letters.map ofLetter)
  | .dict entries => some (entries.map fun e => .text e.1)
  | _ => none

/-- Go through a value that has to allow it. -/
def items (v : Value) : Outcome (List Value) :=
  match v.items? with
  | some items => .ok items
  | none => .error .wrongKind

/-- The entries of a value that has to be a dictionary. -/
def fields (v : Value) : Outcome Fields :=
  match v with
  | .dict entries => .ok entries
  | _ => .error .noMember

end Value

namespace Fields

/-- The value under a key, or a fallback. -/
def get (fs : Fields) (key : Text) (fallback : Value) : Value := Assoc.getD fs key fallback

/-- The value under a key, or the absent value. -/
def opt (fs : Fields) (key : Text) : Value := fs.get key .null

/-- The value under a key that has to be present. -/
def need (fs : Fields) (key : Text) : Outcome Value :=
  match Assoc.get? fs key with
  | some v => .ok v
  | none => .error (.missingKey key)

/-- The text under a key, if there is one. -/
def text? (fs : Fields) (key : Text) : Option Text := (fs.opt key).asText?

end Fields

end BlockSketch
