import BlockSketch.Value.Same

/-!
# BlockSketch.Value.Table

Tables whose keys are values.  A list or a dictionary is no key, and keys that
are equal as data are one key.
-/

namespace BlockSketch.Value

/-- A table in order of its keys' first appearance. -/
abbrev Table (α : Type) := List (Value × α)

/-- Whether a value can be a key of a table. -/
def isKey : Value → Bool
  | .list _ | .dict _ => false
  | _ => true

def asKey (v : Value) : Outcome Value := if v.isKey then .ok v else .error .wrongKind

namespace Table

/-- Set a key. -/
def put {α : Type} : Table α → Value → α → Table α
  | [], k, v => [(k, v)]
  | (k', v') :: rest, k, v => if k'.sameKey k then (k', v) :: rest else (k', v') :: put rest k v

/-- The pair that a value of two items stands for. -/
def readPair (v : Value) : Outcome (Value × Value) := do
  match ← v.items with
  | [k, x] => return (← k.asKey, x)
  | _ => .error .malformed

/-- A table from a dictionary or from a list of pairs. -/
def ofValue (v : Value) : Outcome (Table Value) := do
  match v with
  | .dict fs => return fs.map fun e => (.text e.1, e.2)
  | _ => (← v.items).foldlM (fun table item => do
      let (k, x) ← readPair item
      return put table k x) []

/-- The entries whose keys are texts. -/
def fields (t : Table Value) : Fields := t.filterMap fun e => e.1.asText?.map fun k => (k, e.2)

end Table

end BlockSketch.Value
