import BlockSketch.Value.Written

/-!
# BlockSketch.Sketch.Section

The sections of a generated sketch.
-/

namespace BlockSketch

inductive Section where
  | includes
  | globals
  | setup
  | loop
  | functions
deriving DecidableEq, Repr, Inhabited

namespace Section

/-- The sections in the order of the sketch's record. -/
def all : List Section := [.includes, .globals, .setup, .loop, .functions]

/-- The name of a section in documents. -/
def name : Section → Text
  | .includes => "includes"
  | .globals => "globals"
  | .setup => "setup"
  | .loop => "loop"
  | .functions => "functions"

def ofName? (s : Text) : Option Section := all.find? fun section_ => section_.name == s

/-- The section that a document value names. -/
def ofValue (v : Value) : Outcome Section :=
  match v.asText?.bind ofName? with
  | some s => .ok s
  | none => .error (.unknownSection v.shown)

/-- Whether the code of a section stands inside a function body and is indented. -/
def isBody : Section → Bool
  | .setup | .loop => true
  | _ => false

theorem ofName?_name (s : Section) : ofName? s.name = some s := by cases s <;> decide

end Section

end BlockSketch
