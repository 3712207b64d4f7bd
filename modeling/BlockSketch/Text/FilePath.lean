import BlockSketch.Text.Substitute

/-!
# BlockSketch.Text.FilePath

The text of slash-separated paths.  Repeated slashes and single dots fall away,
double dots stay, exactly two leading slashes are kept, and a path without any
part is a dot.
-/

namespace BlockSketch.Text

/-- A path: its root, which is empty for a relative path, and its parts. -/
structure FilePath where
  -- the leading slashes
  root : Text
  parts : List Text
deriving DecidableEq, Repr, Inhabited

namespace FilePath

/-- Read a path. -/
def ofText (s : Text) : FilePath :=
  let slashes := (s.letters.takeWhile fun l => l = .char '/').length
  let root := if slashes = 0 then "" else if slashes = 2 then "//" else "/"
  ⟨root, (split '/' s).filter fun p => !(p.isEmpty || p == ".")⟩

/-- Write a path. -/
def render (p : FilePath) : Text :=
  if p.parts.isEmpty then if p.root.isEmpty then "." else p.root
  else p.root ++ intercalate "/" p.parts

/-- Join two paths; an absolute second path replaces the first. -/
def join (p q : FilePath) : FilePath :=
  if q.root.isEmpty then ⟨p.root, p.parts ++ q.parts⟩ else q

/-- Join a path and the text of another. -/
def child (p : FilePath) (s : Text) : FilePath := p.join (ofText s)

/-- The last part. -/
def name (p : FilePath) : Text := p.parts.getLast?.getD ""

/-- Where a name's last dot stands, unless it is at an end of the name. -/
def dotOf (name : Text) : Option Nat :=
  let cs := name.letters
  match (cs.reverse.takeWhile fun l => l ≠ .char '.').length with
  | tail =>
    let at_ := cs.length - tail - 1
    if tail < cs.length ∧ 0 < at_ ∧ at_ + 1 < cs.length then some at_ else none

/-- The ending of the last part, from its last dot on. -/
def suffix (p : FilePath) : Text :=
  match dotOf p.name with
  | some i => Text.mk (p.name.letters.drop i)
  | none => ""

/-- The path with the ending of its last part replaced, unless it has no part. -/
def withSuffix? (p : FilePath) (ending : Text) : Option FilePath :=
  let stem := match dotOf p.name with
    | some i => Text.mk (p.name.letters.take i)
    | none => p.name
  if p.name.isEmpty then none else some ⟨p.root, p.parts.dropLast ++ [stem ++ ending]⟩

/-- The directory that holds the last part. -/
def parent (p : FilePath) : FilePath := ⟨p.root, p.parts.dropLast⟩

end FilePath

end BlockSketch.Text
