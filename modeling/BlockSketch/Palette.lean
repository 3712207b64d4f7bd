import BlockSketch.Text.Blank
import BlockSketch.Text.Case
import BlockSketch.Text.Order
import BlockSketch.Text.Substitute
import BlockSketch.Value.Written

/-!
# BlockSketch.Palette

The palette of blocks: a tree of categories with the blocks of each, in order of
their names, and a search that hides what does not match.  The tree is built once
for a list of blocks; searching only sets its hidden marks.
-/

namespace BlockSketch

/-- A block in the palette. -/
structure Leaf where
  text : Text
  hint : Option Text
  block : Value
  hidden : Bool := false
deriving Inhabited

/-- A category in the palette. -/
structure Branch where
  name : Text
  leaves : List Leaf
  hidden : Bool := false
deriving Inhabited

/-- A place in the tree: a category, or a block of it. -/
structure Palette.Place where
  branch : Nat
  leaf : Option Nat := none
deriving DecidableEq, Inhabited

structure Palette where
  blocks : List Value := []
  branches : List Branch := []
  search : Text := ""
  -- the line that counts the blocks
  count : Text := ""
  current : Option Palette.Place := none
deriving Inhabited

namespace Palette

/-- The text shown for a block: its title, or else its identifier. -/
def nameOf (fs : Fields) : Text := (fs.get "title" (fs.get "id" (.text ""))).shown

def categoryOf (fs : Fields) : Text := (fs.get "category" (.text "Прочее")).shown

def leafOf (fs : Fields) : Leaf :=
  let hint := fs.opt "description"
  { text := nameOf fs, hint := if hint.isSet then some hint.shown else none, block := .dict fs }

/-- Whether a block matches what is searched for, in its title or its identifier. -/
def isMatch (pattern : Text) (fs : Fields) : Bool :=
  let occursIn (key : Text) := Text.contains (Text.lower (fs.get key (.text "")).shown) pattern
  pattern.isEmpty || occursIn "title" || occursIn "id"

def Leaf.isShown (pattern : Text) (l : Leaf) : Bool :=
  match l.block with
  | .dict fs => isMatch pattern fs
  | _ => true

/-- Set the hidden marks of a category. -/
def filterBranch (pattern : Text) (b : Branch) : Branch :=
  { b with
    leaves := b.leaves.map fun l => { l with hidden := !Leaf.isShown pattern l }
    hidden := !b.leaves.any (Leaf.isShown pattern) }

/-- What a search text looks for. -/
def patternOf (text : Text) : Text := Text.lower (Text.trim text)

/-- Set the hidden marks. -/
def refilter (p : Palette) : Palette :=
  { p with branches := p.branches.map (filterBranch (patternOf p.search)) }

/-- The tree of a list of blocks. -/
def treeOf (blocks : List Fields) : List Branch :=
  let groups := blocks.foldl (fun (acc : Assoc Text (List Fields)) b =>
    Assoc.addToGroup acc (categoryOf b) b) []
  (Text.sortOn Prod.fst groups).map fun e =>
    { name := e.1, leaves := (Text.sortOn nameOf e.2).map leafOf }

/-- Show other blocks.  When something is no block, the tree stays empty. -/
def setBlocks (p : Palette) (blocks : List Value) : Palette × Option Fault :=
  let bare := { p with blocks, branches := [], current := none }
  match blocks.mapM Value.fields with
  | .error f => (bare, some f)
  | .ok all =>
    (refilter
      { bare with branches := treeOf all, count := toString blocks.length ++ " блоков" }, none)

def setSearch (p : Palette) (text : Text) : Palette :=
  if text = p.search then p else refilter { p with search := text }

/-- Replace the block of a leaf. -/
def setData (p : Palette) (place : Place) (v : Value) : Palette :=
  match place.leaf with
  | some i => { p with branches := p.branches.modify place.branch fun b =>
      { b with leaves := b.leaves.modify i fun l => { l with block := v } } }
  | none => p

/-- The block of the current leaf, if it is one. -/
def currentBlock? (p : Palette) : Option Fields := do
  let place ← p.current
  let leaf ← (← p.branches[place.branch]?).leaves[← place.leaf]?
  leaf.block.asDict?

/-- The identifier that dragging the current leaf hands out, if it has one. -/
def dragged? (p : Palette) : Outcome (Option Text) := do
  let id := Fields.opt (p.currentBlock?.getD []) "id"
  if id.isSet then return some (← id.shown.encoded) else return none

end Palette

/-! ## the plain list -/

/-- The types of a catalog with the texts shown for them, in order of these texts without regard
to case. -/
def Palette.plainList (catalog : Fields) : Outcome (List (Text × Text)) := do
  let rows ← catalog.mapM fun e => do
    return ((Fields.get (← e.2.fields) "title" (.text e.1)).shown, e.1)
  return Text.sortOn (fun r => Text.fold r.1) rows

/-- What dragging a type of the plain list hands out. -/
def Palette.handedOut? (type : Text) : Outcome (Option Text) := do
  if type.isEmpty then return none else return some (← type.encoded)

end BlockSketch
