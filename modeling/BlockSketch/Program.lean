import BlockSketch.Value.Basic

/-!
# BlockSketch.Program

Programs as trees of blocks.

* `Program.visited` goes through a program with a stack of blocks still to be visited;
* `Block.preorder` is the same order by recursion on the tree;
* `Block.fold` computes a value of every block from those of its children.
-/

namespace BlockSketch

/-- A block of a program: an instance of a definition with parameter values and children. -/
inductive Block where
  | mk (id : Option Text) (definition : Text) (values : List (Text × Value))
      (children : List (Text × List Block))
deriving Inhabited

namespace Block

/-- The identifier of the instance. -/
def id : Block → Option Text
  | .mk id _ _ _ => id

def definition : Block → Text
  | .mk _ definition _ _ => definition

def values : Block → Fields
  | .mk _ _ values _ => values

def children : Block → Assoc Text (List Block)
  | .mk _ _ _ children => children

/-- The children of all containers, in order. -/
def directChildren (b : Block) : List Block := b.children.flatMap Prod.snd

mutual

/-- How many blocks a tree has. -/
def size : Block → Nat
  | .mk _ _ _ children => 1 + slotsSize children

/-- How many blocks the containers hold. -/
def slotsSize : List (Text × List Block) → Nat
  | [] => 0
  | (_, blocks) :: rest => listSize blocks + slotsSize rest

/-- How many blocks a list of trees has. -/
def listSize : List Block → Nat
  | [] => 0
  | b :: rest => b.size + listSize rest

end

mutual

/-- A block before its children, container by container. -/
def preorder : Block → List Block
  | .mk id definition values children => .mk id definition values children :: slotsPreorder children

/-- The blocks of the containers in order. -/
def slotsPreorder : List (Text × List Block) → List Block
  | [] => []
  | (_, blocks) :: rest => listPreorder blocks ++ slotsPreorder rest

/-- The blocks of several trees in order. -/
def listPreorder : List Block → List Block
  | [] => []
  | b :: rest => b.preorder ++ listPreorder rest

end

section Fold

variable {α : Type} (f : Block → Assoc Text (List α) → α)

mutual

/-- A value of every block, computed from the values of its children. -/
def fold : Block → α
  | .mk id definition values children => f (.mk id definition values children) (slotsFold children)

/-- The values of the children in every container. -/
def slotsFold : List (Text × List Block) → Assoc Text (List α)
  | [] => []
  | (name, blocks) :: rest => (name, listFold blocks) :: slotsFold rest

/-- The values of several blocks. -/
def listFold : List Block → List α
  | [] => []
  | b :: rest => b.fold :: listFold rest

end

theorem listFold_eq (bs : List Block) : listFold f bs = bs.map (fold f) := by
  induction bs with
  | nil => rfl
  | cons b bs ih => rw [listFold, ih, List.map_cons]

theorem slotsFold_eq (slots : List (Text × List Block)) :
    slotsFold f slots = Assoc.mapValues (List.map (fold f)) slots := by
  induction slots with
  | nil => rfl
  | cons slot slots ih =>
    obtain ⟨name, bs⟩ := slot
    rw [slotsFold, ih, listFold_eq]
    rfl

theorem fold_eq (b : Block) : b.fold f = f b (Assoc.mapValues (List.map (fold f)) b.children) := by
  obtain ⟨id, definition, values, children⟩ := b
  rw [fold, slotsFold_eq]
  rfl

end Fold

theorem listSize_append (as bs : List Block) : listSize (as ++ bs) = listSize as + listSize bs := by
  induction as with
  | nil => simp [listSize]
  | cons a rest ih => simp [listSize, ih, Nat.add_assoc]

theorem listSize_flatMap (slots : List (Text × List Block)) :
    listSize (slots.flatMap Prod.snd) = slotsSize slots := by
  induction slots with
  | nil => simp [listSize, slotsSize]
  | cons slot rest ih => simp [slotsSize, listSize_append, ih]

theorem listSize_reverse (bs : List Block) : listSize bs.reverse = listSize bs := by
  induction bs with
  | nil => rfl
  | cons b rest ih => simp [listSize_append, listSize, ih, Nat.add_comm]

theorem listSize_directChildren (b : Block) : b.size = 1 + listSize b.directChildren := by
  obtain ⟨id, definition, values, children⟩ := b
  simp only [directChildren, Block.children, listSize_flatMap, size]

theorem listSize_directChildren_lt (b : Block) : listSize b.directChildren < b.size := by
  have h := b.listSize_directChildren
  omega

theorem size_le_listSize {b : Block} {bs : List Block} (h : b ∈ bs) : b.size ≤ listSize bs := by
  induction bs with
  | nil => exact absurd h List.not_mem_nil
  | cons c bs ih =>
    rw [listSize]
    rcases List.mem_cons.mp h with rfl | hrest
    · omega
    · have := ih hrest
      omega

/-- A child is smaller than its block. -/
theorem size_lt_of_mem_directChildren {b child : Block} (h : child ∈ b.directChildren) :
    child.size < b.size :=
  Nat.lt_of_le_of_lt (size_le_listSize h) b.listSize_directChildren_lt

/-- What holds of a block when it holds of its children holds of every block. -/
theorem directChildren_induction {P : Block → Prop}
    (step : ∀ b, (∀ child ∈ b.directChildren, P child) → P b) (b : Block) : P b := by
  refine step b fun child hchild => ?_
  have := size_lt_of_mem_directChildren hchild
  exact directChildren_induction step child
termination_by b.size

end Block

/-- A program: the root block, if there is one. -/
structure Program where
  root : Option Block := none

namespace Program

/-- A round of a visit with a stack of blocks, of which the last is on top: the top block is visited
and taken off, and its children are put on, the first of them on top. -/
def visitTop? (stack : List Block) : Option (Block × List Block) :=
  stack.getLast?.map fun b => (b, stack.dropLast ++ b.directChildren.reverse)

theorem eq_concat_of_visitTop? {stack rest : List Block} {b : Block}
    (h : visitTop? stack = some (b, rest)) :
    ∃ below, stack = below ++ [b] ∧ rest = below ++ b.directChildren.reverse := by
  obtain ⟨top, htop, hround⟩ := Option.map_eq_some_iff.mp h
  obtain ⟨below, rfl⟩ := List.getLast?_eq_some_iff.mp htop
  obtain ⟨rfl, rfl⟩ := Prod.mk.inj hround
  exact ⟨below, rfl, by rw [List.dropLast_concat]⟩

/-- Every round leaves one block less to be visited. -/
theorem listSize_visitTop? {stack rest : List Block} {b : Block}
    (h : visitTop? stack = some (b, rest)) : Block.listSize stack = 1 + Block.listSize rest := by
  obtain ⟨below, rfl, rfl⟩ := eq_concat_of_visitTop? h
  simp only [Block.listSize_append, Block.listSize_reverse, Block.listSize,
    b.listSize_directChildren]
  omega

/-- Visit the blocks of a stack, round after round, until it is empty. -/
def visitStack (stack : List Block) : List Block :=
  match _h : visitTop? stack with
  | none => []
  | some (b, rest) => b :: visitStack rest
termination_by Block.listSize stack
decreasing_by
  have hsize := listSize_visitTop? _h
  omega

/-- The blocks of a program in the order of a visit. -/
def visited (p : Program) : List Block := visitStack p.root.toList

end Program

end BlockSketch
