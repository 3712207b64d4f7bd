import BlockSketch.Program
import Mathlib.Data.List.Lex
import Mathlib.Data.Prod.Lex
import Mathlib.Logic.Function.Iterate

/-!
# BlockSketch.Proofs.Program

Visits of a program.  A visit goes round after round: it takes the top block off a stack and puts
the children of the block on.  The trees that are still on the stack, from the top down and each of
them in order, are what is visited from then on (`expected`); a round does not change what is
expected in all (`expected_round`) and leaves one block less (`listSize_round`), although the stack
may grow.

That nothing is visited twice is said of the places of a tree, since equal blocks may stand at
several places: `Block.places` are the ways from the root to its blocks, each of them once and in
order.

* `visitStack_eq` — a visit with a stack visits the trees on it, each of them in order;
* `rounds_of_root` — so many rounds visit as many blocks, until no block is left.
-/

namespace BlockSketch

namespace Block

/-! ## the blocks of a tree -/

theorem listPreorder_eq (bs : List Block) : listPreorder bs = bs.flatMap preorder := by
  induction bs with
  | nil => rfl
  | cons b bs ih => rw [listPreorder, ih, List.flatMap_cons]

/-- A block comes before its children, and each of them before the next. -/
theorem preorder_eq (b : Block) : b.preorder = b :: b.directChildren.flatMap preorder := by
  have hslots (slots : List (Text × List Block)) :
      slotsPreorder slots = (slots.flatMap Prod.snd).flatMap preorder := by
    induction slots with
    | nil => rfl
    | cons slot slots ih =>
      rw [slotsPreorder, ih, listPreorder_eq, List.flatMap_cons, List.flatMap_append]
  obtain ⟨id, definition, values, children⟩ := b
  rw [preorder, hslots]
  rfl

theorem length_flatMap_preorder (bs : List Block) : (bs.flatMap preorder).length = listSize bs := by
  have hblock (b : Block) : b.preorder.length = b.size := by
    induction b using directChildren_induction with | step b ih
    have hchildren (cs : List Block) (hcs : ∀ c ∈ cs, c.preorder.length = c.size) :
        (cs.flatMap preorder).length = listSize cs := by
      induction cs with
      | nil => rfl
      | cons c cs ihcs =>
        obtain ⟨hc, hrest⟩ := List.forall_mem_cons.mp hcs
        rw [List.flatMap_cons, List.length_append, hc, ihcs hrest, listSize]
    rw [preorder_eq, List.length_cons, hchildren b.directChildren ih, b.listSize_directChildren,
      Nat.add_comm]
  induction bs with
  | nil => rfl
  | cons b bs ih => rw [List.flatMap_cons, List.length_append, hblock, ih, listSize]

/-! ## the places of a tree -/

/-- The place of a block in a tree: on the way from the root, the number of each container and of
the block in it. -/
abbrev Place := List (Nat × Nat)

/-- What containers hold, with the number of the container and the number in it. -/
def numbered {α : Type} (slots : Assoc Text (List α)) : List ((Nat × Nat) × α) :=
  slots.zipIdx.flatMap fun slot => slot.1.2.zipIdx.map fun item => ((slot.2, item.2), item.1)

section Numbered

variable {α β : Type} (slots : Assoc Text (List α))

theorem map_snd_numbered : (numbered slots).map Prod.snd = slots.flatMap Prod.snd := by
  have hslot (slot : (Text × List α) × Nat) :
      (slot.1.2.zipIdx.map fun item => ((slot.2, item.2), item.1)).map Prod.snd = slot.1.2 := by
    rw [List.map_map]
    exact List.zipIdx_map_fst 0 slot.1.2
  unfold numbered
  rw [List.map_flatMap, List.flatMap_congr fun slot _ => hslot slot]
  conv_rhs => rw [← List.zipIdx_map_fst 0 slots, List.flatMap_map]

/-- A child is numbered by its slot and its position there. -/
theorem mem_numbered {i j : Nat} {a : α} :
    ((i, j), a) ∈ numbered slots ↔ ∃ slot, slots[i]? = some slot ∧ slot.2[j]? = some a := by
  simp only [numbered, List.mem_flatMap, List.mem_map]
  constructor
  · rintro ⟨⟨slot, i'⟩, hslot, ⟨item, j'⟩, hitem, heq⟩
    simp only [Prod.mk.injEq] at heq
    obtain ⟨⟨rfl, rfl⟩, rfl⟩ := heq
    exact ⟨slot, List.mem_zipIdx_iff_getElem?.mp hslot, List.mem_zipIdx_iff_getElem?.mp hitem⟩
  · rintro ⟨slot, hslot, hitem⟩
    exact ⟨(slot, i), List.mem_zipIdx_iff_getElem?.mpr hslot, (a, j),
      List.mem_zipIdx_iff_getElem?.mpr hitem, rfl⟩

theorem numbered_mapValues (f : α → β) :
    numbered (Assoc.mapValues (List.map f) slots) = (numbered slots).map fun e => (e.1, f e.2) := by
  unfold numbered Assoc.mapValues
  rw [List.zipIdx_map, List.flatMap_map, List.map_flatMap]
  refine List.flatMap_congr fun slot _ => ?_
  simp only [Prod.map_fst, Prod.map_snd, List.zipIdx_map, List.map_map]
  rfl

/-- The numbers come in order: those of an earlier container first, and in a container those of an
earlier block. -/
theorem pairwise_numbered :
    ((numbered slots).map Prod.fst).Pairwise (Prod.Lex (· < ·) (· < ·)) := by
  have hindex {γ : Type} (l : List γ) : l.zipIdx.Pairwise fun a b => a.2 < b.2 := by
    rw [← List.pairwise_map (f := Prod.snd), List.zipIdx_map_snd]
    exact List.pairwise_lt_range' 1
  unfold numbered
  rw [List.map_flatMap, List.pairwise_flatMap]
  constructor
  · intro slot _
    rw [List.map_map, List.pairwise_map]
    exact (hindex slot.1.2).imp fun h => .right _ h
  · refine (hindex slots).imp fun {slot slot'} h n hn n' hn' => ?_
    simp only [List.map_map, List.mem_map, Function.comp_apply] at hn hn'
    obtain ⟨item, _, rfl⟩ := hn
    obtain ⟨item', _, rfl⟩ := hn'
    exact .left _ _ h

end Numbered

def at? (b : Block) : Place → Option Block
  | [] => some b
  | (i, j) :: rest => (b.children[i]?.bind fun slot => slot.2[j]?).bind fun child => child.at? rest

/-- The places of a tree: that of the root, and then those of its children. -/
def places (b : Block) : List Place :=
  b.fold fun _ slots => [] :: (numbered slots).flatMap fun child => child.2.map (child.1 :: ·)

/-- The places in a tree, from its root. -/
theorem places_eq (b : Block) :
    b.places =
      [] :: (numbered b.children).flatMap fun child => child.2.places.map (child.1 :: ·) := by
  unfold places
  rw [fold_eq, numbered_mapValues, List.flatMap_map]

/-- A place is looked up one step at a time. -/
theorem at?_cons {b child : Block} {i j : Nat} (h : ((i, j), child) ∈ numbered b.children)
    (rest : Place) : b.at? ((i, j) :: rest) = child.at? rest := by
  obtain ⟨slot, hslot, hchild⟩ := (mem_numbered _).mp h
  simp [at?, hslot, hchild]

/-- There is a block at the places of a tree, and nowhere else. -/
theorem mem_places_iff (b : Block) (place : Place) :
    place ∈ b.places ↔ (b.at? place).isSome = true := by
  induction place generalizing b with
  | nil =>
    rw [places_eq]
    exact iff_of_true List.mem_cons_self rfl
  | cons step rest ih =>
    obtain ⟨i, j⟩ := step
    rw [places_eq, List.mem_cons, List.mem_flatMap]
    constructor
    · rintro (hroot | ⟨child, hchild, hplace⟩)
      · cases hroot
      · obtain ⟨rest', hrest, heq⟩ := List.mem_map.mp hplace
        obtain ⟨hstep, rfl⟩ := List.cons.inj heq
        have hchild : ((i, j), child.2) ∈ numbered b.children := hstep ▸ hchild
        rw [at?_cons hchild]
        exact (ih child.2).mp hrest
    · intro h
      obtain ⟨found, hfound⟩ := Option.isSome_iff_exists.mp h
      obtain ⟨child, hchild, hrest⟩ := Option.bind_eq_some_iff.mp hfound
      obtain ⟨slot, hslot, hchild⟩ := Option.bind_eq_some_iff.mp hchild
      have hmem : ((i, j), child) ∈ numbered b.children :=
        (mem_numbered _).mpr ⟨slot, hslot, hchild⟩
      exact .inr ⟨_, hmem, List.mem_map_of_mem ((ih child).mpr (by rw [hrest]; rfl))⟩

/-- The blocks at the places of a tree, place by place, are the tree in order. -/
theorem map_at?_places (b : Block) : b.places.map b.at? = b.preorder.map some := by
  induction b using directChildren_induction with | step b ih
  rw [places_eq, preorder_eq, List.map_cons, List.map_cons, List.map_flatMap, List.map_flatMap]
  have hdirect : b.directChildren = (numbered b.children).map Prod.snd :=
    (map_snd_numbered b.children).symm
  rw [hdirect, List.flatMap_map]
  refine congrArg (some b :: ·) (List.flatMap_congr fun child hchild => ?_)
  obtain ⟨⟨i, j⟩, child⟩ := child
  have hmem : child ∈ b.directChildren := by
    rw [hdirect]
    exact List.mem_map_of_mem hchild
  rw [← ih child hmem, List.map_map]
  exact List.map_congr_left fun rest _ => at?_cons hchild rest

/-- A place comes before another if it is on the way there, or else if it is in an earlier
container, or before it in the same container, where the ways part. -/
def Before : Place → Place → Prop := List.Lex (Prod.Lex (· < ·) (· < ·))

/-- The places of a tree are in order. -/
theorem pairwise_places (b : Block) : b.places.Pairwise Before := by
  induction b using directChildren_induction with | step b ih
  rw [places_eq, List.pairwise_cons]
  constructor
  · intro place hplace
    obtain ⟨child, _, hplace⟩ := List.mem_flatMap.mp hplace
    obtain ⟨rest, _, rfl⟩ := List.mem_map.mp hplace
    exact .nil
  · rw [List.pairwise_flatMap]
    constructor
    · intro child hchild
      rw [List.pairwise_map]
      have hmem : child.2 ∈ b.directChildren := by
        rw [directChildren, ← map_snd_numbered b.children]
        exact List.mem_map_of_mem hchild
      exact (ih child.2 hmem).imp fun h => .cons h
    · refine (List.pairwise_map.mp (pairwise_numbered b.children)).imp ?_
      intro child child' h place hplace place' hplace'
      obtain ⟨rest, _, rfl⟩ := List.mem_map.mp hplace
      obtain ⟨rest', _, rfl⟩ := List.mem_map.mp hplace'
      exact .rel h

/-- No place is listed twice. -/
theorem nodup_places (b : Block) : b.places.Nodup := by
  refine b.pairwise_places.imp fun {place place'} h heq => ?_
  rw [heq] at h
  exact Std.Irrefl.irrefl (r := List.Lex (Prod.Lex (α := Nat) (β := Nat) (· < ·) (· < ·))) place' h

end Block

namespace Program

/-! ## the rounds of a visit -/

/-- What was visited, and the stack of blocks that are left. -/
abbrev Visiting := List Block × List Block

/-- A round of a visit; with an empty stack nothing happens any more. -/
def round (v : Visiting) : Visiting :=
  match visitTop? v.2 with
  | none => v
  | some (b, rest) => (v.1 ++ [b], rest)

/-- What is visited in the end, if all that is left is visited in the order of its trees. -/
def expected (v : Visiting) : List Block := v.1 ++ v.2.reverse.flatMap Block.preorder

theorem visitTop?_eq_none_iff (stack : List Block) : visitTop? stack = none ↔ stack = [] := by
  simp [visitTop?]

/-- The top block and its children, with the rest of the stack below them, come in the order of the
tree. -/
theorem flatMap_preorder_of_visitTop? {stack rest : List Block} {b : Block}
    (h : visitTop? stack = some (b, rest)) :
    stack.reverse.flatMap Block.preorder = b :: rest.reverse.flatMap Block.preorder := by
  obtain ⟨below, rfl, rfl⟩ := eq_concat_of_visitTop? h
  rw [List.reverse_append, List.reverse_append, List.reverse_reverse, List.reverse_singleton,
    List.singleton_append, List.flatMap_cons, List.flatMap_append, Block.preorder_eq]
  rfl

/-- A visit with a stack visits the trees on it, from the top down, each in order. -/
theorem visitStack_eq (stack : List Block) :
    visitStack stack = stack.reverse.flatMap Block.preorder := by
  fun_induction visitStack stack with
  | case1 stack h =>
    rw [(visitTop?_eq_none_iff stack).mp h]
    rfl
  | case2 stack b rest h ih => rw [ih, flatMap_preorder_of_visitTop? h]

/-- A round leaves what will have been visited in the end. -/
theorem expected_round (v : Visiting) : expected (round v) = expected v := by
  unfold round
  cases h : visitTop? v.2 with
  | none => rfl
  | some e =>
    obtain ⟨b, rest⟩ := e
    unfold expected
    rw [flatMap_preorder_of_visitTop? h]
    simp

/-- A round leaves one block less. -/
theorem listSize_round (v : Visiting) : Block.listSize (round v).2 = Block.listSize v.2 - 1 := by
  unfold round
  cases h : visitTop? v.2 with
  | none =>
    rw [(visitTop?_eq_none_iff v.2).mp h]
    rfl
  | some e =>
    obtain ⟨b, rest⟩ := e
    have hsize := listSize_visitTop? h
    dsimp only
    omega

/-- After so many rounds, the same is expected, and as many blocks less are left. -/
theorem rounds_spec (n : Nat) (v : Visiting) :
    expected (round^[n] v) = expected v ∧
      Block.listSize (round^[n] v).2 = Block.listSize v.2 - n := by
  induction n with
  | zero => exact ⟨rfl, rfl⟩
  | succ n ih =>
    rw [Function.iterate_succ_apply', expected_round, listSize_round, ih.1, ih.2]
    exact ⟨rfl, by omega⟩

theorem listSize_eq_zero_iff (bs : List Block) : Block.listSize bs = 0 ↔ bs = [] := by
  cases bs with
  | nil => exact iff_of_true rfl rfl
  | cons b bs =>
    have hsize := b.listSize_directChildren
    refine iff_of_false ?_ (by simp)
    rw [Block.listSize]
    omega

/-- The visit of a tree with a stack: so many rounds visit as many blocks, in the order of the tree,
and it ends when all are visited. -/
theorem rounds_of_root (root : Block) (n : Nat) :
    (round^[n] ([], [root])).1 = root.preorder.take n ∧
      ((round^[n] ([], [root])).2 = [] ↔ root.size ≤ n) := by
  obtain ⟨hexpected, hleft⟩ := rounds_spec n ([], [root])
  have htotal : expected ([], [root]) = root.preorder := by simp [expected]
  have hroot : Block.listSize [root] = root.size := by simp [Block.listSize]
  have hlength := Block.length_flatMap_preorder (round^[n] ([], [root])).2.reverse
  rw [Block.listSize_reverse, hleft, hroot] at hlength
  have hall := Block.length_flatMap_preorder [root]
  rw [List.flatMap_singleton, hroot] at hall
  rw [htotal] at hexpected
  constructor
  · have hprefix : (round^[n] ([], [root])).1 <+: root.preorder := ⟨_, hexpected⟩
    have hcount : (round^[n] ([], [root])).1.length + (root.size - n) = root.size := by
      rw [← hlength, ← List.length_append, ← hall]
      exact congrArg List.length hexpected
    rw [List.prefix_iff_eq_take.mp hprefix, List.take_eq_take_iff, hall]
    omega
  · rw [← listSize_eq_zero_iff, hleft, hroot]
    omega

/-- A program without a root has nothing to visit.  The visit of a tree ends after as many rounds as
the tree has blocks, and then it has come to every place of the tree once, in the order of the tree:
to a block before its children, and to these container by container. -/
theorem visited_exact :
    Program.visited ⟨none⟩ = [] ∧
    ∀ root : Block,
      (∀ n, (round^[n] ([], [root])).1 = root.preorder.take n ∧
        ((round^[n] ([], [root])).2 = [] ↔ root.size ≤ n)) ∧
      Program.visited ⟨some root⟩ = root.preorder ∧
      (Program.visited ⟨some root⟩).map some = root.places.map root.at? ∧
      (∀ place, place ∈ root.places ↔ (root.at? place).isSome = true) ∧
      root.places.Nodup ∧ root.places.Pairwise Block.Before := by
  have hnone : Program.visited ⟨none⟩ = [] := visitStack_eq []
  refine ⟨hnone, fun root => ?_⟩
  have hvisited : Program.visited ⟨some root⟩ = root.preorder := by
    refine (visitStack_eq [root]).trans ?_
    rw [List.reverse_singleton, List.flatMap_singleton]
  refine ⟨rounds_of_root root, hvisited, ?_, root.mem_places_iff, root.nodup_places,
    root.pairwise_places⟩
  rw [hvisited, root.map_at?_places]

end Program

end BlockSketch
