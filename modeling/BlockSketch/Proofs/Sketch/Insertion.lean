import BlockSketch.Proofs.Sketch.Complaints
import BlockSketch.Proofs.Sketch.Overflow
import BlockSketch.Proofs.Sketch.Vacant
import Mathlib.Data.List.Flatten

/-!
# BlockSketch.Proofs.Sketch.Insertion

What the checks say of a program before and after a tree of blocks was put in somewhere.
What is checked of a block are its own identifier, definition and values, and the blocks
that were visited before are still visited, in the same order.  So nothing that was said
about a block goes away, and no section that was in use falls out of use.

* `bareVisits_sublist` — what was visited is visited;
* `closing_sublist` — with more sections in use there are fewer closing complaints;
* `validate_inserted` — the complaints before and after.
-/

namespace BlockSketch

namespace Block

/-- A block with other children in a container; the container need not have had any. -/
def withSlot (b : Block) (name : Text) (children : List Block) : Block :=
  .mk b.id b.definition b.values (Assoc.put b.children name children)

/-- The second block is the first one with the tree `t` put in at some place among the children of
some container of some block. -/
inductive Inserted (t : Block) : Block → Block → Prop where
  | here {b : Block} {name : Text} {before after : List Block}
      (h : Assoc.getD b.children name [] = before ++ after) :
      Inserted t b (b.withSlot name (before ++ t :: after))
  | inside {b : Block} {name : Text} {before after : List Block} {child child' : Block}
      (h : Assoc.getD b.children name [] = before ++ child :: after)
        (hchild : Inserted t child child') :
      Inserted t b (b.withSlot name (before ++ child' :: after))

/-- With other children in one container, the other containers keep theirs. -/
theorem getD_children_withSlot (b : Block) (name other : Text) (children : List Block) :
    Assoc.getD (b.withSlot name children).children other [] =
      if name = other then children else Assoc.getD b.children other [] :=
  Assoc.getD_put b.children name other children []

end Block

namespace Sketch

open Block (Inserted)

/-! ## what is visited -/

/-- A visit of a block, without the children of the block. -/
def Visit.bare (v : Visit) : Visit :=
  ⟨.mk v.block.id v.block.definition v.block.values [], v.surrounding⟩

/-- The visits of a tree, each without the children of its block. -/
def bareVisits (r : Registry) (b : Block) (surrounding : Option Section) : List Visit :=
  (visits r b surrounding).map Visit.bare

/-- A tree is visited from its root, container by container. -/
theorem bareVisits_eq (r : Registry) (b : Block) (surrounding : Option Section) :
    bareVisits r b surrounding = Visit.bare ⟨b, surrounding⟩ ::
      (Assoc.get? r.definitions b.definition).toList.flatMap fun d => d.containers.flatMap fun c =>
        (Assoc.getD b.children c.name []).flatMap fun child => bareVisits r child
          (innerSection d c) := by
  rw [bareVisits, visits_eq, List.map_cons, inside]
  simp only [within_map, List.map_flatMap]
  rfl

/-- Where more is visited in a container, more is visited. -/
theorem bareVisits_withSlot_sublist {r : Registry} {b : Block} {name : Text} {children : List Block}
    (h : ∀ surrounding, ((Assoc.getD b.children name []).flatMap
      (bareVisits r · surrounding)).Sublist
      (children.flatMap (bareVisits r · surrounding))) (surrounding : Option Section) :
    (bareVisits r b surrounding).Sublist (bareVisits r (b.withSlot name children) surrounding) := by
  rw [bareVisits_eq, bareVisits_eq]
  refine List.Sublist.cons_cons _ (List.Sublist.flatMap_right _ fun d _ => ?_)
  refine List.Sublist.flatMap_right _ fun c _ => ?_
  rw [Block.getD_children_withSlot]
  by_cases hname : name = c.name
  · rw [if_pos hname, ← hname]
    exact h (innerSection d c)
  · rw [if_neg hname]

/-- What was visited before a tree was put in is visited, in the same order. -/
theorem bareVisits_sublist {r : Registry} {t b b' : Block} (h : Inserted t b b')
    (surrounding : Option Section) :
    (bareVisits r b surrounding).Sublist (bareVisits r b' surrounding) := by
  induction h generalizing surrounding with
  | @here b name before after hslot =>
    refine bareVisits_withSlot_sublist (fun s => ?_) surrounding
    rw [hslot]
    exact ((List.sublist_cons_self t after).append_left before).flatMap _
  | @inside b name before after child child' hslot _ ih =>
    refine bareVisits_withSlot_sublist (fun s => ?_) surrounding
    rw [hslot, List.flatMap_append, List.flatMap_append, List.flatMap_cons, List.flatMap_cons]
    exact ((ih s).append_right _).append_left _

end Sketch

namespace Validation

open Block (Inserted)
open Sketch (Visit visits bareVisits bareVisits_sublist)

/-! ## what is said -/

/-- What a check says of the blocks visited is said of more blocks. -/
theorem flatMap_visits_sublist {α : Type} {r : Registry} {t b b' : Block} (h : Inserted t b b')
    {f : Visit → List α} (hf : ∀ v : Visit, f v.bare = f v) (surrounding : Option Section) :
    ((visits r b surrounding).flatMap f).Sublist ((visits r b' surrounding).flatMap f) := by
  have hbare (b : Block) :
      (visits r b surrounding).flatMap f = (bareVisits r b surrounding).flatMap f := by
    rw [bareVisits, List.flatMap_map]
    exact List.flatMap_congr fun v _ => (hf v).symm
  rw [hbare b, hbare b']
  exact (bareVisits_sublist h surrounding).flatMap f

/-- With more sections in use there are fewer closing complaints. -/
theorem closing_sublist {used used' : List Section} (h : used ⊆ used') :
    (closing used').Sublist (closing used) := by
  have hunused (s : Section) (hs : (!used'.contains s) = true) : (!used.contains s) = true := by
    rw [Bool.not_eq_true', Bool.eq_false_iff, Ne, List.contains_iff_mem] at hs ⊢
    exact fun hin => hs (h hin)
  unfold closing
  refine List.Sublist.append ?_ ((List.monotone_filter_right _ hunused).map _)
  cases hloop : used'.contains Section.loop with
  | true => exact List.nil_sublist _
  | false =>
    have hbefore := hunused Section.loop (by rw [hloop]; rfl)
    rw [Bool.not_eq_true'] at hbefore
    rw [hbefore]

/-- A walk that comes to an end did so before, too. -/
theorem walk_of_inserted {r : Registry} {board : Board} {t b b' : Block} (h : Inserted t b b')
    {f' : Findings} (hwalk : walk r board b' {} = .ok f') : ∃ f, walk r board b {} = .ok f := by
  rcases settles_walk r board b none {} with ⟨⟨v, hv, d, hd, q, hq, hoverflows⟩, -⟩ | ⟨-, hok⟩
  · -- the value that breaks off the walk is still there
    have hbare : v.bare ∈ bareVisits r b' none :=
      (bareVisits_sublist h none).subset (List.mem_map_of_mem hv)
    obtain ⟨v', hv', heq⟩ := List.mem_map.mp hbare
    have hd' : d ∈ v'.bare.definition? r := heq ▸ hd
    have hoverflows' : Overflows v'.bare.block.values q := heq ▸ hoverflows
    rcases settles_walk r board b' none {} with ⟨-, hbroken⟩ | ⟨hnone, -⟩
    · rw [hwalk] at hbroken
      exact absurd hbroken (by simp)
    · exact absurd ⟨v', hv', d, hd', q, hq, hoverflows'⟩ hnone
  · exact hok

/-- A program that is checked to the end was so before a tree of blocks was put in somewhere.  The
complaints of the walk over its blocks are still made, in the same order and as often, and the
closing complaints that are made were made before, in the same order and as often. -/
theorem validate_inserted (r : Registry) (board : Board) (t root root' : Block)
    (h : Inserted t root root') (complaints' : List Complaint)
    (hvalid : validate r board ⟨some root'⟩ = .ok complaints') :
    ∃ f f' : Findings, walk r board root {} = .ok f ∧ walk r board root' {} = .ok f' ∧
      validate r board ⟨some root⟩ = .ok (f.complaints ++ closing f.used) ∧
      complaints' = f'.complaints ++ closing f'.used ∧
      f.complaints.Sublist f'.complaints ∧ (closing f'.used).Sublist (closing f.used) := by
  obtain ⟨f', hf', hcomplaints⟩ := walk_of_validate hvalid rfl
  obtain ⟨f, hf⟩ := walk_of_inserted h hf'
  refine ⟨f, f', hf, hf', ?_, hcomplaints, ?_, closing_sublist fun s hs => ?_⟩
  · unfold validate
    dsimp only
    rw [hf]
    rfl
  · rw [complaints_walk r board root none hf, complaints_walk r board root' none hf']
    exact flatMap_visits_sublist h (fun v => rfl) none
  · have hbefore := ((finds_walk r board root none {} f hf).used s).mp hs
    have hadded := hbefore.resolve_left List.not_mem_nil
    refine ((finds_walk r board root' none {} f' hf').used s).mpr (.inr ?_)
    exact (flatMap_visits_sublist h (fun v => rfl) none).subset hadded

def ghost : Block := .mk (some "ghost") "ghost" [] []

def emptyStart : Block := .mk (some "again") "start" [] []

/-- A start inside another one, behind a block without a definition. -/
def nestedStart : Block := .mk (some "start") "start" [] [("loop", [ghost, emptyStart])]

def spareLamp : Block := .mk (some "lamp") "lamp" [] []

def lampStart : Block :=
  nestedStart.withSlot "loop" [ghost, emptyStart.withSlot "setup" [spareLamp]]

theorem inserted_lampStart : Inserted spareLamp nestedStart lampStart := by
  have hinner : Assoc.getD emptyStart.children ("setup" : Text) [] = [] ++ [] := rfl
  have houter : Assoc.getD nestedStart.children ("loop" : Text) [] = [ghost] ++ emptyStart :: [] :=
    rfl
  exact .inside houter (.here hinner)

/-- The lamp fills both sections, and the unknown block is complained of as before. -/
theorem validate_inserted_lampStart :
    validate signals default ⟨some lampStart⟩ = .ok [⟨unknownMessage, some "ghost"⟩] ∧
      ∃ f f' : Findings,
        validate signals default ⟨some nestedStart⟩ = .ok (f.complaints ++ closing f.used) ∧
        [⟨unknownMessage, some "ghost"⟩] = f'.complaints ++ closing f'.used ∧
        f.complaints.Sublist f'.complaints ∧ (closing f'.used).Sublist (closing f.used) := by
  have hvalid : (validate signals default ⟨some lampStart⟩).toOption =
      some [⟨unknownMessage, some "ghost"⟩] := by decide +kernel
  have hvalid := Outcome.eq_ok_of_toOption hvalid
  obtain ⟨f, f', -, -, hbefore, hafter, hwalk, hclosing⟩ :=
    validate_inserted signals default spareLamp
    nestedStart lampStart inserted_lampStart _ hvalid
  exact ⟨hvalid, f, f', hbefore, hafter, hwalk, hclosing⟩

end Validation

end BlockSketch
