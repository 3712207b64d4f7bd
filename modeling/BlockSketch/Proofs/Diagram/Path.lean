import BlockSketch.Diagram.Basic
import Mathlib.Logic.Relation

/-!
# BlockSketch.Proofs.Diagram.Path

Paths along the links of a diagram.  Links may be repeated, lie on cycles or lead to
blocks that are not there.

* `transGen_append` — a path along one more link either does without it, or goes through it;
* `Acyclic.append` — a link to which no path leads back closes no cycle.
-/

namespace BlockSketch.Diagram

open Relation

def Leads (links : List Link) (u v : Text) : Prop := ∃ l ∈ links, l.fromUid = u ∧ l.toUid = v

/-- A path along links leads from one block to another; every block has the empty path to itself. -/
abbrev Path (links : List Link) : Text → Text → Prop := ReflTransGen (Leads links)

/-- No path with at least one link leads from a block back to it. -/
def Acyclic (links : List Link) : Prop := ∀ u, ¬ TransGen (Leads links) u u

variable {links : List Link} {u v : Text}

/-- More links lead no less far. -/
theorem Leads.mono {more : List Link} (hsub : links ⊆ more) (h : Leads links u v) :
    Leads more u v := by
  obtain ⟨l, hl, hu, hv⟩ := h
  exact ⟨l, hsub hl, hu, hv⟩

theorem Path.mono {more : List Link} (hsub : links ⊆ more) (h : Path links u v) : Path more u v :=
  ReflTransGen.mono (fun _ _ => Leads.mono hsub) u v h

/-! ## cycles -/

theorem acyclic_nil : Acyclic [] := by
  intro u h
  obtain ⟨w, ⟨l, hl, _⟩, _⟩ := TransGen.head'_iff.mp h
  exact nomatch hl

/-- Without cycles, no link leads from a block to itself. -/
theorem Acyclic.ne {l : Link} (h : Acyclic links) (hl : l ∈ links) : l.fromUid ≠ l.toUid :=
  fun heq => h l.fromUid (.single ⟨l, hl, rfl, heq.symm⟩)

/-- Fewer links have no more cycles. -/
theorem Acyclic.subset {fewer : List Link} (h : Acyclic links) (hsub : fewer ⊆ links) :
    Acyclic fewer := fun u hu =>
  h u (TransGen.mono (fun _ _ => Leads.mono hsub) u u hu)

/-- A path along one more link either does without it, or leads to its start and on from its
end. -/
theorem transGen_append {l : Link} (h : TransGen (Leads (links ++ [l])) u v) :
    TransGen (Leads links) u v ∨ Path links u l.fromUid ∧ Path links l.toUid v := by
  have hedge {a b : Text} (hab : Leads (links ++ [l]) a b) :
      Leads links a b ∨ a = l.fromUid ∧ b = l.toUid := by
    obtain ⟨k, hk, rfl, rfl⟩ := hab
    rcases List.mem_append.mp hk with hold | hnew
    · exact .inl ⟨k, hold, rfl, rfl⟩
    · rw [List.mem_singleton.mp hnew]
      exact .inr ⟨rfl, rfl⟩
  induction h with
  | single hab =>
    rcases hedge hab with hold | ⟨rfl, rfl⟩
    · exact .inl (.single hold)
    · exact .inr ⟨.refl, .refl⟩
  | tail _ hbc ih =>
    rcases ih, hedge hbc with ⟨hab | ⟨hfrom, hto⟩, hold | ⟨rfl, rfl⟩⟩
    · exact .inl (hab.tail hold)
    · exact .inr ⟨hab.to_reflTransGen, .refl⟩
    · exact .inr ⟨hfrom, hto.tail hold⟩
    · exact .inr ⟨hfrom, .refl⟩

/-- A link that no path leads back from closes no cycle. -/
theorem Acyclic.append {l : Link} (h : Acyclic links) (hback : ¬ Path links l.toUid l.fromUid) :
    Acyclic (links ++ [l]) := by
  intro u hu
  rcases transGen_append hu with hold | ⟨hfrom, hto⟩
  · exact h u hold
  · exact hback (hto.trans hfrom)

end BlockSketch.Diagram
