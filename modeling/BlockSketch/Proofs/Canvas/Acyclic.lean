import BlockSketch.Proofs.Canvas.Frame
import BlockSketch.Proofs.Diagram.Search

/-!
# BlockSketch.Proofs.Canvas.Acyclic

Editing closes no cycle.  Links come into a scene in two ways: a diagram is opened,
or a wire is ended at a port.  The second is refused when a path leads back, so that a
scene without cycles stays one, in whatever order the steps come and whatever became of
the blocks at the two ends in the meantime.

* `acyclic_after` — what one operation does;
* `acyclic_run` — what every run does.
-/

namespace BlockSketch.Canvas

open Diagram

/-- A link that a scene without cycles takes closes none. -/
theorem acyclic_linked {s : Scene} {start finish : PortRef} (h : Acyclic s.links)
    (hr : Edit.refusal? s start finish = none) :
    Acyclic (s.links ++ [Edit.linkBetween s start finish]) := by
  have hsearch : closesCycle s.links (s.uidAt start) (s.uidAt finish) = false :=
    (Scene.refusal?_eq_none_iff.mp hr).2.2.2.2.2.2
  refine h.append fun hback => ?_
  have hclosed : closesCycle s.links (s.uidAt start) (s.uidAt finish) = true :=
    (closesCycle_iff s.links _ _).mpr hback
  rw [hsearch] at hclosed
  exact nomatch hclosed

/-- One operation keeps the links free of cycles, if no diagram that it opens has any. -/
theorem acyclic_after {s : Scene} {op : Operation} (h : Acyclic s.links)
    (hload : ∀ d, op = .load d → Acyclic d.links) : Acyclic (s.after op).links := by
  rcases s.links_after op with hsub | ⟨start, finish, hj, hlinks⟩ | ⟨d, hop, hsub⟩
  · exact h.subset hsub
  · rw [hlinks]
    exact acyclic_linked h (Scene.joined?_eq_some_iff.mp hj).2.2
  · exact (hload d hop).subset hsub

/-- Opening a diagram without cycles leaves a scene without cycles, whatever was shown before. -/
theorem acyclic_loaded {d : Diagram} (h : Acyclic d.links) (s : Scene) :
    Acyclic (s.loaded d).links := h.subset (s.links_loaded_subset d)

/-- A run from a scene without cycles ends in one, if no diagram that it opens has any. -/
theorem acyclic_run_of_acyclic {t : Session} {ops : List Operation} (h : Acyclic t.scene.links)
    (hloads : ∀ d, .load d ∈ ops → Acyclic d.links) : Acyclic (t.run ops).scene.links := by
  induction ops generalizing t with
  | nil => exact h
  | cons op ops ih =>
    rw [Session.run_cons]
    refine ih ?_ fun d hd => hloads d (List.mem_cons_of_mem _ hd)
    rw [scene_perform]
    exact acyclic_after h fun d hop => hloads d (by simp [hop])

/-- Every run that begins with a scene without cycles, or by opening a diagram without cycles,
and that opens no diagram with one, ends with a scene that has none. -/
theorem acyclic_run (t : Session) (ops : List Operation)
    (hstart : Acyclic t.scene.diagram.links ∨ ∃ d, ops.head? = some (.load d))
    (hloads : ∀ d, .load d ∈ ops → Acyclic d.links) :
    Acyclic (t.run ops).scene.diagram.links ∧
      ∀ l ∈ (t.run ops).scene.diagram.links, l.fromUid ≠ l.toUid := by
  have hend : Acyclic (t.run ops).scene.links := by
    rcases hstart with h | ⟨d, hd⟩
    · exact acyclic_run_of_acyclic h hloads
    · obtain ⟨rest, rfl⟩ : ∃ rest, ops = .load d :: rest := List.head?_eq_some_iff.mp hd
      rw [Session.run_cons]
      refine acyclic_run_of_acyclic ?_ fun e he => hloads e (List.mem_cons_of_mem _ he)
      rw [scene_perform]
      exact acyclic_loaded (hloads d (by simp)) t.scene
  exact ⟨hend, fun l hl => hend.ne hl⟩

/-- Two blocks, the first linked to the second. -/
def chain : Diagram :=
  { nodes := [{ uid := "a", type := .text "relay" }, { uid := "b", type := .text "relay" }]
    links := [⟨"a", "out", "b", "in"⟩] }

theorem acyclic_chain : Acyclic chain.links := by
  refine acyclic_nil.append (l := ⟨"a", "out", "b", "in"⟩) fun hpath => ?_
  rcases hpath.cases_head with heq | ⟨w, ⟨l, hl, _⟩, _⟩
  · exact absurd heq (by decide)
  · exact nomatch hl

/-- A run that tries to link the second block of a chain back to the first. -/
theorem acyclic_run_chain :
    Acyclic ((Session.blank relay none).run
      [.load chain, .beginWire ⟨1, .output, 0⟩,
        .completeWire ⟨0, .input, 0⟩]).scene.diagram.links := by
  refine (acyclic_run _ _ (.inr ⟨chain, rfl⟩) fun d hd => ?_).1
  have hchain : d = chain := by simpa using hd
  rw [hchain]
  exact acyclic_chain

end BlockSketch.Canvas
