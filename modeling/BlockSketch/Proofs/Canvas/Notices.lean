import BlockSketch.Proofs.Canvas.Effect
import Mathlib.Algebra.GroupWithZero.Nat

/-!
# BlockSketch.Proofs.Canvas.Notices

What edits announce.  `Edit.Tells e s a s' ns` says more than `Edit.Ends`: the edit
succeeds with the value `a` and adds exactly the announcements `ns` to those before.
An edit is `Quiet` when it announces changes of the selection at most; steps that are
quiet can be put in a row without keeping track of what they say.

* `Tells.bind`, `Quiet.bind` — one edit after the other;
* `quiet_mapM` — one edit for each item of a list, with a size that the values count.
-/

namespace BlockSketch.Canvas

namespace Edit

/-- The edit `e`, begun in the scene `s`, ends with the value `a` in the scene `s'` and announces
`ns`, whatever was announced before. -/
def Tells {α : Type} (e : Edit α) (s : Scene) (a : α) (s' : Scene) (ns : List Notice) : Prop :=
  ∀ log, ∃ new, e.run ⟨s, log⟩ = (.ok a, ⟨s', log ++ new⟩) ∧ new.map Prod.fst = ns

/-- The edit announces nothing but changes of the selection. -/
def Quiet {α : Type} (e : Edit α) (s : Scene) (a : α) (s' : Scene) : Prop :=
  ∃ k, Tells e s a s' (List.replicate k .selectionChanged)

section Telling

variable {α β : Type} {e : Edit α} {f : α → Edit β} {s s' s'' : Scene} {a : α} {b : β}

/-- Two edits in a row announce what the first announces and then what the second does. -/
theorem Tells.bind {ns ns' : List Notice} (he : Tells e s a s' ns) (hf : Tells (f a) s' b s'' ns') :
    Tells (e >>= f) s b s'' (ns ++ ns') := by
  intro log
  obtain ⟨new, h, hnew⟩ := he log
  obtain ⟨new', h', hnew'⟩ := hf (log ++ new)
  refine ⟨new ++ new', ?_, by rw [List.map_append, hnew, hnew']⟩
  change (ExceptT.bindCont f (e.run ⟨s, log⟩).1).run (e.run ⟨s, log⟩).2 = _
  rw [h, ← List.append_assoc]
  exact h'

theorem tells_pure (a : α) (s : Scene) : Tells (pure a) s a s [] :=
  fun log => ⟨[], by rw [List.append_nil]; rfl, rfl⟩

theorem tells_scene (s : Scene) : Tells scene s s s [] :=
  fun log => ⟨[], by rw [List.append_nil]; rfl, rfl⟩

theorem tells_change (g : Scene → Scene) (s : Scene) : Tells (change g) s () (g s) [] :=
  fun log => ⟨[], by rw [List.append_nil]; rfl, rfl⟩

theorem tells_announce (n : Notice) (s : Scene) : Tells (announce n) s () s [n] :=
  fun _ => ⟨[(n, s)], rfl, rfl⟩

/-- What is announced is the diagram as it is. -/
theorem tells_announceDiagram (s : Scene) : Tells announceDiagram s () s [.changed s.diagram] :=
  (tells_scene s).bind (tells_announce _ s)

/-- An edit that announces nothing is quiet. -/
theorem Tells.quiet (h : Tells e s a s' []) : Quiet e s a s' := ⟨0, h⟩

/-- Two quiet edits in a row are quiet. -/
theorem Quiet.bind (he : Quiet e s a s') (hf : Quiet (f a) s' b s'') : Quiet (e >>= f) s b s'' := by
  obtain ⟨k, hk⟩ := he
  obtain ⟨k', hk'⟩ := hf
  refine ⟨k + k', ?_⟩
  rw [← List.replicate_append_replicate]
  exact hk.bind hk'

/-- Taking an item out is quiet. -/
theorem quiet_takeOut (item : Item) (s : Scene) : Quiet (takeOut item) s () (s.takeOut item) := by
  refine (tells_scene s).quiet.bind ((tells_change _ s).quiet.bind ?_)
  split
  · exact ⟨1, tells_announce _ _⟩
  · exact (tells_pure _ _).quiet

/-- Quiet edits follow one another.  When each takes from a size what it returns, so do all. -/
theorem quiet_mapM {next : Scene → α → Scene} (Inv : Scene → List α → Prop) (size : Scene → Nat)
    (weight : β → Nat)
    (step : ∀ s a as, Inv s (a :: as) → Inv (next s a) as ∧
      ∃ b, Quiet (f a) s b (next s a) ∧ weight b + size (next s a) = size s)
    {as : List α} {s : Scene} (h : Inv s as) :
    ∃ bs, Quiet (as.mapM f) s bs (as.foldl next s) ∧
      (bs.map weight).sum + size (as.foldl next s) = size s := by
  induction as generalizing s with
  | nil => exact ⟨[], by rw [List.mapM_nil]; exact (tells_pure [] s).quiet, by simp⟩
  | cons a as ih =>
    obtain ⟨hnext, b, hb, hsize⟩ := step s a as h
    obtain ⟨bs, hbs, hsizes⟩ := ih hnext
    refine ⟨b :: bs, ?_, ?_⟩
    · rw [List.mapM_cons]
      exact hb.bind (hbs.bind (tells_pure _ _).quiet)
    · rw [List.map_cons, List.sum_cons, List.foldl_cons]
      omega

end Telling

end Edit

end BlockSketch.Canvas
