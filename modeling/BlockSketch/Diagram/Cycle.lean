import BlockSketch.Diagram.Basic

/-!
# BlockSketch.Diagram.Cycle

Cycles in a diagram.  Whether a new link would lie on a cycle is found by a search that
goes breadth first from the end of the link and looks for its start.  The new link is
among those that are followed.  A block joins the queue when it is met for the first
time; the block where the search begins does not count as met.

* `Search.left_round` — with every round less is left to be looked at.
-/

namespace BlockSketch.Diagram

/-- The blocks that edges lead to, in order of the edges, by the block that they leave. -/
def neighbours (edges : List (Text × Text)) : Assoc Text (List Text) :=
  edges.foldl (fun next e => Assoc.addToGroup next e.1 e.2) []

structure Search where
  met : List Text := []
  queue : List Text
deriving DecidableEq, Repr, Inhabited

namespace Search

/-- Meet a block; the first time it joins the queue. -/
def meet (s : Search) (uid : Text) : Search :=
  if s.met.contains uid then s else ⟨uid :: s.met, s.queue ++ [uid]⟩

/-- One round: the answer, or the search after a look at the first block of the queue. -/
def round (next : Assoc Text (List Text)) (target : Text) (s : Search) : Bool ⊕ Search :=
  match s.queue with
  | [] => .inl false
  | current :: rest =>
    if current = target then .inl true
    else .inr ((Assoc.getD next current []).foldl meet { s with queue := rest })

/-- How much is left to be looked at: what waits, and what can still be met. -/
def left (next : Assoc Text (List Text)) (s : Search) : Nat :=
  (next.flatMap Prod.snd).countP (fun uid => !s.met.contains uid) + s.queue.length

/-- What is met is no longer to be met. -/
theorem countP_met_cons {uids met : List Text} {uid : Text} (hin : uid ∈ uids) (hnew : uid ∉ met) :
    uids.countP (fun u => !(uid :: met).contains u) < uids.countP fun u => !met.contains u := by
  have hle (us : List Text) :
      us.countP (fun u => !(uid :: met).contains u) ≤ us.countP fun u => !met.contains u :=
    List.countP_mono_left fun u _ hu => by simp_all
  obtain ⟨before, after, rfl⟩ := List.append_of_mem hin
  have hbefore := hle before
  have hafter := hle after
  have hmet : (!(uid :: met).contains uid) = false := by simp
  have hunmet : (!met.contains uid) = true := by simpa using hnew
  simp only [List.countP_append, List.countP_cons, hmet, hunmet, Bool.false_eq_true,
    if_true, if_false]
  omega

theorem left_meet (next : Assoc Text (List Text)) (s : Search) {uid : Text}
    (h : uid ∈ next.flatMap Prod.snd) : (s.meet uid).left next ≤ s.left next := by
  unfold meet
  split
  · exact Nat.le_refl _
  · next hnew =>
    have hless := countP_met_cons h (by simpa using hnew : uid ∉ s.met)
    simp only [left, List.length_append, List.length_singleton]
    omega

theorem left_foldl_meet (next : Assoc Text (List Text)) (uids : List Text) (s : Search)
    (h : ∀ uid ∈ uids, uid ∈ next.flatMap Prod.snd) :
    (uids.foldl meet s).left next ≤ s.left next := by
  induction uids generalizing s with
  | nil => exact Nat.le_refl _
  | cons uid uids ih =>
    have hrest := ih (s.meet uid) fun v hv => h v (List.mem_cons_of_mem uid hv)
    exact Nat.le_trans hrest (left_meet next s (h uid List.mem_cons_self))

/-- With every round less is left. -/
theorem left_round {next : Assoc Text (List Text)} {target : Text} {s s' : Search}
    (h : s.round next target = .inr s') : s'.left next < s.left next := by
  unfold round at h
  split at h
  · exact absurd h (by simp)
  · next current rest hqueue =>
    split at h
    · exact absurd h (by simp)
    · obtain rfl := Sum.inr.inj h
      have hnamed : ∀ uid ∈ Assoc.getD next current [], uid ∈ next.flatMap Prod.snd := by
        intro uid huid
        cases hg : Assoc.get? next current with
        | none => simp [Assoc.getD, hg] at huid
        | some uids =>
          have hin : uid ∈ uids := by simpa [Assoc.getD, hg] using huid
          exact List.mem_flatMap.mpr ⟨_, Assoc.mem_of_get? hg, hin⟩
      have hless := left_foldl_meet next _ { s with queue := rest } hnamed
      have hpopped : s.left next = left next { s with queue := rest } + 1 := by
        simp [left, hqueue, Nat.add_assoc]
      omega

/-- Go on with a search to its answer. -/
def run (next : Assoc Text (List Text)) (target : Text) (s : Search) : Bool :=
  match h : s.round next target with
  | .inl answer => answer
  | .inr s' =>
    have := left_round h
    s'.run next target
termination_by s.left next

end Search

/-- The edges that are followed when a new link is looked at: the links, and the new one behind
them. -/
def edgesWith (links : List Link) (fromUid toUid : Text) : List (Text × Text) :=
  links.map (fun l => (l.fromUid, l.toUid)) ++ [(fromUid, toUid)]

/-- Whether a new link would lie on a cycle. -/
def closesCycle (links : List Link) (fromUid toUid : Text) : Bool :=
  fromUid == toUid ||
    Search.run (neighbours (edgesWith links fromUid toUid)) fromUid { queue := [toUid] }

end BlockSketch.Diagram
