import BlockSketch.Diagram.Cycle
import BlockSketch.Proofs.Assoc
import BlockSketch.Proofs.Diagram.Path

/-!
# BlockSketch.Proofs.Diagram.Search

The breadth-first search for a cycle, against paths along links.  What carries the search
is `Search.Settled`: a block that was met either still waits in the queue, or it is not the
one that is looked for and all that it leads to was met as well.

* `Search.run_iff` — a settled search finds exactly the blocks that a path leads to;
* `Search.after_eq` — it has its answer after as many rounds as it has left, and one more;
* `closesCycle_iff` — a link is refused exactly when a path leads back;
* `closesCycle_exact` — that is when the link would lie on a cycle, and the search ends.
-/

namespace BlockSketch.Diagram

open Relation

/-! ## what edges lead to -/

/-- The blocks that edges lead to are in groups by the blocks that the edges leave. -/
theorem neighbours_eq (edges : List (Text × Text)) : neighbours edges = Assoc.groups edges := rfl

/-- The edges lead from `u` to `v`. -/
def Follows (next : Assoc Text (List Text)) (u v : Text) : Prop := v ∈ Assoc.getD next u []

/-- In the groups of the edges, `v` follows `u` exactly when there is such an edge. -/
theorem follows_neighbours {edges : List (Text × Text)} {u v : Text} :
    Follows (neighbours edges) u v ↔ (u, v) ∈ edges := by
  unfold Follows
  rw [neighbours_eq, Assoc.getD_groups]
  simp

namespace Search

variable {next : Assoc Text (List Text)} {target u : Text} {s s' : Search}

/-! ## one round -/

/-- Meeting blocks adds them to those that were met. -/
theorem mem_met_foldl_meet (uids : List Text) (s : Search) :
    u ∈ (uids.foldl meet s).met ↔ u ∈ s.met ∨ u ∈ uids := by
  induction uids generalizing s with
  | nil => simp
  | cons uid uids ih =>
    rw [List.foldl_cons, ih, meet]
    split <;> grind

/-- Only those that were not met before are put in the queue. -/
theorem mem_queue_foldl_meet (uids : List Text) (s : Search) :
    u ∈ (uids.foldl meet s).queue ↔ u ∈ s.queue ∨ u ∈ uids ∧ u ∉ s.met := by
  induction uids generalizing s with
  | nil => simp
  | cons uid uids ih =>
    rw [List.foldl_cons, ih, meet]
    split <;> grind

/-- What a round that goes on does: it takes a block that is not looked for out of the queue; all
that follows it was met then, and waits if it was not met before. -/
structure Round (next : Assoc Text (List Text)) (target : Text) (s : Search) (current : Text)
    (rest : List Text) (s' : Search) : Prop where
  queue : s.queue = current :: rest
  ne : current ≠ target
  mem_met : ∀ u, u ∈ s'.met ↔ u ∈ s.met ∨ Follows next current u
  mem_queue : ∀ u, u ∈ s'.queue ↔ u ∈ rest ∨ Follows next current u ∧ u ∉ s.met

/-- A round that goes on takes a block that is not looked for. -/
theorem round_inr (h : s.round next target = .inr s') :
    ∃ current rest, Round next target s current rest s' := by
  unfold round at h
  split at h
  · simp at h
  · next current rest hqueue =>
    split at h
    · simp at h
    · next hne =>
      obtain rfl := Sum.inr.inj h
      exact ⟨current, rest, hqueue, hne, fun u => mem_met_foldl_meet _ _,
        fun u => mem_queue_foldl_meet _ _⟩

/-- A search ends with an empty queue, or with the block that is looked for. -/
theorem round_inl {answer : Bool} (h : s.round next target = .inl answer) :
    (answer = false ∧ s.queue = []) ∨ (answer = true ∧ target ∈ s.queue) := by
  unfold round at h
  split at h
  · next hqueue => exact .inl ⟨(Sum.inl.inj h).symm, hqueue⟩
  · next current rest hqueue =>
    split at h
    · next heq => exact .inr ⟨(Sum.inl.inj h).symm, by simp [hqueue, heq]⟩
    · simp at h

/-! ## all rounds -/

/-- Every block that was met waits in the queue, or is done with: it is not looked for, and all
that follows it was met. -/
def Settled (next : Assoc Text (List Text)) (target : Text) (s : Search) : Prop :=
  ∀ u ∈ s.met, u ∈ s.queue ∨ u ≠ target ∧ ∀ v, Follows next u v → v ∈ s.met

/-- A round leaves every block that was met waiting or done with. -/
theorem Settled.round (hs : s.Settled next target) (h : s.round next target = .inr s') :
    s'.Settled next target := by
  obtain ⟨current, rest, hround⟩ := round_inr h
  intro u hu
  rw [hround.mem_queue]
  by_cases hold : u ∈ s.met
  · rcases hs u hold with hwaits | ⟨hne, hdone⟩
    · rw [hround.queue] at hwaits
      rcases List.mem_cons.mp hwaits with rfl | hrest
      · exact .inr ⟨hround.ne, fun v hv => (hround.mem_met v).mpr (.inr hv)⟩
      · exact .inl (.inl hrest)
    · exact .inr ⟨hne, fun v hv => (hround.mem_met v).mpr (.inl (hdone v hv))⟩
  · have hnew := ((hround.mem_met u).mp hu).resolve_left hold
    exact .inl (.inr ⟨hnew, hold⟩)

/-- Nothing waits: then no path leads from a block that was met to the one looked for. -/
theorem Settled.not_path (hs : s.Settled next target) (hqueue : s.queue = []) (hu : u ∈ s.met) :
    ¬ ReflTransGen (Follows next) u target := by
  have hdone (v : Text) (hv : v ∈ s.met) : v ≠ target ∧ ∀ w, Follows next v w → w ∈ s.met :=
    (hs v hv).resolve_left (by simp [hqueue])
  have hmet (v : Text) (hpath : ReflTransGen (Follows next) u v) : v ∈ s.met := by
    induction hpath with
    | refl => exact hu
    | tail _ hstep ih => exact (hdone _ ih).2 _ hstep
  exact fun hpath => (hdone target (hmet target hpath)).1 rfl

/-- A block that is found can be reached from the queue. -/
theorem path_of_run (h : s.run next target = true) :
    ∃ u ∈ s.queue, ReflTransGen (Follows next) u target := by
  fun_induction run next target s with
  | case1 s answer hround =>
    rcases round_inl hround with ⟨hfalse, _⟩ | ⟨_, hmem⟩
    · simp [hfalse] at h
    · exact ⟨target, hmem, .refl⟩
  | case2 s s' hround _ ih =>
    obtain ⟨current, rest, hr⟩ := round_inr hround
    obtain ⟨u, hu, hpath⟩ := ih h
    rw [hr.queue]
    rcases (hr.mem_queue u).mp hu with hrest | ⟨hstep, _⟩
    · exact ⟨u, List.mem_cons_of_mem _ hrest, hpath⟩
    · exact ⟨current, List.mem_cons_self, .head hstep hpath⟩

/-- The search misses no path, whether it begins at a block that waits or at one that was met. -/
theorem run_of_path (hs : s.Settled next target) (hu : u ∈ s.queue ∨ u ∈ s.met)
    (hpath : ReflTransGen (Follows next) u target) : s.run next target = true := by
  fun_induction run next target s generalizing u with
  | case1 s answer hround =>
    rcases round_inl hround with ⟨_, hqueue⟩ | ⟨htrue, _⟩
    · have hmet := hu.resolve_left (by simp [hqueue])
      exact absurd hpath (hs.not_path hqueue hmet)
    · exact htrue
  | case2 s s' hround _ ih =>
    have hs' := hs.round hround
    obtain ⟨current, rest, hr⟩ := round_inr hround
    rw [hr.queue, List.mem_cons] at hu
    rcases hu with (rfl | hrest) | hmet
    · -- the block that was looked at: the path goes on to one that is met now
      rcases hpath.cases_head with heq | ⟨v, hstep, hrest⟩
      · exact absurd heq hr.ne
      · exact ih hs' (.inr ((hr.mem_met v).mpr (.inr hstep))) hrest
    · exact ih hs' (.inl ((hr.mem_queue u).mpr (.inl hrest))) hpath
    · exact ih hs' (.inr ((hr.mem_met u).mpr (.inl hmet))) hpath

/-- A settled search finds the block exactly when it can be reached from the queue. -/
theorem run_iff (hs : s.Settled next target) :
    s.run next target = true ↔ ∃ u ∈ s.queue, ReflTransGen (Follows next) u target :=
  ⟨path_of_run, fun ⟨_, hu, hpath⟩ => run_of_path hs (.inl hu) hpath⟩

/-- The search after at most `n` rounds. -/
def after (next : Assoc Text (List Text)) (target : Text) : Nat → Search → Bool ⊕ Search
  | 0, s => .inr s
  | n + 1, s =>
    match s.round next target with
    | .inl answer => .inl answer
    | .inr s' => after next target n s'

/-- With more rounds than there is left to be looked at, the search has ended. -/
theorem after_eq {n : Nat} (h : s.left next < n) :
    after next target n s = .inl (s.run next target) := by
  fun_induction run next target s generalizing n with
  | case1 s answer hround =>
    obtain ⟨m, rfl⟩ := Nat.exists_eq_add_one_of_ne_zero (Nat.ne_zero_of_lt h)
    simp only [after, hround]
  | case2 s s' hround hless ih =>
    obtain ⟨m, rfl⟩ := Nat.exists_eq_add_one_of_ne_zero (Nat.ne_zero_of_lt h)
    simp only [after, hround]
    exact ih (by omega)

end Search

/-! ## cycles -/

variable {links : List Link} {u v : Text}

/-- The edges searched are those of the links and of the link that is to be added. -/
theorem mem_edgesWith_iff {l : Link} :
    (u, v) ∈ edgesWith links l.fromUid l.toUid ↔ Leads (links ++ [l]) u v := by
  simp [edgesWith, Leads, or_and_right, exists_or, eq_comm]

/-- A path back can do without the link itself. -/
theorem path_append_iff {l : Link} :
    Path (links ++ [l]) l.toUid l.fromUid ↔ Path links l.toUid l.fromUid := by
  constructor
  · intro hpath
    rcases reflTransGen_iff_eq_or_transGen.mp hpath with heq | htrans
    · rw [heq]
    · rcases transGen_append htrans with hold | ⟨hback, _⟩
      · exact hold.to_reflTransGen
      · exact hback
  · exact Path.mono (List.subset_append_left links [l])

theorem run_edgesWith_iff (links : List Link) (l : Link) :
    Search.run (neighbours (edgesWith links l.fromUid l.toUid)) l.fromUid
      { queue := [l.toUid] } = true ↔
      Path (links ++ [l]) l.toUid l.fromUid := by
  have hsettled : Search.Settled (neighbours (edgesWith links l.fromUid l.toUid)) l.fromUid
      { queue := [l.toUid] } := fun u hu => absurd hu List.not_mem_nil
  have hsame : Follows (neighbours (edgesWith links l.fromUid l.toUid)) = Leads (links ++ [l]) := by
    funext u v
    rw [follows_neighbours, mem_edgesWith_iff]
  rw [Search.run_iff hsettled, hsame]
  simp

/-- A link would close a cycle exactly when a path leads from its end to its start. -/
theorem closesCycle_iff (links : List Link) (fromUid toUid : Text) :
    closesCycle links fromUid toUid = true ↔ Path links toUid fromUid := by
  have hrun := (run_edgesWith_iff links ⟨fromUid, default, toUid, default⟩).trans path_append_iff
  unfold closesCycle
  rw [Bool.or_eq_true, beq_iff_eq, hrun]
  constructor
  · rintro (rfl | hpath)
    · exact .refl
    · exact hpath
  · exact .inr

/-- A link lies on a cycle: the links lead from its end back to its start. -/
def OnCycle (links : List Link) (l : Link) : Prop := l ∈ links ∧ Path links l.toUid l.fromUid

/-- A new link lies on a cycle exactly when the other links lead from its end to its start. -/
theorem onCycle_append_iff {l : Link} :
    OnCycle (links ++ [l]) l ↔ Path links l.toUid l.fromUid := by
  simp only [OnCycle, path_append_iff, List.mem_append, List.mem_singleton, or_true, true_and]

/-- At the start of a search the start itself and all the edges are left. -/
theorem left_start (edges : List (Text × Text)) (u : Text) :
    Search.left (neighbours edges) { queue := [u] } = edges.length + 1 := by
  have hlength := ((Assoc.groups_perm edges).map Prod.snd).length_eq
  rw [Assoc.map_snd_ungrouped, List.length_map] at hlength
  simpa [Search.left, neighbours_eq] using hlength

/-- The test of a new link is exact, whatever the links are: it holds when the link leads from a
block to itself or the links lead back from its end to its start, that is, when the link would lie
on a cycle.  The search behind the test ends: it has its answer after so many rounds. -/
theorem closesCycle_exact (links : List Link) (l : Link) :
    (closesCycle links l.fromUid l.toUid = true ↔
      l.fromUid = l.toUid ∨ Path links l.toUid l.fromUid) ∧
    (closesCycle links l.fromUid l.toUid = true ↔ OnCycle (links ++ [l]) l) ∧
    Search.after (neighbours (edgesWith links l.fromUid l.toUid)) l.fromUid (links.length + 3)
      { queue := [l.toUid] } = .inl (closesCycle links l.fromUid l.toUid) := by
  have hiff := closesCycle_iff links l.fromUid l.toUid
  refine ⟨?_, hiff.trans onCycle_append_iff.symm, ?_⟩
  · rw [hiff]
    constructor
    · exact .inr
    · rintro (heq | hpath)
      · rw [heq]
      · exact hpath
  · have hleft : Search.left (neighbours (edgesWith links l.fromUid l.toUid))
        { queue := [l.toUid] } <
        links.length + 3 := by
      rw [left_start]
      simp [edgesWith]
    have hrun := (run_edgesWith_iff links l).trans path_append_iff
    rw [Search.after_eq hleft, Bool.eq_iff_iff.mpr (hrun.trans hiff.symm)]

end BlockSketch.Diagram
