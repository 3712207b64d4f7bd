import BlockSketch.Proofs.Canvas.Loading

/-!
# BlockSketch.Proofs.Canvas.Closed

Links without a block.  Deleting a block takes the links with it that touch it, and a
diagram that is opened keeps only links between ports that are there.  Two steps are
left that can leave a link without one of its blocks: ending a wire whose block was
deleted while it was being drawn, and opening a diagram that stops half way.

* `closed_perform_iff` — a step keeps every link between blocks that are there exactly
  when it is neither of the two;
* `closed_run_iff` — the same for all the states of a run.
-/

namespace BlockSketch

/-- Every link of a diagram joins two of its blocks. -/
def Diagram.Closed (d : Diagram) : Prop := ∀ l ∈ d.links, l.fromUid ∈ d.uids ∧ l.toUid ∈ d.uids

instance : DecidablePred Diagram.Closed := fun d =>
  inferInstanceAs (Decidable (∀ l ∈ d.links, l.fromUid ∈ d.uids ∧ l.toUid ∈ d.uids))

namespace Canvas

namespace Scene

/-- Every link of a scene joins two blocks that have a card. -/
def Tied (s : Scene) : Prop :=
  ∀ l ∈ s.links, l.fromUid ∈ Assoc.keys s.byUid ∧ l.toUid ∈ Assoc.keys s.byUid

/-- In a named scene, a closed diagram is one whose links are tied. -/
theorem closed_diagram_iff {s : Scene} (h : s.Named) : s.diagram.Closed ↔ s.Tied := by
  unfold Diagram.Closed
  rw [uids_diagram h]
  rfl

/-- Fewer links and more blocks are tied no worse. -/
theorem Tied.of_subset {s t : Scene} (h : s.Tied) (hlinks : t.links ⊆ s.links)
    (huids : Assoc.keys s.byUid ⊆ Assoc.keys t.byUid) : t.Tied := fun l hl =>
  ⟨huids (h l (hlinks hl)).1, huids (h l (hlinks hl)).2⟩

theorem Tied.of_eq {s t : Scene} (h : s.Tied) (hlinks : t.links = s.links)
    (huids : t.byUid = s.byUid) : t.Tied := by
  refine h.of_subset ?_ ?_
  · rw [hlinks]
    exact List.Subset.refl _
  · rw [huids]
    exact List.Subset.refl _

theorem Tied.withoutWire {s : Scene} (h : s.Tied) (w : Nat) : (s.withoutWire w).Tied := by
  refine h.of_subset (s.links_withoutWire_subset w) ?_
  rw [byUid_withoutWire]
  exact List.Subset.refl _

/-- A card goes with all links that touch its block. -/
theorem Tied.withoutCard {s : Scene} (h : s.Tied) (c : Nat) : (s.withoutCard c).Tied := by
  intro l hl
  have hmem : l ∈ s.links ∧ l.touches (s.card c).node.uid = false := by
    simpa [Scene.withoutCard, takeOut, tell] using hl
  have hne : l.fromUid ≠ (s.card c).node.uid ∧ l.toUid ≠ (s.card c).node.uid := by
    simpa [Link.touches] using hmem.2
  have hkeys (uid : Text) (hk : uid ∈ Assoc.keys s.byUid) (hu : uid ≠ (s.card c).node.uid) :
      uid ∈ Assoc.keys (s.withoutCard c).byUid := by
    change uid ∈ Assoc.keys (Assoc.erase s.byUid _)
    rw [Assoc.keys_erase]
    simp [hk, hu]
  exact ⟨hkeys _ (h l hmem.1).1 hne.1, hkeys _ (h l hmem.1).2 hne.2⟩

/-- Removing wires leaves no link loose. -/
theorem Tied.withoutWires {s : Scene} (h : s.Tied) (ws : List Nat) :
    (ws.foldl Scene.withoutWire s).Tied :=
  foldl_keeps (P := Tied) (fun _ w ht => ht.withoutWire w) ws h

/-- Neither does deleting the selection: the wires of a block go with the block. -/
theorem Tied.withoutSelected {s : Scene} (h : s.Tied) : s.withoutSelected.Tied :=
  foldl_keeps (P := Tied) (fun _ c ht => (ht.withoutWires _).withoutCard c) s.chosenCards
    (h.withoutWires s.chosenWires)

theorem Tied.added {s : Scene} (h : s.Tied) (type : Value) (p : Point) (uid : Text)
    (given : Fields) : (s.added type p uid given).Tied := by
  refine h.of_subset ?_ fun k hk => ?_
  · rw [links_added]
    exact List.Subset.refl _
  · have hfresh : k ∈ Assoc.keys (s.withUid uid).2.byUid := by
      unfold withUid
      split <;> exact hk
    unfold Scene.added
    split
    · exact hk
    · exact (mem_keys_withCards _ _ k).mpr (.inl hfresh)

/-- A new link is tied exactly when both its blocks have a card. -/
theorem tied_linked_iff {s : Scene} (h : s.Tied) (start finish : PortRef) :
    (s.linked start finish).Tied ↔
      s.uidAt start ∈ Assoc.keys s.byUid ∧ s.uidAt finish ∈ Assoc.keys s.byUid := by
  unfold Tied
  rw [links_linked, byUid_linked]
  constructor
  · intro hall
    exact hall (Edit.linkBetween s start finish) (by simp)
  · intro hnew l hl
    rcases List.mem_append.mp hl with hold | hlast
    · exact h l hold
    · rw [List.mem_singleton.mp hlast]
      exact hnew

/-- Opening a diagram leaves every link tied if all its blocks have cards, or else if its links only
join blocks that were reached. -/
theorem tied_loaded_iff (s : Scene) (d : Diagram) :
    (s.loaded d).Tied ↔ s.showsAll d = true ∨ ∀ l ∈ d.links,
      l.fromUid ∈ (cardable s.catalog d.nodes).map Node.uid ∧
        l.toUid ∈ (cardable s.catalog d.nodes).map Node.uid := by
  cases h : s.showsAll d with
  | true =>
    refine iff_of_true (fun l hl => ?_) (.inl rfl)
    rw [links_loaded h] at hl
    rw [byUid_loaded]
    exact mem_keys_of_restorable (List.mem_filter.mp hl).2
  | false =>
    have hlinks : (s.dealt d).links = d.links := links_withCards _ _
    rw [loaded_of_stopped h]
    unfold Tied
    simp only [hlinks, mem_keys_dealt, Bool.false_eq_true, false_or]

/-- Both ports that an operation joins belong to blocks with a card. -/
def JoinsShown (s : Scene) (op : Operation) : Prop :=
  ∀ start finish, s.joined? op = some (start, finish) →
    s.uidAt start ∈ Assoc.keys s.byUid ∧ s.uidAt finish ∈ Assoc.keys s.byUid

theorem joinsShown_of_none {s : Scene} {op : Operation} (h : s.joined? op = none) :
    s.JoinsShown op := by
  intro start finish hj
  rw [h] at hj
  exact nomatch hj

/-- An operation that ends a wire keeps the links tied exactly when it joins shown blocks. -/
theorem tied_after_of_endsWire {s : Scene} (h : s.Tied) {op : Operation} (he : s.EndsWire op) :
    (s.after op).Tied ↔ s.JoinsShown op := by
  rcases he with ⟨start, finish, hj, ha⟩ | ⟨hj, ha | ha⟩
  · rw [ha, tied_linked_iff h]
    constructor
    · intro hnew start' finish' hj'
      rw [hj] at hj'
      obtain ⟨rfl, rfl⟩ := Prod.mk.inj (Option.some.inj hj')
      exact hnew
    · intro hall
      exact hall start finish hj
  · rw [ha]
    exact iff_of_true h (joinsShown_of_none hj)
  · rw [ha]
    exact iff_of_true (h.of_eq s.links_withoutPreview s.byUid_withoutPreview)
      (joinsShown_of_none hj)

/-- An operation keeps the links of a scene tied exactly when it joins no port of a block without a
card and leaves no link of a diagram that it opens untied. -/
theorem tied_after_iff {s : Scene} (h : s.Tied) (op : Operation) :
    (s.after op).Tied ↔ s.JoinsShown op ∧ ∀ d, op = .load d → (s.loaded d).Tied := by
  -- an operation that ends no wire joins no ports
  have hjoined (ht : s.target? op = none) : s.JoinsShown op := by
    refine joinsShown_of_none ?_
    unfold joined?
    rw [ht]
    cases s.preview <;> rfl
  cases op with
  | select item on =>
    have htied := h.of_eq (s.links_chosen item on) (s.byUid_chosen item on)
    exact iff_of_true htied ⟨hjoined rfl, nofun⟩
  | add type p uid given => exact iff_of_true (h.added type p uid given) ⟨hjoined rfl, nofun⟩
  | beginWire r =>
    exact iff_of_true (h.of_eq (s.links_begun r) (s.byUid_begun r)) ⟨hjoined rfl, nofun⟩
  | completeWire r =>
    rw [tied_after_of_endsWire h (s.endsWire_completeWire r)]
    exact ⟨fun hall => ⟨hall, nofun⟩, And.left⟩
  | releaseAt left p =>
    rw [tied_after_of_endsWire h (s.endsWire_releaseAt left p)]
    exact ⟨fun hall => ⟨hall, nofun⟩, And.left⟩
  | cancelPreview =>
    have htied := h.of_eq s.links_withoutPreview s.byUid_withoutPreview
    exact iff_of_true htied ⟨hjoined rfl, nofun⟩
  | deleteSelected => exact iff_of_true h.withoutSelected ⟨hjoined rfl, nofun⟩
  | load d =>
    constructor
    · intro ht
      refine ⟨hjoined rfl, ?_⟩
      rintro _ ⟨rfl⟩
      exact ht
    · intro hall
      exact hall.2 d rfl
  | announceParams c => exact iff_of_true h ⟨hjoined rfl, nofun⟩

end Scene

namespace Session

/-- An operation that leaves a link without one of its blocks: it joins two ports, and the block of
one of them is not in the diagram; or it opens a diagram, stops half way, and a link of that diagram
touches a block which was not reached. -/
def LeavesLoose (t : Session) (op : Operation) : Prop :=
  (∃ start finish, t.scene.joined? op = some (start, finish) ∧
    ¬ (t.scene.uidAt start ∈ t.scene.diagram.uids ∧ t.scene.uidAt finish ∈ t.scene.diagram.uids)) ∨
  ∃ d, op = .load d ∧ op.Stops t ∧ ∃ l ∈ d.links,
    ¬ (l.fromUid ∈ (cardable t.scene.catalog d.nodes).map Node.uid ∧
      l.toUid ∈ (cardable t.scene.catalog d.nodes).map Node.uid)

/-- A closed diagram stays closed under every operation that leaves no link loose, and under no
other. -/
theorem closed_perform_iff {t : Session} (hnamed : t.scene.Named) (h : t.scene.diagram.Closed)
    (op : Operation) : (t.perform op).scene.diagram.Closed ↔ ¬ t.LeavesLoose op := by
  have htied := (Scene.closed_diagram_iff hnamed).mp h
  rw [scene_perform, Scene.closed_diagram_iff (Scene.named_after hnamed op),
    Scene.tied_after_iff htied, LeavesLoose, not_or, Scene.uids_diagram hnamed]
  refine and_congr ?_ ?_
  · constructor
    · rintro hall ⟨start, finish, hj, hloose⟩
      exact hloose (hall start finish hj)
    · intro hnone start finish hj
      exact Classical.byContradiction fun hloose => hnone ⟨start, finish, hj, hloose⟩
  · constructor
    · rintro hloads ⟨d, rfl, hstops, l, hl, hloose⟩
      rcases (Scene.tied_loaded_iff t.scene d).mp (hloads d rfl) with hall | hall
      · rw [(stops_load_iff d t).mp hstops] at hall
        exact nomatch hall
      · exact hloose (hall l hl)
    · rintro hnone d rfl
      rw [Scene.tied_loaded_iff]
      cases hshown : t.scene.showsAll d with
      | true => exact .inl rfl
      | false =>
        refine .inr fun l hl => Classical.byContradiction fun hloose => ?_
        exact hnone ⟨d, rfl, (stops_load_iff d t).mpr hshown, l, hl, hloose⟩

/-- From an empty scene on, all links join blocks that are there, in every state of a run, exactly
when no step of the run leaves one loose. -/
theorem closed_run_iff (catalog : Catalog) (listener : Option Listener) (order : Arrangement)
    (ops : List Operation) :
    (∀ done, done <+: ops → ((blank catalog listener order).run done).scene.diagram.Closed) ↔
      Always (fun t op => ¬ t.LeavesLoose op) (blank catalog listener order) ops := by
  have hblank : (blank catalog listener order).scene.Named := nofun
  have hstep (t : Session) (op : Operation) (h : t.scene.Named ∧ t.scene.diagram.Closed)
      (_ : True) : ((t.perform op).scene.Named ∧ (t.perform op).scene.diagram.Closed) ↔
        ¬ t.LeavesLoose op := by
    have hnext : (t.perform op).scene.Named := Scene.named_run h.1 [op]
    rw [and_iff_right hnext]
    exact closed_perform_iff h.1 h.2 op
  have hrun := run_keeps_iff hstep (t := blank catalog listener order) ⟨hblank, nofun⟩
    (always_of_forall (fun _ _ => trivial) _ ops)
  rw [← hrun]
  exact forall₂_congr fun done _ => (and_iff_right (Scene.named_run hblank done)).symm

end Session

/-- A wire is begun at one block, the block is deleted, and the wire is ended at another block: the
new link has no block to leave from. -/
theorem not_closed_of_deleted_start :
    ¬ ((Session.blank relay none).run [
      .add (.text "relay") ⟨0, 0⟩ "a" [], .add (.text "relay") ⟨200, 0⟩ "b" [],
      .beginWire ⟨0, .output, 0⟩, .select (.card 0) true, .deleteSelected,
      .completeWire ⟨1, .input, 0⟩]).scene.diagram.Closed := by
  decide +kernel

end Canvas

end BlockSketch
