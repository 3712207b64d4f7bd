import BlockSketch.Proofs.Canvas.Items
import BlockSketch.Proofs.Canvas.Mirror

/-!
# BlockSketch.Proofs.Canvas.Plugs

Wires hang on cards that were made.  Whatever a scene went through, and whatever the
diagrams were that were opened in it, no wire hangs on a port of a card that is still to
come; so the ports of new cards are free.

* `plugged_after`, `plugged_run` — every operation keeps this, and so does every run;
* `wiresAt_dealt` — the ports of the cards of a diagram that is opened are free.
-/

namespace BlockSketch.Canvas

namespace Scene

/-- Wires hang on ports of cards that were made, and so does the wire that is being drawn. -/
structure Plugged (s : Scene) : Prop where
  ports : ∀ e ∈ s.plugged, e.1.card < s.cards.length
  drawn : ∀ p, s.preview = some p → p.start.card < s.cards.length

/-- An operation at ports of cards that were made. -/
def Handles (s : Scene) : Operation → Prop
  | .beginWire r | .completeWire r => r.card < s.cards.length
  | _ => True

instance (s : Scene) : (op : Operation) → Decidable (s.Handles op)
  | .beginWire r | .completeWire r => inferInstanceAs (Decidable (r.card < s.cards.length))
  | .select .. | .add .. | .releaseAt .. | .cancelPreview | .deleteSelected | .load _
  | .announceParams _ => .isTrue trivial

/-- A step that makes cards at most, and plugs nothing in. -/
theorem Plugged.keep {s t : Scene} (h : s.Plugged) (hcards : s.cards.length ≤ t.cards.length)
    (hplugged : t.plugged ⊆ s.plugged) (hpreview : ∀ p, t.preview = some p → s.preview = some p) :
    t.Plugged where
  ports e he := Nat.lt_of_lt_of_le (h.ports e (hplugged he)) hcards
  drawn p hp := Nat.lt_of_lt_of_le (h.drawn p (hpreview p hp)) hcards

theorem Plugged.withoutPreview {s : Scene} (h : s.Plugged) : s.withoutPreview.Plugged := by
  refine h.keep (by simp) ?_ (by simp)
  rw [plugged_withoutPreview]
  exact List.Subset.refl _

/-- Joining ports of cards that were made hangs the wire on such ports. -/
theorem Plugged.joinPorts {s : Scene} (h : s.Plugged) (l : Link) {start finish : PortRef}
    (hs : start.card < s.cards.length) (hf : finish.card < s.cards.length) :
    (s.joinPorts l start finish).Plugged where
  ports e he := by
    have hcases : e = (finish, s.wires.length) ∨ e = (start, s.wires.length) ∨ e ∈ s.plugged := by
      simpa [Scene.joinPorts, attach, addWire, List.mem_insert_iff] using he
    rcases hcases with rfl | rfl | hold
    · exact hf
    · exact hs
    · exact h.ports e hold
  drawn := h.drawn

/-- No card is lost when others are put up. -/
theorem length_cards_withCards_le (s : Scene) (nodes : List Node) :
    s.cards.length ≤ (s.withCards nodes).cards.length := by
  induction nodes generalizing s with
  | nil => exact Nat.le_refl _
  | cons n rest ih =>
    unfold withCards
    cases Edit.cardFor s.catalog n with
    | error fault => exact Nat.le_refl _
    | ok c => exact Nat.le_trans (by simp [addCard]) (ih (s.addCard c))

theorem Plugged.withCards {s : Scene} (h : s.Plugged) (nodes : List Node) :
    (s.withCards nodes).Plugged := by
  refine h.keep (s.length_cards_withCards_le nodes) ?_ ?_
  · rw [withCards_eq]
    exact List.Subset.refl _
  · rw [withCards_eq]
    exact fun _ hp => hp

/-- What is left after a wire is removed hangs where it hung. -/
theorem Plugged.withoutWire {s : Scene} (h : s.Plugged) (w : Nat) : (s.withoutWire w).Plugged := by
  cases hl : (s.wire w).link with
  | none => rwa [withoutWire_of_none hl]
  | some l =>
    rw [withoutWire_of_some hl]
    exact h.keep (Nat.le_refl _) List.filter_sublist.subset fun _ hp => hp

/-- So does what is left after a deletion. -/
theorem Plugged.withoutSelected {s : Scene} (h : s.Plugged) : s.withoutSelected.Plugged := by
  have hwires {s : Scene} (hs : s.Plugged) (ws : List Nat) :
      (ws.foldl Scene.withoutWire s).Plugged :=
    foldl_keeps (fun _ w ht => ht.withoutWire w) ws hs
  refine foldl_keeps (P := Plugged) (fun t c ht => ?_) s.chosenCards (hwires h s.chosenWires)
  exact (hwires ht _).keep (Nat.le_refl _) (List.Subset.refl _) fun _ hp => hp

/-- A link is restored at ports of registered cards, which in a named scene were made. -/
theorem Plugged.restored {s : Scene} (h : s.Plugged) (hnamed : s.Named) (l : Link) :
    (s.restored l).Plugged := by
  cases hl : s.restorable l with
  | true =>
    obtain ⟨start, finish, hstart, hfinish, heq⟩ := restored_of_restorable hl
    rw [heq]
    exact h.joinPorts l (portAt?_spec hnamed hstart).2.1 (portAt?_spec hnamed hfinish).2.1
  | false =>
    rw [restored_of_not_restorable hl]
    exact h.keep (Nat.le_refl _) (List.Subset.refl _) fun _ hp => hp

/-- What hangs on the cards that are cleared stays there. -/
theorem Plugged.cleared {s : Scene} (h : s.Plugged) (links : List Link) :
    (s.cleared links).Plugged :=
  h.withoutPreview.keep (Nat.le_refl _) (List.Subset.refl _) fun _ hp => hp

/-- A diagram is opened at ports of its own cards. -/
theorem Plugged.loaded {s : Scene} (h : s.Plugged) (d : Diagram) : (s.loaded d).Plugged := by
  have hnamed : (s.dealt d).Named :=
    Named.withCards (s := s.cleared d.links) (fun e he => nomatch he) _
  have hdealt : (s.dealt d).Plugged := (h.cleared d.links).withCards d.nodes
  unfold Scene.loaded
  split
  · refine (foldl_keeps (P := fun t => t.Plugged ∧ t.Named) (fun t l ht => ?_) d.links
      ⟨hdealt, hnamed⟩).1
    refine ⟨ht.1.restored ht.2 l, ht.2.of_subset (t.cards_restored l) ?_⟩
    rw [byUid_restored]
    exact List.Subset.refl _
  · exact hdealt

/-- An operation at ports of cards that were made plugs wires in there only. -/
theorem plugged_after {s : Scene} (h : s.Plugged) (hlisted : s.Listed) {op : Operation}
    (hop : s.Handles op) : (s.after op).Plugged := by
  have hending (he : s.EndsWire op)
      (hfinish : ∀ r, s.target? op = some r → r.card < s.cards.length) :
      (s.after op).Plugged := by
    rcases he with ⟨start, finish, hj, ha⟩ | ⟨_, ha | ha⟩
    · obtain ⟨⟨p, hp, rfl⟩, htarget, _⟩ := joined?_eq_some_iff.mp hj
      have hstart : p.start.card < s.withoutPreview.cards.length := by simpa using h.drawn p hp
      have htarget : finish.card < s.withoutPreview.cards.length := by
        simpa using hfinish finish htarget
      have hjoin := h.withoutPreview.joinPorts (Edit.linkBetween s p.start finish) hstart htarget
      rw [ha]
      exact hjoin.keep (Nat.le_refl _) (List.Subset.refl _) fun _ hp => hp
    · rwa [ha]
    · rw [ha]
      exact h.withoutPreview
  cases op with
  | select item on =>
    change (s.chosen item on).Plugged
    unfold chosen
    split
    · have heq := s.mark_eq item on
      refine h.keep (Nat.le_of_eq (s.length_cards_mark item on).symm) ?_ ?_
      all_goals rw [heq]
      · exact List.Subset.refl _
      · exact fun _ hp => hp
    · exact h
  | add type p uid given =>
    change (s.added type p uid given).Plugged
    unfold added withUid
    cases s.catalog.entry type with
    | error fault => exact h
    | ok fs =>
      cases uid.isEmpty with
      | true =>
        have hminted : Plugged { s with minted := s.minted + 1 } := ⟨h.ports, h.drawn⟩
        exact hminted.withCards _
      | false => exact h.withCards _
  | beginWire r =>
    change (s.begun r).Plugged
    refine ⟨?_, fun p hp => ?_⟩
    · rw [begun_eq]
      exact h.ports
    · rw [cards_begun]
      unfold begun at hp
      cases hside : r.side with
      | input =>
        rw [hside] at hp
        exact h.drawn p hp
      | output =>
        rw [hside] at hp
        rw [← Option.some.inj hp]
        exact hop
  | completeWire r =>
    refine hending (s.endsWire_completeWire r) fun r' hr' => ?_
    rw [← Option.some.inj hr']
    exact hop
  | releaseAt left p =>
    refine hending (s.endsWire_releaseAt left p) fun r hr => ?_
    dsimp only [target?] at hr
    split at hr
    · exact hlisted.cards _ (mem_items_of_portsNear (List.mem_of_find?_eq_some hr))
    · exact nomatch hr
  | cancelPreview => exact h.withoutPreview
  | deleteSelected => exact h.withoutSelected
  | load d => exact h.loaded d
  | announceParams c => exact h

/-! ## new cards -/

/-- The cards of new blocks are new. -/
theorem mem_byUid_withCards (nodes : List Node) (s : Scene) {e : Text × Nat}
    (he : e ∈ (s.withCards nodes).byUid) : e ∈ s.byUid ∨ s.cards.length ≤ e.2 := by
  induction nodes generalizing s with
  | nil => exact .inl he
  | cons n rest ih =>
    unfold withCards at he
    cases hc : Edit.cardFor s.catalog n with
    | error fault =>
      rw [hc] at he
      exact .inl he
    | ok c =>
      rw [hc] at he
      have hlength : (s.addCard c).cards.length = s.cards.length + 1 := by simp [addCard]
      rcases ih (s.addCard c) he with hold | hnew
      · rcases Assoc.mem_put s.byUid hold with hold | rfl
        · exact .inl hold
        · exact .inr (Nat.le_refl _)
      · exact .inr (by omega)

/-- Nothing hangs on the cards of a diagram before its links are looked at. -/
theorem wiresAt_dealt {s : Scene} (h : s.Plugged) (d : Diagram) {r : PortRef}
    (hr : r.card ∈ Assoc.values (s.dealt d).byUid) : (s.dealt d).wiresAt r = [] := by
  obtain ⟨uid, he⟩ := Assoc.mem_values.mp hr
  have hcards : (s.cleared d.links).cards = s.cards := s.cards_withoutPreview
  have hnew : s.cards.length ≤ r.card := by
    rcases mem_byUid_withCards d.nodes (s.cleared d.links) he with hold | hnew
    · exact absurd hold List.not_mem_nil
    · rwa [hcards] at hnew
  have hplugged : (s.dealt d).plugged = s.plugged := by
    rw [dealt, withCards_eq]
    exact s.plugged_withoutPreview
  refine List.eq_nil_iff_forall_not_mem.mpr fun w hw => ?_
  rw [mem_wiresAt, hplugged] at hw
  have hold : r.card < s.cards.length := h.ports _ hw
  omega

end Scene

/-- Along a run from an empty scene, at ports of cards that were made, wires hang on such cards
only. -/
theorem Session.plugged_run (catalog : Catalog) (listener : Option Listener) (order : Arrangement)
    {ops : List Operation}
    (hops : Always (fun t op => t.scene.Handles op) (blank catalog listener order) ops) :
    ((blank catalog listener order).run ops).scene.Plugged := by
  have hblank :
      (blank catalog listener order).scene.Plugged ∧ (blank catalog listener order).scene.Listed :=
    ⟨⟨nofun, nofun⟩, Scene.listed_blank catalog listener order⟩
  have hstep (t : Session) (op : Operation) (ht : t.scene.Plugged ∧ t.scene.Listed)
      (hop : t.scene.Handles op) : (t.perform op).scene.Plugged ∧ (t.perform op).scene.Listed := by
    rw [scene_perform]
    exact ⟨Scene.plugged_after ht.1 ht.2 hop, Scene.listed_after ht.2 op⟩
  exact (run_keeps hstep hblank hops (List.prefix_refl ops)).1

end BlockSketch.Canvas
