import Mathlib.Data.List.Nodup
import BlockSketch.Proofs.Canvas.Removal

/-!
# BlockSketch.Proofs.Canvas.Mirror

The scene mirrors the diagram.  In every state of a run the register of cards is the
list of the blocks, and what hangs on a card are the registered wires that end there.
The register of wires is the list of the links as well, unless a diagram with links is
opened that stops half way: its links are there then, and none of them has a wire.

* `faithful_after` — an operation on what is there keeps the books;
* `matched_after_iff` — it keeps a wire for every link exactly when it is not such an
  opening;
* `mirrored_run` — both for all states of a run.
-/

namespace BlockSketch.Canvas

namespace Scene

/-! ## opening a diagram -/

/-- Nothing that is cleared stays in the books. -/
theorem Faithful.cleared {s : Scene} (h : s.Faithful) (links : List Link) :
    (s.cleared links).Faithful := by
  have h' := h.withoutPreview
  refine
    { named := fun e he => absurd he List.not_mem_nil, uids := List.nodup_nil, cards := fun c => ?_,
      keys := List.nodup_nil, joins := fun e he => absurd he List.not_mem_nil,
      wires := fun w hw => absurd hw List.not_mem_nil, plugs := fun r w hw => ?_,
      holds := fun c w hw => ?_, drawn := h'.drawn }
  · simp [Scene.cleared, Assoc.values]
  · exact ⟨(h'.plugs r w hw).1, fun hc => absurd hc List.not_mem_nil⟩
  · exact ⟨(h'.holds c w hw).1, fun hc => absurd hc List.not_mem_nil⟩

/-- The cards of a diagram are put up faithfully when it names no block twice. -/
theorem Faithful.dealt {s : Scene} (h : s.Faithful) {d : Diagram} (huids : d.uids.Nodup) :
    (s.dealt d).Faithful := (h.cleared d.links).withCards huids fun _ _ => List.not_mem_nil

/-- A link of the diagram is restored faithfully when its key is new. -/
theorem Faithful.restored {s : Scene} (h : s.Faithful) {l : Link} (hl : l ∈ s.links)
    (hkey : l.key ∉ Assoc.keys s.byKey) : (s.restored l).Faithful := by
  cases hr : s.restorable l with
  | true =>
    obtain ⟨start, finish, hstart, hfinish, heq⟩ := restored_of_restorable hr
    obtain ⟨hout, hs, hfrom, hfromPort⟩ := portAt?_spec h.named hstart
    obtain ⟨hin, hf, hto, htoPort⟩ := portAt?_spec h.named hfinish
    have hlink : Edit.linkBetween s start finish = l := by
      unfold Edit.linkBetween
      rw [hfrom, hfromPort, hto, htoPort]
    rw [heq]
    exact h.joinPorts hl hkey hout hin hs hf hlink
  | false =>
    rw [restored_of_not_restorable hr]
    refine h.withLinks _ fun other ho hreg => List.mem_filter.mpr ⟨ho, ?_⟩
    have hne : other ≠ l := fun hsame => hkey (hsame ▸ hreg)
    simp [hne]

/-- A link with a new key is registered when its wire is put up. -/
theorem keys_restored {s : Scene} {l : Link} (hkey : l.key ∉ Assoc.keys s.byKey) :
    Assoc.keys (s.restored l).byKey =
      Assoc.keys s.byKey ++ ([l].filter s.restorable).map Link.key := by
  cases hr : s.restorable l with
  | true =>
    obtain ⟨start, finish, _, _, heq⟩ := restored_of_restorable hr
    rw [heq, List.filter_cons_of_pos hr]
    exact Assoc.keys_put_of_not_mem s.byKey _ hkey
  | false =>
    rw [restored_of_not_restorable hr]
    simp [hr]

/-- Links with keys of their own get their wires in order. -/
theorem Faithful.restoreds {s : Scene} (h : s.Faithful) {ls : List Link}
    (hkeys : (ls.map Link.key).Nodup) (hls : ∀ l ∈ ls, l ∈ s.links ∧ l.key ∉ Assoc.keys s.byKey) :
    (ls.foldl Scene.restored s).Faithful ∧
      Assoc.keys (ls.foldl Scene.restored s).byKey =
        Assoc.keys s.byKey ++ (ls.filter s.restorable).map Link.key := by
  induction ls generalizing s with
  | nil => exact ⟨h, by simp⟩
  | cons l ls ih =>
    obtain ⟨hfirst, hrest⟩ := List.nodup_cons.mp hkeys
    obtain ⟨hl, hkey⟩ := hls l List.mem_cons_self
    have hne {other : Link} (ho : other ∈ ls) : other.key ≠ l.key := fun hsame =>
      hfirst (List.mem_map.mpr ⟨other, ho, hsame⟩)
    have hnext : ∀ other ∈ ls,
        other ∈ (s.restored l).links ∧ other.key ∉ Assoc.keys (s.restored l).byKey := by
      intro other ho
      obtain ⟨hmem, hnew⟩ := hls other (List.mem_cons_of_mem _ ho)
      have hdiffer : other ≠ l := fun hsame => hne ho (by rw [hsame])
      refine ⟨?_, ?_⟩
      · rw [links_restored]
        exact List.mem_filter.mpr ⟨hmem, by simp [hdiffer]⟩
      · rw [keys_restored hkey, List.mem_append, not_or]
        refine ⟨hnew, fun hin => ?_⟩
        obtain ⟨k, hk, hsame⟩ := List.mem_map.mp hin
        rw [List.mem_singleton.mp (List.mem_filter.mp hk).1] at hsame
        exact hne ho hsame.symm
    obtain ⟨hfaithful, hafter⟩ := ih (h.restored hl hkey) hrest hnext
    refine ⟨hfaithful, ?_⟩
    have hsame : (s.restored l).restorable = s.restorable := funext fun k =>
      restorable_congr (s.cards_restored l) (s.byUid_restored l) k
    rw [List.foldl_cons, hafter, keys_restored hkey, hsame, List.append_assoc, ← List.map_append,
      ← List.filter_append]
    rfl

/-- A diagram that names no block and no link twice is opened faithfully. -/
theorem Faithful.loaded {s : Scene} (h : s.Faithful) {d : Diagram} (huids : d.uids.Nodup)
    (hkeys : (d.links.map Link.key).Nodup) : (s.loaded d).Faithful := by
  cases hall : s.showsAll d with
  | true =>
    unfold Scene.loaded
    rw [if_pos hall]
    refine ((h.dealt huids).restoreds hkeys fun l hl => ⟨?_, ?_⟩).1
    · rw [Scene.dealt, links_withCards]
      exact hl
    · rw [Scene.dealt, byKey_withCards]
      exact List.not_mem_nil
  | false =>
    rw [loaded_of_stopped hall]
    exact h.dealt huids

/-! ## operations on what is there -/

/-- An operation on what is there: a new block has an identifier that no block has, a wire is begun
and ended at ports of cards that were made, and a diagram that is opened names no block and no link
twice. -/
def Allows (s : Scene) : Operation → Prop
  | .add _ _ uid _ => (s.withUid uid).1 ∉ s.diagram.uids
  | .beginWire r => r.card < s.cards.length
  | .completeWire r => r.card < s.cards.length
  | .load d => d.uids.Nodup ∧ (d.links.map Link.key).Nodup
  | _ => True

instance (s : Scene) : (op : Operation) → Decidable (s.Allows op)
  | .add _ _ uid _ => inferInstanceAs (Decidable ((s.withUid uid).1 ∉ s.diagram.uids))
  | .beginWire r | .completeWire r => inferInstanceAs (Decidable (r.card < s.cards.length))
  | .load d => inferInstanceAs (Decidable (d.uids.Nodup ∧ (d.links.map Link.key).Nodup))
  | .select .. | .releaseAt .. | .cancelPreview | .deleteSelected | .announceParams _ =>
    .isTrue trivial

/-- A port can only be hit on a card in the scene. -/
theorem mem_items_of_portsNear {s : Scene} {p : Point} {r : PortRef} (hr : r ∈ s.portsNear p) :
    .card r.card ∈ s.items := by
  obtain ⟨item, hi, hmem⟩ := List.mem_flatMap.mp (List.mem_filter.mp hr).1
  have hitem := List.mem_reverse.mp hi
  cases item with
  | wire w => exact nomatch hmem
  | card c =>
    have hc : r.card = c := by
      rcases List.mem_append.mp (List.mem_reverse.mp hmem) with hin | hout
      · obtain ⟨i, _, rfl⟩ := List.mem_map.mp hin
        rfl
      · obtain ⟨i, _, rfl⟩ := List.mem_map.mp hout
        rfl
    rwa [hc]

/-- A wire is ended at a port of a card that was made. -/
theorem Faithful.target_lt {s : Scene} (h : s.Faithful) {op : Operation} (hop : s.Allows op)
    {r : PortRef} (hr : s.target? op = some r) : r.card < s.cards.length := by
  cases op with
  | completeWire r' => exact Option.some.inj hr ▸ hop
  | releaseAt left p =>
    dsimp only [target?] at hr
    split at hr
    · exact h.card_lt ((h.cards r.card).mp (mem_items_of_portsNear (List.mem_of_find?_eq_some hr)))
    · exact nomatch hr
  | _ => exact nomatch hr

/-- One operation on what is there keeps the books. -/
theorem faithful_after {s : Scene} (h : s.Faithful) {op : Operation} (hop : s.Allows op) :
    (s.after op).Faithful := by
  have hending (he : s.EndsWire op) : (s.after op).Faithful := by
    rcases he with ⟨start, finish, hj, ha⟩ | ⟨_, ha | ha⟩
    · obtain ⟨⟨p, hp, rfl⟩, htarget, hr⟩ := joined?_eq_some_iff.mp hj
      rw [ha]
      exact h.linked (h.drawn p hp).2 (h.target_lt hop htarget) hr
    · rw [ha]
      exact h
    · rw [ha]
      exact h.withoutPreview
  cases op with
  | select item on =>
    change (s.chosen item on).Faithful
    unfold chosen
    split
    · exact h.mark item on
    · exact h
  | add type p uid given =>
    refine h.added type p given ?_
    rw [← uids_diagram h.named]
    exact hop
  | beginWire r => exact h.begun hop
  | completeWire r => exact hending (s.endsWire_completeWire r)
  | releaseAt left p => exact hending (s.endsWire_releaseAt left p)
  | cancelPreview => exact h.withoutPreview
  | deleteSelected => exact h.withoutSelected
  | load d => exact h.loaded hop.1 hop.2
  | announceParams c => exact h

/-! ## a wire for every link -/

/-- The keys registered are those of the links, in order. -/
def Matched (s : Scene) : Prop := Assoc.keys s.byKey = s.links.map Link.key

theorem Matched.of_eq {s t : Scene} (h : s.Matched) (hkeys : t.byKey = s.byKey)
    (hlinks : t.links = s.links) : t.Matched := by
  unfold Matched
  rw [hkeys, hlinks]
  exact h

/-- In a matched scene the link of a key is the one that its wire shows. -/
theorem Faithful.link_of_matched {s : Scene} (h : s.Faithful) (hm : s.Matched) {l : Link}
    (hl : l ∈ s.links) : ∃ w, (l.key, w) ∈ s.byKey ∧ s.Joins w l := by
  have hkey : l.key ∈ Assoc.keys s.byKey := hm ▸ List.mem_map.mpr ⟨l, hl, rfl⟩
  obtain ⟨e, he, hsame⟩ := List.mem_map.mp hkey
  obtain ⟨l', hl', hkey', hj⟩ := h.joins e he
  have hnodup : (s.links.map Link.key).Nodup := hm ▸ h.keys
  have hl : l' = l := List.inj_on_of_nodup_map hnodup hl' hl (hkey'.trans hsame)
  exact ⟨e.2, hsame ▸ he, hl ▸ hj⟩

/-- A wire takes its entry and its link along together. -/
theorem Matched.withoutWire {s : Scene} (hm : s.Matched) (h : s.Faithful) {w : Nat}
    (hw : s.Owns w) :
    (s.withoutWire w).Matched := by
  cases hl : (s.wire w).link with
  | none => rwa [withoutWire_of_none hl]
  | some l =>
    unfold Matched
    rw [byKey_withoutWire hl, Assoc.keys_erase, hm, List.filter_map, withoutWire_of_some hl]
    refine congrArg (List.map Link.key) (List.filter_congr fun other ho => ?_)
    -- another link with the same key would be the link of the same wire
    have hkey : other.key = l.key ↔ other = l := by
      refine ⟨fun hsame => ?_, congrArg Link.key⟩
      obtain ⟨w', he, hj⟩ := h.link_of_matched hm ho
      have hlink := hj.link
      have hwire : w' = w := hw l hl _ he hsame
      rw [hwire, hl] at hlink
      exact (Option.some.inj hlink).symm
    simp [hkey]

/-- A card that no registered wire touches takes no link along that has an entry. -/
theorem Matched.withoutCard {s : Scene} (hm : s.Matched) (h : s.Faithful) {c : Nat}
    (huntouched : s.Untouched (s.card c).node.uid) : (s.withoutCard c).Matched := by
  refine hm.of_eq rfl (List.filter_eq_self.mpr fun l hl => ?_)
  obtain ⟨w, he, hj⟩ := h.link_of_matched hm hl
  rw [huntouched _ he l hj.link]
  rfl

/-- Deleting the selection takes entries and links along together. -/
theorem Matched.withoutSelected {s : Scene} (hm : s.Matched) (h : s.Faithful) :
    s.withoutSelected.Matched := by
  have hwire (s : Scene) (w : Nat) (hs : s.Faithful ∧ s.Matched) (hw : s.Owns w) :
      (s.withoutWire w).Faithful ∧ (s.withoutWire w).Matched :=
    ⟨hs.1.withoutWire hw, hs.2.withoutWire hs.1 hw⟩
  have hblock (s : Scene) (c : Nat) (hs : s.Faithful ∧ s.Matched) (hc : s.OwnsUid c) :
      (s.withoutBlock c).Faithful ∧ (s.withoutBlock c).Matched := by
    obtain ⟨hfaithful, hmatched⟩ := withoutWires_keep hwire hs (hs.1.owns_of_touching _)
    exact ⟨hs.1.withoutBlock hc, hmatched.withoutCard hfaithful (hs.1.untouched_card c)⟩
  exact (h.withoutSelected_keep hwire hblock ⟨h, hm⟩).2

/-- A link that is not refused comes last among the links, and last in the register. -/
theorem Matched.linked {s : Scene} (hm : s.Matched) {start finish : PortRef}
    (hr : Edit.refusal? s start finish = none) : (s.linked start finish).Matched := by
  have hkey : (Edit.linkBetween s start finish).key ∉ Assoc.keys s.byKey :=
    (refusal?_eq_none_iff.mp hr).2.2.2.2.2.1
  unfold Matched
  rw [links_linked]
  change Assoc.keys (Assoc.put s.withoutPreview.byKey _ _) = _
  rw [byKey_withoutPreview, Assoc.keys_put_of_not_mem s.byKey _ hkey, hm]
  simp

/-- A diagram that is opened has a wire for every link, unless the opening stops; then no link has
one. -/
theorem Faithful.matched_loaded_iff {s : Scene} (h : s.Faithful) {d : Diagram}
    (huids : d.uids.Nodup) (hkeys : (d.links.map Link.key).Nodup) :
    (s.loaded d).Matched ↔ s.showsAll d = true ∨ d.links = [] := by
  have hlinks : (s.dealt d).links = d.links := by rw [Scene.dealt, links_withCards]; rfl
  have hnone : (s.dealt d).byKey = [] := by rw [Scene.dealt, byKey_withCards]; rfl
  unfold Matched
  cases hall : s.showsAll d with
  | true =>
    refine iff_of_true ?_ (.inl rfl)
    have hwires := ((h.dealt huids).restoreds hkeys fun l hl =>
      ⟨hlinks ▸ hl, by rw [hnone]; exact List.not_mem_nil⟩).2
    rw [links_loaded hall, Scene.loaded, if_pos hall]
    rw [hnone] at hwires
    exact hwires
  | false =>
    rw [loaded_of_stopped hall, hlinks, hnone]
    simp [Assoc.keys, eq_comm]

/-- Every operation but the opening of a diagram keeps a wire for every link. -/
theorem matched_after {s : Scene} (h : s.Faithful) (hm : s.Matched) {op : Operation}
    (hop : ∀ d, op ≠ .load d) : (s.after op).Matched := by
  have hending (he : s.EndsWire op) : (s.after op).Matched := by
    rcases he with ⟨start, finish, hj, ha⟩ | ⟨_, ha | ha⟩
    · rw [ha]
      exact hm.linked (joined?_eq_some_iff.mp hj).2.2
    · rw [ha]
      exact hm
    · rw [ha]
      exact hm.of_eq s.byKey_withoutPreview s.links_withoutPreview
  cases op with
  | select item on => exact hm.of_eq (s.byKey_chosen item on) (s.links_chosen item on)
  | add type p uid given =>
    exact hm.of_eq (s.byKey_added type p uid given) (s.links_added type p uid given)
  | beginWire r => exact hm.of_eq (s.byKey_begun r) (s.links_begun r)
  | completeWire r => exact hending (s.endsWire_completeWire r)
  | releaseAt left p => exact hending (s.endsWire_releaseAt left p)
  | cancelPreview => exact hm.of_eq s.byKey_withoutPreview s.links_withoutPreview
  | deleteSelected => exact hm.withoutSelected h
  | load d => exact absurd rfl (hop d)
  | announceParams c => exact hm

/-- One operation keeps a wire for every link, unless it opens a diagram that has links and stops
before it comes to them. -/
theorem matched_after_iff {s : Scene} (h : s.Faithful) (hm : s.Matched) {op : Operation}
    (hop : s.Allows op) :
    (s.after op).Matched ↔ ∀ d, op = .load d → s.showsAll d = true ∨ d.links = [] := by
  cases op with
  | load d =>
    rw [after, h.matched_loaded_iff hop.1 hop.2]
    constructor
    · rintro hall _ ⟨rfl⟩
      exact hall
    · intro hall
      exact hall d rfl
  | _ => exact iff_of_true (matched_after h hm (by simp)) (by simp)

/-! ## what the books say of the diagram -/

end Scene

/-! ## runs -/

namespace Session

/-- An operation on what is there when it is performed. -/
def Fair (t : Session) (op : Operation) : Prop := t.scene.Allows op

instance (t : Session) (op : Operation) : Decidable (t.Fair op) :=
  inferInstanceAs (Decidable (t.scene.Allows op))

/-- Performing an operation on what is there keeps the books, also where it fails. -/
theorem faithful_perform {t : Session} {op : Operation} (h : t.scene.Faithful) (hop : t.Fair op) :
    (t.perform op).scene.Faithful := by
  rw [scene_perform]
  exact Scene.faithful_after h hop

/-- Books that are kept in full stay so, unless opening a diagram with links stops half way. -/
theorem matched_perform_iff {t : Session} {op : Operation} (h : t.scene.Faithful ∧ t.scene.Matched)
    (hop : t.Fair op) : (t.perform op).scene.Faithful ∧ (t.perform op).scene.Matched ↔
      ∀ d, op = .load d → op.Stops t → d.links = [] := by
  rw [and_iff_right (faithful_perform h.1 hop), scene_perform, Scene.matched_after_iff h.1 h.2 hop]
  refine forall_congr' fun d => forall_congr' fun hload => ?_
  rw [hload, stops_load_iff]
  cases t.scene.showsAll d <;> simp

end Session

end BlockSketch.Canvas
