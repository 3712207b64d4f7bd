import BlockSketch.Proofs.Canvas.Blocks

/-!
# BlockSketch.Proofs.Canvas.Loading

Opening a diagram.  First the blocks get their cards, then the links their wires; a
link that names a port which no card has is dropped.  When a block has no card the
opening stops before the links are looked at.

* `links_loaded` — the links that are kept when every block has its card;
* `loaded_of_stopped` — what is there when one has not.
-/

namespace BlockSketch.Canvas.Scene

/-- Whether both ports that a link names are there. -/
def restorable (s : Scene) (l : Link) : Bool :=
  (s.portAt? l.fromUid l.fromPort .output).isSome && (s.portAt? l.toUid l.toPort .input).isSome

/-- The scene in which the blocks of a diagram have their cards, and no link a wire. -/
def dealt (s : Scene) (d : Diagram) : Scene := (s.cleared d.links).withCards d.nodes

theorem portAt?_congr {s t : Scene} (hcards : t.cards = s.cards) (huids : t.byUid = s.byUid)
    (uid name : Text) (side : Side) : t.portAt? uid name side = s.portAt? uid name side := by
  unfold portAt? portOn? card
  rw [hcards, huids]

theorem restorable_congr {s t : Scene} (hcards : t.cards = s.cards) (huids : t.byUid = s.byUid)
    (l : Link) : t.restorable l = s.restorable l := by
  unfold restorable
  rw [portAt?_congr hcards huids, portAt?_congr hcards huids]

/-- A link whose two ports are there gets a wire between them. -/
theorem restored_of_restorable {s : Scene} {l : Link} (h : s.restorable l = true) :
    ∃ start finish, s.portAt? l.fromUid l.fromPort .output = some start ∧
      s.portAt? l.toUid l.toPort .input = some finish ∧
        s.restored l = s.joinPorts l start finish := by
  unfold restorable at h
  rw [Bool.and_eq_true] at h
  obtain ⟨start, hs⟩ := Option.isSome_iff_exists.mp h.1
  obtain ⟨finish, hf⟩ := Option.isSome_iff_exists.mp h.2
  refine ⟨start, finish, hs, hf, ?_⟩
  unfold restored
  rw [hs, hf]

/-- A link one of whose ports is missing is dropped. -/
theorem restored_of_not_restorable {s : Scene} {l : Link} (h : s.restorable l = false) :
    s.restored l = { s with links := s.links.filter fun other => other ≠ l } := by
  unfold restored
  split
  · next start finish hs hf => simp [restorable, hs, hf] at h
  · rfl

theorem links_restored (s : Scene) (l : Link) :
    (s.restored l).links = s.links.filter fun other => other ≠ l || s.restorable other := by
  cases h : s.restorable l with
  | true =>
    obtain ⟨start, finish, _, _, hr⟩ := restored_of_restorable h
    rw [hr]
    refine (List.filter_eq_self.mpr fun other _ => ?_).symm
    by_cases ho : other = l
    · simp [ho, h]
    · simp [ho]
  | false =>
    rw [restored_of_not_restorable h]
    refine List.filter_congr fun other _ => ?_
    by_cases ho : other = l
    · simp [ho, h]
    · simp [ho]

theorem links_restoreds (ls : List Link) (s : Scene) :
    (ls.foldl restored s).links = s.links.filter fun l => l ∉ ls || s.restorable l := by
  induction ls generalizing s with
  | nil => simp [List.filter_eq_self.mpr]
  | cons l ls ih =>
    have hsame (k : Link) : (s.restored l).restorable k = s.restorable k :=
      restorable_congr (s.cards_restored l) (s.byUid_restored l) k
    rw [List.foldl_cons, ih, links_restored, List.filter_filter]
    refine List.filter_congr fun k _ => ?_
    rw [hsame]
    by_cases hk : k = l
    · cases h : s.restorable k <;> simp [hk]
    · simp [hk]

/-- When every block has its card, the links that name two ports are kept, in order. -/
theorem links_loaded {s : Scene} {d : Diagram} (h : s.showsAll d = true) :
    (s.loaded d).links = d.links.filter (s.dealt d).restorable := by
  unfold loaded
  rw [if_pos h, links_restoreds, links_withCards]
  refine List.filter_congr fun l hl => ?_
  have hmem : l ∈ d.links := hl
  simp [hmem, dealt]

theorem loaded_of_stopped {s : Scene} {d : Diagram} (h : s.showsAll d = false) :
    s.loaded d = s.dealt d := by
  unfold loaded
  rw [h]
  rfl

theorem byUid_loaded (s : Scene) (d : Diagram) : (s.loaded d).byUid = (s.dealt d).byUid := by
  unfold loaded
  split
  · exact byUid_restoreds _ _
  · rfl

/-- The blocks that have a card after a diagram was opened. -/
theorem mem_keys_dealt (s : Scene) (d : Diagram) (uid : Text) :
    uid ∈ Assoc.keys (s.dealt d).byUid ↔ uid ∈ (cardable s.catalog d.nodes).map Node.uid := by
  unfold dealt
  rw [mem_keys_withCards, Edit.catalog_cleared]
  have hnone : uid ∉ Assoc.keys (s.cleared d.links).byUid := List.not_mem_nil
  exact or_iff_right hnone

/-- The blocks that a restorable link names have cards. -/
theorem mem_keys_of_restorable {s : Scene} {l : Link} (h : s.restorable l = true) :
    l.fromUid ∈ Assoc.keys s.byUid ∧ l.toUid ∈ Assoc.keys s.byUid := by
  have hport {uid name : Text} {side : Side} (hp : (s.portAt? uid name side).isSome = true) :
      uid ∈ Assoc.keys s.byUid := by
    unfold portAt? at hp
    cases hg : Assoc.get? s.byUid uid with
    | none => simp [hg] at hp
    | some c => exact Assoc.mem_keys_of_get? hg
  unfold restorable at h
  rw [Bool.and_eq_true] at h
  exact ⟨hport h.1, hport h.2⟩

/-! ## the ports that a link names -/

theorem name_of_port? {c : Card} {side : Side} {name : Text} {index : Nat}
    (h : c.port? side name = some index) : ((c.ports side).getD index default).name = name := by
  have hfold (es : List (Nat × PortSpec)) (found : Option Nat)
      (hf : es.foldl (fun found e => if e.2.name = name then some e.1 else found) found =
        some index) :
      found = some index ∨ ∃ p, (index, p) ∈ es ∧ p.name = name := by
    induction es generalizing found with
    | nil => exact .inl hf
    | cons e es ih =>
      rcases ih _ hf with hfound | ⟨p, hp, hname⟩
      · dsimp only at hfound
        split at hfound
        · next hname => exact .inr ⟨e.2, Option.some.inj hfound ▸ List.mem_cons_self, hname⟩
        · exact .inl hfound
      · exact .inr ⟨p, List.mem_cons_of_mem _ hp, hname⟩
  rcases hfold _ none h with hnone | ⟨p, hp, hname⟩
  · exact nomatch hnone
  · obtain ⟨i, hi, heq⟩ := List.mem_mapIdx.mp hp
    obtain ⟨rfl, rfl⟩ := Prod.mk.inj heq
    rw [List.getD_eq_getElem?_getD, List.getElem?_eq_getElem hi]
    exact hname

/-- The port that an end of a link names belongs to the block of that end and has that name. -/
theorem portAt?_spec {s : Scene} (h : s.Named) {uid name : Text} {side : Side} {r : PortRef}
    (hr : s.portAt? uid name side = some r) :
    r.side = side ∧ r.card < s.cards.length ∧ s.uidAt r = uid ∧ (s.portSpec r).name = name := by
  obtain ⟨c, hc, hport⟩ := Option.bind_eq_some_iff.mp hr
  obtain ⟨index, hindex, rfl⟩ := Option.map_eq_some_iff.mp hport
  obtain ⟨hlt, huid⟩ := h _ (Assoc.mem_of_get? hc)
  exact ⟨rfl, hlt, huid, name_of_port? hindex⟩

end BlockSketch.Canvas.Scene
