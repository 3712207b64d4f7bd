import BlockSketch.Proofs.Canvas.Faithful

/-!
# BlockSketch.Proofs.Canvas.Removal

Removing keeps the books.  A wire is taken off its ports, off their cards and out of
the register at once; a block goes after the wires of all links that touch it.

* `Faithful.withoutWire`, `Faithful.withoutBlock` — the two removals;
* `Faithful.withoutSelected` — deleting whatever is selected.
-/

namespace BlockSketch.Canvas.Scene

/-! ## removing wires -/

/-- No other wire is registered under the key of a wire's link. -/
def Owns (s : Scene) (w : Nat) : Prop :=
  ∀ l, (s.wire w).link = some l → ∀ e ∈ s.byKey, e.1 = l.key → e.2 = w

/-- Where the books are kept, no two wires have an entry of one key. -/
theorem Faithful.owns {s : Scene} (h : s.Faithful) {w : Nat} (hw : w ∈ Assoc.values s.byKey) :
    s.Owns w := by
  intro l hl e he hkey
  obtain ⟨key, hmem⟩ := Assoc.mem_values.mp hw
  obtain ⟨l', _, hkey', hj⟩ := h.joins _ hmem
  obtain rfl : l = l' := Option.some.inj (hl.symm.trans hj.link)
  have hsame : e.1 = key := hkey.trans hkey'
  have he' : (key, e.2) ∈ s.byKey := hsame ▸ he
  exact Assoc.eq_of_mem h.keys he' hmem

section WithoutWire

variable {s : Scene} {w : Nat} {l : Link} (hl : (s.wire w).link = some l)
include hl

/-- A removed wire no longer hangs on the ports it ended at; nothing else moves. -/
theorem mem_wiresAt_withoutWire (r : PortRef) (w' : Nat) :
    w' ∈ (s.withoutWire w).wiresAt r ↔ w' ∈ s.wiresAt r ∧ ¬ (w' = w ∧ r ∈ (s.wire w).ends) := by
  rw [mem_wiresAt, mem_wiresAt, withoutWire_of_some hl]
  simp only [List.mem_filter, Bool.not_eq_true', decide_eq_false_iff_not]

/-- Nor on their cards. -/
theorem mem_wiresOn_withoutWire (c w' : Nat) :
    w' ∈ (s.withoutWire w).wiresOn c ↔
      w' ∈ s.wiresOn c ∧ ¬ (w' = w ∧ c ∈ (s.wire w).ends.map PortRef.card) := by
  rw [mem_wiresOn, mem_wiresOn, withoutWire_of_some hl]
  simp only [List.mem_filter, Bool.not_eq_true', decide_eq_false_iff_not]

theorem byKey_withoutWire : (s.withoutWire w).byKey = Assoc.erase s.byKey l.key := by
  rw [withoutWire_of_some hl]

/-- Removing a wire leaves the others as they were. -/
theorem wire_withoutWire_of_ne {w' : Nat} (hne : w ≠ w') :
    (s.withoutWire w).wire w' = s.wire w' := by
  rw [withoutWire_of_some hl]
  exact wire_setWire_of_ne _ hne

end WithoutWire

/-- A wire keeps its link when it is taken off its ports. -/
theorem link_withoutWire (s : Scene) (w w' : Nat) :
    ((s.withoutWire w).wire w').link = (s.wire w').link := by
  cases hl : (s.wire w).link with
  | none => rw [withoutWire_of_none hl]
  | some l =>
    by_cases hne : w = w'
    · subst hne
      rw [withoutWire_of_some hl]
      simp only [wire, List.getD_eq_getElem?_getD, List.getElem?_modify]
      cases s.wires[w]? <;> simp
    · rw [wire_withoutWire_of_ne hl hne]

/-- Removing a wire gives its key to no other. -/
theorem Owns.withoutWire {s : Scene} {w' : Nat} (h : s.Owns w') (w : Nat) :
    (s.withoutWire w).Owns w' := by
  intro l' hl' e he hkey
  rw [link_withoutWire] at hl'
  refine h l' hl' e ?_ hkey
  cases hl : (s.wire w).link with
  | none => rwa [withoutWire_of_none hl] at he
  | some l =>
    rw [byKey_withoutWire hl] at he
    exact ((Assoc.mem_erase _ _ _).mp he).1

/-- A wire whose key no other has can be removed. -/
theorem Faithful.withoutWire {s : Scene} (h : s.Faithful) {w : Nat} (hw : s.Owns w) :
    (s.withoutWire w).Faithful := by
  cases hl : (s.wire w).link with
  | none => rwa [withoutWire_of_none hl]
  | some l =>
    have heq := withoutWire_of_some hl
    have hlength : (s.withoutWire w).wires.length = s.wires.length := by
      rw [heq]
      simp
    -- what is still registered is another wire, under another key
    have hother {e : Text × Nat} (he : e ∈ (s.withoutWire w).byKey) :
        e ∈ s.byKey ∧ e.1 ≠ l.key ∧ w ≠ e.2 := by
      rw [byKey_withoutWire hl, Assoc.mem_erase] at he
      obtain ⟨l', _, hkey, hj⟩ := h.joins e he.1
      refine ⟨he.1, he.2, fun hsame => he.2 ?_⟩
      have hlink := hj.link
      rw [← hsame, hl] at hlink
      rw [← hkey, Option.some.inj hlink]
    have hstays {w' : Nat} (hne : w' ≠ w) (hv : w' ∈ Assoc.values s.byKey) :
        w' ∈ Assoc.values (s.withoutWire w).byKey := by
      obtain ⟨key, he⟩ := Assoc.mem_values.mp hv
      refine Assoc.mem_values.mpr ⟨key, ?_⟩
      rw [byKey_withoutWire hl, Assoc.mem_erase]
      exact ⟨he, fun hkey => hne (hw l hl _ he hkey)⟩
    have hhang {c w' : Nat} {fits : List PortRef → Prop} (hs : s.MayHang c w' fits)
        (hnot : ¬ (w' = w ∧ fits (s.wire w).ends)) : (s.withoutWire w).MayHang c w' fits := by
      unfold MayHang
      rw [cards_withoutWire, byUid_withoutWire]
      refine ⟨hs.1, fun hc => ?_⟩
      obtain ⟨hv, hfits⟩ := hs.2 hc
      have hne : w' ≠ w := fun hsame => hnot ⟨hsame, hsame ▸ hfits⟩
      rw [wire_withoutWire_of_ne hl hne.symm]
      exact ⟨hstays hne hv, hfits⟩
    refine
      { named := ?_, uids := ?_, cards := fun c => ?_, keys := ?_, joins := fun e he => ?_,
        wires := fun w' hw' => ?_, plugs := fun r w' hw' => ?_, holds := fun c w' hw' => ?_,
        drawn := fun p hp => ?_ }
    · refine h.named.of_subset (s.cards_withoutWire w) ?_
      rw [byUid_withoutWire]
      exact List.Subset.refl _
    · rw [byUid_withoutWire]
      exact h.uids
    · rw [byUid_withoutWire, ← h.cards, heq]
      simp
    · rw [byKey_withoutWire hl]
      exact Assoc.nodup_keys_erase h.keys _
    · obtain ⟨hold, hkey, hne⟩ := hother he
      obtain ⟨l', hl', hkey', hj⟩ := h.joins e hold
      refine ⟨l', ?_, hkey', hj.keep (.of_eq (s.cards_withoutWire w)) (by omega) ?_ ?_ ?_⟩
      · rw [heq]
        have hdiffer : l' ≠ l := fun hsame => hkey (by rw [← hkey', hsame])
        simp [hl', hdiffer]
      · exact ⟨_, wire_withoutWire_of_ne hl hne⟩
      · exact fun r hr => (mem_wiresAt_withoutWire hl ..).mpr ⟨hr, fun hsame => hne hsame.1.symm⟩
      · exact fun c hc => (mem_wiresOn_withoutWire hl ..).mpr ⟨hc, fun hsame => hne hsame.1.symm⟩
    · have hmem : .wire w' ∈ s.items ∧ w' ≠ w := by
        rw [heq] at hw'
        simpa using hw'
      obtain ⟨hlt, hreg⟩ := h.wires w' hmem.1
      rw [wire_withoutWire_of_ne hl hmem.2.symm]
      exact ⟨by omega, hreg.imp_right (hstays hmem.2)⟩
    · obtain ⟨hold, hnot⟩ := (mem_wiresAt_withoutWire hl ..).mp hw'
      exact hhang (h.plugs r w' hold) hnot
    · obtain ⟨hold, hnot⟩ := (mem_wiresOn_withoutWire hl ..).mp hw'
      exact hhang (h.holds c w' hold) hnot
    · rw [heq] at hp
      rw [cards_withoutWire]
      exact h.drawn p hp

/-- What the removal of one wire keeps, the removal of wires one after the other keeps. -/
theorem withoutWires_keep {P : Scene → Prop} (step : ∀ s w, P s → s.Owns w → P (s.withoutWire w))
    {s : Scene} (h : P s) {ws : List Nat} (hws : ∀ w ∈ ws, s.Owns w) :
    P (ws.foldl Scene.withoutWire s) := by
  induction ws generalizing s with
  | nil => exact h
  | cons w ws ih =>
    refine ih (step s w h (hws w List.mem_cons_self)) fun w' hw' => ?_
    exact (hws w' (List.mem_cons_of_mem _ hw')).withoutWire w

/-- Such wires can be removed one after the other. -/
theorem Faithful.withoutWires {s : Scene} (h : s.Faithful) {ws : List Nat}
    (hws : ∀ w ∈ ws, s.Owns w) :
    (ws.foldl Scene.withoutWire s).Faithful :=
  withoutWires_keep (fun _ _ hs hw => hs.withoutWire hw) h hws

/-- A removed wire goes on showing its link, though not in the scene. -/
theorem link_withoutWires (ws : List Nat) (s : Scene) (w : Nat) :
    ((ws.foldl Scene.withoutWire s).wire w).link = (s.wire w).link :=
  foldl_keeps (P := fun t => (t.wire w).link = (s.wire w).link)
    (fun t w' ht => (t.link_withoutWire w' w).trans ht) ws rfl

/-- What is registered after wires were removed has the key of none of them. -/
theorem mem_byKey_withoutWires {ws : List Nat} {s : Scene} {e : Text × Nat}
    (he : e ∈ (ws.foldl Scene.withoutWire s).byKey) :
    e ∈ s.byKey ∧ ∀ w ∈ ws, ∀ l, (s.wire w).link = some l → e.1 ≠ l.key := by
  induction ws generalizing s with
  | nil => exact ⟨he, nofun⟩
  | cons w ws ih =>
    obtain ⟨hmem, hrest⟩ := ih he
    have hfirst : e ∈ s.byKey ∧ ∀ l, (s.wire w).link = some l → e.1 ≠ l.key := by
      cases hl : (s.wire w).link with
      | none =>
        rw [withoutWire_of_none hl] at hmem
        exact ⟨hmem, nofun⟩
      | some l =>
        rw [byKey_withoutWire hl, Assoc.mem_erase] at hmem
        exact ⟨hmem.1, fun l' hl' => Option.some.inj hl' ▸ hmem.2⟩
    refine ⟨hfirst.1, fun w' hw' l hl => ?_⟩
    rcases List.mem_cons.mp hw' with rfl | hw'
    · exact hfirst.2 l hl
    · exact hrest w' hw' l (by rw [link_withoutWire]; exact hl)

/-! ## removing blocks -/

/-- No other card is registered under the identifier of a card's block. -/
def OwnsUid (s : Scene) (c : Nat) : Prop := ∀ e ∈ s.byUid, e.1 = (s.card c).node.uid → e.2 = c

/-- Where the books are kept, no two cards have an entry of one identifier. -/
theorem Faithful.ownsUid {s : Scene} (h : s.Faithful) {c : Nat} (hc : c ∈ Assoc.values s.byUid) :
    s.OwnsUid c := by
  intro e he huid
  obtain ⟨uid, hmem⟩ := Assoc.mem_values.mp hc
  have hsame : e.1 = uid := huid.trans (h.named _ hmem).2
  have he' : (uid, e.2) ∈ s.byUid := hsame ▸ he
  exact Assoc.eq_of_mem h.uids he' hmem

/-- No registered wire shows a link that touches a block. -/
def Untouched (s : Scene) (uid : Text) : Prop :=
  ∀ e ∈ s.byKey, ∀ l, (s.wire e.2).link = some l → l.touches uid = false

/-- With the wires of a block removed, no registered wire touches it. -/
theorem Faithful.untouched {s : Scene} (h : s.Faithful) (uid : Text) :
    ((s.touching uid).foldl Scene.withoutWire s).Untouched uid := by
  intro e he l hl
  obtain ⟨hmem, hgone⟩ := mem_byKey_withoutWires he
  rw [link_withoutWires] at hl
  obtain ⟨l', _, hkey, hj⟩ := h.joins e hmem
  obtain rfl : l = l' := Option.some.inj (hl.symm.trans hj.link)
  rw [← Bool.not_eq_true]
  intro htouch
  have hin : e.2 ∈ s.touching uid := by
    refine List.mem_filter.mpr ⟨Assoc.mem_values.mpr ⟨e.1, hmem⟩, ?_⟩
    rw [hl, Option.map_some, htouch]
    rfl
  exact hgone e.2 hin l hl hkey.symm

/-- A card can be removed once nothing touches its block. -/
theorem Faithful.withoutCard {s : Scene} (h : s.Faithful) {c : Nat} (hc : s.OwnsUid c)
    (huntouched : s.Untouched (s.card c).node.uid) : (s.withoutCard c).Faithful := by
  have hvalues {n : Nat} (hn : n ∈ Assoc.values (s.withoutCard c).byUid) :
      n ∈ Assoc.values s.byUid ∧ n ≠ c := by
    obtain ⟨uid, he⟩ := Assoc.mem_values.mp hn
    obtain ⟨hold, hne⟩ := (Assoc.mem_erase _ _ _).mp he
    refine ⟨Assoc.mem_values.mpr ⟨uid, hold⟩, fun hsame => hne ?_⟩
    rw [← hsame]
    exact (h.named _ hold).2.symm
  have hstays {n : Nat} (hn : n ∈ Assoc.values s.byUid) (hne : n ≠ c) :
      n ∈ Assoc.values (s.withoutCard c).byUid := by
    obtain ⟨uid, he⟩ := Assoc.mem_values.mp hn
    refine Assoc.mem_values.mpr ⟨uid, (Assoc.mem_erase _ _ _).mpr ⟨he, fun huid => hne ?_⟩⟩
    exact hc _ he huid
  have hitems (item : Item) : item ∈ (s.withoutCard c).items ↔ item ∈ s.items ∧ item ≠ .card c := by
    simp [Scene.withoutCard, takeOut, tell]
  refine
    { named := h.named.of_subset rfl fun e he => ((Assoc.mem_erase _ _ _).mp he).1,
      uids := Assoc.nodup_keys_erase h.uids _, cards := fun n => ?_, keys := h.keys,
      joins := fun e he => ?_, wires := fun w hw => h.wires w ((hitems _).mp hw).1,
      plugs := fun r w hw => ?_, holds := fun n w hw => ?_, drawn := h.drawn }
  · rw [hitems, h.cards]
    constructor
    · rintro ⟨hn, hne⟩
      exact hstays hn fun hsame => hne (by rw [hsame])
    · intro hn
      exact ⟨(hvalues hn).1, fun hsame => (hvalues hn).2 (Item.card.inj hsame)⟩
  · obtain ⟨l, hl, hkey, hj⟩ := h.joins e he
    refine ⟨l, List.mem_filter.mpr ⟨hl, ?_⟩, hkey, ⟨hj.made, hj.link, hj.ends, hj.held⟩⟩
    rw [huntouched e he l hj.link]
    rfl
  · obtain ⟨hlt, hreg⟩ := h.plugs r w hw
    exact ⟨hlt, fun hr => hreg (hvalues hr).1⟩
  · obtain ⟨hlt, hreg⟩ := h.holds n w hw
    exact ⟨hlt, fun hn => hreg (hvalues hn).1⟩

theorem OwnsUid.of_subset {s t : Scene} {c : Nat} (h : s.OwnsUid c) (hcards : t.cards = s.cards)
    (hsub : t.byUid ⊆ s.byUid) : t.OwnsUid c := by
  intro e he huid
  unfold card at huid
  rw [hcards] at huid
  exact h e (hsub he) huid

/-- The wires that go with a block are registered. -/
theorem Faithful.owns_of_touching {s : Scene} (h : s.Faithful) (uid : Text) :
    ∀ w ∈ s.touching uid, s.Owns w := fun _ hw => h.owns (List.mem_filter.mp hw).1

/-- Once the wires that touch a block are gone, its card can go. -/
theorem Faithful.untouched_card {s : Scene} (h : s.Faithful) (c : Nat) :
    ((s.touching (s.card c).node.uid).foldl Scene.withoutWire s).Untouched
      (((s.touching (s.card c).node.uid).foldl Scene.withoutWire s).card c).node.uid := by
  have hcard : ((s.touching (s.card c).node.uid).foldl Scene.withoutWire s).card c = s.card c :=
    congrArg (List.getD · c default) (cards_withoutWires _ s)
  rw [hcard]
  exact h.untouched _

/-- So a block can be removed with its wires. -/
theorem Faithful.withoutBlock {s : Scene} (h : s.Faithful) {c : Nat} (hc : s.OwnsUid c) :
    (s.withoutBlock c).Faithful := by
  refine (h.withoutWires (h.owns_of_touching _)).withoutCard ?_ (h.untouched_card c)
  refine hc.of_subset (cards_withoutWires _ s) ?_
  rw [byUid_withoutWires]
  exact List.Subset.refl _

/-- What the removal of one block keeps, the removal of blocks one after the other keeps. -/
theorem withoutBlocks_keep {P : Scene → Prop}
    (step : ∀ s c, P s → s.OwnsUid c → P (s.withoutBlock c)) {s : Scene} (h : P s) {cs : List Nat}
    (hcs : ∀ c ∈ cs, s.OwnsUid c) : P (cs.foldl Scene.withoutBlock s) := by
  induction cs generalizing s with
  | nil => exact h
  | cons c cs ih =>
    refine ih (step s c h (hcs c List.mem_cons_self)) fun c' hc' => ?_
    exact (hcs c' (List.mem_cons_of_mem _ hc')).of_subset (s.cards_withoutBlock c)
      (s.byUid_withoutBlock_subset c)

/-! ## removing what is selected -/

theorem mem_items_of_chosenWires {s : Scene} {w : Nat} (hw : w ∈ s.chosenWires) :
    .wire w ∈ s.items := by
  obtain ⟨item, hi, hsome⟩ := List.mem_filterMap.mp hw
  cases item with
  | card c => exact nomatch hsome
  | wire w' => exact Option.some.inj hsome ▸ (mem_selection.mp hi).1

theorem mem_items_of_chosenCards {s : Scene} {c : Nat} (hc : c ∈ s.chosenCards) :
    .card c ∈ s.items := by
  obtain ⟨item, hi, hsome⟩ := List.mem_filterMap.mp hc
  cases item with
  | wire w => exact nomatch hsome
  | card c' => exact Option.some.inj hsome ▸ (mem_selection.mp hi).1

/-- A selected wire is in the scene, so no other has its key. -/
theorem Faithful.owns_of_chosen {s : Scene} (h : s.Faithful) {w : Nat} (hw : w ∈ s.chosenWires) :
    s.Owns w := by
  rcases (h.wires w (mem_items_of_chosenWires hw)).2 with hnone | hreg
  · intro l hl
    rw [hnone] at hl
    exact nomatch hl
  · exact h.owns hreg

/-- A selected card is in the scene, so no other has its identifier. -/
theorem Faithful.ownsUid_of_chosen {s : Scene} (h : s.Faithful) {c : Nat} (hc : c ∈ s.chosenCards) :
    s.OwnsUid c := h.ownsUid ((h.cards c).mp (mem_items_of_chosenCards hc))

/-- What the removal of one wire and of one block keeps, the removal of all that is selected
keeps. -/
theorem Faithful.withoutSelected_keep {P : Scene → Prop} {s : Scene} (h : s.Faithful)
    (hwire : ∀ s w, P s → s.Owns w → P (s.withoutWire w))
    (hblock : ∀ s c, P s → s.OwnsUid c → P (s.withoutBlock c)) (hs : P s) :
    P s.withoutSelected := by
  refine withoutBlocks_keep hblock
    (withoutWires_keep hwire hs fun w hw => h.owns_of_chosen hw) fun c hc => ?_
  refine (h.ownsUid_of_chosen hc).of_subset (cards_withoutWires _ s) ?_
  rw [byUid_withoutWires]
  exact List.Subset.refl _

/-- Deleting the selection keeps the books. -/
theorem Faithful.withoutSelected {s : Scene} (h : s.Faithful) : s.withoutSelected.Faithful :=
  h.withoutSelected_keep (fun _ _ hs hw => hs.withoutWire hw)
    (fun _ _ hs hc => hs.withoutBlock hc) h

end BlockSketch.Canvas.Scene
