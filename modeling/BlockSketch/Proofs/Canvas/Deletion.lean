import BlockSketch.Proofs.Canvas.Items
import BlockSketch.Proofs.Canvas.Mirror
import BlockSketch.Proofs.Canvas.Notices

/-!
# BlockSketch.Proofs.Canvas.Deletion

What deleting the selection leaves, and what it says of it.  A block goes when its card
is selected; a link goes when a selected wire shows it or when it touches a block that
goes.  The blocks that go are counted exactly.  Of the links only those are counted
that have a wire, each once however many ways it is reached; these are all of them
unless a diagram with links was opened that stopped half way.

* `diagram_withoutSelected` — exactly the rest is left, in order;
* `tells_deleteSelected` — the counts and the announcements;
* `deletion_exact` — both after every run.
-/

namespace BlockSketch

/-- A key that is there once leaves with one entry. -/
theorem Assoc.length_erase {α β : Type} [DecidableEq α] {m : Assoc α β} {key : α}
    (hm : m.keys.Nodup) (hkey : key ∈ m.keys) : (m.erase key).length + 1 = m.length := by
  have herase : (m.erase key).keys = m.keys.erase key := by
    rw [keys_erase, hm.erase_eq_filter]
    rfl
  have hlength : (m.erase key).length = (m.keys.erase key).length := by
    rw [← herase]
    simp [keys]
  have hpos : 0 < m.keys.length := List.length_pos_of_mem hkey
  rw [hlength, List.length_erase_of_mem hkey]
  simp only [keys, List.length_map] at hpos ⊢
  omega

namespace Canvas

namespace Scene

/-! ## what goes -/

def selectedUids (s : Scene) : List Text :=
  s.selection.filterMap fun | .card c => some (s.card c).node.uid | .wire _ => none

def selectedLinks (s : Scene) : List Link :=
  s.selection.filterMap fun | .wire w => (s.wire w).link | .card _ => none

def dropsNode (s : Scene) (n : Node) : Bool := s.selectedUids.contains n.uid

def dropsLink (s : Scene) (l : Link) : Bool :=
  s.selectedLinks.contains l || s.selectedUids.any l.touches

/-- Whether an entry of the register of wires is that of a link that goes with the selection. -/
def dropsEntry (s : Scene) (e : Text × Nat) : Bool := (s.wire e.2).link.any s.dropsLink

def uidsOf (s : Scene) (cs : List Nat) : List Text := cs.map fun c => (s.card c).node.uid

def shown (s : Scene) (ws : List Nat) : List Link := ws.filterMap fun w => (s.wire w).link

/-- The selected identifiers are those of the selected cards. -/
theorem selectedUids_eq (s : Scene) : s.selectedUids = s.uidsOf s.chosenCards := by
  rw [selectedUids, uidsOf, chosenCards, List.map_filterMap]
  exact List.filterMap_congr fun item _ => by cases item <;> rfl

/-- The selected links are those that the selected wires show. -/
theorem selectedLinks_eq (s : Scene) : s.selectedLinks = s.shown s.chosenWires := by
  rw [selectedLinks, shown, chosenWires, List.filterMap_filterMap]
  exact List.filterMap_congr fun item _ => by cases item <;> rfl

/-! ## wires that go -/

theorem shown_withoutWire (s : Scene) (w : Nat) (ws : List Nat) :
    (s.withoutWire w).shown ws = s.shown ws :=
  List.filterMap_congr fun w' _ => s.link_withoutWire w w'

/-- Removing wires takes away the links they show, and no other. -/
theorem links_withoutWires (ws : List Nat) (s : Scene) :
    (ws.foldl withoutWire s).links = s.links.filter fun l => !(s.shown ws).contains l := by
  induction ws generalizing s with
  | nil => simp [shown, List.filter_eq_self.mpr]
  | cons w ws ih =>
    rw [List.foldl_cons, ih, shown_withoutWire]
    cases hl : (s.wire w).link with
    | none => simp [withoutWire_of_none hl, shown, hl]
    | some l =>
      rw [withoutWire_of_some hl]
      simp only [List.filter_filter]
      refine List.filter_congr fun other _ => ?_
      by_cases hsame : other = l <;> simp [shown, hl, hsame]

/-- When no other wire is registered for the links of the wires that go, the entries of those links
go. -/
theorem byKey_withoutWires {ws : List Nat} {s : Scene} (h : s.Faithful) (hws : ∀ w ∈ ws, s.Owns w) :
    (ws.foldl withoutWire s).byKey =
      s.byKey.filter fun e => !(s.wire e.2).link.any (s.shown ws).contains := by
  induction ws generalizing s with
  | nil => exact (List.filter_eq_self.mpr fun e _ => by cases (s.wire e.2).link <;> rfl).symm
  | cons w ws ih =>
    have hw := hws w List.mem_cons_self
    rw [List.foldl_cons, ih (h.withoutWire hw) fun w' hw' =>
      (hws w' (List.mem_cons_of_mem _ hw')).withoutWire w]
    simp only [link_withoutWire, shown_withoutWire]
    cases hl : (s.wire w).link with
    | none => simp [withoutWire_of_none hl, shown, hl]
    | some l =>
      rw [byKey_withoutWire hl, Assoc.erase, List.filter_filter]
      refine List.filter_congr fun e he => ?_
      -- the entry that is erased is the one of the wire's link
      obtain ⟨l', _, hkey, hj⟩ := h.joins e he
      have hsame : e.1 = l.key ↔ l' = l := by
        refine ⟨fun heq => ?_, fun heq => by rw [← hkey, heq]⟩
        have hlink := hj.link
        rw [hw l hl e he heq, hl] at hlink
        exact (Option.some.inj hlink).symm
      by_cases heq : l' = l <;> simp [shown, hl, hj.link, hsame, heq]

/-! ## blocks that go -/

/-- What the wires of a block show touches the block. -/
theorem mem_shown_touching {s : Scene} {uid : Text} {l : Link}
    (hl : l ∈ s.shown (s.touching uid)) : l.touches uid = true := by
  obtain ⟨w, hw, hlink⟩ := List.mem_filterMap.mp hl
  have htouch := (List.mem_filter.mp hw).2
  rw [hlink] at htouch
  simpa using htouch

/-- A block takes with it every link that touches it, shown by a wire or not. -/
theorem links_withoutBlock (s : Scene) (c : Nat) :
    (s.withoutBlock c).links = s.links.filter fun l => !l.touches (s.card c).node.uid := by
  have hcard : ((s.touching (s.card c).node.uid).foldl withoutWire s).card c = s.card c :=
    congrArg (List.getD · c default) (cards_withoutWires _ s)
  change List.filter _ ((s.touching (s.card c).node.uid).foldl withoutWire s).links = _
  rw [hcard, links_withoutWires, List.filter_filter]
  refine List.filter_congr fun l _ => ?_
  cases htouch : l.touches (s.card c).node.uid with
  | true => rfl
  | false =>
    have hnot : l ∉ s.shown (s.touching (s.card c).node.uid) := fun hl => by
      rw [mem_shown_touching hl] at htouch
      exact nomatch htouch
    simp [hnot]

theorem byUid_withoutBlock (s : Scene) (c : Nat) :
    (s.withoutBlock c).byUid = Assoc.erase s.byUid (s.card c).node.uid := by
  have hcard : ((s.touching (s.card c).node.uid).foldl withoutWire s).card c = s.card c :=
    congrArg (List.getD · c default) (cards_withoutWires _ s)
  change Assoc.erase ((s.touching (s.card c).node.uid).foldl withoutWire s).byUid _ = _
  rw [hcard, byUid_withoutWires]

theorem link_withoutBlock (s : Scene) (c w : Nat) :
    ((s.withoutBlock c).wire w).link = (s.wire w).link := link_withoutWires _ s w

/-- Removing a block removes the entries of the links that touch it, and no other. -/
theorem byKey_withoutBlock {s : Scene} (h : s.Faithful) (c : Nat) :
    (s.withoutBlock c).byKey =
      s.byKey.filter fun e => !(s.wire e.2).link.any fun l => l.touches (s.card c).node.uid := by
  change ((s.touching (s.card c).node.uid).foldl withoutWire s).byKey = _
  rw [byKey_withoutWires h (h.owns_of_touching _)]
  refine List.filter_congr fun e he => ?_
  obtain ⟨l, _, _, hj⟩ := h.joins e he
  have hiff :
      l ∈ s.shown (s.touching (s.card c).node.uid) ↔ l.touches (s.card c).node.uid = true := by
    refine ⟨mem_shown_touching, fun htouch => List.mem_filterMap.mpr ⟨e.2, ?_, hj.link⟩⟩
    refine List.mem_filter.mpr ⟨Assoc.mem_values.mpr ⟨e.1, he⟩, ?_⟩
    rw [hj.link, Option.map_some, htouch]
    rfl
  simp [hj.link, hiff]

theorem uidsOf_withoutBlock (s : Scene) (c : Nat) (cs : List Nat) :
    (s.withoutBlock c).uidsOf cs = s.uidsOf cs := by
  unfold uidsOf card
  rw [cards_withoutBlock]

/-- Removing blocks one after the other removes the links that touch any of them. -/
theorem links_withoutBlocks (cs : List Nat) (s : Scene) :
    (cs.foldl withoutBlock s).links = s.links.filter fun l => !(s.uidsOf cs).any l.touches := by
  induction cs generalizing s with
  | nil => simp [uidsOf, List.filter_eq_self.mpr]
  | cons c cs ih =>
    rw [List.foldl_cons, ih, uidsOf_withoutBlock, links_withoutBlock, List.filter_filter]
    exact List.filter_congr fun l _ => by simp [uidsOf, Bool.and_comm]

/-- Removing blocks one after the other removes their entries. -/
theorem byUid_withoutBlocks (cs : List Nat) (s : Scene) :
    (cs.foldl withoutBlock s).byUid = s.byUid.filter fun e => !(s.uidsOf cs).contains e.1 := by
  induction cs generalizing s with
  | nil => simp [uidsOf, List.filter_eq_self.mpr]
  | cons c cs ih =>
    rw [List.foldl_cons, ih, uidsOf_withoutBlock, byUid_withoutBlock, Assoc.erase,
      List.filter_filter]
    refine List.filter_congr fun e _ => ?_
    by_cases hsame : e.1 = (s.card c).node.uid <;> simp [uidsOf, hsame]

/-- Removing one block registers no other card under an identifier. -/
theorem OwnsUid.withoutBlock {s : Scene} {c' : Nat} (h : s.OwnsUid c') (c : Nat) :
    (s.withoutBlock c).OwnsUid c' :=
  h.of_subset (s.cards_withoutBlock c) (s.byUid_withoutBlock_subset c)

/-- Removing blocks one after the other removes the entries of the links that touch any of them. -/
theorem byKey_withoutBlocks {cs : List Nat} {s : Scene} (h : s.Faithful)
    (hcs : ∀ c ∈ cs, s.OwnsUid c) :
    (cs.foldl withoutBlock s).byKey =
      s.byKey.filter fun e => !(s.wire e.2).link.any fun l => (s.uidsOf cs).any l.touches := by
  induction cs generalizing s with
  | nil => exact (List.filter_eq_self.mpr fun e _ => by cases (s.wire e.2).link <;> rfl).symm
  | cons c cs ih =>
    have hnext : ∀ c' ∈ cs, (s.withoutBlock c).OwnsUid c' := fun c' hc' =>
      (hcs c' (List.mem_cons_of_mem _ hc')).withoutBlock c
    rw [List.foldl_cons, ih (h.withoutBlock (hcs c List.mem_cons_self)) hnext]
    simp only [link_withoutBlock, uidsOf_withoutBlock]
    rw [byKey_withoutBlock h, List.filter_filter]
    refine List.filter_congr fun e _ => ?_
    cases (s.wire e.2).link <;> simp [uidsOf, Bool.and_comm]

/-! ## the rest -/

theorem cards_withoutSelected (s : Scene) : s.withoutSelected.cards = s.cards :=
  foldl_keeps (P := fun t => t.cards = s.cards) (fun t c ht => (t.cards_withoutBlock c).trans ht) _
    (cards_withoutWires _ s)

theorem uidsOf_withoutWires (ws : List Nat) (s : Scene) (cs : List Nat) :
    (ws.foldl withoutWire s).uidsOf cs = s.uidsOf cs := by
  unfold uidsOf card
  rw [cards_withoutWires]

/-- Deleting the selection drops the selected links and those of the selected blocks. -/
theorem links_withoutSelected (s : Scene) :
    s.withoutSelected.links = s.links.filter fun l => !s.dropsLink l := by
  rw [withoutSelected, links_withoutBlocks, uidsOf_withoutWires, links_withoutWires,
    List.filter_filter]
  refine List.filter_congr fun l _ => ?_
  rw [dropsLink, selectedLinks_eq, selectedUids_eq, Bool.not_or, Bool.and_comm]

/-- Deleting the selection drops the selected blocks. -/
theorem Faithful.nodes_withoutSelected {s : Scene} (h : s.Faithful) :
    s.withoutSelected.nodes = s.nodes.filter fun n => !s.dropsNode n := by
  have huids : s.withoutSelected.byUid = s.byUid.filter fun e => !s.selectedUids.contains e.1 := by
    rw [Scene.withoutSelected, byUid_withoutBlocks, uidsOf_withoutWires, byUid_withoutWires,
      selectedUids_eq]
  unfold nodes card
  rw [cards_withoutSelected, huids, List.filter_map]
  refine congrArg _ (List.filter_congr fun e he => ?_)
  have hname := (h.named e he).2
  unfold card at hname
  rw [Function.comp_apply, dropsNode, hname]

/-- The diagram after a deletion is the one before without what goes with the selection. -/
theorem Faithful.diagram_withoutSelected {s : Scene} (h : s.Faithful) :
    s.withoutSelected.diagram =
      ⟨s.nodes.filter fun n => !s.dropsNode n, s.links.filter fun l => !s.dropsLink l⟩ := by
  rw [diagram, h.nodes_withoutSelected, links_withoutSelected]

/-- The removal of wires leaves the register of cards alone. -/
theorem Faithful.ownsUid_withoutWires {s : Scene} (h : s.Faithful) :
    ∀ c ∈ s.chosenCards, (s.chosenWires.foldl Scene.withoutWire s).OwnsUid c := by
  intro c hc
  refine (h.ownsUid_of_chosen hc).of_subset (cards_withoutWires _ s) ?_
  rw [byUid_withoutWires]
  exact List.Subset.refl _

/-- The register after a deletion is the one before without what goes with the selection. -/
theorem Faithful.byKey_withoutSelected {s : Scene} (h : s.Faithful) :
    s.withoutSelected.byKey = s.byKey.filter fun e => !s.dropsEntry e := by
  have howns : ∀ w ∈ s.chosenWires, s.Owns w := fun w hw => h.owns_of_chosen hw
  rw [Scene.withoutSelected, byKey_withoutBlocks (h.withoutWires howns) h.ownsUid_withoutWires]
  simp only [link_withoutWires, uidsOf_withoutWires]
  rw [byKey_withoutWires h howns, List.filter_filter]
  refine List.filter_congr fun e _ => ?_
  rw [dropsEntry]
  cases (s.wire e.2).link with
  | none => rfl
  | some l => simp [dropsLink, selectedLinks_eq, selectedUids_eq, Bool.and_comm]

/-! ## counts -/

/-- A selected card is the one registered for its block. -/
theorem Faithful.mem_byUid_of_chosen {s : Scene} (h : s.Faithful) {c : Nat}
    (hc : c ∈ s.chosenCards) :
    ((s.card c).node.uid, c) ∈ s.byUid := by
  obtain ⟨uid, he⟩ := Assoc.mem_values.mp ((h.cards c).mp (mem_items_of_chosenCards hc))
  rwa [(h.named _ he).2]

/-- As many cards are selected as blocks go. -/
theorem Faithful.length_chosenCards {s : Scene} (h : s.Faithful) (hl : s.Listed) :
    s.chosenCards.length = s.nodes.countP s.dropsNode := by
  have hnodup : s.selectedUids.Nodup := by
    rw [selectedUids_eq]
    refine List.Nodup.map_on (fun c hc c' hc' hsame => ?_) hl.nodup_chosenCards
    have he := h.mem_byUid_of_chosen hc
    rw [hsame] at he
    exact Assoc.eq_of_mem h.uids he (h.mem_byUid_of_chosen hc')
  have hperm : (s.diagram.uids.filter s.selectedUids.contains).Perm s.selectedUids := by
    have huids : s.diagram.uids.Nodup := by
      rw [uids_diagram h.named]
      exact h.uids
    refine (List.perm_ext_iff_of_nodup (huids.filter _) hnodup).mpr fun uid => ?_
    rw [List.mem_filter, List.contains_iff_mem, and_iff_right_iff_imp]
    intro hin
    rw [selectedUids_eq] at hin
    obtain ⟨c, hc, rfl⟩ := List.mem_map.mp hin
    rw [uids_diagram h.named]
    exact List.mem_map.mpr ⟨_, h.mem_byUid_of_chosen hc, rfl⟩
  calc s.chosenCards.length = s.selectedUids.length := by simp [selectedUids_eq, uidsOf]
    _ = (s.diagram.uids.filter s.selectedUids.contains).length := hperm.length_eq.symm
    _ = s.nodes.countP s.dropsNode := by
      rw [← List.countP_eq_length_filter, Diagram.uids, List.countP_map]
      rfl

/-- A wire that shows no link, or is registered for the link it shows. -/
def Counted (s : Scene) (w : Nat) : Prop := (s.wire w).link = none ∨ w ∈ Assoc.values s.byKey

/-- A wire that counts shares its key with no other. -/
theorem Faithful.owns_of_counted {s : Scene} (h : s.Faithful) {w : Nat} (hw : s.Counted w) :
    s.Owns w := by
  rcases hw with hnone | hreg
  · intro l hl
    rw [hnone] at hl
    exact nomatch hl
  · exact h.owns hreg

/-- A wire that is removed takes its own entry along. -/
theorem Faithful.length_withoutWire {s : Scene} (h : s.Faithful) {w : Nat} (hw : s.Counted w) :
    (s.wire w).link.isSome.toNat + (s.withoutWire w).byKey.length = s.byKey.length := by
  rcases hw with hnone | hreg
  · rw [withoutWire_of_none hnone, hnone]
    exact Nat.zero_add _
  · obtain ⟨key, he⟩ := Assoc.mem_values.mp hreg
    obtain ⟨l, _, hkey, hj⟩ := h.joins _ he
    have hmem : l.key ∈ Assoc.keys s.byKey := List.mem_map.mpr ⟨_, he, hkey.symm⟩
    rw [byKey_withoutWire hj.link, hj.link, ← Assoc.length_erase h.keys hmem]
    exact Nat.add_comm _ _

/-- Removing one wire leaves the other wires counting. -/
theorem Counted.withoutWire {s : Scene} {w w' : Nat} (hw' : s.Counted w') (hw : s.Owns w)
    (hne : w' ≠ w) : (s.withoutWire w).Counted w' := by
  unfold Counted
  rw [link_withoutWire]
  refine hw'.imp_right fun hreg => ?_
  obtain ⟨key, he⟩ := Assoc.mem_values.mp hreg
  refine Assoc.mem_values.mpr ⟨key, ?_⟩
  cases hl : (s.wire w).link with
  | none => rwa [withoutWire_of_none hl]
  | some l =>
    rw [byKey_withoutWire hl]
    exact (Assoc.mem_erase _ _ _).mpr ⟨he, fun hkey => hne (hw l hl _ he hkey)⟩

/-- Wires that can be removed one after the other, each with an entry of its own. -/
structure Removable (s : Scene) (ws : List Nat) : Prop where
  faithful : s.Faithful
  nodup : ws.Nodup
  counted : ∀ w ∈ ws, s.Counted w

/-- Once the first of them is gone, the others can still be removed one after the other. -/
theorem Removable.next {s : Scene} {w : Nat} {ws : List Nat} (h : s.Removable (w :: ws)) :
    (s.withoutWire w).Removable ws := by
  obtain ⟨hfirst, hrest⟩ := List.nodup_cons.mp h.nodup
  have hw := h.faithful.owns_of_counted (h.counted w List.mem_cons_self)
  refine ⟨h.faithful.withoutWire hw, hrest, fun w' hw' => ?_⟩
  exact (h.counted w' (List.mem_cons_of_mem _ hw')).withoutWire hw fun hsame => hfirst (hsame ▸ hw')

/-- The selected wires can be removed one after the other. -/
theorem Faithful.removable_chosen {s : Scene} (h : s.Faithful) (hl : s.Listed) :
    s.Removable s.chosenWires :=
  ⟨h, hl.nodup_chosenWires, fun w hw => (h.wires w (mem_items_of_chosenWires hw)).2⟩

/-- No wire has two entries, since it shows one link. -/
theorem Faithful.removable_touching {s : Scene} (h : s.Faithful) (uid : Text) :
    s.Removable (s.touching uid) := by
  have hvalues : (Assoc.values s.byKey).Nodup := by
    refine List.Nodup.map_on (fun e he e' he' hsame => ?_) (List.Nodup.of_map _ h.keys)
    obtain ⟨l, _, hkey, hj⟩ := h.joins e he
    obtain ⟨l', _, hkey', hj'⟩ := h.joins e' he'
    have hlink := hj.link
    rw [hsame, hj'.link] at hlink
    refine Prod.ext ?_ hsame
    rw [← hkey, ← hkey', Option.some.inj hlink]
  exact ⟨h, hvalues.filter _, fun w hw => .inr (List.mem_filter.mp hw).1⟩

section Count

variable {s : Scene} (h : s.Faithful) {n : Nat}
  (hn : n + s.withoutSelected.byKey.length = s.byKey.length)
include h hn

/-- The number of links told is the number of entries that went. -/
theorem Faithful.count_entries : n = s.byKey.countP s.dropsEntry := by
  rw [h.byKey_withoutSelected, ← List.countP_eq_length_filter,
    List.length_eq_countP_add_countP s.dropsEntry] at hn
  simp only [decide_not, Bool.decide_eq_true] at hn
  omega

/-- Where every link has its entry, it is the number of links that went. -/
theorem Faithful.count_links (hm : s.Matched) : n = s.links.countP s.dropsLink := by
  have hbefore : s.byKey.length = s.links.length := by
    simpa [Assoc.keys] using congrArg List.length hm
  have hafter : s.withoutSelected.byKey.length = s.withoutSelected.links.length := by
    simpa [Assoc.keys] using congrArg List.length (hm.withoutSelected h)
  rw [hbefore, hafter, links_withoutSelected, ← List.countP_eq_length_filter,
    List.length_eq_countP_add_countP s.dropsLink] at hn
  simp only [decide_not, Bool.decide_eq_true] at hn
  omega

/-- Something is counted exactly when the diagram is another one. -/
theorem Faithful.any_iff (hl : s.Listed) :
    Edit.Removed.any ⟨s.chosenCards.length, n⟩ = true ↔ s.withoutSelected.diagram ≠ s.diagram := by
  have hany : Edit.Removed.any ⟨s.chosenCards.length, n⟩ = true ↔
      ¬ (s.chosenCards.length = 0 ∧ n = 0) := by
    simp [Edit.Removed.any, Decidable.imp_iff_not_or]
  rw [hany, ne_eq, not_iff_not, h.diagram_withoutSelected, diagram, Diagram.mk.injEq,
    List.filter_eq_self, List.filter_eq_self, h.length_chosenCards hl, h.count_entries hn,
    List.countP_eq_zero, List.countP_eq_zero]
  simp only [Bool.not_eq_true', Bool.not_eq_true]
  refine and_congr_right fun hnodes => ⟨fun hentries l hin => ?_, fun hlinks e he => ?_⟩
  · rw [dropsLink, Bool.or_eq_false_iff]
    constructor
    · -- a selected wire that shows the link would be counted
      rw [Bool.eq_false_iff]
      intro hsel
      rw [selectedLinks_eq, List.contains_iff_mem] at hsel
      obtain ⟨w, hw, hlink⟩ := List.mem_filterMap.mp hsel
      rcases (h.wires w (mem_items_of_chosenWires hw)).2 with hnone | hreg
      · rw [hnone] at hlink
        exact nomatch hlink
      · obtain ⟨key, he⟩ := Assoc.mem_values.mp hreg
        have hkept := hentries _ he
        have hdrops : s.dropsLink l = true := by
          rw [dropsLink, selectedLinks_eq, List.contains_iff_mem.mpr hsel, Bool.true_or]
        rw [dropsEntry, hlink] at hkept
        exact nomatch hdrops.symm.trans hkept
    · -- and no block is selected
      refine List.any_eq_false.mpr fun uid huid => ?_
      rw [selectedUids_eq] at huid
      obtain ⟨c, hc, rfl⟩ := List.mem_map.mp huid
      have hkept := hnodes _ (List.mem_map.mpr ⟨_, h.mem_byUid_of_chosen hc, rfl⟩)
      rw [dropsNode, selectedUids_eq, List.contains_iff_mem.mpr huid] at hkept
      exact nomatch hkept
  · obtain ⟨l, hin, _, hj⟩ := h.joins e he
    rw [dropsEntry, hj.link]
    exact hlinks l hin

end Count

end Scene

/-! ## what deleting says -/

namespace Edit

/-- Removing a wire tells whether it showed a link. -/
theorem quiet_removeWire (w : Nat) (s : Scene) :
    Quiet (removeWire w) s (s.wire w).link.isSome (s.withoutWire w) := by
  unfold Scene.withoutWire
  cases hl : (s.wire w).link with
  | none =>
    refine (tells_scene s).quiet.bind ?_
    rw [hl]
    exact (tells_pure _ s).quiet
  | some l =>
    refine (tells_scene s).quiet.bind ?_
    rw [hl]
    exact (tells_change _ s).quiet.bind ((quiet_takeOut _ _).bind (tells_pure _ _).quiet)

theorem countP_id (bs : List Bool) : bs.countP id = (bs.map Bool.toNat).sum := by
  induction bs with
  | nil => rfl
  | cons b bs ih => cases b <;> simp [ih, Nat.add_comm]

/-- Wires that can be removed are counted as they go. -/
theorem quiet_removeWires {s : Scene} {ws : List Nat} (h : s.Removable ws) :
    ∃ gone, Quiet (ws.mapM removeWire) s gone (ws.foldl Scene.withoutWire s) ∧
      gone.countP id + (ws.foldl Scene.withoutWire s).byKey.length = s.byKey.length := by
  simp only [countP_id]
  refine quiet_mapM Scene.Removable (fun s => s.byKey.length) Bool.toNat (fun s w ws h => ?_) h
  refine ⟨h.next, _, quiet_removeWire w s, ?_⟩
  exact h.faithful.length_withoutWire (h.counted w List.mem_cons_self)

theorem quiet_removeCard (c : Nat) (s : Scene) : Quiet (removeCard c) s () (s.withoutCard c) :=
  (tells_scene s).quiet.bind ((tells_change _ s).quiet.bind (quiet_takeOut _ _))

/-- A block takes along the entries of the links that touch it. -/
theorem quiet_removeBlock {s : Scene} (h : s.Faithful) (c : Nat) :
    ∃ n, Quiet (do
        let count ← removeWiresOf ((← scene).card c).node.uid
        removeCard c
        return count) s n (s.withoutBlock c) ∧
      n + (s.withoutBlock c).byKey.length = s.byKey.length := by
  obtain ⟨gone, hgone, hcount⟩ := quiet_removeWires (h.removable_touching (s.card c).node.uid)
  refine ⟨gone.countP id, (tells_scene s).quiet.bind ?_, hcount⟩
  have hwires : Quiet (removeWiresOf (s.card c).node.uid) s (gone.countP id)
      ((s.touching (s.card c).node.uid).foldl Scene.withoutWire s) :=
    (tells_scene s).quiet.bind (hgone.bind (tells_pure _ _).quiet)
  exact hwires.bind ((quiet_removeCard c _).bind (tells_pure _ _).quiet)

/-- Removing the selection tells the number of its cards and, for links, how many entries went. -/
theorem quiet_removeSelected {s : Scene} (h : s.Faithful) (hl : s.Listed) :
    ∃ links, Quiet removeSelected s ⟨s.chosenCards.length, links⟩ s.withoutSelected ∧
      links + s.withoutSelected.byKey.length = s.byKey.length := by
  obtain ⟨gone, hgone, hwires⟩ := quiet_removeWires (h.removable_chosen hl)
  have hstep (s : Scene) (c : Nat) (cs : List Nat)
      (hs : s.Faithful ∧ ∀ c' ∈ c :: cs, s.OwnsUid c') :
      ((s.withoutBlock c).Faithful ∧ ∀ c' ∈ cs, (s.withoutBlock c).OwnsUid c') ∧ _ :=
    ⟨⟨hs.1.withoutBlock (hs.2 c List.mem_cons_self), fun c' hc' =>
      (hs.2 c' (List.mem_cons_of_mem _ hc')).withoutBlock c⟩, quiet_removeBlock hs.1 c⟩
  obtain ⟨counts, hcounts, hblocks⟩ := quiet_mapM (fun s cs => s.Faithful ∧ ∀ c ∈ cs, s.OwnsUid c)
    (fun s => s.byKey.length) id hstep
    ⟨h.withoutWires fun w hw => h.owns_of_chosen hw, h.ownsUid_withoutWires⟩
  refine ⟨gone.countP id + counts.foldl Nat.add 0, ?_, ?_⟩
  · exact (tells_scene s).quiet.bind (hgone.bind (hcounts.bind (tells_pure _ _).quiet))
  · have hsum : counts.foldl Nat.add 0 = (counts.map id).sum := by
      rw [List.map_id, List.sum_eq_foldl]
      rfl
    rw [hsum]
    unfold Scene.withoutSelected
    omega

/-- What is announced of a removal: how many blocks and links went, and the diagram that is left,
none of it when nothing went. -/
def Removed.report (r : Removed) (left : Diagram) : List Notice :=
  (if r.blocks ≠ 0 then
    [.blocksRemoved r.blocks, .status ("Удалено блоков: " ++ toString r.blocks) 4000] else []) ++
  (if r.links ≠ 0 then
    [.linksRemoved r.links, .status ("Удалено соединений: " ++ toString r.links) 4000] else []) ++
  if r.any then [.changed left] else []

/-- A deletion is reported last, after notices that the selection changed and no others. -/
theorem tells_deleteSelected {s : Scene} (h : s.Faithful) (hl : s.Listed) :
    ∃ links k, Tells deleteSelected s ⟨s.chosenCards.length, links⟩ s.withoutSelected
        (List.replicate k Notice.selectionChanged ++
          Removed.report ⟨s.chosenCards.length, links⟩ s.withoutSelected.diagram) ∧
      links + s.withoutSelected.byKey.length = s.byKey.length := by
  obtain ⟨links, ⟨k, hk⟩, hcount⟩ := quiet_removeSelected h hl
  generalize s.chosenCards.length = blocks at hk
  refine ⟨links, k, hk.bind ?_, hcount⟩
  have hlast : Tells
      (if blocks ≠ 0 ∨ links ≠ 0 then do announceDiagram; return (⟨blocks, links⟩ : Removed)
      else return ⟨blocks, links⟩) s.withoutSelected ⟨blocks, links⟩ s.withoutSelected
      (if Removed.any ⟨blocks, links⟩ then [.changed s.withoutSelected.diagram] else []) := by
    by_cases hany : blocks ≠ 0 ∨ links ≠ 0
    · rw [if_pos hany, if_pos (by simpa [Removed.any] using hany)]
      exact (tells_announceDiagram _).bind (tells_pure _ _)
    · rw [if_neg hany, if_neg (by simpa [Removed.any] using hany)]
      exact tells_pure _ _
  unfold Removed.report
  dsimp only
  split <;> split
  · exact (tells_announce _ _).bind ((tells_announce _ _).bind
      ((tells_announce _ _).bind ((tells_announce _ _).bind hlast)))
  · exact (tells_announce _ _).bind ((tells_announce _ _).bind hlast)
  · exact (tells_announce _ _).bind ((tells_announce _ _).bind hlast)
  · exact hlast

end Edit

/-! ## runs -/

namespace Session

/-- After a run from an empty scene, on what is there at each step, deleting the selection succeeds
and leaves exactly the blocks that are not selected and the links that are neither selected nor
touch a selected block.  Beside changes of the selection it announces how many blocks and links
went, each when there were some, and the diagram that is left, when anything went.  The blocks are
those that went from the diagram.  The links are those that went and had a wire, which are all that
went when no diagram was opened that has links and stops half way. -/
theorem deletion_exact (catalog : Catalog) (listener : Option Listener) (order : Arrangement)
    (ops : List Operation) (hfair : Always Fair (blank catalog listener order) ops) :
    let t := (blank catalog listener order).run ops
    ∃ removed t' k, Edit.deleteSelected.run t = (.ok removed, t') ∧
      t'.scene.diagram.nodes = t.scene.diagram.nodes.filter (fun n => !t.scene.dropsNode n) ∧
      t'.scene.diagram.links = t.scene.diagram.links.filter (fun l => !t.scene.dropsLink l) ∧
      t'.log.map Prod.fst = t.log.map Prod.fst ++
        (List.replicate k .selectionChanged ++ removed.report t'.scene.diagram) ∧
      (removed.any = true ↔ t'.scene.diagram ≠ t.scene.diagram) ∧
      removed.blocks = t.scene.diagram.nodes.countP t.scene.dropsNode ∧
      removed.links = t.scene.byKey.countP t.scene.dropsEntry ∧
      (Always (fun t op => ∀ d, op = .load d → op.Stops t → d.links = [])
        (blank catalog listener order) ops →
        removed.links = t.scene.diagram.links.countP t.scene.dropsLink) := by
  intro t
  have hblank := Scene.faithful_blank catalog listener order
  have h : t.scene.Faithful :=
    run_keeps (fun _ _ => faithful_perform) hblank hfair (List.prefix_refl ops)
  have hl : t.scene.Listed := listed_run (Scene.listed_blank catalog listener order) ops
  obtain ⟨links, k, htells, hcount⟩ := Edit.tells_deleteSelected h hl
  obtain ⟨new, hrun, hnew⟩ := htells t.log
  refine ⟨_, _, k, hrun, h.nodes_withoutSelected, t.scene.links_withoutSelected, ?_,
    h.any_iff hcount hl, h.length_chosenCards hl, h.count_entries hcount,
      fun hgood => h.count_links hcount ?_⟩
  · rw [List.map_append, hnew]
  · have hall : ∀ done, done <+: ops → ((blank catalog listener order).run done).scene.Faithful ∧
        ((blank catalog listener order).run done).scene.Matched :=
      (run_keeps_iff (fun _ _ => matched_perform_iff) ⟨hblank, rfl⟩ hfair).mpr hgood
    exact (hall ops (List.prefix_refl ops)).2

/-- Two blocks are linked, and both are deleted together with the wire between them. -/
theorem deletion_exact_overlapping :
    let ops : List Operation := [
      .add (.text "relay") ⟨0, 0⟩ "a" [], .add (.text "relay") ⟨200, 0⟩ "b" [],
      .beginWire ⟨0, .output, 0⟩, .completeWire ⟨1, .input, 0⟩, .select (.card 0) true,
      .select (.card 1) true, .select (.wire 1) true]
    Always Fair (blank relay none) ops ∧
      ∃ t', Edit.deleteSelected.run ((blank relay none).run ops) = (.ok ⟨2, 1⟩, t') ∧
        t'.scene.diagram.nodes = [] ∧ t'.scene.diagram.links = [] := by
  intro ops
  have hfair : Always Fair (blank relay none) ops := by decide +kernel
  obtain ⟨⟨blocks, links⟩, t', _, hrun, hnodes, hlinks, _, _, hblocks, _, hcount⟩ :=
    deletion_exact relay none .asAdded ops hfair
  have hlinksCount := hcount ⟨nofun, nofun, nofun, nofun, nofun, nofun, nofun, trivial⟩
  have htwo : blocks = 2 := hblocks.trans (by decide +kernel)
  have hone : links = 1 := hlinksCount.trans (by decide +kernel)
  subst htwo hone
  exact ⟨hfair, t', hrun, hnodes.trans (by decide +kernel), hlinks.trans (by decide +kernel)⟩

/-- A diagram is opened in which two blocks are linked and a third stands at no place, and the first
block is deleted: the link goes with it and is not counted. -/
theorem uncounted_of_stopped :
    let t := (blank relay none).run [
      .load {
        nodes := [{ uid := "a", type := .text "relay" },
          { uid := "b", type := .text "relay", x := 200 },
          { uid := "c", type := .text "relay", x := 0.0 / 0.0 }]
        links := [⟨"a", "out", "b", "in"⟩] },
      .select (.card 0) true]
    (Edit.deleteSelected.run t).1.toOption = some ⟨1, 0⟩ ∧
      t.scene.diagram.links.countP t.scene.dropsLink = 1 ∧
      (Edit.deleteSelected.run t).2.scene.diagram.links = [] ∧
      .linksRemoved 1 ∉ (Edit.deleteSelected.run t).2.log.map Prod.fst := by
  decide +kernel

end Session

end Canvas

end BlockSketch
