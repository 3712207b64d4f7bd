import BlockSketch.Proofs.Canvas.Run

/-!
# BlockSketch.Proofs.Canvas.Frame

What the steps on a scene leave as it was.  A lemma named `f_eq` says which parts
of the scene the step `f` can change; the lemmas after it read single parts off.

* `links_after` — the links after an operation;
* `Stepwise.after` — what each single step keeps, every operation keeps.
-/

namespace BlockSketch.Canvas.Scene

/-! ## cards and wires by number -/

/-- A new card changes no card there was. -/
theorem card_addCard_of_lt {s : Scene} {h : Nat} (c : Card) (hlt : h < s.cards.length) :
    (s.addCard c).card h = s.card h := by
  simp [card, addCard, List.getD_eq_getElem?_getD, List.getElem?_append_left hlt]

theorem card_addCard_self (s : Scene) (c : Card) : (s.addCard c).card s.cards.length = c := by
  simp [card, addCard, List.getD_eq_getElem?_getD]

/-- A new wire changes no wire there was. -/
theorem wire_addWire_of_lt {s : Scene} {h : Nat} (w : Wire) (hlt : h < s.wires.length) :
    (s.addWire w).wire h = s.wire h := by
  simp [wire, addWire, List.getD_eq_getElem?_getD, List.getElem?_append_left hlt]

theorem wire_addWire_self (s : Scene) (w : Wire) :
    (s.addWire w).wire s.wires.length = { w with curve := s.curveOf w } := by
  simp [wire, addWire, List.getD_eq_getElem?_getD]

/-- Setting one wire leaves the others alone. -/
theorem wire_setWire_of_ne {s : Scene} {h other : Nat} (f : Wire → Wire) (hne : h ≠ other) :
    (s.setWire h f).wire other = s.wire other := by
  simp [wire, setWire, List.getD_eq_getElem?_getD, hne]

/-- A wire that shows a link was made. -/
theorem lt_of_link {s : Scene} {w : Nat} {l : Link} (h : (s.wire w).link = some l) :
    w < s.wires.length := by
  refine Nat.lt_of_not_le fun hge => ?_
  have hnone : s.wires[w]? = none := List.getElem?_eq_none hge
  simp [wire, List.getD_eq_getElem?_getD, hnone] at h
  cases h

/-- What is selected does not depend on the order in which it is listed. -/
theorem mem_selection {s : Scene} {item : Item} :
    item ∈ s.selection ↔ item ∈ s.items ∧ s.isSelected item = true :=
  (s.arrangement.perm _).mem_iff.trans List.mem_filter

/-- A mark changes nothing of a card but whether it is selected. -/
theorem card_mark (s : Scene) (item : Item) (on : Bool) (h : Nat) :
    ∃ selected, (s.mark item on).card h = { s.card h with selected } := by
  cases item with
  | wire w => exact ⟨_, rfl⟩
  | card c =>
    simp only [mark, card, setCard, List.getD_eq_getElem?_getD, List.getElem?_modify]
    cases s.cards[h]? with
    | none => exact ⟨_, rfl⟩
    | some found =>
      by_cases hc : c = h
      · exact ⟨on, by simp [hc]⟩
      · exact ⟨_, by simp [hc]; rfl⟩

/-- A mark changes nothing of a wire but whether it is selected. -/
theorem wire_mark (s : Scene) (item : Item) (on : Bool) (h : Nat) :
    ∃ selected, (s.mark item on).wire h = { s.wire h with selected } := by
  cases item with
  | card c => exact ⟨_, rfl⟩
  | wire w =>
    simp only [mark, wire, setWire, List.getD_eq_getElem?_getD, List.getElem?_modify]
    cases s.wires[h]? with
    | none => exact ⟨_, rfl⟩
    | some found =>
      by_cases hw : w = h
      · exact ⟨on, by simp [hw]⟩
      · exact ⟨_, by simp [hw]; rfl⟩

/-- Marking an item changes nothing but cards and wires. -/
theorem mark_eq (s : Scene) (item : Item) (on : Bool) :
    s.mark item on =
      { s with cards := (s.mark item on).cards, wires := (s.mark item on).wires } := by
  cases item <;> rfl

theorem length_cards_mark (s : Scene) (item : Item) (on : Bool) :
    (s.mark item on).cards.length = s.cards.length := by
  cases item <;> simp [mark, setCard, setWire]

theorem length_wires_mark (s : Scene) (item : Item) (on : Bool) :
    (s.mark item on).wires.length = s.wires.length := by
  cases item <;> simp [mark, setCard, setWire]

/-- What a step on scenes keeps, steps one after the other keep. -/
theorem foldl_keeps {α : Type} {P : Scene → Prop} {f : Scene → α → Scene}
    (hf : ∀ s a, P s → P (f s a)) (as : List α) {s : Scene} (h : P s) : P (as.foldl f s) := by
  induction as generalizing s with
  | nil => exact h
  | cons a as ih => exact ih (hf s a h)

/-! ## giving up the wire that is being drawn -/

/-- The preview is the wire that is being drawn together with the port it was begun at. -/
theorem preview_eq_some_iff {s : Scene} {p : Preview} :
    s.preview = some p ↔ s.drawn = some p.wire ∧ s.drawnFrom = some p.start := by
  obtain ⟨wire, start⟩ := p
  unfold preview
  cases s.drawn <;> cases s.drawnFrom <;> simp

theorem preview_of_drawn_none {s : Scene} (h : s.drawn = none) : s.preview = none := by
  unfold preview
  rw [h]

/-- Giving up the wire that is being drawn changes nothing but the items and what is being drawn. -/
theorem withoutPreview_eq (s : Scene) :
    s.withoutPreview =
      { s with items := s.withoutPreview.items, drawn := none, drawnFrom := none } := by
  unfold withoutPreview
  cases s.drawn <;> rfl

section WithoutPreview

variable (s : Scene)

@[simp] theorem cards_withoutPreview : s.withoutPreview.cards = s.cards := by
  rw [s.withoutPreview_eq]

@[simp] theorem wires_withoutPreview : s.withoutPreview.wires = s.wires := by
  rw [s.withoutPreview_eq]

@[simp] theorem byUid_withoutPreview : s.withoutPreview.byUid = s.byUid := by
  rw [s.withoutPreview_eq]

@[simp] theorem byKey_withoutPreview : s.withoutPreview.byKey = s.byKey := by
  rw [s.withoutPreview_eq]

@[simp] theorem plugged_withoutPreview : s.withoutPreview.plugged = s.plugged := by
  rw [s.withoutPreview_eq]

@[simp] theorem holding_withoutPreview : s.withoutPreview.holding = s.holding := by
  rw [s.withoutPreview_eq]

@[simp] theorem links_withoutPreview : s.withoutPreview.links = s.links := by
  rw [s.withoutPreview_eq]

@[simp] theorem drawn_withoutPreview : s.withoutPreview.drawn = none := by
  rw [s.withoutPreview_eq]

@[simp] theorem preview_withoutPreview : s.withoutPreview.preview = none :=
  preview_of_drawn_none s.drawn_withoutPreview

theorem mem_items_withoutPreview (item : Item) :
    item ∈ s.withoutPreview.items ↔
      item ∈ s.items ∧ ∀ w, s.drawn = some w → item ≠ .wire w := by
  unfold withoutPreview
  cases s.drawn <;> simp [takeOut]

end WithoutPreview

/-! ## taking a wire off its ports -/

/-- Taking a wire off ports one after the other takes it off exactly those. -/
theorem foldl_unplug (h : Nat) (rs : List PortRef) (s : Scene) :
    rs.foldl (fun s r => s.unplug h r) s =
      { s with
        plugged := s.plugged.filter fun e => !(e.2 = h ∧ e.1 ∈ rs)
        holding := s.holding.filter fun e => !(e.2 = h ∧ e.1 ∈ rs.map PortRef.card) } := by
  induction rs generalizing s with
  | nil => simp [List.filter_eq_self.mpr]
  | cons r rs ih =>
    rw [List.foldl_cons, ih]
    unfold unplug
    simp only [List.filter_filter, List.map_cons, List.mem_cons]
    congr 2
    · funext e
      obtain ⟨q, w⟩ := e
      by_cases hw : w = h <;> by_cases hq : q = r <;> simp [hw, hq]
    · funext e
      obtain ⟨c, w⟩ := e
      by_cases hw : w = h <;> by_cases hc : c = r.card <;> simp [hw, hc]

/-- Detaching a wire changes that wire and where it hangs, and nothing else. -/
theorem detach_eq (s : Scene) (h : Nat) :
    s.detach h =
      { s with
        wires := s.wires.modify h fun w => { w with start := none, finish := none }
        plugged := s.plugged.filter fun e => !(e.2 = h ∧ e.1 ∈ (s.wire h).ends)
        holding := s.holding.filter fun e =>
          !(e.2 = h ∧ e.1 ∈ (s.wire h).ends.map PortRef.card) } := by
  unfold detach
  rw [foldl_unplug]
  rfl

/-! ## removing wires and cards -/

/-- A wire that shows no link is not removed. -/
theorem withoutWire_of_none {s : Scene} {h : Nat} (hl : (s.wire h).link = none) :
    s.withoutWire h = s := by
  unfold withoutWire
  rw [hl]

/-- Removing a wire changes the wire, where it hangs, its entry, its link, its item and what the
listener has heard. -/
theorem withoutWire_of_some {s : Scene} {h : Nat} {l : Link} (hl : (s.wire h).link = some l) :
    s.withoutWire h =
      { s with
        wires := s.wires.modify h fun w => { w with start := none, finish := none }
        plugged := s.plugged.filter fun e => !(e.2 = h ∧ e.1 ∈ (s.wire h).ends)
        holding := s.holding.filter fun e => !(e.2 = h ∧ e.1 ∈ (s.wire h).ends.map PortRef.card)
        byKey := Assoc.erase s.byKey l.key
        links := s.links.filter fun other => other ≠ l
        items := s.items.filter fun other => other ≠ .wire h
        listener := (s.withoutWire h).listener } := by
  unfold withoutWire
  rw [hl, detach_eq]
  rfl

/-- Removing a wire adds no link. -/
theorem links_withoutWire_subset (s : Scene) (h : Nat) : (s.withoutWire h).links ⊆ s.links := by
  cases hl : (s.wire h).link with
  | none =>
    rw [withoutWire_of_none hl]
    exact List.Subset.refl _
  | some l =>
    rw [withoutWire_of_some hl]
    exact List.filter_sublist.subset

theorem links_withoutWires_subset (hs : List Nat) (s : Scene) :
    (hs.foldl withoutWire s).links ⊆ s.links :=
  foldl_keeps (fun t h ht => List.Subset.trans (t.links_withoutWire_subset h) ht) hs
    (List.Subset.refl _)

@[simp] theorem cards_withoutWire (s : Scene) (h : Nat) : (s.withoutWire h).cards = s.cards := by
  cases hl : (s.wire h).link with
  | none => rw [withoutWire_of_none hl]
  | some l => rw [withoutWire_of_some hl]

@[simp] theorem byUid_withoutWire (s : Scene) (h : Nat) : (s.withoutWire h).byUid = s.byUid := by
  cases hl : (s.wire h).link with
  | none => rw [withoutWire_of_none hl]
  | some l => rw [withoutWire_of_some hl]

@[simp] theorem cards_withoutWires (hs : List Nat) (s : Scene) :
    (hs.foldl withoutWire s).cards = s.cards :=
  foldl_keeps (fun t h ht => (t.cards_withoutWire h).trans ht) hs rfl

@[simp] theorem byUid_withoutWires (hs : List Nat) (s : Scene) :
    (hs.foldl withoutWire s).byUid = s.byUid :=
  foldl_keeps (fun t h ht => (t.byUid_withoutWire h).trans ht) hs rfl

@[simp] theorem cards_withoutBlock (s : Scene) (h : Nat) : (s.withoutBlock h).cards = s.cards :=
  cards_withoutWires _ s

/-- Removing a block files no card anew. -/
theorem byUid_withoutBlock_subset (s : Scene) (h : Nat) : (s.withoutBlock h).byUid ⊆ s.byUid := by
  intro e he
  have hmem := ((Assoc.mem_erase _ _ e).mp he).1
  rwa [byUid_withoutWires] at hmem

/-- Removing a block adds no link. -/
theorem links_withoutBlock_subset (s : Scene) (h : Nat) : (s.withoutBlock h).links ⊆ s.links :=
  List.Subset.trans List.filter_sublist.subset (links_withoutWires_subset _ s)

/-- Deleting the selection adds no link. -/
theorem links_withoutSelected_subset (s : Scene) : s.withoutSelected.links ⊆ s.links :=
  foldl_keeps (fun t h ht => List.Subset.trans (t.links_withoutBlock_subset h) ht) s.chosenCards
    (links_withoutWires_subset s.chosenWires s)

/-! ## selecting, adding and opening -/

/-- Selecting an item changes nothing but cards and wires. -/
theorem chosen_eq (s : Scene) (item : Item) (on : Bool) :
    s.chosen item on =
      { s with cards := (s.chosen item on).cards, wires := (s.chosen item on).wires } := by
  unfold chosen
  split
  · exact s.mark_eq item on
  · rfl

section Chosen

variable (s : Scene) (item : Item) (on : Bool)

@[simp] theorem links_chosen : (s.chosen item on).links = s.links := by rw [chosen_eq]

@[simp] theorem byUid_chosen : (s.chosen item on).byUid = s.byUid := by rw [chosen_eq]

@[simp] theorem byKey_chosen : (s.chosen item on).byKey = s.byKey := by rw [chosen_eq]

end Chosen

/-- Putting up cards changes nothing but the cards, the items and the register of blocks. -/
theorem withCards_eq (nodes : List Node) (s : Scene) :
    s.withCards nodes =
      { s with
        cards := (s.withCards nodes).cards
        items := (s.withCards nodes).items
        byUid := (s.withCards nodes).byUid } := by
  induction nodes generalizing s with
  | nil => rfl
  | cons n rest ih =>
    unfold withCards
    cases Edit.cardFor s.catalog n with
    | error fault => rfl
    | ok c => exact ih (s.addCard c)

@[simp] theorem links_withCards (nodes : List Node) (s : Scene) :
    (s.withCards nodes).links = s.links := by
  rw [withCards_eq]

@[simp] theorem byKey_withCards (nodes : List Node) (s : Scene) :
    (s.withCards nodes).byKey = s.byKey := by
  rw [withCards_eq]

/-- Adding a block changes no more than that and the count of identifiers given out. -/
theorem added_eq (s : Scene) (type : Value) (p : Point) (uid : Text) (given : Fields) :
    ∃ minted, s.added type p uid given =
      { s with
        cards := (s.added type p uid given).cards
        items := (s.added type p uid given).items
        byUid := (s.added type p uid given).byUid
        minted } := by
  unfold added withUid
  cases s.catalog.entry type with
  | error fault => exact ⟨s.minted, rfl⟩
  | ok fs =>
    cases uid.isEmpty with
    | true => exact ⟨s.minted + 1, withCards_eq _ { s with minted := s.minted + 1 }⟩
    | false => exact ⟨s.minted, withCards_eq _ s⟩

@[simp] theorem links_added (s : Scene) (type : Value) (p : Point) (uid : Text) (given : Fields) :
    (s.added type p uid given).links = s.links := by
  obtain ⟨minted, h⟩ := s.added_eq type p uid given
  rw [h]

@[simp] theorem byKey_added (s : Scene) (type : Value) (p : Point) (uid : Text) (given : Fields) :
    (s.added type p uid given).byKey = s.byKey := by
  obtain ⟨minted, h⟩ := s.added_eq type p uid given
  rw [h]

/-- Beginning a wire changes nothing but the wires, the items and what is being drawn. -/
theorem begun_eq (s : Scene) (r : PortRef) :
    s.begun r =
      { s with
        wires := (s.begun r).wires
        items := (s.begun r).items
        drawn := (s.begun r).drawn
        drawnFrom := (s.begun r).drawnFrom } := by
  unfold begun
  cases r.side with
  | input => rfl
  | output =>
    dsimp only
    rw [s.withoutPreview_eq]
    rfl

section Begun

variable (s : Scene) (r : PortRef)

@[simp] theorem links_begun : (s.begun r).links = s.links := by rw [begun_eq]

@[simp] theorem cards_begun : (s.begun r).cards = s.cards := by rw [begun_eq]

@[simp] theorem byUid_begun : (s.begun r).byUid = s.byUid := by rw [begun_eq]

@[simp] theorem byKey_begun : (s.begun r).byKey = s.byKey := by rw [begun_eq]

/-- Begun at an output, the new wire is the one that is being drawn. -/
theorem preview_begun {r : PortRef} (hr : r.side = .output) :
    (s.begun r).preview = some ⟨s.wires.length, r⟩ := by
  unfold begun
  rw [hr]
  exact preview_eq_some_iff.mpr ⟨congrArg (fun wires => some wires.length)
    s.wires_withoutPreview, rfl⟩

end Begun

@[simp] theorem cards_linked (s : Scene) (start finish : PortRef) :
    (s.linked start finish).cards = s.cards := s.cards_withoutPreview

@[simp] theorem byUid_linked (s : Scene) (start finish : PortRef) :
    (s.linked start finish).byUid = s.byUid := s.byUid_withoutPreview

/-- Joining two ports adds their link at the end. -/
theorem links_linked (s : Scene) (start finish : PortRef) :
    (s.linked start finish).links = s.links ++ [Edit.linkBetween s start finish] := by
  change s.withoutPreview.links ++ _ = _
  rw [links_withoutPreview]

/-- Restoring a link puts up its wire or drops the link; it adds none. -/
theorem links_restored_subset (s : Scene) (l : Link) : (s.restored l).links ⊆ s.links := by
  unfold restored
  split
  · exact List.Subset.refl _
  · exact List.filter_sublist.subset

/-- Restoring several links adds none either. -/
theorem links_restoreds_subset (ls : List Link) (s : Scene) :
    (ls.foldl restored s).links ⊆ s.links :=
  foldl_keeps (fun t l ht => List.Subset.trans (t.links_restored_subset l) ht) ls
    (List.Subset.refl _)

@[simp] theorem cards_restored (s : Scene) (l : Link) : (s.restored l).cards = s.cards := by
  unfold restored
  split <;> rfl

@[simp] theorem byUid_restored (s : Scene) (l : Link) : (s.restored l).byUid = s.byUid := by
  unfold restored
  split <;> rfl

@[simp] theorem cards_restoreds (ls : List Link) (s : Scene) :
    (ls.foldl restored s).cards = s.cards :=
  foldl_keeps (fun t l ht => (t.cards_restored l).trans ht) ls rfl

@[simp] theorem byUid_restoreds (ls : List Link) (s : Scene) :
    (ls.foldl restored s).byUid = s.byUid :=
  foldl_keeps (fun t l ht => (t.byUid_restored l).trans ht) ls rfl

/-- An opened diagram brings no link that is not its own. -/
theorem links_loaded_subset (s : Scene) (d : Diagram) : (s.loaded d).links ⊆ d.links := by
  have hcleared : ((s.cleared d.links).withCards d.nodes).links ⊆ d.links := by
    rw [links_withCards]
    exact List.Subset.refl _
  unfold loaded
  split
  · exact List.Subset.trans (links_restoreds_subset _ _) hcleared
  · exact hcleared

/-! ## ending the wire that is being drawn -/

/-- The port at which an operation tries to end the wire that is being drawn. -/
def target? (s : Scene) : Operation → Option PortRef
  | .completeWire r => some r
  | .releaseAt left p => if left then (s.portsNear p).find? fun r => r.side = .input else none
  | _ => none

/-- The two ports that an operation joins by a new link. -/
def joined? (s : Scene) (op : Operation) : Option (PortRef × PortRef) :=
  match s.preview, s.target? op with
  | some p, some finish =>
    if Edit.refusal? s p.start finish = none then some (p.start, finish) else none
  | _, _ => none

/-- An operation joins two ports when a wire is being drawn from the one, it hits the other, and
nothing is refused. -/
theorem joined?_eq_some_iff {s : Scene} {op : Operation} {start finish : PortRef} :
    s.joined? op = some (start, finish) ↔
      (∃ p, s.preview = some p ∧ p.start = start) ∧ s.target? op = some finish ∧
        Edit.refusal? s start finish = none := by
  unfold joined?
  cases s.preview with
  | none => simp
  | some p =>
    cases s.target? op with
    | none => simp
    | some r =>
      by_cases hr : Edit.refusal? s p.start r = none
      · simp only [hr, if_true, Option.some.injEq, Prod.mk.injEq]
        constructor
        · rintro ⟨rfl, rfl⟩
          exact ⟨⟨p, rfl, rfl⟩, rfl, hr⟩
        · rintro ⟨⟨q, rfl, rfl⟩, rfl, _⟩
          exact ⟨rfl, rfl⟩
      · simp only [hr, if_false, Option.some.injEq]
        refine iff_of_false (nofun) ?_
        rintro ⟨⟨q, rfl, rfl⟩, rfl, hnone⟩
        exact hr hnone

/-- What is checked before two ports are joined. -/
theorem refusal?_eq_none_iff {s : Scene} {start finish : PortRef} :
    Edit.refusal? s start finish = none ↔
      finish ≠ start ∧ finish.side = .input ∧ start.side = .output ∧ s.wiresAt finish = [] ∧
        Edit.compatible (s.portSpec start).type (s.portSpec finish).type = true ∧
        (Edit.linkBetween s start finish).key ∉ Assoc.keys s.byKey ∧
        Diagram.closesCycle s.links (s.uidAt start) (s.uidAt finish) = false := by
  rw [← Assoc.has_iff_mem_keys]
  unfold Edit.refusal?
  simp only [Edit.linkBetween]
  grind

/-- An operation that ends a wire joins two ports, or gives the wire up, or leaves it as it is. -/
def EndsWire (s : Scene) (op : Operation) : Prop :=
  (∃ start finish, s.joined? op = some (start, finish) ∧ s.after op = s.linked start finish) ∨
    s.joined? op = none ∧ (s.after op = s ∨ s.after op = s.withoutPreview)

theorem endsWire_completeWire (s : Scene) (r : PortRef) : s.EndsWire (.completeWire r) := by
  unfold EndsWire joined? target? after completed
  cases s.preview with
  | none => exact .inr ⟨rfl, .inl rfl⟩
  | some p =>
    dsimp only
    cases Edit.refusal? s p.start r with
    | none => exact .inl ⟨p.start, r, rfl, rfl⟩
    | some why =>
      refine .inr ⟨rfl, ?_⟩
      dsimp only
      split
      · exact .inr rfl
      · exact .inl rfl

theorem endsWire_releaseAt (s : Scene) (left : Bool) (p : Point) :
    s.EndsWire (.releaseAt left p) := by
  cases hp : s.drawn with
  | none =>
    have hnone : s.joined? (.releaseAt left p) = none := by simp [joined?, preview_of_drawn_none hp]
    have hafter : s.after (.releaseAt left p) = s := by simp [after, released, hp]
    exact .inr ⟨hnone, .inl hafter⟩
  | some w =>
    cases left with
    | false =>
      have hnone : s.joined? (.releaseAt false p) = none := by simp [joined?, target?]
      have hafter : s.after (.releaseAt false p) = s := by simp [after, released]
      exact .inr ⟨hnone, .inl hafter⟩
    | true =>
      cases hr : (s.portsNear p).find? fun r => r.side = .input with
      | none =>
        have hnone : s.joined? (.releaseAt true p) = none := by simp [joined?, target?, hr]
        have hafter : s.after (.releaseAt true p) = s.withoutPreview := by
          simp [after, released, hp, hr]
        exact .inr ⟨hnone, .inr hafter⟩
      | some r =>
        -- the release ends the wire at the port under the mouse
        have hjoined : s.joined? (.releaseAt true p) = s.joined? (.completeWire r) := by
          simp [joined?, target?, hr]
        have hafter : s.after (.releaseAt true p) = s.after (.completeWire r) := by
          simp [after, released, hp, hr]
        have hends := s.endsWire_completeWire r
        unfold EndsWire at hends ⊢
        rw [hjoined, hafter]
        exact hends

/-! ## links -/

/-- An operation drops links, or adds the link between two ports that it joins, or opens a
diagram. -/
theorem links_after (s : Scene) (op : Operation) :
    (s.after op).links ⊆ s.links ∨
    (∃ start finish, s.joined? op = some (start, finish) ∧
      (s.after op).links = s.links ++ [Edit.linkBetween s start finish]) ∨
    ∃ d, op = .load d ∧ (s.after op).links ⊆ d.links := by
  have hending (h : s.EndsWire op) : (s.after op).links ⊆ s.links ∨
      ∃ start finish, s.joined? op = some (start, finish) ∧
        (s.after op).links = s.links ++ [Edit.linkBetween s start finish] := by
    rcases h with ⟨start, finish, hj, ha⟩ | ⟨_, ha | ha⟩
    · exact .inr ⟨start, finish, hj, by rw [ha, links_linked]⟩
    · exact .inl (by rw [ha]; exact List.Subset.refl _)
    · exact .inl (by rw [ha, links_withoutPreview]; exact List.Subset.refl _)
  cases op with
  | select item on => exact .inl (by rw [after, links_chosen]; exact List.Subset.refl _)
  | add type p uid given => exact .inl (by rw [after, links_added]; exact List.Subset.refl _)
  | beginWire r => exact .inl (by rw [after, links_begun]; exact List.Subset.refl _)
  | completeWire r => exact (hending (s.endsWire_completeWire r)).imp_right .inl
  | releaseAt left p => exact (hending (s.endsWire_releaseAt left p)).imp_right .inl
  | cancelPreview => exact .inl (by rw [after, links_withoutPreview]; exact List.Subset.refl _)
  | deleteSelected => exact .inl s.links_withoutSelected_subset
  | load d => exact .inr (.inr ⟨d, rfl, s.links_loaded_subset d⟩)
  | announceParams card => exact .inl (List.Subset.refl _)

/-! ## what every operation keeps -/

/-- A property that the single steps keep of which operations are made. -/
structure Stepwise (P : Scene → Prop) : Prop where
  mark : ∀ s item on, P s → P (s.mark item on)
  withoutPreview : ∀ s, P s → P s.withoutPreview
  begun : ∀ s r, P s → P (s.begun r)
  addCard : ∀ s {n c}, Edit.cardFor s.catalog n = .ok c → P s → P (s.addCard c)
  joinPorts : ∀ s l start finish, P s → P (s.joinPorts l start finish)
  withLinks : ∀ s links, P s → P { s with links }
  withoutWire : ∀ s w, P s → P (s.withoutWire w)
  withoutCard : ∀ s c, P s → P (s.withoutCard c)
  cleared : ∀ s links, P s → P (s.cleared links)
  minted : ∀ s n, P s → P { s with minted := n }

namespace Stepwise

variable {P : Scene → Prop} (hP : Stepwise P)

include hP

/-- Cards are put up one by one. -/
theorem withCards (nodes : List Node) {s : Scene} (hs : P s) : P (s.withCards nodes) := by
  induction nodes generalizing s with
  | nil => exact hs
  | cons n rest ih =>
    unfold Scene.withCards
    cases hc : Edit.cardFor s.catalog n with
    | error fault => exact hs
    | ok c => exact ih (hP.addCard s hc hs)

/-- Adding a block gives out an identifier, if asked to, and puts up one card. -/
theorem added (s : Scene) (type : Value) (p : Point) (uid : Text) (given : Fields) (hs : P s) :
    P (s.added type p uid given) := by
  unfold Scene.added withUid
  cases s.catalog.entry type with
  | error fault => exact hs
  | ok fs =>
    cases uid.isEmpty with
    | true => exact hP.withCards _ (hP.minted s _ hs)
    | false => exact hP.withCards _ hs

/-- Linking gives up the wire that is being drawn, puts up another and adds the link. -/
theorem linked (s : Scene) (start finish : PortRef) (hs : P s) : P (s.linked start finish) :=
  hP.withLinks _ _ (hP.joinPorts _ _ start finish (hP.withoutPreview s hs))

/-- Wires are removed one by one. -/
theorem withoutWires (ws : List Nat) {s : Scene} (hs : P s) : P (ws.foldl Scene.withoutWire s) :=
  foldl_keeps (fun t w ht => hP.withoutWire t w ht) ws hs

/-- Deleting the selection removes its wires, and then each card after its wires. -/
theorem withoutSelected (s : Scene) (hs : P s) : P s.withoutSelected :=
  foldl_keeps (fun _ c ht => hP.withoutCard _ c (hP.withoutWires _ ht)) s.chosenCards
    (hP.withoutWires s.chosenWires hs)

/-- Restoring a link puts up a wire or drops the link. -/
theorem restored (s : Scene) (l : Link) (hs : P s) : P (s.restored l) := by
  unfold Scene.restored
  split
  · exact hP.joinPorts s l _ _ hs
  · exact hP.withLinks s _ hs

/-- Opening a diagram clears all, puts up cards and then restores links. -/
theorem loaded (s : Scene) (d : Diagram) (hs : P s) : P (s.loaded d) := by
  have hdealt := hP.withCards d.nodes (hP.cleared s d.links hs)
  unfold Scene.loaded
  split
  · exact foldl_keeps (fun t l ht => hP.restored t l ht) d.links hdealt
  · exact hdealt

/-- What every single step keeps, every operation keeps. -/
theorem after (s : Scene) (op : Operation) (hs : P s) : P (s.after op) := by
  have hending (he : s.EndsWire op) : P (s.after op) := by
    rcases he with ⟨start, finish, _, ha⟩ | ⟨_, ha | ha⟩
    · rw [ha]
      exact hP.linked s start finish hs
    · rwa [ha]
    · rw [ha]
      exact hP.withoutPreview s hs
  cases op with
  | select item on =>
    change P (s.chosen item on)
    unfold chosen
    split
    · exact hP.mark s item on hs
    · exact hs
  | add type p uid given => exact hP.added s type p uid given hs
  | beginWire r => exact hP.begun s r hs
  | completeWire r => exact hending (s.endsWire_completeWire r)
  | releaseAt left p => exact hending (s.endsWire_releaseAt left p)
  | cancelPreview => exact hP.withoutPreview s hs
  | deleteSelected => exact hP.withoutSelected s hs
  | load d => exact hP.loaded s d hs
  | announceParams card => exact hs

end Stepwise

end BlockSketch.Canvas.Scene
