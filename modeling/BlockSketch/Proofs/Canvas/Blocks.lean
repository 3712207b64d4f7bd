import BlockSketch.Proofs.Canvas.Frame

/-!
# BlockSketch.Proofs.Canvas.Blocks

The blocks of a scene by their identifiers.  `Scene.byUid` is to name, for every
identifier, a card whose block has it; `Scene.Named` says so, and every operation
keeps it.

* `named_after`, `named_run` — the step and the run;
* `uids_diagram` — in such a scene the keys of `byUid` are the identifiers of the
  blocks in the diagram, in order;
* `mem_keys_withCards` — the blocks of a diagram that get a card are those before the
  first one that has none.
-/

namespace BlockSketch

def Diagram.uids (d : Diagram) : List Text := d.nodes.map Node.uid

/-- What a block is, wherever it stands: its identifier, its type and its parameter values. -/
def Node.content (n : Node) : Text × Value × Fields := (n.uid, n.type, n.params)

namespace Canvas

/-- The blocks of a list before the first one that has no card. -/
def cardable (c : Catalog) (nodes : List Node) : List Node :=
  nodes.takeWhile fun n => (Edit.cardFor c n).isOk

/-- The card of a block shows that block. -/
theorem content_of_cardFor {catalog : Catalog} {n : Node} {c : Card}
    (hc : Edit.cardFor catalog n = .ok c) : c.node.content = n.content := by
  unfold Edit.cardFor at hc
  cases he : catalog.entry n.type with
  | error fault => simp [he, bind, Except.bind] at hc
  | ok fs =>
    cases ht : catalog.title n.type with
    | error fault => simp [he, ht, bind, Except.bind] at hc
    | ok title =>
      simp only [he, ht, bind, Except.bind] at hc
      split at hc
      · exact nomatch hc
      · rw [← Except.ok.inj hc]
        rfl

/-- A card carries the identifier of the node it is made for. -/
theorem uid_of_cardFor {catalog : Catalog} {n : Node} {c : Card}
    (hc : Edit.cardFor catalog n = .ok c) : c.node.uid = n.uid :=
  congrArg Prod.fst (content_of_cardFor hc)

namespace Scene

/-- Every entry of `byUid` is a card that was made, with a block of that identifier. -/
def Named (s : Scene) : Prop :=
  ∀ e ∈ s.byUid, e.2 < s.cards.length ∧ (s.card e.2).node.uid = e.1

/-- The diagram of a named scene has the identifiers that are registered, in that order. -/
theorem uids_diagram {s : Scene} (h : s.Named) : s.diagram.uids = Assoc.keys s.byUid := by
  unfold Diagram.uids diagram nodes Assoc.keys
  rw [List.map_map]
  exact List.map_congr_left fun e he => (h e he).2

/-- Fewer entries of the same cards are named no worse. -/
theorem Named.of_subset {s t : Scene} (h : s.Named) (hcards : t.cards = s.cards)
    (hsub : t.byUid ⊆ s.byUid) : t.Named := by
  intro e he
  unfold card
  rw [hcards]
  exact h e (hsub he)

theorem Named.addCard {s : Scene} (h : s.Named) (c : Card) : (s.addCard c).Named := by
  intro e he
  have hlen : (s.addCard c).cards.length = s.cards.length + 1 := by simp [Scene.addCard]
  rw [hlen]
  rcases Assoc.mem_put s.byUid he with hold | hnew
  · obtain ⟨hlt, huid⟩ := h e hold
    rw [card_addCard_of_lt c hlt]
    exact ⟨by omega, huid⟩
  · rw [hnew, card_addCard_self]
    exact ⟨by simp, rfl⟩

/-- Putting up cards keeps a scene named. -/
theorem Named.withCards {s : Scene} (h : s.Named) (nodes : List Node) :
    (s.withCards nodes).Named := by
  induction nodes generalizing s with
  | nil => exact h
  | cons n rest ih =>
    unfold Scene.withCards
    cases Edit.cardFor s.catalog n with
    | error fault => exact h
    | ok c => exact ih (h.addCard c)

theorem Named.mark {s : Scene} (h : s.Named) (item : Item) (on : Bool) :
    (s.mark item on).Named := by
  intro e he
  rw [mark_eq] at he
  obtain ⟨selected, hcard⟩ := s.card_mark item on e.2
  rw [length_cards_mark, hcard]
  exact h e he

/-- Removing a block keeps a scene named. -/
theorem Named.withoutBlock {s : Scene} (h : s.Named) (c : Nat) : (s.withoutBlock c).Named :=
  h.of_subset (s.cards_withoutBlock c) (s.byUid_withoutBlock_subset c)

theorem Named.added {s : Scene} (h : s.Named) (type : Value) (p : Point) (uid : Text)
    (given : Fields) : (s.added type p uid given).Named := by
  have hfresh : (s.withUid uid).2.Named := by
    unfold withUid
    split <;> exact h
  unfold Scene.added
  split
  · exact h
  · exact hfresh.withCards _

/-- A scene is named once a diagram was opened in it, whatever it was before. -/
theorem Named.loaded (s : Scene) (d : Diagram) : (s.loaded d).Named := by
  have hcards : ((s.cleared d.links).withCards d.nodes).Named :=
    Named.withCards (s := s.cleared d.links) (fun e he => nomatch he) d.nodes
  unfold Scene.loaded
  split
  · refine hcards.of_subset (cards_restoreds _ _) ?_
    rw [byUid_restoreds]
    exact List.Subset.refl _
  · exact hcards

/-- One operation keeps every card under the identifier of its block. -/
theorem named_after {s : Scene} (h : s.Named) (op : Operation) : (s.after op).Named := by
  have hsame {t : Scene} (hcards : t.cards = s.cards) (huids : t.byUid = s.byUid) : t.Named :=
    h.of_subset hcards (by rw [huids]; exact List.Subset.refl _)
  have hending (he : s.EndsWire op) : (s.after op).Named := by
    rcases he with ⟨start, finish, _, ha⟩ | ⟨_, ha | ha⟩
    · rw [ha]
      exact hsame (s.cards_linked start finish) (s.byUid_linked start finish)
    · rw [ha]
      exact h
    · rw [ha]
      exact hsame s.cards_withoutPreview s.byUid_withoutPreview
  cases op with
  | select item on =>
    change (s.chosen item on).Named
    unfold chosen
    split
    · exact h.mark item on
    · exact h
  | add type p uid given => exact h.added type p uid given
  | beginWire r => exact hsame (s.cards_begun r) (s.byUid_begun r)
  | completeWire r => exact hending (s.endsWire_completeWire r)
  | releaseAt left p => exact hending (s.endsWire_releaseAt left p)
  | cancelPreview => exact hsame s.cards_withoutPreview s.byUid_withoutPreview
  | deleteSelected =>
    have hwires : (s.chosenWires.foldl Scene.withoutWire s).Named :=
      hsame (cards_withoutWires _ s) (byUid_withoutWires _ s)
    exact foldl_keeps (fun t c ht => ht.withoutBlock c) s.chosenCards hwires
  | load d => exact Named.loaded s d
  | announceParams c => exact h

/-- So does a run. -/
theorem named_run {t : Session} (h : t.scene.Named) (ops : List Operation) :
    (t.run ops).scene.Named := by
  induction ops generalizing t with
  | nil => exact h
  | cons op ops ih =>
    refine ih ?_
    rw [scene_perform]
    exact named_after h op

/-! ## the blocks that get a card -/

/-- The identifiers registered once cards are put up: those of before, and those of the blocks
before the first one that has no card. -/
theorem mem_keys_withCards (nodes : List Node) (s : Scene) (uid : Text) :
    uid ∈ Assoc.keys (s.withCards nodes).byUid ↔
      uid ∈ Assoc.keys s.byUid ∨ uid ∈ (cardable s.catalog nodes).map Node.uid := by
  induction nodes generalizing s with
  | nil => simp [Scene.withCards, cardable]
  | cons n rest ih =>
    unfold Scene.withCards
    cases hc : Edit.cardFor s.catalog n with
    | error fault => simp [cardable, hc, Except.isOk, Except.toBool]
    | ok c =>
      have hput :
          uid ∈ Assoc.keys (s.addCard c).byUid ↔ uid ∈ Assoc.keys s.byUid ∨ uid = n.uid := by
        rw [← uid_of_cardFor hc]
        exact Assoc.mem_keys_put s.byUid c.node.uid uid s.cards.length
      have hcardable : cardable s.catalog (n :: rest) = n :: cardable s.catalog rest := by
        simp [cardable, hc, Except.isOk, Except.toBool]
      have hrest := ih (s.addCard c)
      rw [show (s.addCard c).catalog = s.catalog from rfl, hput] at hrest
      rw [hrest, hcardable, List.map_cons, List.mem_cons, or_assoc]

end Scene

end Canvas

end BlockSketch
