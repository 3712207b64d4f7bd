import Mathlib.Data.List.Nodup
import BlockSketch.Proofs.Canvas.Frame

/-!
# BlockSketch.Proofs.Canvas.Items

What is in a scene is in it once.  Cards and wires are numbered as they are made and
never made twice, so a new item is none of those that are there already, whatever was
taken out in between.

* `listed_after`, `listed_run` — every operation keeps this, and so does every run.
-/

namespace BlockSketch.Canvas

namespace Scene

/-- The items of a scene were made, and none is there twice. -/
structure Listed (s : Scene) : Prop where
  nodup : s.items.Nodup
  cards : ∀ c, .card c ∈ s.items → c < s.cards.length
  wires : ∀ w, .wire w ∈ s.items → w < s.wires.length

theorem listed_blank (catalog : Catalog) (listener : Option Listener) (order : Arrangement) :
    Listed { catalog, listener, arrangement := order } where
  nodup := List.nodup_nil
  cards _ hc := absurd hc List.not_mem_nil
  wires _ hw := absurd hw List.not_mem_nil

/-- Fewer items of the same cards and wires are listed no worse. -/
theorem Listed.of_sublist {s t : Scene} (h : s.Listed) (hitems : t.items.Sublist s.items)
    (hcards : t.cards.length = s.cards.length) (hwires : t.wires.length = s.wires.length) :
    t.Listed where
  nodup := hitems.nodup h.nodup
  cards c hc := hcards ▸ h.cards c (hitems.subset hc)
  wires w hw := hwires ▸ h.wires w (hitems.subset hw)

/-! ## new items -/

/-- A new card has a number that no item has. -/
theorem Listed.addCard {s : Scene} (h : s.Listed) (c : Card) : (s.addCard c).Listed where
  nodup := by
    have hnew : Item.card s.cards.length ∉ s.items := fun hin => Nat.lt_irrefl _ (h.cards _ hin)
    refine List.nodup_append.mpr ⟨h.nodup, by simp, fun item hi last hl heq => hnew ?_⟩
    rwa [← List.mem_singleton.mp hl, ← heq]
  cards n hn := by
    rcases List.mem_append.mp hn with hold | hlast
    · have hlt := h.cards n hold
      simp only [Scene.addCard, List.length_append]
      omega
    · simp_all [Scene.addCard]
  wires w hw := by
    rcases List.mem_append.mp hw with hold | hlast
    · exact h.wires w hold
    · exact absurd (List.mem_singleton.mp hlast) (by simp)

/-- So has a new wire. -/
theorem Listed.addWire {s : Scene} (h : s.Listed) (w : Wire) : (s.addWire w).Listed where
  nodup := by
    have hnew : Item.wire s.wires.length ∉ s.items := fun hin => Nat.lt_irrefl _ (h.wires _ hin)
    refine List.nodup_append.mpr ⟨h.nodup, by simp, fun item hi last hl heq => hnew ?_⟩
    rwa [← List.mem_singleton.mp hl, ← heq]
  cards c hc := by
    rcases List.mem_append.mp hc with hold | hlast
    · exact h.cards c hold
    · exact nomatch List.mem_singleton.mp hlast
  wires n hn := by
    rcases List.mem_append.mp hn with hold | hlast
    · have hlt := h.wires n hold
      simp only [Scene.addWire, List.length_append]
      omega
    · simp_all [Scene.addWire]

/-- Joining two ports puts up one new wire. -/
theorem Listed.joinPorts {s : Scene} (h : s.Listed) (l : Link) (start finish : PortRef) :
    (s.joinPorts l start finish).Listed :=
  (h.addWire { start, finish, link := l }).of_sublist (List.Sublist.refl _) rfl rfl

/-! ## operations -/

theorem Listed.withoutPreview {s : Scene} (h : s.Listed) : s.withoutPreview.Listed := by
  unfold Scene.withoutPreview
  cases s.drawn with
  | none => exact h.of_sublist (List.Sublist.refl _) rfl rfl
  | some w => exact h.of_sublist List.filter_sublist rfl rfl

theorem Listed.withoutWire {s : Scene} (h : s.Listed) (w : Nat) : (s.withoutWire w).Listed := by
  cases hl : (s.wire w).link with
  | none => rwa [withoutWire_of_none hl]
  | some l =>
    rw [withoutWire_of_some hl]
    exact h.of_sublist List.filter_sublist rfl (by simp)

/-- Selecting an item moves none. -/
theorem Listed.mark {s : Scene} (h : s.Listed) (item : Item) (on : Bool) :
    (s.mark item on).Listed := by
  refine h.of_sublist ?_ (s.length_cards_mark item on) (s.length_wires_mark item on)
  rw [mark_eq]

theorem Listed.begun {s : Scene} (h : s.Listed) (r : PortRef) : (s.begun r).Listed := by
  unfold Scene.begun
  cases r.side with
  | input => exact h
  | output => exact (h.withoutPreview.addWire _).of_sublist (List.Sublist.refl _) rfl rfl

/-- Every single step leaves the items listed. -/
theorem stepwise_listed : Stepwise Listed where
  mark _ item on h := h.mark item on
  withoutPreview _ h := h.withoutPreview
  begun _ r h := h.begun r
  addCard _ _ c _ h := h.addCard c
  joinPorts _ l start finish h := h.joinPorts l start finish
  withLinks _ _ h := h.of_sublist (List.Sublist.refl _) rfl rfl
  withoutWire _ w h := h.withoutWire w
  withoutCard _ _ h := h.of_sublist List.filter_sublist rfl rfl
  cleared _ _ h := h.withoutPreview.of_sublist (List.nil_sublist _) rfl rfl
  minted _ _ h := h.of_sublist (List.Sublist.refl _) rfl rfl

/-- One operation leaves the items listed. -/
theorem listed_after {s : Scene} (h : s.Listed) (op : Operation) : (s.after op).Listed :=
  stepwise_listed.after s op h

/-! ## the selection -/

/-- Nothing is selected twice. -/
theorem Listed.nodup_selection {s : Scene} (h : s.Listed) : s.selection.Nodup :=
  (s.arrangement.perm _).nodup_iff.mpr (h.nodup.filter _)

theorem Listed.nodup_chosenCards {s : Scene} (h : s.Listed) : s.chosenCards.Nodup := by
  refine List.Nodup.filterMap (fun a a' c ha ha' => ?_) h.nodup_selection
  cases a <;> cases a' <;> simp_all

theorem Listed.nodup_chosenWires {s : Scene} (h : s.Listed) : s.chosenWires.Nodup := by
  refine List.Nodup.filterMap (fun a a' w ha ha' => ?_) h.nodup_selection
  cases a <;> cases a' <;> simp_all

end Scene

/-- A run leaves the items listed. -/
theorem Session.listed_run {t : Session} (h : t.scene.Listed) (ops : List Operation) :
    (t.run ops).scene.Listed := by
  induction ops generalizing t with
  | nil => exact h
  | cons op ops ih =>
    refine ih ?_
    rw [scene_perform]
    exact Scene.listed_after h op

end BlockSketch.Canvas
