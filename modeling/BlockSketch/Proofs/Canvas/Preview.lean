import BlockSketch.Proofs.Canvas.Items
import BlockSketch.Proofs.Canvas.Reach
import BlockSketch.Proofs.Canvas.Removal

/-!
# BlockSketch.Proofs.Canvas.Preview

The wire that is being drawn.  A scene remembers its number and the port where drawing was begun,
each by itself, and has the wire among its items; what tells it from other wires is that it shows
no link.  `Scene.Drafted` says how these belong together, whatever became of earlier wires.

* `Drafted.keep` — what a step has to leave alone: the wire itself, and that it is the only one
  without a link;
* `stepwise_drafted`, `lasting_drafted` — so every step keeps it, and every command;
* `preview_of_reached` — what is known of the wire in every scene that can be reached.
-/

namespace BlockSketch.Canvas

namespace Scene

/-- A wire is registered, or hangs on a port or a card. -/
def InUse (s : Scene) (w : Nat) : Prop :=
  w ∈ Assoc.values s.byKey ∨ (∃ r, w ∈ s.wiresAt r) ∨ ∃ c, w ∈ s.wiresOn c

theorem InUse.of_subset {s t : Scene} {w : Nat} (h : t.InUse w) (hkeys : t.byKey ⊆ s.byKey)
    (hplugged : t.plugged ⊆ s.plugged) (hholding : t.holding ⊆ s.holding) : s.InUse w := by
  rcases h with hkey | ⟨r, hr⟩ | ⟨c, hc⟩
  · obtain ⟨key, he⟩ := Assoc.mem_values.mp hkey
    exact .inl (Assoc.mem_values.mpr ⟨key, hkeys he⟩)
  · exact .inr (.inl ⟨r, mem_wiresAt.mpr (hplugged (mem_wiresAt.mp hr))⟩)
  · exact .inr (.inr ⟨c, mem_wiresOn.mpr (hholding (mem_wiresOn.mp hc))⟩)

/-- Of the wires in a scene, at most one shows no link.  It is the one that is being drawn, from an
output where it begins, and it is not in use.  A wire is being drawn exactly when a port is known
where that was begun. -/
structure Drafted (s : Scene) : Prop where
  listed : s.Listed
  together : s.drawn = none ↔ s.drawnFrom = none
  output : ∀ r, s.drawnFrom = some r → r.side = .output
  begins : ∀ w r, s.drawn = some w → s.drawnFrom = some r → (s.wire w).start = some r
  only : ∀ w, s.drawn = some w ↔ .wire w ∈ s.items ∧ (s.wire w).link = none
  used : ∀ w, s.InUse w → (s.wire w).link ≠ none

namespace Drafted

variable {s t : Scene}

/-- A step that leaves the wire which is being drawn as it is, and makes no other without a link. -/
theorem keep (h : s.Drafted) (hlisted : t.Listed) (hdrawn : t.drawn = s.drawn)
    (hfrom : t.drawnFrom = s.drawnFrom)
    (hstart : ∀ w, .wire w ∈ s.items → (s.wire w).link = none → (t.wire w).start = (s.wire w).start)
    (honly : ∀ w, .wire w ∈ t.items ∧ (t.wire w).link = none ↔
      .wire w ∈ s.items ∧ (s.wire w).link = none)
    (hused : ∀ w, t.InUse w → (t.wire w).link ≠ none) : t.Drafted where
  listed := hlisted
  together := by rw [hdrawn, hfrom, h.together]
  output r hr := h.output r (hfrom ▸ hr)
  begins w r hw hr := by
    rw [hdrawn] at hw
    rw [hfrom] at hr
    obtain ⟨hitem, hlink⟩ := (h.only w).mp hw
    rw [hstart w hitem hlink, h.begins w r hw hr]
  only w := by rw [hdrawn, h.only, honly]
  used := hused

/-- A step that changes no wire but how it looks, and takes at most cards or puts up cards. -/
theorem keep_of_same (h : s.Drafted) (hlisted : t.Listed) (hdrawn : t.drawn = s.drawn)
    (hfrom : t.drawnFrom = s.drawnFrom)
    (hwires : ∀ w, (t.wire w).start = (s.wire w).start ∧ (t.wire w).link = (s.wire w).link)
    (hitems : ∀ w, .wire w ∈ t.items ↔ .wire w ∈ s.items) (hkeys : t.byKey ⊆ s.byKey)
    (hplugged : t.plugged ⊆ s.plugged) (hholding : t.holding ⊆ s.holding) : t.Drafted := by
  refine h.keep hlisted hdrawn hfrom (fun w _ _ => (hwires w).1) (fun w => ?_) fun w hw => ?_
  · rw [hitems, (hwires w).2]
  · rw [(hwires w).2]
    exact h.used w (hw.of_subset hkeys hplugged hholding)

/-- A step that changes neither wires nor items, nor what is being drawn. -/
theorem of_same (h : s.Drafted) {catalog : Catalog} {links : List Link} {acceptsDrops : Bool}
    {listener : Option Listener} {minted : Nat} :
    Drafted { s with catalog, links, acceptsDrops, listener, minted } :=
  ⟨h.listed.of_sublist (List.Sublist.refl _) rfl rfl, h.together, h.output, h.begins,
    h.only, h.used⟩

theorem mark (h : s.Drafted) (item : Item) (on : Bool) : (s.mark item on).Drafted := by
  have hwires (w : Nat) : ((s.mark item on).wire w).start = (s.wire w).start ∧
      ((s.mark item on).wire w).link = (s.wire w).link := by
    obtain ⟨selected, hw⟩ := s.wire_mark item on w
    rw [hw]
    exact ⟨rfl, rfl⟩
  refine h.keep_of_same (h.listed.mark item on) ?_ ?_ hwires ?_ ?_ ?_ ?_
  all_goals rw [s.mark_eq item on]
  · exact fun w => Iff.rfl
  · exact List.Subset.refl _
  · exact List.Subset.refl _
  · exact List.Subset.refl _

/-- Nothing is being drawn any more. -/
theorem withoutPreview (h : s.Drafted) : s.withoutPreview.Drafted where
  listed := h.listed.withoutPreview
  together := by
    rw [s.withoutPreview_eq]
    exact iff_of_true rfl rfl
  output r hr := by
    rw [s.withoutPreview_eq] at hr
    exact absurd hr (by simp)
  begins w r hw := by
    rw [drawn_withoutPreview] at hw
    exact absurd hw (by simp)
  only w := by
    rw [drawn_withoutPreview, mem_items_withoutPreview]
    refine iff_of_false (by simp) ?_
    rintro ⟨⟨hitem, hgone⟩, hlink⟩
    unfold wire at hlink
    rw [wires_withoutPreview] at hlink
    exact hgone w ((h.only w).mpr ⟨hitem, hlink⟩) rfl
  used w hw := by
    unfold wire
    rw [wires_withoutPreview]
    exact h.used w (hw.of_subset (by simp) (by simp) (by simp))

/-- The new wire is the only one that shows no link, since none was being drawn. -/
theorem begun (h : s.Drafted) (r : PortRef) : (s.begun r).Drafted := by
  unfold Scene.begun
  cases hside : r.side with
  | input => exact h
  | output =>
    have h' := h.withoutPreview
    have hnone := s.drawn_withoutPreview
    generalize s.withoutPreview = u at h' hnone
    have hnew := u.wire_addWire_self { start := r, loose := u.anchor r, selectable := false }
    refine ⟨(h'.listed.addWire _).of_sublist (List.Sublist.refl _) rfl rfl, ?_, ?_, ?_, ?_, ?_⟩
    · exact iff_of_false (by simp) (by simp)
    · intro q hq
      rw [← Option.some.inj hq]
      exact hside
    · intro w q hw hq
      rw [← Option.some.inj hw, ← Option.some.inj hq]
      exact congrArg Wire.start hnew
    · intro w
      constructor
      · intro hw
        rw [← Option.some.inj hw]
        exact ⟨List.mem_append_right _ List.mem_cons_self, congrArg Wire.link hnew⟩
      · rintro ⟨hitem, hlink⟩
        rcases List.mem_append.mp hitem with hold | hlast
        · have hlt := h'.listed.wires w hold
          have hlink : (u.wire w).link = none := by
            rw [← u.wire_addWire_of_lt _ hlt]
            exact hlink
          exact absurd ((h'.only w).mpr ⟨hold, hlink⟩) (by rw [hnone]; simp)
        · rw [Item.wire.inj (List.mem_singleton.mp hlast)]
    · intro w hw
      have hlink : (u.wire w).link ≠ none :=
        h'.used w (hw.of_subset (List.Subset.refl _) (List.Subset.refl _) (List.Subset.refl _))
      obtain ⟨l, hl⟩ := Option.ne_none_iff_exists'.mp hlink
      rw [← u.wire_addWire_of_lt { start := r, loose := u.anchor r, selectable := false }
        (lt_of_link hl)] at hlink
      exact hlink

/-- The wire of a link shows it. -/
theorem joinPorts (h : s.Drafted) (l : Link) (start finish : PortRef) :
    (s.joinPorts l start finish).Drafted := by
  have hold {w : Nat} (hw : .wire w ∈ s.items) : (s.joinPorts l start finish).wire w = s.wire w :=
    s.wire_joinPorts_of_lt l start finish (h.listed.wires w hw)
  obtain ⟨curve, hnew⟩ := s.wire_joinPorts_self l start finish
  refine h.keep (h.listed.joinPorts l start finish) rfl rfl (fun w hw _ => by rw [hold hw])
    (fun w => ?_) fun w hw => ?_
  · constructor
    · rintro ⟨hitem, hlink⟩
      rcases List.mem_append.mp hitem with hin | hlast
      · exact ⟨hin, hold hin ▸ hlink⟩
      · rw [Item.wire.inj (List.mem_singleton.mp hlast), hnew] at hlink
        exact absurd hlink (by simp)
    · rintro ⟨hin, hlink⟩
      exact ⟨List.mem_append_left _ hin, by rw [hold hin, hlink]⟩
  · have hcases : w = s.wires.length ∨ s.InUse w := by
      rcases hw with hkey | ⟨r, hr⟩ | ⟨c, hc⟩
      · obtain ⟨key, he⟩ := Assoc.mem_values.mp hkey
        rcases Assoc.mem_put s.byKey he with hin | heq
        · exact .inr (.inl (Assoc.mem_values.mpr ⟨key, hin⟩))
        · exact .inl (Prod.mk.inj heq).2
      · rcases (s.mem_wiresAt_joinPorts l start finish r w).mp hr with hin | ⟨heq, _⟩
        · exact .inr (.inr (.inl ⟨r, hin⟩))
        · exact .inl heq
      · rcases (s.mem_wiresOn_joinPorts l start finish c w).mp hc with hin | ⟨heq, _⟩
        · exact .inr (.inr (.inr ⟨c, hin⟩))
        · exact .inl heq
    rcases hcases with rfl | huse
    · rw [hnew]
      simp
    · have hlink := h.used w huse
      obtain ⟨k, hk⟩ := Option.ne_none_iff_exists'.mp hlink
      rwa [s.wire_joinPorts_of_lt l start finish (lt_of_link hk)]

/-- Only a wire that shows a link is removed. -/
theorem withoutWire (h : s.Drafted) (w : Nat) : (s.withoutWire w).Drafted := by
  cases hl : (s.wire w).link with
  | none => rwa [withoutWire_of_none hl]
  | some l =>
    have hother {v : Nat} (hv : (s.wire v).link = none) : w ≠ v := fun heq => by
      rw [heq, hv] at hl
      exact absurd hl (by simp)
    have hitems (v : Nat) : .wire v ∈ (s.withoutWire w).items ↔ .wire v ∈ s.items ∧ v ≠ w := by
      rw [withoutWire_of_some hl]
      simp
    refine h.keep (h.listed.withoutWire w) (by rw [withoutWire_of_some hl])
      (by rw [withoutWire_of_some hl]) (fun v _ hv => ?_) (fun v => ?_) fun v hv => ?_
    · rw [wire_withoutWire_of_ne hl (hother hv)]
    · rw [hitems, link_withoutWire]
      exact ⟨fun hv => ⟨hv.1.1, hv.2⟩, fun hv => ⟨⟨hv.1, (hother hv.2).symm⟩, hv.2⟩⟩
    · rw [link_withoutWire]
      refine h.used v (hv.of_subset ?_ ?_ ?_)
      all_goals
        rw [withoutWire_of_some hl]
        exact List.filter_sublist.subset

theorem cleared (h : s.Drafted) (links : List Link) : (s.cleared links).Drafted := by
  have h' := h.withoutPreview
  refine ⟨h'.listed.of_sublist (List.nil_sublist _) rfl rfl, h'.together, h'.output, h'.begins,
    fun w => ?_, fun w hw => ?_⟩
  · refine iff_of_false ?_ fun hw => absurd hw.1 List.not_mem_nil
    change s.withoutPreview.drawn ≠ some w
    rw [drawn_withoutPreview]
    simp
  · exact h'.used w (hw.of_subset (List.nil_subset _) (List.Subset.refl _) (List.Subset.refl _))

end Drafted

/-- Every step of an operation keeps it. -/
theorem stepwise_drafted : Stepwise Drafted where
  mark _ item on h := h.mark item on
  withoutPreview _ h := h.withoutPreview
  begun _ r h := h.begun r
  addCard _ _ c _ h :=
    h.keep_of_same (h.listed.addCard c) rfl rfl (fun _ => ⟨rfl, rfl⟩)
      (fun w => by simp [Scene.addCard])
      (List.Subset.refl _) (List.Subset.refl _) (List.Subset.refl _)
  joinPorts _ l start finish h := h.joinPorts l start finish
  withLinks _ _ h := h.of_same
  withoutWire _ w h := h.withoutWire w
  withoutCard _ _ h :=
    h.keep_of_same (h.listed.of_sublist List.filter_sublist rfl rfl) rfl rfl (fun _ => ⟨rfl, rfl⟩)
      (fun w => by simp [Scene.withoutCard, takeOut, tell]) (List.Subset.refl _)
        (List.Subset.refl _)
      (List.Subset.refl _)
  cleared _ links h := h.cleared links
  minted _ _ h := h.of_same

theorem wire_setWire {s : Scene} {h : Nat} {f : Wire → Wire}
    (hf : ∀ w : Wire, (f w).start = w.start ∧ (f w).link = w.link) (w : Nat) :
    ((s.setWire h f).wire w).start = (s.wire w).start ∧
      ((s.setWire h f).wire w).link = (s.wire w).link := by
  by_cases hw : h = w
  · subst hw
    simp only [wire, setWire, List.getD_eq_getElem?_getD, List.getElem?_modify]
    cases s.wires[h]? with
    | none => exact ⟨rfl, rfl⟩
    | some found => simpa using hf found
  · rw [wire_setWire_of_ne f hw]
    exact ⟨rfl, rfl⟩

/-- Every command keeps it. -/
theorem lasting_drafted : Lasting Drafted where
  after := stepwise_drafted.after
  setCard _ _ _ _ h :=
    h.keep_of_same (h.listed.of_sublist (List.Sublist.refl _) (by simp [Scene.setCard]) rfl) rfl rfl
      (fun _ => ⟨rfl, rfl⟩) (fun _ => Iff.rfl) (List.Subset.refl _) (List.Subset.refl _)
      (List.Subset.refl _)
  setWire _ _ _ hf h :=
    h.keep_of_same (h.listed.of_sublist (List.Sublist.refl _) rfl (by simp [Scene.setWire])) rfl rfl
      (wire_setWire hf) (fun _ => Iff.rfl) (List.Subset.refl _) (List.Subset.refl _)
      (List.Subset.refl _)
  setCatalog _ _ h := h.of_same
  setDrops _ _ h := h.of_same
  setListener _ _ h := h.of_same

theorem drafted_blank (catalog : Catalog) (listener : Option Listener) (order : Arrangement) :
    Drafted (Session.blank catalog listener order).scene where
  listed := listed_blank catalog listener order
  together := iff_of_true rfl rfl
  output _ hr := absurd hr (by simp [Session.blank])
  begins _ _ hw := absurd hw (by simp [Session.blank])
  only _ := iff_of_false (by simp [Session.blank]) fun hw => absurd hw.1 List.not_mem_nil
  used w hw := by
    rcases hw with hkey | ⟨r, hr⟩ | ⟨c, hc⟩
    · exact absurd hkey List.not_mem_nil
    · exact absurd hr List.not_mem_nil
    · exact absurd hc List.not_mem_nil

/-- A wire is refused for where it was begun exactly if it goes from one input to another. -/
theorem refusal?_eq_notOutput_iff {s : Scene} {start finish : PortRef} :
    Edit.refusal? s start finish = some .notOutput ↔
      finish ≠ start ∧ finish.side = .input ∧ start.side = .input := by
  unfold Edit.refusal?
  cases finish.side <;> cases start.side <;> grind

end Scene

theorem Session.Reached.drafted {t : Session} (h : t.Reached) : t.scene.Drafted :=
  h.keeps Scene.lasting_drafted Scene.drafted_blank

/-- In every scene that can be reached, a wire is being drawn exactly when a port is known where
that was begun.  The port is an output, the wire begins there, and it is neither registered nor on a
port or a card.  Of the wires in the scene it is the one that shows no link, and there is none such
when nothing is being drawn.  So no wire is ever refused for where it was begun. -/
theorem preview_of_reached {t : Session} (ht : t.Reached) :
    (t.scene.drawn = none ↔ t.scene.drawnFrom = none) ∧
    (∀ w r, t.scene.drawn = some w → t.scene.drawnFrom = some r →
      r.side = .output ∧ (t.scene.wire w).start = some r ∧ w ∉ Assoc.values t.scene.byKey ∧
      (∀ q, w ∉ t.scene.wiresAt q) ∧ ∀ c, w ∉ t.scene.wiresOn c) ∧
    (∀ w, t.scene.drawn = some w ↔ .wire w ∈ t.scene.items ∧ (t.scene.wire w).link = none) ∧
    t.scene.items.Nodup ∧
    ∀ p finish, t.scene.preview = some p →
      Edit.refusal? t.scene p.start finish ≠ some .notOutput := by
  have h := ht.drafted
  refine ⟨h.together, fun w r hw hr => ?_, h.only, h.listed.nodup, fun p finish hp hrefused => ?_⟩
  · have hfree : ¬ t.scene.InUse w := fun hused => h.used w hused ((h.only w).mp hw).2
    exact ⟨h.output r hr, h.begins w r hw hr, fun hkey => hfree (.inl hkey),
      fun q hq => hfree (.inr (.inl ⟨q, hq⟩)), fun c hc => hfree (.inr (.inr ⟨c, hc⟩))⟩
  · have hout := h.output p.start (Scene.preview_eq_some_iff.mp hp).2
    rw [(Scene.refusal?_eq_notOutput_iff.mp hrefused).2.2] at hout
    exact absurd hout (by decide)

/-- Two cards of one type, joined by a link, with a second wire begun at the output of the first. -/
def joinedRelays : Session :=
  (Session.blank relay none).run [.add (.text "relay") {} "a" [], .add (.text "relay") {} "b" [],
    .beginWire ⟨0, .output, 0⟩, .completeWire ⟨1, .input, 0⟩, .beginWire ⟨0, .output, 0⟩]

/-- The wire of the link is in use and shows it; the wire that is being drawn is another one, though
it begins at the same port. -/
theorem preview_of_reached_joinedRelays :
    joinedRelays.scene.drawn = some 2 ∧ joinedRelays.scene.drawnFrom = some ⟨0, .output, 0⟩ ∧
    joinedRelays.scene.wiresAt ⟨0, .output, 0⟩ = [1] ∧
    (joinedRelays.scene.wire 2).start = some ⟨0, .output, 0⟩ ∧
    (∀ q, 2 ∉ joinedRelays.scene.wiresAt q) ∧
    (∀ w, .wire w ∈ joinedRelays.scene.items ∧ (joinedRelays.scene.wire w).link = none ↔ w = 2) ∧
    ∀ finish, Edit.refusal? joinedRelays.scene ⟨0, .output, 0⟩ finish ≠ some .notOutput := by
  have hreached : joinedRelays.Reached := (Session.Reached.blank relay none .asAdded).run _
  have hdrawn : joinedRelays.scene.drawn = some 2 := by decide +kernel
  have hfrom : joinedRelays.scene.drawnFrom = some ⟨0, .output, 0⟩ := by decide +kernel
  obtain ⟨_, hwire, honly, _, hrefusal⟩ := preview_of_reached hreached
  obtain ⟨_, hstart, _, hports, _⟩ := hwire 2 ⟨0, .output, 0⟩ hdrawn hfrom
  refine ⟨hdrawn, hfrom, by decide +kernel, hstart, hports, fun w => ?_, fun finish => ?_⟩
  · rw [← honly, hdrawn, Option.some.injEq]
    exact eq_comm
  · exact hrefusal ⟨2, ⟨0, .output, 0⟩⟩ finish (Scene.preview_eq_some_iff.mpr ⟨hdrawn, hfrom⟩)

end BlockSketch.Canvas
