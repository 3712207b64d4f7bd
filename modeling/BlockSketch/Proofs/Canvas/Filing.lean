import BlockSketch.Proofs.Canvas.Removal
import BlockSketch.Proofs.Diagram.Key

/-!
# BlockSketch.Proofs.Canvas.Filing

The register of wires against the keys it is ordered by.  Whatever is done to a scene, what
is registered under a key is a wire that shows a link of that key; so the wire found under
the key of a link shows that very link, as long as no other link has the key.

* `Filed` — what is registered under a key shows a link of that key;
* `filed_run` — every run keeps it, whatever diagrams are opened;
* `found_endsDiagram` — every link is found under its key in some scene.
-/

namespace BlockSketch.Canvas

namespace Scene

/-- What is registered under a key is a wire that shows a link of that key. -/
def Filed (s : Scene) : Prop := ∀ e ∈ s.byKey, ∃ l, (s.wire e.2).link = some l ∧ l.key = e.1

namespace Filed

variable {s t : Scene}

/-- A step that registers nothing and leaves the links of wires as they are. -/
theorem keep (h : s.Filed) (hkeys : t.byKey ⊆ s.byKey)
    (hlink : ∀ w l, (s.wire w).link = some l → (t.wire w).link = some l) : t.Filed := by
  intro e he
  obtain ⟨l, hl, hkey⟩ := h e (hkeys he)
  exact ⟨l, hlink e.2 l hl, hkey⟩

/-- A step that touches neither the register nor the wires. -/
theorem of_eq (h : s.Filed) (hkeys : t.byKey = s.byKey) (hwires : t.wires = s.wires) : t.Filed := by
  refine h.keep (by simp [hkeys]) fun w l hl => ?_
  unfold wire at hl ⊢
  rwa [hwires]

theorem mark (h : s.Filed) (item : Item) (on : Bool) : (s.mark item on).Filed := by
  refine h.keep (by rw [s.mark_eq]; exact List.Subset.refl _) fun w l hl => ?_
  obtain ⟨selected, hw⟩ := s.wire_mark item on w
  rw [hw]
  exact hl

theorem withoutPreview (h : s.Filed) : s.withoutPreview.Filed := h.of_eq (by simp) (by simp)

theorem addWire (h : s.Filed) (w : Wire) : (s.addWire w).Filed := by
  refine h.keep (List.Subset.refl _) fun v l hl => ?_
  rw [wire_addWire_of_lt w (lt_of_link hl)]
  exact hl

/-- The wire that is being drawn is not registered, so beginning one disturbs nothing. -/
theorem begun (h : s.Filed) (r : PortRef) : (s.begun r).Filed := by
  unfold Scene.begun
  cases r.side with
  | input => exact h
  | output => exact (h.withoutPreview.addWire _).of_eq rfl rfl

/-- A joined wire is registered under the key of the link it shows. -/
theorem joinPorts (h : s.Filed) (l : Link) (start finish : PortRef) :
    (s.joinPorts l start finish).Filed := by
  intro e he
  rcases Assoc.mem_put s.byKey he with hold | rfl
  · obtain ⟨k, hk, hkey⟩ := h e hold
    refine ⟨k, ?_, hkey⟩
    rw [s.wire_joinPorts_of_lt l start finish (lt_of_link hk)]
    exact hk
  · obtain ⟨curve, hnew⟩ := s.wire_joinPorts_self l start finish
    exact ⟨l, by rw [hnew], rfl⟩

/-- A wire that is removed loses its entry as well. -/
theorem withoutWire (h : s.Filed) (w : Nat) : (s.withoutWire w).Filed := by
  refine h.keep (fun e he => (@mem_byKey_withoutWires [w] s e he).1) fun w' l hl => ?_
  rw [link_withoutWire]
  exact hl

end Filed

/-- Every step of an operation keeps the wires filed under the keys of their links. -/
theorem stepwise_filed : Stepwise Filed where
  mark _ item on h := h.mark item on
  withoutPreview _ h := h.withoutPreview
  begun _ r h := h.begun r
  addCard _ _ _ _ h := h.of_eq rfl rfl
  joinPorts _ l start finish h := h.joinPorts l start finish
  withLinks _ _ h := h.of_eq rfl rfl
  withoutWire _ w h := h.withoutWire w
  withoutCard _ _ h := h.of_eq rfl rfl
  cleared _ _ _ := fun _ he => absurd he List.not_mem_nil
  minted _ _ h := h.of_eq rfl rfl

/-- Cards are put up block by block. -/
theorem withCards_cons {s : Scene} {n : Node} {c : Card} (rest : List Node)
    (hc : Edit.cardFor s.catalog n = .ok c) :
    s.withCards (n :: rest) = (s.addCard c).withCards rest := by
  rw [withCards, hc]

end Scene

namespace Session

/-- In every run from a blank canvas, what is registered under a key shows a link of that key. -/
theorem filed_run (catalog : Catalog) (listener : Option Listener) (order : Arrangement)
    (ops : List Operation) :
    ((blank catalog listener order).run ops).scene.Filed := by
  have hstep (t : Session) (op : Operation) (ht : t.scene.Filed) (_ : True) :
      (t.perform op).scene.Filed := by
    rw [scene_perform]
    exact Scene.stepwise_filed.after t.scene op ht
  have hblank : (blank catalog listener order).scene.Filed := fun e he => absurd he List.not_mem_nil
  exact @run_keeps (fun t => t.scene.Filed) (fun _ _ => True) hstep _ ops hblank
    (always_of_forall (fun _ _ => trivial) _ ops) ops (List.prefix_refl ops)

/-! ## a scene for any link -/

/-- A catalog of one type, which has the two ports that a link names. -/
def endsCatalog (l : Link) : Catalog :=
  [("end", .dict [("inputs", .list [.dict [("name", .text l.toPort)]]),
    ("outputs", .list [.dict [("name", .text l.fromPort)]])])]

/-- A link between two blocks of that type, and nothing else. -/
def endsDiagram (l : Link) : Diagram where
  nodes := [{ uid := l.fromUid, type := .text "end" }, { uid := l.toUid, type := .text "end" }]
  links := [l]

def endCard (l : Link) (uid : Text) : Card where
  node := { uid, type := .text "end" }
  title := "end"
  inputs := [{ name := l.toPort }]
  outputs := [{ name := l.fromPort }]

theorem cardFor_endsCatalog (l : Link) (uid : Text) :
    Edit.cardFor (endsCatalog l) { uid, type := .text "end" } = .ok (endCard l uid) := by
  have hplace : Edit.settle {} ⟨0.0, 0.0⟩ = ({}, none) := by decide +kernel
  unfold Edit.cardFor
  rw [hplace]
  rfl

theorem restorable_endsDiagram (l : Link) :
    ((blank (endsCatalog l) none).scene.dealt (endsDiagram l)).restorable l = true := by
  have hdealt : (blank (endsCatalog l) none).scene.dealt (endsDiagram l) =
      (((blank (endsCatalog l) none).scene.cleared [l]).addCard (endCard l l.fromUid)).addCard
        (endCard l l.toUid) := by
    unfold Scene.dealt endsDiagram
    rw [Scene.withCards_cons _ (cardFor_endsCatalog l l.fromUid),
      Scene.withCards_cons _ (cardFor_endsCatalog l l.toUid)]
    rfl
  rw [hdealt]
  -- a link of a block with itself names one card, not two
  by_cases h : l.fromUid = l.toUid <;>
    simp [Scene.restorable, Scene.portAt?, Scene.portOn?, Scene.addCard, Scene.card, Scene.cleared,
      endCard, Card.port?, Card.ports, Assoc.put, Assoc.get?, h]

/-- Every link is shown by the wire found under its key in some scene. -/
theorem found_endsDiagram (l : Link) : ∃ w,
    Assoc.get? ((blank (endsCatalog l) none).run [.load (endsDiagram l)]).scene.byKey
      l.key = some w ∧
      (((blank (endsCatalog l) none).run [.load (endsDiagram l)]).scene.wire w).link = some l := by
  have hall : (blank (endsCatalog l) none).scene.showsAll (endsDiagram l) = true := by
    have hcard (uid : Text) :
        (Edit.cardFor (endsCatalog l) { uid, type := .text "end" }).isOk = true := by
      rw [cardFor_endsCatalog]
      rfl
    simp only [Scene.showsAll, endsDiagram, List.all_cons, List.all_nil, Bool.and_true,
      Bool.and_eq_true]
    exact ⟨hcard _, hcard _⟩
  obtain ⟨start, finish, _, _, hrestored⟩ := Scene.restored_of_restorable (restorable_endsDiagram l)
  have hscene : ((blank (endsCatalog l) none).run [.load (endsDiagram l)]).scene =
      ((blank (endsCatalog l) none).scene.dealt (endsDiagram l)).joinPorts l start finish := by
    rw [← hrestored]
    change ((blank (endsCatalog l) none).perform (.load (endsDiagram l))).scene = _
    rw [scene_perform]
    change (blank (endsCatalog l) none).scene.loaded (endsDiagram l) = _
    rw [Scene.loaded, if_pos hall]
    rfl
  obtain ⟨curve, hwire⟩ := Scene.wire_joinPorts_self _ l start finish
  rw [hscene]
  exact ⟨_, Assoc.get?_put_self _ _ _, by rw [hwire]⟩

/-! ## links that are not confused -/

/-- A link has its key for itself exactly when it is unmistakable, and exactly then no scene,
however it came about, shows another link under that key. -/
theorem unmistakable_iff (a : Link) :
    ((∀ b : Link, a.key = b.key ↔ a = b) ↔ a.Unmistakable) ∧
    ((∀ catalog listener order ops w,
        Assoc.get? ((blank catalog listener order).run ops).scene.byKey a.key = some w →
          (((blank catalog listener order).run ops).scene.wire w).link = some a) ↔
            a.Unmistakable) := by
  refine ⟨⟨fun h => ?_, fun h b => ⟨Link.eq_of_key_eq h, congrArg Link.key⟩⟩, fun h => ?_, ?_⟩
  · by_contra hnot
    obtain ⟨b, hkey, hne⟩ := Link.exists_key_eq hnot
    exact hne ((h b).mp hkey)
  · by_contra hnot
    obtain ⟨b, hkey, hne⟩ := Link.exists_key_eq hnot
    obtain ⟨w, hfound, hlink⟩ := found_endsDiagram b
    have hother := h _ _ .asAdded _ w (hkey ▸ hfound)
    exact hne (Option.some.inj (hother.symm.trans hlink))
  · intro h catalog listener order ops w hfound
    obtain ⟨l, hlink, hkey⟩ := filed_run catalog listener order ops _ (Assoc.mem_of_get? hfound)
    rw [hlink, Link.eq_of_key_eq h hkey.symm]

/-- Two outputs and two inputs, one of each with a colon in its name. -/
def forked : Catalog :=
  [("fork", .dict [("inputs", .list [.dict [("name", .text "p:in")], .dict [("name", .text "in")]]),
    ("outputs", .list [.dict [("name", .text "b:out")], .dict [("name", .text "out")]])])]

/-- A wire from `a` to `z` keeps another one from `a:b` to `z:p` from being drawn, as if it were
there already. -/
theorem key_shared :
    let first : Link := ⟨"a", "b:out", "z", "p:in"⟩
    let second : Link := ⟨"a:b", "out", "z:p", "in"⟩
    let s := ((blank forked none).run [
      .add (.text "fork") ⟨0, 0⟩ "a" [], .add (.text "fork") ⟨0, 200⟩ "a:b" [],
      .add (.text "fork") ⟨400, 0⟩ "z" [], .add (.text "fork") ⟨400, 200⟩ "z:p" [],
      .beginWire ⟨0, .output, 0⟩, .completeWire ⟨2, .input, 0⟩, .beginWire ⟨1, .output, 1⟩]).scene
    first.key = second.key ∧ first ≠ second ∧ s.links = [first] ∧
      Edit.linkBetween s ⟨1, .output, 1⟩ ⟨3, .input, 1⟩ = second ∧
      Edit.refusal? s ⟨1, .output, 1⟩ ⟨3, .input, 1⟩ = some .exists := by
  decide +kernel

end Session

end BlockSketch.Canvas
