import BlockSketch.Proofs.Canvas.Notices
import BlockSketch.Proofs.Canvas.Preview
import BlockSketch.Proofs.Diagram.Search

/-!
# BlockSketch.Proofs.Canvas.Completion

Ending the wire that is being drawn at a port.  Either a link is made, and then all of it:
in the diagram, in the register, on both ports and both cards, with its announcements.  Or
none is made, and then nothing of a link is left anywhere.  In scenes that can be reached no
fault comes in between.

* `refusal?_eq_none_iff_takes` — the checks, against what the port has to be like;
* `tells_completeWire`, `tells_completeWire_refused` — what is announced in each case;
* `completeWire_decides` — the two cases together.
-/

namespace BlockSketch.Canvas

namespace Scene

/-! ## the two outcomes -/

/-- What it takes for a wire begun at one port to be ended at another: that is a free input of a
compatible type, on a block which the links do not lead back from, and no such link is registered
yet. -/
structure Takes (s : Scene) (start finish : PortRef) : Prop where
  other : finish ≠ start
  input : finish.side = .input
  free : s.wiresAt finish = []
  types : Edit.compatible (s.portSpec start).type (s.portSpec finish).type = true
  unregistered : (Edit.linkBetween s start finish).key ∉ Assoc.keys s.byKey
  apart : s.uidAt finish ≠ s.uidAt start
  forward : ¬ Diagram.Path s.links (s.uidAt finish) (s.uidAt start)

/-- Nothing is refused to a wire begun at an output exactly where the other port takes it. -/
theorem refusal?_eq_none_iff_takes {s : Scene} {start finish : PortRef}
    (hout : start.side = .output) :
    Edit.refusal? s start finish = none ↔ s.Takes start finish := by
  rw [refusal?_eq_none_iff, ← Bool.not_eq_true, Diagram.closesCycle_iff]
  constructor
  · rintro ⟨hother, hinput, _, hfree, htypes, hkey, hpath⟩
    refine ⟨hother, hinput, hfree, htypes, hkey, fun heq => hpath ?_, hpath⟩
    rw [heq]
  · rintro ⟨hother, hinput, hfree, htypes, hkey, _, hpath⟩
    exact ⟨hother, hinput, hout, hfree, htypes, hkey, hpath⟩

/-- The scene `t` is `s` with a link between two ports: the link comes last in the diagram, one new
wire is registered for it, and that wire hangs on the two ports and their cards and nowhere else.
No wire is being drawn any more. -/
structure Gains (s t : Scene) (start finish : PortRef) : Prop where
  links : t.links = s.links ++ [Edit.linkBetween s start finish]
  registered : t.byKey = s.byKey ++ [((Edit.linkBetween s start finish).key, s.wires.length)]
  new : s.wires.length ∉ Assoc.values s.byKey ∧ (∀ r, s.wires.length ∉ s.wiresAt r) ∧
    ∀ c, s.wires.length ∉ s.wiresOn c
  shown : ∃ curve, t.wire s.wires.length =
    { start := some start, finish := some finish,
      link := some (Edit.linkBetween s start finish), curve }
  ports : ∀ r w, w ∈ t.wiresAt r ↔ w ∈ s.wiresAt r ∨ w = s.wires.length ∧ (r = start ∨ r = finish)
  cards : ∀ c w, w ∈ t.wiresOn c ↔
    w ∈ s.wiresOn c ∨ w = s.wires.length ∧ (c = start.card ∨ c = finish.card)
  nodes : t.nodes = s.nodes
  items : ∀ item, item ∈ t.items ↔ item = .wire s.wires.length ∨
    item ∈ s.items ∧ ∀ p, s.preview = some p → item ≠ .wire p.wire
  preview : t.preview = none

/-- Joining two ports makes the scene gain their link. -/
theorem gains_linked {s : Scene} (h : s.Sound) {p : Preview} (hp : s.preview = some p)
    {start finish : PortRef} (hkey : (Edit.linkBetween s start finish).key ∉ Assoc.keys s.byKey) :
    s.Gains (s.linked start finish) start finish where
  links := s.links_linked start finish
  registered := by
    change Assoc.put s.withoutPreview.byKey _ s.withoutPreview.wires.length = _
    rw [byKey_withoutPreview, wires_withoutPreview, Assoc.put_of_not_mem s.byKey _ hkey]
  new := by
    refine ⟨fun hw => ?_, fun r hw => ?_, fun c hw => ?_⟩
    · obtain ⟨key, he⟩ := Assoc.mem_values.mp hw
      exact absurd (h.registered _ he) (Nat.lt_irrefl _)
    · exact absurd (h.plugs _ (mem_wiresAt.mp hw)) (Nat.lt_irrefl _)
    · exact absurd (h.holds _ (mem_wiresOn.mp hw)) (Nat.lt_irrefl _)
  shown := by
    have hself :=
      s.withoutPreview.wire_joinPorts_self (Edit.linkBetween s start finish) start finish
    rwa [wires_withoutPreview] at hself
  ports r w := by
    have hjoin :=
      s.withoutPreview.mem_wiresAt_joinPorts (Edit.linkBetween s start finish) start finish r w
    rw [mem_wiresAt (s := s.withoutPreview), plugged_withoutPreview, wires_withoutPreview,
      ← mem_wiresAt] at hjoin
    exact hjoin
  cards c w := by
    have hjoin :=
      s.withoutPreview.mem_wiresOn_joinPorts (Edit.linkBetween s start finish) start finish c w
    rw [mem_wiresOn (s := s.withoutPreview), holding_withoutPreview, wires_withoutPreview,
      ← mem_wiresOn] at hjoin
    exact hjoin
  nodes := by
    unfold nodes card
    rw [byUid_linked, cards_linked]
  items item := by
    have hdrawn : (∀ q, s.preview = some q → item ≠ .wire q.wire) ↔
        ∀ w, s.drawn = some w → item ≠ .wire w := by
      simp only [hp, (preview_eq_some_iff.mp hp).1, Option.some.injEq, forall_eq']
    rw [hdrawn, ← mem_items_withoutPreview, or_comm]
    change item ∈ s.withoutPreview.items ++ [.wire s.withoutPreview.wires.length] ↔ _
    rw [List.mem_append, List.mem_singleton, wires_withoutPreview]
  preview := s.preview_withoutPreview

/-- The scenes have the same links, with the same wires for them in the same places. -/
structure SameLinks (s t : Scene) : Prop where
  links : t.links = s.links
  registered : t.byKey = s.byKey
  wires : t.wires = s.wires
  ports : ∀ r, t.wiresAt r = s.wiresAt r
  cards : ∀ c, t.wiresOn c = s.wiresOn c
  nodes : t.nodes = s.nodes

theorem sameLinks_withoutPreview (s : Scene) : s.SameLinks s.withoutPreview := by
  rw [withoutPreview_eq]
  exact ⟨rfl, rfl, rfl, fun _ => rfl, fun _ => rfl, rfl⟩

/-- Only a wire that is ended at an output other than its start goes on being drawn. -/
theorem refusal?_eq_notInput_iff {s : Scene} {start finish : PortRef} :
    Edit.refusal? s start finish = some .notInput ↔ finish ≠ start ∧ finish.side = .output := by
  unfold Edit.refusal?
  cases hside : finish.side <;> grind

/-- A refusal changes no link, and the wire goes on being drawn only when another output was hit. -/
theorem completed_refused {s : Scene} {finish : PortRef}
    (h : ∀ p, s.preview = some p → Edit.refusal? s p.start finish ≠ none) :
    s.SameLinks (s.completed finish) ∧ ∀ p, (s.completed finish).preview = some p ↔
      s.preview = some p ∧ finish ≠ p.start ∧ finish.side = .output := by
  have hself : s.SameLinks s := ⟨rfl, rfl, rfl, fun _ => rfl, fun _ => rfl, rfl⟩
  unfold completed
  cases hp : s.preview with
  | none => exact ⟨hself, fun p => by simp [hp]⟩
  | some q =>
    obtain ⟨why, hwhy⟩ := Option.ne_none_iff_exists'.mp (h q hp)
    have hnotInput := @refusal?_eq_notInput_iff s q.start finish
    rw [hwhy, Option.some.injEq] at hnotInput
    dsimp only
    rw [hwhy]
    dsimp only
    split
    · next hgiven =>
      refine ⟨s.sameLinks_withoutPreview, fun p => ?_⟩
      rw [preview_withoutPreview]
      refine iff_of_false (by simp) ?_
      rintro ⟨heq, hout⟩
      rw [← Option.some.inj heq] at hout
      exact hgiven (hnotInput.mpr hout)
    · next hstays =>
      have hout := hnotInput.mp (Decidable.of_not_not hstays)
      refine ⟨hself, fun p => ?_⟩
      rw [hp]
      constructor
      · intro heq
        rw [← Option.some.inj heq]
        exact ⟨rfl, hout⟩
      · exact fun hboth => hboth.1

end Scene

/-! ## what is announced -/

namespace Edit

variable {s : Scene} {finish : PortRef} {p : Preview}

theorem tells_look {α : Type} {g : Scene → Outcome α} {a : α} (h : g s = .ok a) :
    Tells (look g) s a s [] := by
  have hvalue : Tells (ofOutcome (g s)) s a s [] :=
    fun log => ⟨[], by rw [h, List.append_nil]; rfl, rfl⟩
  exact (tells_scene s).bind hvalue

theorem quiet_cancelPreview (s : Scene) : Quiet cancelPreview s () s.withoutPreview := by
  refine (tells_scene s).quiet.bind ?_
  unfold Scene.withoutPreview
  cases s.drawn with
  | none => exact (tells_change _ s).quiet
  | some w => exact (quiet_takeOut _ s).bind (tells_change _ _).quiet

/-- A link that is made is announced once, and so is the diagram with it. -/
theorem tells_completeWire (h : s.Sound) (hp : s.preview = some p)
    (hr : refusal? s p.start finish = none) :
    ∃ k text, Tells (completeWire finish) s () (s.linked p.start finish)
      (List.replicate k Notice.selectionChanged ++ [.linkAdded (linkBetween s p.start finish),
        .changed (s.linked p.start finish).diagram, .status text 4000]) := by
  have hcatalog : (s.linked p.start finish).catalog = s.catalog := by
    change s.withoutPreview.catalog = s.catalog
    rw [s.withoutPreview_eq]
  obtain ⟨titleFrom, hfrom⟩ := h.titled_card p.start.card
  obtain ⟨titleTo, hto⟩ := h.titled_card finish.card
  rw [← hcatalog] at hfrom hto
  obtain ⟨k, hk⟩ := quiet_cancelPreview s
  refine ⟨k, "Создано соединение: " ++ titleFrom ++ " → " ++ titleTo, ?_⟩
  refine (tells_scene s).bind ?_
  rw [hp]
  dsimp only
  rw [hr]
  refine hk.bind ((tells_change _ _).bind ?_)
  refine (tells_look hfrom).bind ((tells_look hto).bind ?_)
  exact (tells_announce _ _).bind ((tells_announceDiagram _).bind (tells_announce _ _))

/-- A notice that says nothing of links. -/
def Aside (n : Notice) : Prop := n = .selectionChanged ∨ ∃ text, n = .status text 4000

/-- When no link is made, a text for the status line is all that is announced, and that the
selection changed. -/
theorem tells_completeWire_refused
    (h : ∀ p, s.preview = some p → refusal? s p.start finish ≠ none) :
    ∃ ns, Tells (completeWire finish) s () (s.completed finish) ns ∧ ∀ n ∈ ns, Aside n := by
  unfold Scene.completed
  cases hp : s.preview with
  | none =>
    refine ⟨[], (tells_scene s).bind ?_, fun n hn => absurd hn List.not_mem_nil⟩
    rw [hp]
    exact tells_pure _ s
  | some p =>
    obtain ⟨why, hwhy⟩ := Option.ne_none_iff_exists'.mp (h p hp)
    obtain ⟨k, hk⟩ := quiet_cancelPreview s
    dsimp only
    rw [hwhy]
    dsimp only
    split
    · next hgiven =>
      refine ⟨.status why.message 4000 :: List.replicate k .selectionChanged,
        (tells_scene s).bind ?_, fun n hn => ?_⟩
      · rw [hp]
        dsimp only
        rw [hwhy]
        refine (tells_announce _ s).bind ?_
        rw [if_pos hgiven]
        exact hk
      · rcases List.mem_cons.mp hn with rfl | hn
        · exact .inr ⟨_, rfl⟩
        · exact .inl (List.eq_of_mem_replicate hn)
    · next hstays =>
      refine ⟨[.status why.message 4000], (tells_scene s).bind ?_, fun n hn => ?_⟩
      · rw [hp]
        dsimp only
        rw [hwhy]
        refine (tells_announce _ s).bind ?_
        rw [if_neg hstays]
        exact tells_pure _ s
      · exact .inr ⟨_, List.mem_singleton.mp hn⟩

end Edit

/-! ## the decision -/

/-- From one session to the next these announcements were made. -/
def Session.Announces (t t' : Session) (ns : List Notice) : Prop :=
  ∃ new, t'.log = t.log ++ new ∧ new.map Prod.fst = ns

/-- Ending the wire that is being drawn makes a whole link or none.  The edit never stops for a
fault, and a link is made exactly when a wire is being drawn and the port takes it.  Then the scene
gains the link and all that belongs to it, and the link and the new diagram are announced once each.
Otherwise links and wires are as they were, nothing is said of them, and the wire goes on being
drawn exactly when the port is an output other than its start. -/
theorem completeWire_decides {t : Session} (ht : t.Reached) (finish : PortRef) :
    ∃ t', (Edit.completeWire finish).run t = (.ok (), t') ∧
      ((∃ l, t'.scene.links = t.scene.links ++ [l]) ↔
        ∃ p, t.scene.preview = some p ∧ t.scene.Takes p.start finish) ∧
      (∀ p, t.scene.preview = some p → t.scene.Takes p.start finish →
        t.scene.Gains t'.scene p.start finish ∧
        ∃ k text, t.Announces t' (List.replicate k .selectionChanged ++
          [.linkAdded (Edit.linkBetween t.scene p.start finish), .changed t'.scene.diagram,
            .status text 4000])) ∧
      ((∀ p, t.scene.preview = some p → ¬ t.scene.Takes p.start finish) →
        t.scene.SameLinks t'.scene ∧ (∃ ns, t.Announces t' ns ∧ ∀ n ∈ ns, Edit.Aside n) ∧
        ∀ p, t'.scene.preview = some p ↔
          t.scene.preview = some p ∧ finish ≠ p.start ∧ finish.side = .output) := by
  obtain ⟨s, log⟩ := t
  have hsound : s.Sound := ht.sound
  have hout {p : Preview} (hp : s.preview = some p) : p.start.side = .output :=
    ht.drafted.output p.start (Scene.preview_eq_some_iff.mp hp).2
  by_cases htakes : ∃ p, s.preview = some p ∧ s.Takes p.start finish
  · obtain ⟨p, hp, hport⟩ := htakes
    obtain ⟨k, text, htells⟩ :=
      Edit.tells_completeWire hsound hp ((Scene.refusal?_eq_none_iff_takes (hout hp)).mpr hport)
    obtain ⟨new, hrun, hnew⟩ := htells log
    have hgains := Scene.gains_linked hsound hp hport.unregistered
    refine ⟨_, hrun, iff_of_true ⟨_, hgains.links⟩ ⟨p, hp, hport⟩, fun q hq _ => ?_, fun hno => ?_⟩
    · obtain rfl : p = q := Option.some.inj (hp.symm.trans hq)
      exact ⟨hgains, k, text, new, rfl, hnew⟩
    · exact absurd hport (hno p hp)
  · have hrefused (p : Preview) (hp : s.preview = some p) : Edit.refusal? s p.start finish ≠ none :=
      fun hr => htakes ⟨p, hp, (Scene.refusal?_eq_none_iff_takes (hout hp)).mp hr⟩
    obtain ⟨ns, htells, hasides⟩ := Edit.tells_completeWire_refused hrefused
    obtain ⟨new, hrun, hnew⟩ := htells log
    obtain ⟨hsame, hpreview⟩ := Scene.completed_refused hrefused
    refine ⟨_, hrun, iff_of_false ?_ htakes, fun q hq hport => ?_, fun _ => ?_⟩
    · rintro ⟨l, hl⟩
      have hlength := congrArg List.length (hsame.links.symm.trans hl)
      simp at hlength
    · exact absurd ⟨q, hq, hport⟩ htakes
    · exact ⟨hsame, ⟨ns, ⟨new, rfl, hnew⟩, hasides⟩, hpreview⟩

/-- Two cards of one type, with a wire begun at the output of the first. -/
def twoRelays : Session :=
  (Session.blank relay none).run [.add (.text "relay") {} "a" [], .add (.text "relay") {} "b" [],
    .beginWire ⟨0, .output, 0⟩]

/-- The input of the other card takes the wire; the output there does not, and the wire goes on
being drawn. -/
theorem completeWire_decides_twoRelays :
    (∃ t', (Edit.completeWire ⟨1, .input, 0⟩).run twoRelays = (.ok (), t') ∧
      twoRelays.scene.Gains t'.scene ⟨0, .output, 0⟩ ⟨1, .input, 0⟩) ∧
    ∃ t', (Edit.completeWire ⟨1, .output, 0⟩).run twoRelays = (.ok (), t') ∧
      twoRelays.scene.SameLinks t'.scene ∧ t'.scene.preview = twoRelays.scene.preview := by
  have hreached : twoRelays.Reached := (Session.Reached.blank relay none .asAdded).run _
  have hpreview : twoRelays.scene.preview = some ⟨0, ⟨0, .output, 0⟩⟩ := by decide +kernel
  have htakes : twoRelays.scene.Takes ⟨0, .output, 0⟩ ⟨1, .input, 0⟩ :=
    (Scene.refusal?_eq_none_iff_takes rfl).mp (by decide +kernel)
  have hrefuses : ¬ twoRelays.scene.Takes ⟨0, .output, 0⟩ ⟨1, .output, 0⟩ :=
    fun h => absurd h.input (by decide)
  obtain ⟨t', hrun, _, haccept, _⟩ := completeWire_decides hreached ⟨1, .input, 0⟩
  obtain ⟨t'', hrun', _, _, hrefuse⟩ := completeWire_decides hreached ⟨1, .output, 0⟩
  refine ⟨⟨t', hrun, (haccept _ hpreview htakes).1⟩, t'', hrun', ?_⟩
  obtain ⟨hsame, _, hstays⟩ := hrefuse fun p hp => by
    rw [hpreview] at hp
    rw [← Option.some.inj hp]
    exact hrefuses
  refine ⟨hsame, ?_⟩
  rw [hpreview]
  exact (hstays _).mpr ⟨hpreview, by decide, rfl⟩

end BlockSketch.Canvas
