import BlockSketch.Proofs.Canvas.Acyclic
import BlockSketch.Proofs.Canvas.Plugs

/-!
# BlockSketch.Proofs.Canvas.Wiring

The rules of wiring, for links that are drawn and for links that are opened with a
diagram.  A wire that is drawn is ended only if its link closes no cycle, arrives at a
free input, is not there yet and joins ports of compatible types.  A diagram that is
opened keeps every link whose two ports are there, and nothing else is asked of it.

* `drawable_append_iff` — a link can be drawn exactly when the rules hold with it;
* `Drawn.strokes` — what drawing one link does;
* `drawn_links` — drawing links one after the other leaves none out exactly when the
  rules hold of them together;
* `wiring_load_iff` — so an opened diagram obeys the rules exactly when drawing it would
  give the same links.
-/

namespace BlockSketch.Canvas

namespace Scene

/-! ## the rules -/

def arriving (s : Scene) (links : List Link) (r : PortRef) : List Link :=
  links.filter fun l => s.portAt? l.toUid l.toPort .input = some r

/-- The two ports that a link names are there and have compatible types. -/
def Fits (s : Scene) (l : Link) : Prop :=
  ∃ start ∈ s.portAt? l.fromUid l.fromPort .output, ∃ finish ∈ s.portAt? l.toUid l.toPort .input,
    Edit.compatible (s.portSpec start).type (s.portSpec finish).type = true

instance (s : Scene) (l : Link) : Decidable (s.Fits l) :=
  inferInstanceAs (Decidable (∃ start ∈ s.portAt? l.fromUid l.fromPort .output,
    ∃ finish ∈ s.portAt? l.toUid l.toPort .input, _))

/-- The rules of wiring, for links between the ports of a scene: they close no cycle, at most one
arrives at an input, none is there twice, and each joins ports of compatible types. -/
structure WellWired (s : Scene) (links : List Link) : Prop where
  acyclic : Diagram.Acyclic links
  single : ∀ r, (s.arriving links r).length ≤ 1
  distinct : links.Nodup
  fits : ∀ l ∈ links, s.Fits l

/-- The links obey the rules, and each has a key of its own: two links with one key cannot both be
drawn, even where they join different ports. -/
def Drawable (s : Scene) (links : List Link) : Prop :=
  s.WellWired links ∧ (links.map Link.key).Nodup

/-- What is asked of a link before it is drawn, when other links are there: its input is free, its
ports are compatible, its key is new, and no path leads back. -/
structure Admits (s : Scene) (links : List Link) (l : Link) : Prop where
  free : ∀ r, s.portAt? l.toUid l.toPort .input = some r → s.arriving links r = []
  fits : s.Fits l
  new : l.key ∉ links.map Link.key
  back : ¬ Diagram.Path links l.toUid l.fromUid

/-- Of one more link, its port tells whether it arrives. -/
theorem arriving_append (s : Scene) (links : List Link) (l : Link) (r : PortRef) :
    s.arriving (links ++ [l]) r =
      s.arriving links r ++ if s.portAt? l.toUid l.toPort .input = some r then [l] else [] := by
  unfold arriving
  rw [List.filter_append, List.filter_singleton]
  simp

/-- Fewer links can be drawn if all of them can. -/
theorem Drawable.sublist {s : Scene} {links fewer : List Link} (h : s.Drawable links)
    (hsub : fewer.Sublist links) : s.Drawable fewer where
  left :=
    { acyclic := h.1.acyclic.subset hsub.subset
      single := fun r => Nat.le_trans (hsub.filter _).length_le (h.1.single r)
      distinct := hsub.nodup h.1.distinct
      fits := fun l hl => h.1.fits l (hsub.subset hl) }
  right := (hsub.map Link.key).nodup h.2

theorem drawable_nil (s : Scene) : s.Drawable [] :=
  ⟨⟨Diagram.acyclic_nil, fun _ => Nat.zero_le _, List.nodup_nil,
    fun _ h => absurd h List.not_mem_nil⟩, List.nodup_nil⟩

/-- A link can be drawn beside others exactly when the rules hold with it. -/
theorem drawable_append_iff {s : Scene} {links : List Link} (h : s.Drawable links) (l : Link) :
    s.Drawable (links ++ [l]) ↔ s.Admits links l := by
  constructor
  · rintro ⟨hwired, hkeys⟩
    rw [List.map_append, List.nodup_append] at hkeys
    refine ⟨fun r hr => ?_, hwired.fits l (by simp), fun hin => ?_, fun hpath => ?_⟩
    · have hone := hwired.single r
      rw [arriving_append, if_pos hr, List.length_append, List.length_singleton] at hone
      exact List.length_eq_zero_iff.mp (by omega)
    · exact hkeys.2.2 _ hin l.key (by simp) rfl
    · refine hwired.acyclic l.fromUid (.head' ⟨l, by simp, rfl, rfl⟩ ?_)
      exact Diagram.Path.mono (List.subset_append_left links [l]) hpath
  · intro hl
    have hnot : l ∉ links := fun hin => hl.new (List.mem_map.mpr ⟨l, hin, rfl⟩)
    refine ⟨⟨h.1.acyclic.append hl.back, fun r => ?_, ?_, fun k hk => ?_⟩, ?_⟩
    · rw [arriving_append]
      by_cases hr : s.portAt? l.toUid l.toPort .input = some r
      · rw [hl.free r hr, if_pos hr]
        simp
      · rw [if_neg hr, List.append_nil]
        exact h.1.single r
    · rw [← List.concat_eq_append]
      exact h.1.distinct.concat hnot
    · rcases List.mem_append.mp hk with hold | hnew
      · exact h.1.fits k hold
      · rw [List.mem_singleton.mp hnew]
        exact hl.fits
    · rw [List.map_append, List.map_singleton, ← List.concat_eq_append]
      exact h.2.concat hl.new

/-! ## scenes with the same cards -/

section SameCards

variable {s t : Scene} (hcards : t.cards = s.cards) (huids : t.byUid = s.byUid)

include hcards huids

/-- Where a link arrives depends on the cards and their register only. -/
theorem arriving_congr (links : List Link) (r : PortRef) :
    t.arriving links r = s.arriving links r := by
  unfold arriving
  simp only [portAt?_congr hcards huids]

/-- So does whether it fits. -/
theorem fits_congr (l : Link) : t.Fits l ↔ s.Fits l := by
  unfold Fits portSpec card
  simp only [portAt?_congr hcards huids, hcards]

/-- So do the rules of wiring. -/
theorem wellWired_congr (links : List Link) : t.WellWired links ↔ s.WellWired links := by
  constructor
  · intro h
    refine ⟨h.acyclic, fun r => ?_, h.distinct,
      fun l hl => (fits_congr hcards huids l).mp (h.fits l hl)⟩
    rw [← arriving_congr hcards huids]
    exact h.single r
  · intro h
    refine ⟨h.acyclic, fun r => ?_, h.distinct,
      fun l hl => (fits_congr hcards huids l).mpr (h.fits l hl)⟩
    rw [arriving_congr hcards huids]
    exact h.single r

end SameCards

/-! ## drawing -/

/-- The steps by which a link is drawn: a wire is begun at the one port and ended at the other. -/
def strokes (s : Scene) (l : Link) : List Operation :=
  match s.portAt? l.fromUid l.fromPort .output, s.portAt? l.toUid l.toPort .input with
  | some start, some finish => [.beginWire start, .completeWire finish]
  | _, _ => []

/-- The steps by which a diagram is drawn: its blocks are put up, then its links are drawn in
order. -/
def drawing (s : Scene) (d : Diagram) : List Operation :=
  .load { d with links := [] } :: d.links.flatMap (s.dealt d).strokes

/-- The scene `u` came about by drawing links between the ports of the scene `s`: the cards are the
same, a key is registered for every link, and an input is free exactly when no link arrives. -/
structure Drawn (s u : Scene) : Prop where
  cards : u.cards = s.cards
  uids : u.byUid = s.byUid
  matched : u.Matched
  inputs : ∀ r, r.side = .input → r.card ∈ Assoc.values s.byUid →
    (u.wiresAt r = [] ↔ s.arriving u.links r = [])

theorem Drawn.of_eq {s u u' : Scene} (h : s.Drawn u) (hcards : u'.cards = u.cards)
    (huids : u'.byUid = u.byUid) (hkeys : u'.byKey = u.byKey) (hplugged : u'.plugged = u.plugged)
    (hlinks : u'.links = u.links) : s.Drawn u' where
  cards := hcards.trans h.cards
  uids := huids.trans h.uids
  matched := h.matched.of_eq hkeys hlinks
  inputs r hr hc := by
    unfold wiresAt
    rw [hplugged, hlinks]
    exact h.inputs r hr hc

/-- A port that a link names is on a registered card. -/
theorem mem_values_of_portAt? {s : Scene} {uid name : Text} {side : Side} {r : PortRef}
    (hr : s.portAt? uid name side = some r) : r.card ∈ Assoc.values s.byUid := by
  obtain ⟨c, hc, hport⟩ := Option.bind_eq_some_iff.mp hr
  obtain ⟨index, _, rfl⟩ := Option.map_eq_some_iff.mp hport
  exact Assoc.mem_values.mpr ⟨uid, Assoc.mem_of_get? hc⟩

section Step

variable {s u : Scene} {l : Link} {start finish : PortRef}
  (hnamed : s.Named) (hstart : s.portAt? l.fromUid l.fromPort .output = some start)
  (hfinish : s.portAt? l.toUid l.toPort .input = some finish)

include hnamed hstart hfinish

/-- What a wire between the ports of a link shows is that link. -/
theorem Drawn.linkBetween_eq (h : s.Drawn u) : Edit.linkBetween u start finish = l := by
  obtain ⟨_, _, hfrom, hfromPort⟩ := portAt?_spec hnamed hstart
  obtain ⟨_, _, hto, htoPort⟩ := portAt?_spec hnamed hfinish
  have hsame : Edit.linkBetween u start finish = Edit.linkBetween s start finish := by
    unfold Edit.linkBetween uidAt portSpec card
    rw [h.cards]
  rw [hsame]
  unfold Edit.linkBetween
  rw [hfrom, hfromPort, hto, htoPort]

/-- A wire between the ports of a link is refused exactly when the link is not admitted. -/
theorem Drawn.refusal?_eq_none_iff (h : s.Drawn u) :
    Edit.refusal? u start finish = none ↔ s.Admits u.links l := by
  obtain ⟨hout, _, hfrom, _⟩ := portAt?_spec hnamed hstart
  obtain ⟨hin, _, hto, _⟩ := portAt?_spec hnamed hfinish
  have hlink := h.linkBetween_eq hnamed hstart hfinish
  have hfree : u.wiresAt finish = [] ↔ s.arriving u.links finish = [] :=
    h.inputs finish hin (mem_values_of_portAt? hfinish)
  have htypes : Edit.compatible (u.portSpec start).type (u.portSpec finish).type = true ↔
      s.Fits l := by
    unfold Fits
    simp only [hstart, hfinish, Option.mem_some_iff, exists_eq_left', portSpec, card, h.cards]
  have hpath : Diagram.closesCycle u.links (u.uidAt start) (u.uidAt finish) = false ↔
      ¬ Diagram.Path u.links l.toUid l.fromUid := by
    rw [← Diagram.closesCycle_iff, Bool.not_eq_true, ← hfrom, ← hto]
    unfold uidAt card
    rw [h.cards]
  have hdiffer : finish ≠ start := fun hsame => by
    rw [hsame, hout] at hin
    exact absurd hin (by decide)
  rw [Scene.refusal?_eq_none_iff, hlink, hfree, htypes, hpath, h.matched]
  constructor
  · rintro ⟨-, -, -, hempty, hfits, hnew, hback⟩
    refine ⟨fun r hr => ?_, hfits, hnew, hback⟩
    rw [← Option.some.inj (hfinish.symm.trans hr)]
    exact hempty
  · intro hl
    exact ⟨hdiffer, hin, hout, hl.free finish hfinish, hl.fits, hl.new, hl.back⟩

/-- A link that is admitted comes to the end of the links. -/
theorem Drawn.linked (h : s.Drawn u) (hr : Edit.refusal? u start finish = none) :
    s.Drawn (u.linked start finish) ∧ (u.linked start finish).links = u.links ++ [l] := by
  obtain ⟨hout, -⟩ := portAt?_spec hnamed hstart
  have hlink := h.linkBetween_eq hnamed hstart hfinish
  have hlinks : (u.linked start finish).links = u.links ++ [l] := by rw [links_linked, hlink]
  refine ⟨⟨?_, ?_, h.matched.linked hr, fun r hside hc => ?_⟩, hlinks⟩
  · rw [cards_linked, h.cards]
  · rw [byUid_linked, h.uids]
  · have hne : r ≠ start := fun hsame => by
      rw [hsame, hout] at hside
      exact nomatch hside
    have hmem (w : Nat) : w ∈ (u.linked start finish).wiresAt r ↔
        w ∈ u.wiresAt r ∨ w = u.wires.length ∧ r = finish := by
      have hjoin :=
        mem_wiresAt_joinPorts u.withoutPreview (Edit.linkBetween u start finish) start finish r w
      rw [wires_withoutPreview, or_iff_right hne] at hjoin
      refine hjoin.trans (or_congr ?_ Iff.rfl)
      rw [mem_wiresAt, mem_wiresAt, plugged_withoutPreview]
    have hempty : (u.linked start finish).wiresAt r = [] ↔ u.wiresAt r = [] ∧ r ≠ finish := by
      simp only [List.eq_nil_iff_forall_not_mem, hmem, not_or, not_and, forall_and, forall_eq]
    rw [hempty, h.inputs r hside hc, hlinks, arriving_append, List.append_eq_nil_iff, hfinish]
    refine and_congr_right fun _ => ?_
    simp [eq_comm]

/-- Drawing one link adds it, if it is admitted, and otherwise leaves all links as they are. -/
theorem Drawn.strokes (h : s.Drawn u) :
    let u' := (s.strokes l).foldl after u
    s.Drawn u' ∧ (s.Admits u.links l ∧ u'.links = u.links ++ [l] ∨
      ¬ s.Admits u.links l ∧ u'.links = u.links) := by
  intro u'
  obtain ⟨hout, -⟩ := portAt?_spec hnamed hstart
  have hu' : u' = (u.begun start).completed finish := by
    simp only [u', Scene.strokes, hstart, hfinish]
    rfl
  have hbegun : s.Drawn (u.begun start) :=
    h.of_eq (u.cards_begun start) (u.byUid_begun start) (u.byKey_begun start)
      (by rw [begun_eq]) (u.links_begun start)
  have hadmits := hbegun.refusal?_eq_none_iff hnamed hstart hfinish
  rw [links_begun] at hadmits
  rw [hu', completed, u.preview_begun hout]
  dsimp only
  cases hr : Edit.refusal? (u.begun start) start finish with
  | none =>
    obtain ⟨hdrawn, hlinks⟩ := hbegun.linked hnamed hstart hfinish hr
    rw [links_begun] at hlinks
    exact ⟨hdrawn, .inl ⟨hadmits.mp hr, hlinks⟩⟩
  | some why =>
    have hnot : ¬ s.Admits u.links l := fun hl => nomatch (hadmits.mpr hl).symm.trans hr
    dsimp only
    split
    · refine ⟨?_, .inr ⟨hnot, by rw [links_withoutPreview, links_begun]⟩⟩
      exact hbegun.of_eq (cards_withoutPreview _) (byUid_withoutPreview _) (byKey_withoutPreview _)
        (plugged_withoutPreview _) (links_withoutPreview _)
    · exact ⟨hbegun, .inr ⟨hnot, u.links_begun start⟩⟩

end Step

/-- A link without its ports takes no step. -/
theorem strokes_of_not_restorable {s : Scene} {l : Link} (h : s.restorable l = false) :
    s.strokes l = [] := by
  unfold strokes
  split
  · next start finish hs hf => simp [restorable, hs, hf] at h
  · rfl

/-- Drawing links one after the other draws links that obey the rules, and leaves none out exactly
when the rules hold of all of them together. -/
theorem drawn_links {s u : Scene} (hnamed : s.Named) (h : s.Drawn u) (hu : s.Drawable u.links)
    (links : List Link) :
    let u' := (links.flatMap s.strokes).foldl after u
    let all := u.links ++ links.filter s.restorable
    s.Drawn u' ∧ s.Drawable u'.links ∧ u'.links.Sublist all ∧
      (u'.links = all ↔ s.Drawable all) := by
  induction links generalizing u with
  | nil => simpa using ⟨h, hu⟩
  | cons l links ih =>
    rw [List.flatMap_cons, List.foldl_append]
    cases hl : s.restorable l with
    | false =>
      rw [strokes_of_not_restorable hl, List.filter_cons_of_neg (by simp [hl])]
      exact ih h hu
    | true =>
      obtain ⟨start, finish, hstart, hfinish, -⟩ := restored_of_restorable hl
      obtain ⟨hnext, hstep⟩ := h.strokes hnamed hstart hfinish
      rw [List.filter_cons_of_pos hl]
      rcases hstep with ⟨hadmits, hlinks⟩ | ⟨hrefused, hlinks⟩
      · have hdrawable := (drawable_append_iff hu l).mpr hadmits
        rw [← hlinks] at hdrawable
        have hrest := ih hnext hdrawable
        rw [hlinks, List.append_assoc] at hrest
        exact hrest
      · -- a link that is refused is left out for good, and the rules do not hold with it
        have hrest := ih hnext (hlinks.symm ▸ hu)
        rw [hlinks] at hrest
        obtain ⟨hdrawn, hdrawable, hsub, -⟩ := hrest
        have hfewer : (u.links ++ links.filter s.restorable).Sublist
            (u.links ++ l :: links.filter s.restorable) :=
          (List.Sublist.refl _).append (List.sublist_cons_self _ _)
        refine ⟨hdrawn, hdrawable, hsub.trans hfewer, iff_of_false (fun heq => ?_) fun hall => ?_⟩
        · have hlength := hsub.length_le
          rw [heq, List.length_append, List.length_append, List.length_cons] at hlength
          omega
        · refine hrefused ((drawable_append_iff hu l).mp (hall.sublist ?_))
          exact (List.Sublist.refl _).append ((List.nil_sublist _).cons_cons l)

/-! ## opening and drawing -/

/-- Putting up cards does not look at the links. -/
theorem withCards_withLinks (nodes : List Node) (s : Scene) (links : List Link) :
    { s with links }.withCards nodes = { s.withCards nodes with links } := by
  induction nodes generalizing s with
  | nil => rfl
  | cons n rest ih =>
    unfold withCards
    dsimp only
    cases Edit.cardFor s.catalog n with
    | error fault => rfl
    | ok c => exact ih (s.addCard c)

/-- The blocks of a diagram get the same cards whatever its links are. -/
theorem dealt_withLinks (s : Scene) (d : Diagram) (links : List Link) :
    s.dealt { d with links } = { s.dealt d with links } :=
  withCards_withLinks d.nodes (s.cleared d.links) links

/-- Opening a diagram without its links puts up its cards and no wire. -/
theorem loaded_withoutLinks (s : Scene) (d : Diagram) :
    s.loaded { d with links := [] } = { s.dealt d with links := [] } := by
  unfold loaded
  dsimp only
  rw [List.foldl_nil, ite_self]
  exact s.dealt_withLinks d []

/-- Opening a diagram makes the cards of its blocks, and links make none. -/
theorem cards_loaded (s : Scene) (d : Diagram) : (s.loaded d).cards = (s.dealt d).cards := by
  unfold loaded
  split
  · exact cards_restoreds _ _
  · rfl

/-- The blocks of a diagram were put up, and no link is drawn yet. -/
theorem drawn_withoutLinks {s : Scene} (h : s.Plugged) (d : Diagram) :
    (s.dealt d).Drawn (s.loaded { d with links := [] }) := by
  rw [loaded_withoutLinks]
  refine ⟨rfl, rfl, ?_, fun r _ hr => iff_of_true (wiresAt_dealt h d hr) rfl⟩
  unfold Matched dealt
  rw [byKey_withCards]
  rfl

/-- Drawing a diagram leaves no link out exactly when the rules hold of all links whose two ports
are there. -/
theorem drawn_drawing {s : Scene} (h : s.Plugged) (d : Diagram) :
    let u := (d.links.flatMap (s.dealt d).strokes).foldl after (s.loaded { d with links := [] })
    let all := d.links.filter (s.dealt d).restorable
    (s.dealt d).Drawn u ∧ (s.dealt d).Drawable u.links ∧ u.links.Sublist all ∧
      (u.links = all ↔ (s.dealt d).Drawable all) := by
  have hnamed : (s.dealt d).Named :=
    Named.withCards (s := s.cleared d.links) (fun e he => absurd he List.not_mem_nil) d.nodes
  have hnone : (s.loaded { d with links := [] }).links = [] := by rw [loaded_withoutLinks]
  have hstart : (s.dealt d).Drawable (s.loaded { d with links := [] }).links := by
    rw [hnone]
    exact drawable_nil _
  have hrun := drawn_links hnamed (drawn_withoutLinks h d) hstart d.links
  rw [hnone, List.nil_append] at hrun
  exact hrun

/-- A link that fits can be restored. -/
theorem restorable_of_fits {s : Scene} {l : Link} (h : s.Fits l) : s.restorable l = true := by
  obtain ⟨start, hstart, finish, hfinish, -⟩ := h
  simp [restorable, Option.mem_def.mp hstart, Option.mem_def.mp hfinish]

/-- Links that obey the rules have their ports, so that none is lost for want of one. -/
theorem eq_iff_drawable {s : Scene} {drawn links : List Link}
    (hsub : drawn.Sublist (links.filter s.restorable))
    (hiff : drawn = links.filter s.restorable ↔ s.Drawable (links.filter s.restorable)) :
    drawn = links ↔ s.Drawable links := by
  have hfilter (h : ∀ l ∈ links, s.restorable l = true) : links.filter s.restorable = links :=
    List.filter_eq_self.mpr h
  constructor
  · intro heq
    have hall : links.filter s.restorable = links :=
      List.filter_sublist.eq_of_length_le (heq ▸ hsub.length_le)
    rw [hall] at hiff
    exact hiff.mp heq
  · intro h
    rw [hfilter fun l hl => restorable_of_fits (h.1.fits l hl)] at hiff
    exact hiff.mpr h

end Scene

/-- The scene after a run is the one after its operations, one by one. -/
theorem scene_run (t : Session) (ops : List Operation) :
    (t.run ops).scene = ops.foldl Scene.after t.scene := by
  induction ops generalizing t with
  | nil => rfl
  | cons op ops ih => rw [Session.run_cons, ih, scene_perform, List.foldl_cons]

/-- A diagram keeps the links whose two ports are there, or all of them if it is not opened to the
end. -/
theorem links_perform_load (t : Session) (d : Diagram) :
    let shown := (t.perform (.load d)).scene
    (¬ (Operation.load d).Stops t → shown.links = d.links.filter shown.restorable) ∧
      ((Operation.load d).Stops t → shown.links = d.links) := by
  intro shown
  have hshown : shown = t.scene.loaded d := scene_perform t (.load d)
  have hrestorable : shown.restorable = (t.scene.dealt d).restorable := by
    rw [hshown]
    exact funext (Scene.restorable_congr (t.scene.cards_loaded d) (t.scene.byUid_loaded d))
  rw [stops_load_iff, Bool.not_eq_false]
  refine ⟨fun hload => ?_, fun hload => ?_⟩
  · rw [hrestorable, hshown]
    exact Scene.links_loaded hload
  · rw [hshown, Scene.loaded_of_stopped hload]
    exact Scene.links_withCards _ _

/-- Whatever a scene went through, a diagram that is opened in it keeps exactly the links whose two
ports are there, or all its links if it is not opened to the end.  To draw the same diagram, link by
link, gives the same blocks and some of those links, which obey the rules of wiring.  The links that
are kept obey the rules, and have keys of their own, exactly when none of them is refused in
drawing. -/
theorem wiring_load_iff (catalog : Catalog) (listener : Option Listener) (order : Arrangement)
    (ops : List Operation) (d : Diagram)
    (hops : Session.Always (fun t op => t.scene.Handles op)
      (Session.blank catalog listener order) ops) :
    let t := (Session.blank catalog listener order).run ops
    let shown := (t.perform (.load d)).scene
    let drawn := (t.run (t.scene.drawing d)).scene
    (¬ (Operation.load d).Stops t → shown.links = d.links.filter shown.restorable) ∧
      ((Operation.load d).Stops t → shown.links = d.links) ∧
      drawn.diagram.nodes = shown.diagram.nodes ∧
      drawn.WellWired drawn.links ∧ drawn.links.Sublist shown.links ∧
      (drawn.links = shown.links ↔
        shown.WellWired shown.links ∧ (shown.links.map Link.key).Nodup) := by
  intro t shown drawn
  have hshown : shown = t.scene.loaded d := scene_perform t (.load d)
  have hdrawn : drawn = (d.links.flatMap (t.scene.dealt d).strokes).foldl Scene.after
      (t.scene.loaded { d with links := [] }) := scene_run t _
  have hcards : shown.cards = (t.scene.dealt d).cards := hshown ▸ t.scene.cards_loaded d
  have huids : shown.byUid = (t.scene.dealt d).byUid := hshown ▸ t.scene.byUid_loaded d
  have hrestorable : shown.restorable = (t.scene.dealt d).restorable :=
    funext (Scene.restorable_congr hcards huids)
  obtain ⟨hkept, hstopped⟩ := links_perform_load t d
  have hsame :
      shown.links = d.links ∨ shown.links = d.links.filter (t.scene.dealt d).restorable := by
    by_cases hload : (Operation.load d).Stops t
    · exact .inl (hstopped hload)
    · exact .inr (hrestorable ▸ hkept hload)
  obtain ⟨hdone, hdrawable, hsub, hiff⟩ := Scene.drawn_drawing
    (Session.plugged_run catalog listener order hops) d
  rw [← hdrawn] at hdone hdrawable hsub hiff
  have hnodes : drawn.diagram.nodes = shown.diagram.nodes := by
    change drawn.nodes = shown.nodes
    unfold Scene.nodes Scene.card
    rw [hdone.cards, hdone.uids, hcards, huids]
  have hwired : drawn.WellWired drawn.links :=
    (Scene.wellWired_congr hdone.cards hdone.uids _).mpr hdrawable.1
  refine ⟨hkept, hstopped, hnodes, hwired, ?_, ?_⟩
  · rcases hsame with hall | hsome
    · exact hall ▸ hsub.trans List.filter_sublist
    · exact hsome ▸ hsub
  · rw [Scene.wellWired_congr hcards huids]
    rcases hsame with hall | hsome
    · exact hall ▸ Scene.eq_iff_drawable hsub hiff
    · exact hsome ▸ hiff

/-- Two blocks were linked and one of them deleted; a chain that is opened then is opened as it
would be drawn. -/
theorem wiring_load_chain :
    let ops : List Operation := [
      .add (.text "relay") ⟨0, 0⟩ "a" [], .add (.text "relay") ⟨200, 0⟩ "b" [],
      .beginWire ⟨0, .output, 0⟩, .completeWire ⟨1, .input, 0⟩, .select (.card 0) true,
        .deleteSelected]
    let shown := (((Session.blank relay none).run ops).perform (.load chain)).scene
    Session.Always (fun t op => t.scene.Handles op) (Session.blank relay none) ops ∧
      shown.links = [⟨"a", "out", "b", "in"⟩] ∧ shown.WellWired shown.links := by
  intro ops shown
  have hops : Session.Always (fun t op => t.scene.Handles op) (Session.blank relay none) ops := by
    decide +kernel
  obtain ⟨-, -, -, -, -, hiff⟩ := wiring_load_iff relay none .asAdded ops chain hops
  exact ⟨hops, by decide +kernel, (hiff.mp (by decide +kernel)).1⟩

/-- A catalog of one type, whose input and output carry different types. -/
def probe : Catalog :=
  [("probe", .dict [("inputs", .list [.dict [("name", .text "in"), ("type", .text "flow")]]),
    ("outputs", .list [.dict [("name", .text "out"), ("type", .text "number")]])])]

/-- Two blocks, linked twice in one direction and once in the other. -/
def tangle : Diagram :=
  { nodes := [{ uid := "a", type := .text "probe" },
    { uid := "b", type := .text "probe", x := 200 }]
    links := [⟨"a", "out", "b", "in"⟩, ⟨"a", "out", "b", "in"⟩, ⟨"b", "out", "a", "in"⟩] }

/-- Opening a diagram can break every rule of wiring at once. -/
theorem not_wellWired_load_tangle :
    let shown := ((Session.blank probe none).perform (.load tangle)).scene
    ¬ Diagram.Acyclic shown.links ∧ (∃ r, 1 < (shown.arriving shown.links r).length) ∧
      ¬ shown.links.Nodup ∧ ∀ l ∈ shown.links, ¬ shown.Fits l := by
  intro shown
  have hlinks : shown.links = tangle.links := by decide +kernel
  refine ⟨fun h => ?_, ⟨⟨1, .input, 0⟩, by decide +kernel⟩, by decide +kernel, by decide +kernel⟩
  rw [hlinks] at h
  have hthere : Diagram.Leads tangle.links "a" "b" := ⟨⟨"a", "out", "b", "in"⟩, by decide⟩
  have hback : Diagram.Leads tangle.links "b" "a" := ⟨⟨"b", "out", "a", "in"⟩, by decide⟩
  exact h "a" ((Relation.TransGen.single hthere).tail hback)

end BlockSketch.Canvas
