import BlockSketch.Proofs.Canvas.Loading

/-!
# BlockSketch.Proofs.Canvas.Faithful

The books of a scene agree.  A scene says in several places what it holds: `byUid` and
`byKey` register cards and wires, `plugged` and `holding` say which wires hang on a
port and on a card, `items` what is to be seen, `links` what the diagram is.  In a
`Faithful` scene a registered wire hangs on the ports it joins, and nothing else hangs
on the cards that are registered.

* `Faithful.keep` — steps that register nothing;
* `Faithful.withCards` — new cards;
* `Faithful.joinPorts` — a new wire between two ports.
-/

namespace BlockSketch.Canvas.Scene

/-! ## cards that stay -/

/-- Every card of a scene is still there in another one, at most marked otherwise. -/
structure KeepsCards (s t : Scene) : Prop where
  length : s.cards.length ≤ t.cards.length
  card : ∀ c < s.cards.length, ∃ selected, t.card c = { s.card c with selected }

theorem KeepsCards.of_eq {s t : Scene} (h : t.cards = s.cards) : s.KeepsCards t where
  length := Nat.le_of_eq (by rw [h])
  card c _ := ⟨(s.card c).selected, by unfold Scene.card; rw [h]⟩

/-- A new card leaves the others as they are. -/
theorem KeepsCards.addCard (s : Scene) (c : Card) : s.KeepsCards (s.addCard c) where
  length := by simp [Scene.addCard]
  card _ hlt := ⟨_, card_addCard_of_lt c hlt⟩

/-- Selecting an item changes no card in anything else. -/
theorem KeepsCards.mark (s : Scene) (item : Item) (on : Bool) : s.KeepsCards (s.mark item on) where
  length := Nat.le_of_eq (s.length_cards_mark item on).symm
  card c _ := s.card_mark item on c

/-- A link between two ports is named by their cards. -/
theorem KeepsCards.linkBetween_eq {s t : Scene} (h : s.KeepsCards t) {start finish : PortRef}
    (hs : start.card < s.cards.length) (hf : finish.card < s.cards.length) :
    Edit.linkBetween t start finish = Edit.linkBetween s start finish := by
  have hport {r : PortRef} (hr : r.card < s.cards.length) :
      t.uidAt r = s.uidAt r ∧ t.portSpec r = s.portSpec r := by
    obtain ⟨selected, hc⟩ := h.card r.card hr
    unfold uidAt portSpec
    rw [hc]
    exact ⟨rfl, by cases r.side <;> rfl⟩
  unfold Edit.linkBetween
  rw [(hport hs).1, (hport hs).2, (hport hf).1, (hport hf).2]

/-! ## the books -/

theorem mem_wiresAt {s : Scene} {r : PortRef} {w : Nat} : w ∈ s.wiresAt r ↔ (r, w) ∈ s.plugged := by
  simp [wiresAt]

theorem mem_wiresOn {s : Scene} {c w : Nat} : w ∈ s.wiresOn c ↔ (c, w) ∈ s.holding := by
  simp [wiresOn]

/-- A wire shows a link between the two ports that the link names, and hangs on both. -/
structure Joins (s : Scene) (w : Nat) (l : Link) : Prop where
  made : w < s.wires.length
  link : (s.wire w).link = some l
  ends : ∃ start finish, (s.wire w).start = some start ∧ (s.wire w).finish = some finish ∧
    start.side = .output ∧ finish.side = .input ∧
    start.card < s.cards.length ∧ finish.card < s.cards.length ∧ Edit.linkBetween s start finish = l
  held : ∀ r ∈ (s.wire w).ends, w ∈ s.wiresAt r ∧ w ∈ s.wiresOn r.card

/-- A wire goes on joining its ports where the cards, the wire and what hangs where are kept. -/
theorem Joins.keep {s t : Scene} {w : Nat} {l : Link} (h : s.Joins w l) (hcards : s.KeepsCards t)
    (hlen : s.wires.length ≤ t.wires.length) (hwire : ∃ selected, t.wire w =
      { s.wire w with selected })
    (hat : ∀ r, w ∈ s.wiresAt r → w ∈ t.wiresAt r) (hon : ∀ c, w ∈ s.wiresOn c → w ∈ t.wiresOn c) :
    t.Joins w l := by
  obtain ⟨selected, hw⟩ := hwire
  obtain ⟨start, finish, hstart, hfinish, hout, hin, hs, hf, hl⟩ := h.ends
  refine ⟨Nat.lt_of_lt_of_le h.made hlen, by rw [hw]; exact h.link, ?_, fun r hr => ?_⟩
  · refine ⟨start, finish, by rw [hw]; exact hstart, by rw [hw]; exact hfinish, hout,
      hin, ?_, ?_, ?_⟩
    · exact Nat.lt_of_lt_of_le hs hcards.length
    · exact Nat.lt_of_lt_of_le hf hcards.length
    · rw [hcards.linkBetween_eq hs hf]
      exact hl
  · rw [hw] at hr
    exact ⟨hat r (h.held r hr).1, hon r.card (h.held r hr).2⟩

/-- A wire may hang on a card: the card was made, and if it is registered, so is the wire, with ends
that fit. -/
def MayHang (s : Scene) (c w : Nat) (fits : List PortRef → Prop) : Prop :=
  c < s.cards.length ∧
    (c ∈ Assoc.values s.byUid → w ∈ Assoc.values s.byKey ∧ fits (s.wire w).ends)

/-- The books of a scene agree.  Identifiers and keys are registered once.  The cards to be seen are
those registered, each under the identifier of its block; the wires to be seen that show a link are
registered, each under the key of a link of the diagram, and join its two ports.  What hangs on a
registered card or on one of its ports is a registered wire that ends there, and a wire is drawn
from an output. -/
structure Faithful (s : Scene) : Prop where
  named : s.Named
  uids : (Assoc.keys s.byUid).Nodup
  cards : ∀ c, .card c ∈ s.items ↔ c ∈ Assoc.values s.byUid
  keys : (Assoc.keys s.byKey).Nodup
  joins : ∀ e ∈ s.byKey, ∃ l ∈ s.links, l.key = e.1 ∧ s.Joins e.2 l
  wires : ∀ w, .wire w ∈ s.items →
    w < s.wires.length ∧ ((s.wire w).link = none ∨ w ∈ Assoc.values s.byKey)
  plugs : ∀ r w, w ∈ s.wiresAt r → s.MayHang r.card w fun ends => r ∈ ends
  holds : ∀ c w, w ∈ s.wiresOn c → s.MayHang c w fun ends => c ∈ ends.map PortRef.card
  drawn : ∀ p, s.preview = some p → p.start.side = .output ∧ p.start.card < s.cards.length

/-- A registered card was made. -/
theorem Faithful.card_lt {s : Scene} (h : s.Faithful) {c : Nat} (hc : c ∈ Assoc.values s.byUid) :
    c < s.cards.length := by
  obtain ⟨uid, he⟩ := Assoc.mem_values.mp hc
  exact (h.named _ he).1

/-- A registered wire was made. -/
theorem Faithful.wire_lt {s : Scene} (h : s.Faithful) {w : Nat} (hw : w ∈ Assoc.values s.byKey) :
    w < s.wires.length := by
  obtain ⟨key, he⟩ := Assoc.mem_values.mp hw
  obtain ⟨l, _, _, hj⟩ := h.joins _ he
  exact hj.made

/-- On a blank canvas the books are kept, there being nothing in them. -/
theorem faithful_blank (catalog : Catalog) (listener : Option Listener) (order : Arrangement) :
    (Session.blank catalog listener order).scene.Faithful where
  named := nofun
  uids := List.nodup_nil
  cards c := by simp [Session.blank, Assoc.values]
  keys := List.nodup_nil
  joins := nofun
  wires := nofun
  plugs := nofun
  holds := nofun
  drawn := nofun

/-! ## steps that touch neither register -/

/-- A step that registers nothing, takes nothing off a port and shows no new link. -/
theorem Faithful.keep {s t : Scene} (h : s.Faithful) (hcards : s.KeepsCards t)
    (hlen : s.wires.length ≤ t.wires.length)
    (hwire : ∀ w < s.wires.length, ∃ selected, t.wire w = { s.wire w with selected })
    (huids : t.byUid = s.byUid) (hkeys : t.byKey = s.byKey) (hplugged : t.plugged = s.plugged)
    (hholding : t.holding = s.holding) (hlinks : t.links = s.links)
    (hshown : ∀ c, .card c ∈ t.items ↔ .card c ∈ s.items)
    (hwires : ∀ w, .wire w ∈ t.items →
      .wire w ∈ s.items ∨ w < t.wires.length ∧ (t.wire w).link = none)
    (hdrawn : ∀ p, t.preview = some p → p.start.side = .output ∧ p.start.card < s.cards.length) :
    t.Faithful := by
  have hat (r : PortRef) : t.wiresAt r = s.wiresAt r := by unfold wiresAt; rw [hplugged]
  have hon (c : Nat) : t.wiresOn c = s.wiresOn c := by unfold wiresOn; rw [hholding]
  have hends {w : Nat} (hw : w < s.wires.length) : (t.wire w).ends = (s.wire w).ends := by
    obtain ⟨selected, he⟩ := hwire w hw
    rw [he]
    rfl
  have hhang {c w : Nat} {fits : List PortRef → Prop} (hs : s.MayHang c w fits) :
      t.MayHang c w fits := by
    refine ⟨Nat.lt_of_lt_of_le hs.1 hcards.length, fun hc => ?_⟩
    rw [huids] at hc
    obtain ⟨hkey, hfits⟩ := hs.2 hc
    rw [hkeys, hends (h.wire_lt hkey)]
    exact ⟨hkey, hfits⟩
  refine
    { named := fun e he => ?_, uids := huids ▸ h.uids, cards := fun c => ?_, keys := hkeys ▸ h.keys,
      joins := fun e he => ?_, wires := fun w hw => ?_,
        plugs := fun r w hw => hhang (h.plugs r w ?_),
      holds := fun c w hw => hhang (h.holds c w ?_), drawn := fun p hp => ?_ }
  · rw [huids] at he
    obtain ⟨hlt, huid⟩ := h.named e he
    obtain ⟨selected, hc⟩ := hcards.card e.2 hlt
    rw [hc]
    exact ⟨Nat.lt_of_lt_of_le hlt hcards.length, huid⟩
  · rw [hshown, huids]
    exact h.cards c
  · rw [hkeys] at he
    obtain ⟨l, hl, hkey, hj⟩ := h.joins e he
    refine ⟨l, hlinks ▸ hl, hkey, hj.keep hcards hlen (hwire e.2 hj.made) ?_ ?_⟩
    · intro r hr
      rwa [hat]
    · intro c hc
      rwa [hon]
  · rw [hkeys]
    rcases hwires w hw with hold | hnew
    · obtain ⟨hlt, hlink⟩ := h.wires w hold
      obtain ⟨selected, he⟩ := hwire w hlt
      rw [he]
      exact ⟨Nat.lt_of_lt_of_le hlt hlen, hlink⟩
    · exact ⟨hnew.1, .inl hnew.2⟩
  · rwa [hat] at hw
  · rwa [hon] at hw
  · exact ⟨(hdrawn p hp).1, Nat.lt_of_lt_of_le (hdrawn p hp).2 hcards.length⟩

/-- Selecting an item keeps the books. -/
theorem Faithful.mark {s : Scene} (h : s.Faithful) (item : Item) (on : Bool) :
    (s.mark item on).Faithful := by
  have heq := s.mark_eq item on
  refine h.keep (.mark s item on) (Nat.le_of_eq (s.length_wires_mark item on).symm)
    (fun w _ => s.wire_mark item on w) ?_ ?_ ?_ ?_ ?_ ?_ ?_ ?_
  all_goals rw [heq]
  · exact fun c => Iff.rfl
  · exact fun w hw => .inl hw
  · exact h.drawn

theorem Faithful.withoutPreview {s : Scene} (h : s.Faithful) : s.withoutPreview.Faithful := by
  refine h.keep (.of_eq s.cards_withoutPreview) (by simp) (fun w _ => ?_) s.byUid_withoutPreview
    s.byKey_withoutPreview s.plugged_withoutPreview s.holding_withoutPreview s.links_withoutPreview
    (fun c => ?_) (fun w hw => ?_) (fun p hp => ?_)
  · exact ⟨_, by unfold wire; rw [wires_withoutPreview]⟩
  · rw [mem_items_withoutPreview]
    exact ⟨And.left, fun hc => ⟨hc, nofun⟩⟩
  · exact .inl ((mem_items_withoutPreview s _).mp hw).1
  · rw [preview_withoutPreview] at hp
    exact nomatch hp

/-- Beginning a wire at a port of a card that was made keeps the books. -/
theorem Faithful.begun {s : Scene} (h : s.Faithful) {r : PortRef} (hr : r.card < s.cards.length) :
    (s.begun r).Faithful := by
  unfold Scene.begun
  cases hside : r.side with
  | input => exact h
  | output =>
    have h' := h.withoutPreview
    refine h'.keep (.of_eq rfl) (by simp [addWire]) (fun w hw => ?_) rfl rfl rfl rfl rfl
      (fun c => ?_) (fun w hw => ?_) (fun p hp => ?_)
    · exact ⟨_, wire_addWire_of_lt _ hw⟩
    · simp [addWire]
    · rcases List.mem_append.mp hw with hold | hnew
      · exact .inl hold
      · have hw' : w = s.withoutPreview.wires.length := by simpa using hnew
        refine .inr ⟨by simp [addWire, hw'], ?_⟩
        rw [hw']
        exact congrArg Wire.link (wire_addWire_self s.withoutPreview _)
    · obtain rfl := Option.some.inj hp
      rw [cards_withoutPreview]
      exact ⟨hside, hr⟩

/-! ## a new card -/

/-- A card may be put up where its identifier is new. -/
theorem Faithful.addCard {s : Scene} (h : s.Faithful) {c : Card}
    (hc : c.node.uid ∉ Assoc.keys s.byUid) : (s.addCard c).Faithful := by
  have hput : (s.addCard c).byUid = s.byUid ++ [(c.node.uid, s.cards.length)] :=
    Assoc.put_of_not_mem s.byUid s.cards.length hc
  have hvalues (n : Nat) : n ∈ Assoc.values (s.addCard c).byUid ↔
      n ∈ Assoc.values s.byUid ∨ n = s.cards.length := by
    rw [hput]
    simp [Assoc.values]
  have hlength : (s.addCard c).cards.length = s.cards.length + 1 := by simp [Scene.addCard]
  have hhang {n w : Nat} {fits : List PortRef → Prop} (hs : s.MayHang n w fits) :
      (s.addCard c).MayHang n w fits := by
    obtain ⟨hlt, hreg⟩ := hs
    exact ⟨by omega, fun hn => hreg (((hvalues n).mp hn).resolve_right (Nat.ne_of_lt hlt))⟩
  refine
    { named := h.named.addCard c, uids := Assoc.nodup_keys_put h.uids _ _, cards := fun n => ?_,
      keys := h.keys, joins := fun e he => ?_, wires := fun w hw => ?_,
      plugs := fun r w hw => hhang (h.plugs r w hw), holds := fun n w hw => hhang (h.holds n w hw),
      drawn := fun p hp => ?_ }
  · rw [hvalues, ← h.cards]
    simp [Scene.addCard]
  · obtain ⟨l, hl, hkey, hj⟩ := h.joins e he
    exact ⟨l, hl, hkey, hj.keep (.addCard s c) (Nat.le_refl _) ⟨_, rfl⟩ (fun _ => id) fun _ => id⟩
  · exact h.wires w (by simpa [Scene.addCard] using hw)
  · obtain ⟨hside, hlt⟩ := h.drawn p hp
    exact ⟨hside, by omega⟩

/-- Blocks with identifiers of their own get their cards. -/
theorem Faithful.withCards {s : Scene} (h : s.Faithful) {nodes : List Node}
    (hnodes : (nodes.map Node.uid).Nodup) (hfresh : ∀ n ∈ nodes, n.uid ∉ Assoc.keys s.byUid) :
    (s.withCards nodes).Faithful := by
  induction nodes generalizing s with
  | nil => exact h
  | cons n rest ih =>
    obtain ⟨hfirst, hrest⟩ := List.nodup_cons.mp hnodes
    unfold Scene.withCards
    cases hc : Edit.cardFor s.catalog n with
    | error fault => exact h
    | ok c =>
      have huid := uid_of_cardFor hc
      refine ih (h.addCard ?_) hrest fun m hm => ?_
      · rw [huid]
        exact hfresh n List.mem_cons_self
      · change m.uid ∉ Assoc.keys (Assoc.put s.byUid c.node.uid s.cards.length)
        rw [Assoc.mem_keys_put, huid, not_or]
        refine ⟨hfresh m (List.mem_cons_of_mem _ hm), fun heq => hfirst ?_⟩
        exact List.mem_map.mpr ⟨m, hm, heq⟩

/-- A block may be added where its identifier, given or fresh, is new. -/
theorem Faithful.added {s : Scene} (h : s.Faithful) (type : Value) (p : Point) {uid : Text}
    (given : Fields) (huid : (s.withUid uid).1 ∉ Assoc.keys s.byUid) :
    (s.added type p uid given).Faithful := by
  have hfresh : (s.withUid uid).2.Faithful ∧ (s.withUid uid).2.byUid = s.byUid := by
    unfold withUid
    split
    · refine ⟨h.keep (.of_eq rfl) (Nat.le_refl _) (fun w _ => ⟨_, rfl⟩) rfl rfl rfl rfl rfl
        ?_ ?_ ?_, rfl⟩
      · exact fun c => Iff.rfl
      · exact fun w hw => .inl hw
      · exact h.drawn
    · exact ⟨h, rfl⟩
  unfold Scene.added
  split
  · exact h
  · refine hfresh.1.withCards (by simp) fun n hn => ?_
    rw [hfresh.2, List.mem_singleton.mp hn]
    exact huid

/-! ## a new wire -/

/-- Links whose key is not registered may come and go. -/
theorem Faithful.withLinks {s : Scene} (h : s.Faithful) (links : List Link)
    (hkeep : ∀ l ∈ s.links, l.key ∈ Assoc.keys s.byKey → l ∈ links) :
    Faithful { s with links } := by
  refine ⟨h.named, h.uids, h.cards, h.keys, fun e he => ?_, h.wires, h.plugs, h.holds, h.drawn⟩
  obtain ⟨l, hl, hkey, hj⟩ := h.joins e he
  refine ⟨l, hkeep l hl (List.mem_map.mpr ⟨e, he, hkey.symm⟩), hkey, ?_⟩
  exact ⟨hj.made, hj.link, hj.ends, hj.held⟩

section JoinPorts

variable (s : Scene) (l : Link) (start finish : PortRef)

/-- Joining two ports hangs the new wire on both, and moves no other. -/
theorem mem_wiresAt_joinPorts (r : PortRef) (w : Nat) :
    w ∈ (s.joinPorts l start finish).wiresAt r ↔
      w ∈ s.wiresAt r ∨ w = s.wires.length ∧ (r = start ∨ r = finish) := by
  rw [mem_wiresAt, mem_wiresAt]
  simp only [joinPorts, attach, addWire, List.mem_insert_iff, Prod.mk.injEq]
  grind

/-- Joining two ports hangs the new wire on both cards, and moves no other. -/
theorem mem_wiresOn_joinPorts (c w : Nat) :
    w ∈ (s.joinPorts l start finish).wiresOn c ↔
      w ∈ s.wiresOn c ∨ w = s.wires.length ∧ (c = start.card ∨ c = finish.card) := by
  rw [mem_wiresOn, mem_wiresOn]
  simp only [joinPorts, attach, addWire, List.mem_insert_iff, Prod.mk.injEq]
  grind

/-- The new wire runs between the two ports and shows the link. -/
theorem wire_joinPorts_self : ∃ curve, (s.joinPorts l start finish).wire s.wires.length =
    { start := some start, finish := some finish, link := some l, curve } :=
  ⟨_, wire_addWire_self s _⟩

theorem wire_joinPorts_of_lt {w : Nat} (hw : w < s.wires.length) :
    (s.joinPorts l start finish).wire w = s.wire w := wire_addWire_of_lt _ hw

end JoinPorts

/-- The wire of a link is put between the two ports that the link names. -/
theorem Faithful.joinPorts {s : Scene} (h : s.Faithful) {l : Link} {start finish : PortRef}
    (hl : l ∈ s.links) (hkey : l.key ∉ Assoc.keys s.byKey) (hout : start.side = .output)
    (hin : finish.side = .input) (hs : start.card < s.cards.length)
    (hf : finish.card < s.cards.length)
    (hlink : Edit.linkBetween s start finish = l) : (s.joinPorts l start finish).Faithful := by
  obtain ⟨curve, hself⟩ := s.wire_joinPorts_self l start finish
  have hput : (s.joinPorts l start finish).byKey = s.byKey ++ [(l.key, s.wires.length)] :=
    Assoc.put_of_not_mem s.byKey s.wires.length hkey
  have hvalues (w : Nat) : w ∈ Assoc.values (s.joinPorts l start finish).byKey ↔
      w ∈ Assoc.values s.byKey ∨ w = s.wires.length := by
    rw [hput]
    simp [Assoc.values]
  have hlength : (s.joinPorts l start finish).wires.length = s.wires.length + 1 := by
    simp [Scene.joinPorts, attach, addWire]
  have hends : ((s.joinPorts l start finish).wire s.wires.length).ends = [start, finish] := by
    rw [hself]
    rfl
  have hhang {c w : Nat} {fits : List PortRef → Prop} (ht : s.MayHang c w fits) :
      (s.joinPorts l start finish).MayHang c w fits := by
    refine ⟨ht.1, fun hc => ?_⟩
    obtain ⟨hw, hfits⟩ := ht.2 hc
    rw [hvalues, s.wire_joinPorts_of_lt l start finish (h.wire_lt hw)]
    exact ⟨.inl hw, hfits⟩
  have hhangNew {c : Nat} {fits : List PortRef → Prop} (hc : c = start.card ∨ c = finish.card)
      (hfits : fits [start, finish]) :
        (s.joinPorts l start finish).MayHang c s.wires.length fits := by
    refine ⟨?_, fun _ => ⟨(hvalues _).mpr (.inr rfl), by rwa [hends]⟩⟩
    rcases hc with rfl | rfl
    · exact hs
    · exact hf
  refine
    { named := h.named, uids := h.uids, cards := fun c => ?_,
      keys := Assoc.nodup_keys_put h.keys _ _,
      joins := fun e he => ?_, wires := fun w hw => ?_, plugs := fun r w hw => ?_,
      holds := fun c w hw => ?_, drawn := h.drawn }
  · refine Iff.trans ?_ (h.cards c)
    simp [Scene.joinPorts, attach, addWire]
  · rw [hput] at he
    rcases List.mem_append.mp he with hold | hnew
    · obtain ⟨l', hl', hkey', hj⟩ := h.joins e hold
      refine ⟨l', hl', hkey', hj.keep (.of_eq rfl) (by omega) ?_ (fun r hr => ?_) fun c hc => ?_⟩
      · exact ⟨_, s.wire_joinPorts_of_lt l start finish hj.made⟩
      · exact (mem_wiresAt_joinPorts ..).mpr (.inl hr)
      · exact (mem_wiresOn_joinPorts ..).mpr (.inl hc)
    · rw [List.mem_singleton.mp hnew]
      refine ⟨l, hl, rfl, by omega, by rw [hself], ?_, fun r hr => ?_⟩
      · exact ⟨start, finish, by rw [hself], by rw [hself], hout, hin, hs, hf, hlink⟩
      · have hr' : r = start ∨ r = finish := by simpa [hends] using hr
        refine ⟨(mem_wiresAt_joinPorts ..).mpr (.inr ⟨rfl, hr'⟩), ?_⟩
        exact (mem_wiresOn_joinPorts ..).mpr (.inr ⟨rfl, hr'.imp (congrArg _) (congrArg _)⟩)
  · rw [hvalues]
    rcases List.mem_append.mp hw with hold | hnew
    · obtain ⟨hlt, hreg⟩ := h.wires w hold
      rw [s.wire_joinPorts_of_lt l start finish hlt]
      exact ⟨by omega, hreg.imp_right .inl⟩
    · have hw' : w = s.wires.length := by simpa using hnew
      exact ⟨by omega, .inr (.inr hw')⟩
  · rcases (mem_wiresAt_joinPorts ..).mp hw with hold | ⟨rfl, hr⟩
    · exact hhang (h.plugs r w hold)
    · exact hhangNew (hr.imp (congrArg _) (congrArg _)) (by simpa using hr)
  · rcases (mem_wiresOn_joinPorts ..).mp hw with hold | ⟨rfl, hc⟩
    · exact hhang (h.holds c w hold)
    · exact hhangNew hc (by simpa using hc)

/-- A wire that is not refused is ended. -/
theorem Faithful.linked {s : Scene} (h : s.Faithful) {start finish : PortRef}
    (hs : start.card < s.cards.length) (hf : finish.card < s.cards.length)
    (hr : Edit.refusal? s start finish = none) : (s.linked start finish).Faithful := by
  obtain ⟨_, hin, hout, _, _, hkey, _⟩ := refusal?_eq_none_iff.mp hr
  have h' := h.withoutPreview.withLinks
    (s.withoutPreview.links ++ [Edit.linkBetween s start finish])
    fun l hl _ => List.mem_append_left _ hl
  have hbetween :
      Edit.linkBetween s.withoutPreview start finish = Edit.linkBetween s start finish :=
    (KeepsCards.of_eq s.cards_withoutPreview).linkBetween_eq hs hf
  refine h'.joinPorts (l := Edit.linkBetween s start finish) (by simp) ?_ hout hin ?_ ?_ hbetween
  · change _ ∉ Assoc.keys s.withoutPreview.byKey
    rwa [byKey_withoutPreview]
  · rwa [← s.cards_withoutPreview] at hs
  · rwa [← s.cards_withoutPreview] at hf

end BlockSketch.Canvas.Scene
