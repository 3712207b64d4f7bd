import BlockSketch.Proofs.Canvas.Blocks
import BlockSketch.Proofs.Step

/-!
# BlockSketch.Proofs.Canvas.Reach

The scenes that can be reached.  A `Command` is anything that can be done to a scene from
outside: the operations, the events of the mouse and the menu, moving and changing blocks,
and what is set on a scene as a whole.  A catalog that is set has a dictionary for each type.
Nothing is asked of the diagrams that are opened, nor of the ports that are named.

A property is `Scene.Lasting` if the operations keep it, and the few changes that other commands
make beside them; then all commands keep it, and it holds of every scene that can be reached.  One
such property is `Scene.Sound`, which is what it takes for an edit of a wire not to stop half way:
types of cards have a title, and wires in use were made.

Commands that leave the blocks alone keep more, such as what was announced of them.  What they keep
is `Edit.Undisturbed`, a property of a session and not of its scene only.

* `Edit.keeps_leaving` — what is undisturbed is kept by commands that leave the blocks alone;
* `Edit.keeps_command`, `Session.Reached.keeps` — what lasts is kept by commands and runs of them;
* `Session.Reached.sound` — every scene that can be reached is sound.
-/

namespace BlockSketch

/-! ## titles -/

def Catalog.Titled (c : Catalog) (type : Value) : Prop := ∃ title, c.title type = .ok title

/-- Only what can be a key has a title. -/
theorem Catalog.Titled.isKey {c : Catalog} {type : Value} (h : c.Titled type) :
    type.isKey = true := by
  obtain ⟨title, ht⟩ := h
  obtain ⟨fs, hentry, _⟩ := Outcome.bind_eq_ok_iff.mp ht
  obtain ⟨key, hkey, _⟩ := Outcome.bind_eq_ok_iff.mp hentry
  unfold Value.asKey at hkey
  split at hkey
  · assumption
  · exact absurd hkey (by simp)

/-- Where each entry is a dictionary, each type that can be looked up has a title. -/
theorem Catalog.titled_of_dicts (entries : Assoc Text Fields) {type : Value}
    (h : type.isKey = true) :
    Catalog.Titled (Assoc.mapValues .dict entries) type := by
  have hentry : ∃ fs, Catalog.entry (Assoc.mapValues .dict entries) type = .ok fs := by
    simp only [Catalog.entry, Value.asKey, h, if_true, bind, Except.bind]
    split
    · next id =>
      split
      · next v hv =>
        obtain ⟨e, _, he⟩ := List.mem_map.mp (Assoc.mem_of_get? hv)
        exact ⟨e.2, by rw [← (Prod.mk.inj he).2]; rfl⟩
      · exact ⟨[], rfl⟩
    · exact ⟨[], rfl⟩
  obtain ⟨fs, hfs⟩ := hentry
  exact ⟨_, Outcome.bind_eq_ok_iff.mpr ⟨fs, hfs, rfl⟩⟩

namespace Canvas

/-- The card in the place of one that was not made has a type with a title too. -/
theorem titled_default (c : Catalog) : c.Titled (default : Card).node.type := ⟨_, rfl⟩

/-- Only a type with a title gets a card. -/
theorem titled_of_cardFor {catalog : Catalog} {n : Node} {c : Card}
    (hc : Edit.cardFor catalog n = .ok c) : catalog.Titled c.node.type := by
  have htype : c.node.type = n.type := congrArg (fun e => e.2.1) (content_of_cardFor hc)
  obtain ⟨fs, _, hrest⟩ := Outcome.bind_eq_ok_iff.mp hc
  obtain ⟨title, ht, _⟩ := Outcome.bind_eq_ok_iff.mp hrest
  exact ⟨title, by rw [htype]; exact ht⟩

/-! ## sound scenes -/

namespace Scene

/-- Types of cards have a title, and wires that are registered, plugged in or being drawn were
made. -/
structure Sound (s : Scene) : Prop where
  titled : ∀ c ∈ s.cards, s.catalog.Titled c.node.type
  registered : ∀ e ∈ s.byKey, e.2 < s.wires.length
  plugs : ∀ e ∈ s.plugged, e.2 < s.wires.length
  holds : ∀ e ∈ s.holding, e.2 < s.wires.length
  drawn : ∀ p, s.preview = some p → p.wire < s.wires.length

namespace Sound

variable {s t : Scene}

/-- So every number of a card has a type with a title. -/
theorem titled_card (h : s.Sound) (c : Nat) : s.catalog.Titled (s.card c).node.type := by
  unfold card
  rw [List.getD_eq_getElem?_getD]
  cases hc : s.cards[c]? with
  | none => exact titled_default s.catalog
  | some found => exact h.titled found (List.mem_of_getElem? hc)

/-- A step that makes no card, and puts no wire to use. -/
theorem keep (h : s.Sound) (hcatalog : t.catalog = s.catalog)
    (hcards : t.cards.map (·.node.type) = s.cards.map (·.node.type))
    (hwires : s.wires.length ≤ t.wires.length) (hkeys : t.byKey ⊆ s.byKey)
    (hplugged : t.plugged ⊆ s.plugged) (hholding : t.holding ⊆ s.holding)
    (hpreview : ∀ p, t.preview = some p → s.preview = some p) : t.Sound where
  titled c hc := by
    have htype : c.node.type ∈ s.cards.map (·.node.type) := by
      rw [← hcards]
      exact List.mem_map_of_mem hc
    obtain ⟨old, hold, heq⟩ := List.mem_map.mp htype
    rw [hcatalog, ← heq]
    exact h.titled old hold
  registered e he := Nat.lt_of_lt_of_le (h.registered e (hkeys he)) hwires
  plugs e he := Nat.lt_of_lt_of_le (h.plugs e (hplugged he)) hwires
  holds e he := Nat.lt_of_lt_of_le (h.holds e (hholding he)) hwires
  drawn p hp := Nat.lt_of_lt_of_le (h.drawn p (hpreview p hp)) hwires

/-- A card changes, but not its type. -/
theorem setCard (h : s.Sound) (c : Nat) {f : Card → Card}
    (hf : ∀ c, (f c).node.type = c.node.type) :
    (s.setCard c f).Sound := by
  have htypes : (s.cards.modify c f).map (·.node.type) = s.cards.map (·.node.type) := by
    refine List.ext_getElem? fun i => ?_
    simp only [List.getElem?_map, List.getElem?_modify]
    cases s.cards[i]? with
    | none => rfl
    | some found =>
      by_cases hi : c = i
      · simp [hi, hf]
      · simp [hi]
  exact h.keep rfl htypes (Nat.le_refl _) (List.Subset.refl _) (List.Subset.refl _)
    (List.Subset.refl _) fun _ hp => hp

/-- A wire changes. -/
theorem setWire (h : s.Sound) (w : Nat) (f : Wire → Wire) : (s.setWire w f).Sound :=
  h.keep rfl rfl (by simp [Scene.setWire]) (List.Subset.refl _) (List.Subset.refl _)
    (List.Subset.refl _) fun _ hp => hp

theorem mark (h : s.Sound) (item : Item) (on : Bool) : (s.mark item on).Sound := by
  cases item with
  | card c => exact h.setCard c fun _ => rfl
  | wire w => exact h.setWire w _

/-- The wire that is being drawn can be given up. -/
theorem withoutPreview (h : s.Sound) : s.withoutPreview.Sound := by
  rw [s.withoutPreview_eq]
  exact h.keep rfl rfl (Nat.le_refl _) (List.Subset.refl _) (List.Subset.refl _)
    (List.Subset.refl _) fun _ hp => absurd hp (by simp [preview])

/-- A card that was made for a block has a type with a title, for its title was asked for. -/
theorem addCard (h : s.Sound) {n : Node} {c : Card} (hc : Edit.cardFor s.catalog n = .ok c) :
    (s.addCard c).Sound where
  titled d hd := by
    rcases List.mem_append.mp hd with hold | hnew
    · exact h.titled d hold
    · rw [List.mem_singleton.mp hnew]
      exact titled_of_cardFor hc
  registered := h.registered
  plugs := h.plugs
  holds := h.holds
  drawn := h.drawn

theorem addWire (h : s.Sound) (w : Wire) : (s.addWire w).Sound :=
  h.keep rfl rfl (by simp [Scene.addWire]) (List.Subset.refl _) (List.Subset.refl _)
    (List.Subset.refl _) fun _ hp => hp

/-- A wire that is begun was made. -/
theorem begun (h : s.Sound) (r : PortRef) : (s.begun r).Sound := by
  unfold Scene.begun
  cases r.side with
  | input => exact h
  | output =>
    have h' := h.withoutPreview.addWire
      { start := r, loose := s.withoutPreview.anchor r, selectable := false }
    refine ⟨h'.titled, h'.registered, h'.plugs, h'.holds, fun p hp => ?_⟩
    rw [← Option.some.inj hp]
    simp [Scene.addWire]

/-- The one wire that is put to use is new. -/
theorem joinPorts (h : s.Sound) (l : Link) (start finish : PortRef) :
    (s.joinPorts l start finish).Sound := by
  have hmade {w : Nat} (hw : w = s.wires.length ∨ w < s.wires.length) :
      w < (s.joinPorts l start finish).wires.length := by
    simp only [Scene.joinPorts, attach, Scene.addWire, List.length_append, List.length_singleton]
    omega
  refine ⟨h.titled, fun e he => hmade ?_, fun e he => hmade ?_, fun e he => hmade ?_,
    fun p hp => hmade (.inr (h.drawn p hp))⟩
  · rcases Assoc.mem_put s.byKey he with hold | rfl
    · exact .inr (h.registered e hold)
    · exact .inl rfl
  · have hcases : e = (finish, s.wires.length) ∨ e = (start, s.wires.length) ∨ e ∈ s.plugged := by
      simpa [Scene.joinPorts, attach, Scene.addWire, List.mem_insert_iff] using he
    rcases hcases with rfl | rfl | hold
    · exact .inl rfl
    · exact .inl rfl
    · exact .inr (h.plugs e hold)
  · have hcases : e = (finish.card, s.wires.length) ∨ e = (start.card, s.wires.length) ∨
        e ∈ s.holding := by
      simpa [Scene.joinPorts, attach, Scene.addWire, List.mem_insert_iff] using he
    rcases hcases with rfl | rfl | hold
    · exact .inl rfl
    · exact .inl rfl
    · exact .inr (h.holds e hold)

/-- The links of a diagram are of no account. -/
theorem withLinks (h : s.Sound) (links : List Link) : Sound { s with links } :=
  ⟨h.titled, h.registered, h.plugs, h.holds, h.drawn⟩

/-- Removing a wire registers none. -/
theorem withoutWire (h : s.Sound) (w : Nat) : (s.withoutWire w).Sound := by
  cases hl : (s.wire w).link with
  | none => rwa [withoutWire_of_none hl]
  | some l =>
    rw [withoutWire_of_some hl]
    exact h.keep rfl rfl (by simp) List.filter_sublist.subset List.filter_sublist.subset
      List.filter_sublist.subset fun _ hp => hp

/-- Clearing all registers nothing and plugs nothing in. -/
theorem cleared (h : s.Sound) (links : List Link) : (s.cleared links).Sound :=
  ⟨h.withoutPreview.titled, fun _ he => absurd he List.not_mem_nil, h.withoutPreview.plugs,
    h.withoutPreview.holds, h.withoutPreview.drawn⟩

end Sound

/-- Every step of an operation keeps a scene sound. -/
theorem stepwise_sound : Stepwise Sound where
  mark _ item on h := h.mark item on
  withoutPreview _ h := h.withoutPreview
  begun _ r h := h.begun r
  addCard _ _ _ hc h := h.addCard hc
  joinPorts _ l start finish h := h.joinPorts l start finish
  withLinks _ links h := h.withLinks links
  withoutWire _ w h := h.withoutWire w
  withoutCard _ _ h := ⟨h.titled, h.registered, h.plugs, h.holds, h.drawn⟩
  cleared _ links h := h.cleared links
  minted _ _ h := ⟨h.titled, h.registered, h.plugs, h.holds, h.drawn⟩

/-! ## what lasts -/

/-- A property that no command ends: every operation keeps it, and so does a change of a card that
leaves its type, a change of a wire that leaves where it begins and what link it shows, and
what is set on the scene as a whole. -/
structure Lasting (P : Scene → Prop) : Prop where
  after : ∀ s op, P s → P (s.after op)
  setCard : ∀ s h {f}, (∀ c : Card, (f c).node.type = c.node.type) → P s → P (s.setCard h f)
  setWire : ∀ s h {f}, (∀ w : Wire, (f w).start = w.start ∧ (f w).link = w.link) → P s →
    P (s.setWire h f)
  setCatalog : ∀ s entries, P s → P { s with catalog := Assoc.mapValues .dict entries }
  setDrops : ∀ s on, P s → P { s with acceptsDrops := on }
  setListener : ∀ s listener, P s → P { s with listener }

/-- No command ends soundness. -/
theorem lasting_sound : Lasting Sound where
  after := stepwise_sound.after
  setCard _ c _ hf hs := hs.setCard c hf
  setWire _ w f _ hs := hs.setWire w f
  setCatalog _ entries hs :=
    ⟨fun c hc => Catalog.titled_of_dicts entries (hs.titled c hc).isKey, hs.registered, hs.plugs,
      hs.holds, hs.drawn⟩
  setDrops _ _ hs := ⟨hs.titled, hs.registered, hs.plugs, hs.holds, hs.drawn⟩
  setListener _ _ hs := ⟨hs.titled, hs.registered, hs.plugs, hs.holds, hs.drawn⟩

end Scene

/-! ## edits that keep something -/

namespace Edit

section Keeping

variable {α : Type} {P E : Session → Prop}

theorem meets_scene : Meets P scene (fun _ => P) E := fun t ht => .inl ⟨t.scene, t, rfl, ht⟩

theorem keeps_scene : Keeps P scene := meets_scene

/-- A property that a change of the scene keeps. -/
theorem keeps_change {g : Scene → Scene} (hg : ∀ t, P t → P { t with scene := g t.scene }) :
    Keeps P (change g) := keeps_modify hg

/-- Looking something up leaves the session as it is. -/
theorem run_look (g : Scene → Outcome α) (s : Scene) (log : List (Notice × Scene)) :
    (look g).run ⟨s, log⟩ = (g s, ⟨s, log⟩) :=
  (run_of_ok rfl).trans (run_ofExcept (g s) _)

theorem keeps_look (g : Scene → Outcome α) : Keeps P (look g) :=
  keeps_scene.bind fun s => keeps_ofExcept (g s)

/-- Finding out whether something is there changes nothing. -/
theorem meets_isThere (target : Target) : Meets P (isThere target) (fun _ => P) E :=
  fun t ht => .inl ⟨_, t, rfl, ht⟩

/-- What is kept when an item is marked, and the announcement of it. -/
theorem keeps_select (hmark : ∀ t item on, P t → P { t with scene := t.scene.mark item on })
    (htold : Keeps P (announce .selectionChanged)) (item : Item) (on : Bool) :
    Keeps P (select item on) := by
  refine keeps_scene.bind fun s => .ite ?_ (keeps_pure _)
  exact (keeps_change fun t ht => hmark t item on ht).bind fun _ => htold

/-- What is kept when items are unmarked, and the announcement of it. -/
theorem keeps_clearSelection (hmark : ∀ t item on, P t → P { t with scene := t.scene.mark item on })
    (htold : Keeps P (announce .selectionChanged)) : Keeps P clearSelection := by
  refine keeps_scene.bind fun s => .ite ?_ (keeps_pure _)
  refine Keeps.bind (keeps_change fun t ht => ?_) fun _ => htold
  exact Scene.foldl_keeps (P := fun u => P { t with scene := u })
    (fun u item hu => hmark { t with scene := u } item false hu) s.selection ht

end Keeping

/-! ## what is kept while the blocks stay -/

/-- A property of a session that is kept while no block comes or goes: whatever is announced, when
a card changes but not its type, when a wire changes but neither where it begins nor the link that
it shows, when a wire is drawn, and when something is set on the scene as a whole. -/
structure Undisturbed (P : Session → Prop) : Prop where
  announce : ∀ n, Keeps P (announce n)
  setCard : ∀ t h {f}, (∀ c : Card, (f c).node.type = c.node.type) → P t →
    P { t with scene := t.scene.setCard h f }
  setWire : ∀ t h {f}, (∀ w : Wire, (f w).start = w.start ∧ (f w).link = w.link) → P t →
    P { t with scene := t.scene.setWire h f }
  beginWire : ∀ r, Keeps P (beginWire r)
  completeWire : ∀ r, Keeps P (completeWire r)
  cancelPreview : Keeps P cancelPreview
  setDrops : ∀ t on, P t → P { t with scene := { t.scene with acceptsDrops := on } }
  setListener : ∀ t listener, P t → P { t with scene := { t.scene with listener } }

section Undisturbed

variable {P : Session → Prop} (hP : Undisturbed P)

include hP

/-- Selecting an item disturbs nothing. -/
theorem Undisturbed.mark (t : Session) (item : Item) (on : Bool) (ht : P t) :
    P { t with scene := t.scene.mark item on } := by
  cases item with
  | card c => exact hP.setCard t c (fun _ => rfl) ht
  | wire w => exact hP.setWire t w (fun _ => ⟨rfl, rfl⟩) ht

/-- Nor does drawing a wire afresh. -/
theorem Undisturbed.redraw (t : Session) (w : Nat) (ht : P t) :
    P { t with scene := t.scene.redraw w } :=
  hP.setWire t w (fun _ => ⟨rfl, rfl⟩) ht

theorem Undisturbed.select (item : Item) (on : Bool) : Keeps P (Edit.select item on) :=
  keeps_select hP.mark (hP.announce _) item on

/-- Selecting some items clears the selection and marks them. -/
theorem keeps_selectOnly (blocks keys : List Text) (preview : Bool) :
    Keeps P (selectOnly blocks keys preview) := by
  refine (keeps_clearSelection hP.mark (hP.announce _)).bind fun _ => ?_
  refine (keeps_forM fun uid _ => (keeps_look _).bind fun _ => hP.select _ _).bind fun _ => ?_
  refine (keeps_forM fun key _ => (keeps_look _).bind fun _ => hP.select _ _).bind fun _ => ?_
  refine .ite (keeps_scene.bind fun s => ?_) (keeps_pure _)
  cases s.drawn with
  | some w => exact hP.select _ _
  | none => exact keeps_throw _

/-- Dragging a wire moves its free end and draws it afresh. -/
theorem keeps_dragWire (p : Point) : Keeps P (dragWire p) := by
  refine keeps_scene.bind fun s => ?_
  cases s.drawn with
  | some w =>
    refine keeps_change fun t ht => ?_
    exact hP.redraw { t with scene := t.scene.setWire w _ } w
      (hP.setWire t w (fun _ => ⟨rfl, rfl⟩) ht)
  | none => exact keeps_pure _

/-- Ending the wire that is being drawn without a link changes that wire only, and where it begins
not at all. -/
theorem keeps_endPreview (r : PortRef) : Keeps P (endPreview r) := by
  refine keeps_scene.bind fun s => ?_
  cases s.drawn with
  | some w =>
    refine keeps_change fun t ht => ?_
    exact hP.redraw { t with scene := t.scene.setWire w _ } w
      (hP.setWire t w (fun _ => ⟨rfl, rfl⟩) ht)
  | none => exact keeps_throw _

/-- Moving a card draws its wires afresh. -/
theorem keeps_move (c : Nat) (target : Point) : Keeps P (move c target) := by
  refine keeps_scene.bind fun s => .ite ?_ (keeps_pure _)
  refine Keeps.bind (keeps_change fun t ht => ?_) fun _ => ?_
  · exact hP.setCard t c (fun _ => rfl) ht
  · split
    · exact keeps_throw _
    · refine keeps_change fun t ht => ?_
      exact Scene.foldl_keeps (P := fun u => P { t with scene := u })
        (fun u w hu => hP.redraw { t with scene := u } w hu) (t.scene.wiresOn c) ht

/-- Announcing parameters changes nothing. -/
theorem keeps_announceParams (c : Nat) : Keeps P (announceParams c) :=
  (keeps_look _).bind fun _ => (keeps_scene.bind fun _ => hP.announce _).bind fun _ => hP.announce _

/-- Setting parameters leaves the type of a card. -/
theorem keeps_setParams (c : Nat) (values : Fields) : Keeps P (setParams c values) := by
  refine Keeps.bind (keeps_change fun t ht => ?_) fun _ => keeps_announceParams hP c
  exact hP.setCard t c (fun _ => rfl) ht

theorem keeps_passOn (event : Text) : Keeps P (passOn event) :=
  (hP.announce _).bind fun _ => keeps_pure _

/-- What happens at a port is either passed on or is the act of the port. -/
theorem keeps_onPort (event : Text) {act : PortRef → Edit Unit} (hact : ∀ r, Keeps P (act r))
    (left : Bool) (r : PortRef) : Keeps P (onPort event act left r) := by
  cases left with
  | false => exact keeps_passOn hP event
  | true =>
    refine (meets_isThere _).bind fun there => .ite ?_ (keeps_passOn hP event)
    exact (hact r).bind fun _ => keeps_pure _

/-- A button that goes down on a port begins a wire; on an item it is passed on. -/
theorem keeps_press (left : Bool) (t : Target) : Keeps P (press left t) := by
  cases t with
  | port r => exact keeps_onPort hP _ hP.beginWire left r
  | item i => exact keeps_passOn hP _

/-- A button that goes up on a port ends a wire; on an item it is passed on. -/
theorem keeps_release (left : Bool) (t : Target) : Keeps P (release left t) := by
  cases t with
  | port r => exact keeps_onPort hP _ hP.completeWire left r
  | item i => exact keeps_passOn hP _

/-- A button that goes up at a place ends a wire or gives it up. -/
theorem keeps_releaseAt (left : Bool) (p : Point) : Keeps P (releaseAt left p) := by
  refine keeps_scene.bind fun s => .ite ?_ (keeps_passOn hP _)
  cases (s.portsNear p).find? fun r => r.side = .input with
  | some r => exact (hP.completeWire r).bind fun _ => keeps_pure _
  | none => exact (hP.announce _).bind fun _ => hP.cancelPreview.bind fun _ => keeps_pure _

/-- A double click asks for properties. -/
theorem keeps_doubleClick (t : Target) : Keeps P (doubleClick t) := by
  unfold doubleClick
  split
  · refine (meets_isThere _).bind fun there => .ite ?_ (keeps_passOn hP _)
    exact keeps_scene.bind fun _ => (hP.announce _).bind fun _ => keeps_pure _
  · exact keeps_passOn hP _

end Undisturbed

end Edit

/-! ## commands -/

/-- What can be done to a scene from outside. -/
inductive Command where
  | operation (op : Operation)
  | selectOnly (blocks keys : List Text) (preview : Bool)
  | move (card : Nat) (p : Point)
  | setParams (card : Nat) (values : Fields)
  -- the wire ends at the port, but makes no link
  | endPreview (r : PortRef)
  | redraw (wire : Nat)
  | press (left : Bool) (target : Target)
  | release (left : Bool) (target : Target)
  | hoverAt (p : Point)
  | doubleClick (target : Target)
  | menu (choice : Option Text)
  | menuOn (choice : Option Text) (target : Target)
  | dragOver (payload : Option Payload)
  | drop (payload : Option Payload) (p : Point)
  | setCatalog (entries : Assoc Text Fields)
  | setDrops (on : Bool)
  | setListener (listener : Option Listener)

def Command.edit : Command → Edit Unit
  | .operation op => op.edit
  | .selectOnly blocks keys preview => Edit.selectOnly blocks keys preview
  | .move card p => Edit.move card p
  | .setParams card values => Edit.setParams card values
  | .endPreview r => Edit.endPreview r
  | .redraw wire => Edit.change fun s => s.redraw wire
  | .press left target => do let _ ← Edit.press left target
  | .release left target => do let _ ← Edit.release left target
  | .hoverAt p => do let _ ← Edit.hoverAt p
  | .doubleClick target => do let _ ← Edit.doubleClick target
  | .menu choice => do let _ ← Edit.menu choice
  | .menuOn choice target => do let _ ← Edit.menuOn choice target
  | .dragOver payload => do let _ ← Edit.dragOver payload
  | .drop payload p => do let _ ← Edit.drop payload p
  | .setCatalog entries => Edit.change fun s => { s with catalog := Assoc.mapValues .dict entries }
  | .setDrops on => Edit.change fun s => { s with acceptsDrops := on }
  | .setListener listener => Edit.change fun s => { s with listener }

/-- Whether a command neither adds nor removes blocks, nor changes the catalog. -/
def Command.leavesBlocks : Command → Bool
  | .operation (.add ..) | .operation .deleteSelected | .operation (.load _) => false
  | .menu _ | .menuOn .. | .drop .. | .setCatalog _ => false
  | _ => true

namespace Edit

/-- A command that neither adds nor removes blocks keeps what is kept while none comes or goes. -/
theorem keeps_leaving {P : Session → Prop} (hP : Undisturbed P) {c : Command}
    (hc : c.leavesBlocks = true) : Keeps P c.edit := by
  cases c with
  | operation op =>
    cases op with
    | select item on => exact hP.select item on
    | beginWire r => exact hP.beginWire r
    | completeWire r => exact hP.completeWire r
    | releaseAt left p => exact (keeps_releaseAt hP left p).discard
    | cancelPreview => exact hP.cancelPreview
    | announceParams card => exact keeps_announceParams hP card
    | _ => cases hc
  | selectOnly blocks keys preview => exact keeps_selectOnly hP blocks keys preview
  | move card p => exact keeps_move hP card p
  | setParams card values => exact keeps_setParams hP card values
  | endPreview r => exact keeps_endPreview hP r
  | redraw wire => exact keeps_change (g := fun s => s.redraw wire) fun t ht => hP.redraw t wire ht
  | press left target => exact (keeps_press hP left target).discard
  | release left target => exact (keeps_release hP left target).discard
  | hoverAt p => exact ((keeps_dragWire hP p).bind fun _ => keeps_passOn hP _).discard
  | doubleClick target => exact (keeps_doubleClick hP target).discard
  | dragOver payload => exact (keeps_scene.bind fun _ => keeps_pure _).discard
  | setDrops on =>
    exact keeps_change (g := fun s => { s with acceptsDrops := on }) fun t ht => hP.setDrops t on ht
  | setListener listener =>
    exact keeps_change (g := fun s => { s with listener }) fun t ht => hP.setListener t listener ht
  | _ => cases hc

/-! ## what every command keeps -/

section Lasting

variable {α : Type} {P : Scene → Prop} (hP : Scene.Lasting P)

/-- An edit keeps a property of the scene when the scene it leads to has it. -/
theorem keeps_of_leadsTo {e : Edit α} {next : Scene → Scene} (he : ∀ s, LeadsTo e s (next s))
    (hnext : ∀ s, P s → P (next s)) : Keeps (fun t => P t.scene) e := by
  intro t ht
  obtain ⟨o, ho⟩ := he t.scene
  obtain ⟨log, hrun⟩ := ho t.log
  cases o with
  | ok a => exact .inl ⟨a, _, hrun, hnext _ ht⟩
  | error fault => exact .inr ⟨fault, _, hrun, hnext _ ht⟩

include hP

/-- An operation keeps a lasting property. -/
theorem keeps_edit (op : Operation) : Keeps (fun t => P t.scene) op.edit :=
  keeps_of_leadsTo (leadsTo_edit op) fun s hs => hP.after s op hs

/-- A lasting property of the scene is kept while no block comes or goes. -/
theorem undisturbed_of_lasting : Undisturbed fun t => P t.scene where
  announce _ := keeps_modify fun _ ht => ht
  setCard t c _ hf ht := hP.setCard t.scene c hf ht
  setWire t w _ hf ht := hP.setWire t.scene w hf ht
  beginWire r := keeps_edit hP (.beginWire r)
  completeWire r := keeps_edit hP (.completeWire r)
  cancelPreview := keeps_edit hP .cancelPreview
  setDrops t on ht := hP.setDrops t.scene on ht
  setListener t listener ht := hP.setListener t.scene listener ht

theorem keeps_deleteSelected : Keeps (fun t => P t.scene) deleteSelected := by
  have hleads (s : Scene) : LeadsTo deleteSelected s (s.after .deleteSelected) := by
    obtain ⟨removed, hr⟩ := ends_deleteSelected s
    exact hr.leadsTo
  exact keeps_of_leadsTo hleads fun s hs => hP.after s .deleteSelected hs

/-- The menu may delete the selection. -/
theorem keeps_openMenu (choice : Option Text) : Keeps (fun t => P t.scene) (openMenu choice) := by
  have hcalm := undisturbed_of_lasting hP
  have hdelete : Keeps (fun t => P t.scene) (do return (← deleteSelected).any) :=
    (keeps_deleteSelected hP).bind fun _ => keeps_pure _
  refine keeps_scene.bind fun s => .ite (keeps_pure _) ((hcalm.announce _).bind fun _ => ?_)
  split
  · refine .ite ?_ (.ite hdelete (keeps_pure _))
    exact keeps_scene.bind fun _ => (hcalm.announce _).bind fun _ => keeps_pure _
  · exact .ite hdelete (keeps_pure _)

theorem keeps_menu (choice : Option Text) : Keeps (fun t => P t.scene) (menu choice) :=
  (keeps_openMenu hP choice).bind fun _ =>
    .ite (keeps_pure _) (keeps_passOn (undisturbed_of_lasting hP) _)

theorem keeps_menuOn (choice : Option Text) (t : Target) :
    Keeps (fun t => P t.scene) (menuOn choice t) := by
  have hcalm := undisturbed_of_lasting hP
  have hclear := keeps_clearSelection hcalm.mark (hcalm.announce _)
  cases t with
  | item i =>
    cases i with
    | card c => exact keeps_passOn hcalm _
    | wire w =>
      refine (meets_isThere _).bind fun there => .ite (keeps_scene.bind fun s => ?_)
        (keeps_passOn hcalm _)
      refine .ite (hclear.bind fun _ => ?_) (keeps_menu hP choice)
      exact (hcalm.select (.wire w) true).bind fun _ => keeps_menu hP choice
  | port r =>
    refine (meets_isThere _).bind fun there => .ite ?_ (keeps_passOn hcalm _)
    exact hclear.bind fun _ => keeps_menu hP choice

/-- A drop adds a block or does nothing. -/
theorem keeps_drop (payload : Option Payload) (p : Point) :
    Keeps (fun t => P t.scene) (drop payload p) := by
  refine keeps_scene.bind fun s => .ite ((keeps_ofExcept _).bind fun q => ?_) (keeps_pure _)
  have hadd (type : Value) : Keeps (fun t => P t.scene) (add type q "" []) :=
    keeps_of_leadsTo (leadsTo_add type q "" []) fun s hs => hP.after s (.add type q "" []) hs
  exact (hadd _).bind fun _ => keeps_pure _

/-- Every command keeps what lasts. -/
theorem keeps_command (c : Command) : Keeps (fun t => P t.scene) c.edit := by
  cases hc : c.leavesBlocks with
  | true => exact keeps_leaving (undisturbed_of_lasting hP) hc
  | false =>
    cases c with
    | operation op => exact keeps_edit hP op
    | menu choice => exact (keeps_menu hP choice).discard
    | menuOn choice target => exact (keeps_menuOn hP choice target).discard
    | drop payload p => exact (keeps_drop hP payload p).discard
    | setCatalog entries =>
      exact keeps_change (g := fun s => { s with catalog := Assoc.mapValues .dict entries })
        fun t ht => hP.setCatalog t.scene entries ht
    | _ => cases hc

end Lasting

end Edit

namespace Session

/-- A session that commands lead to from an empty scene. -/
inductive Reached : Session → Prop where
  | blank (catalog : Catalog) (listener : Option Listener) (order : Arrangement) :
    Reached (blank catalog listener order)
  | step {t : Session} (h : Reached t) (c : Command) : Reached (c.edit.run t).2

/-- What lasts and holds of empty scenes holds of every scene that can be reached. -/
theorem Reached.keeps {P : Scene → Prop} (hP : Scene.Lasting P)
    (hblank : ∀ catalog listener order, P (Session.blank catalog listener order).scene)
    {t : Session} (h : t.Reached) : P t.scene := by
  induction h with
  | blank catalog listener order => exact hblank catalog listener order
  | step _ c ih => exact (Edit.keeps_command hP c).run ih

/-- Every session that commands lead to has a sound scene. -/
theorem Reached.sound {t : Session} (h : t.Reached) : t.scene.Sound := by
  refine h.keeps Scene.lasting_sound fun catalog listener order => ?_
  refine ⟨fun c hc => ?_, fun e he => ?_, fun e he => ?_, fun e he => ?_, fun p hp => ?_⟩
  · exact absurd hc List.not_mem_nil
  · exact absurd he List.not_mem_nil
  · exact absurd he List.not_mem_nil
  · exact absurd he List.not_mem_nil
  · exact absurd hp (by simp [Session.blank, Scene.preview])

/-- A run goes on from where commands led. -/
theorem Reached.run {t : Session} (h : t.Reached) (ops : List Operation) : (t.run ops).Reached := by
  induction ops generalizing t with
  | nil => exact h
  | cons op ops ih => exact ih (h.step (.operation op))

end Session

end Canvas

end BlockSketch
