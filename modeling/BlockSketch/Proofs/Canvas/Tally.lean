import BlockSketch.Proofs.Canvas.Reach

/-!
# BlockSketch.Proofs.Canvas.Tally

The number of blocks along an edit.  A listener that shows this number has to learn of each change
of it, so what counts is the number at each announcement and at the end.  While no block comes or
goes it is one number (`Told`).  A block that is added is announced before anything else is
(`Grown`).  Blocks that are removed are announced at the end, after changes of the selection that
are announced on the way (`Shrunk`).  When a diagram is opened, the selection is announced while the
old blocks are still there, and the new ones are not announced (`Opened`).

* `undisturbed_told` — edits that leave the blocks alone;
* `meets_add`, `meets_drop` — edits that add a block;
* `meets_deleteSelected`, `meets_menu`, `meets_menuOn` — edits that delete;
* `meets_load` — opening a diagram, which does not announce what becomes of the blocks.
-/

namespace BlockSketch.Canvas

/-- The catalog of a scene and the number of its blocks. -/
def Scene.tally (s : Scene) : Catalog × Nat := (s.catalog, s.byUid.length)

/-- There are as many blocks as entries in their register. -/
theorem Scene.length_nodes (s : Scene) : s.nodes.length = s.tally.2 := List.length_map _

namespace Notice

/-- Whether an announcement says nothing of the blocks. -/
def mute : Notice → Bool
  | .selectionChanged | .status .. | .menu _ => true
  | _ => false

def asks : Notice → Bool
  | .properties .. => true
  | _ => false

/-- Whether an announcement neither changes the selection nor asks to show a block. -/
def plain : Notice → Bool
  | .blockAdded _ | .selectionChanged | .properties .. => false
  | _ => true

theorem asks_of_mute {n : Notice} (h : n.mute = true) : n.asks = false := by
  cases n <;> first | rfl | cases h

theorem asks_of_plain {n : Notice} (h : n.plain = true) : n.asks = false := by
  cases n <;> first | rfl | cases h

end Notice

namespace Session

/-- The scene has a property, and had it at every announcement, each of which is of a kind. -/
def Logs (Q : Scene → Prop) (N : Notice → Prop) (t : Session) : Prop :=
  Q t.scene ∧ ∀ a ∈ t.log, N a.1 ∧ Q a.2

/-- The number of blocks is what it was at every announcement, each of which is of a kind. -/
abbrev Steady (v : Catalog × Nat) (N : Notice → Prop) : Session → Prop :=
  Logs (fun s => s.tally = v) N

/-- The number of blocks is what it was at every announcement. -/
abbrev Told (v : Catalog × Nat) : Session → Prop := Steady v fun _ => True

/-- The catalog is what it was at every announcement, none of which speaks of blocks. -/
abbrev Muted (c : Catalog) : Session → Prop := Logs (fun s => s.catalog = c) fun n => n.mute = true

def Silent (v : Catalog × Nat) (t : Session) : Prop := t.log = [] ∧ t.scene.tally = v

/-- A block was added.  It was announced first, and its type has a title; nothing came or went
since. -/
def Grown (c : Catalog) (t : Session) : Prop :=
  t.scene.catalog = c ∧ ∃ b rest, t.log = (.blockAdded b, t.scene) :: rest ∧ c.Titled b.type ∧
    ∀ a ∈ rest, a.2 = t.scene

/-- Blocks were removed.  What was announced before they were announced says nothing of them, and
nothing came or went since. -/
def Shrunk (c : Catalog) (t : Session) : Prop :=
  t.scene.catalog = c ∧ ∃ before count rest,
    t.log = before ++ (.blocksRemoved count, t.scene) :: rest ∧ count ≠ 0 ∧
      (∀ a ∈ before, a.1.mute = true ∧ a.2.catalog = c) ∧ ∀ a ∈ rest, a.1.plain = true ∧
        a.2 = t.scene

/-- A diagram was opened.  The selection was announced while the blocks were all there, and what was
announced later asks for nothing to be shown. -/
def Opened (v : Catalog × Nat) (t : Session) : Prop :=
  t.scene.catalog = v.1 ∧ ∀ a ∈ t.log, a.1.mute = true ∧ (a.2.tally = v ∨ a.1.plain = true)

/-- While blocks are removed, no properties are asked for. -/
theorem Shrunk.unasked {c : Catalog} {t : Session} (h : t.Shrunk c) :
    ∀ a ∈ t.log, a.1.asks = false := by
  obtain ⟨-, before, count, rest, hlog, -, hbefore, hrest⟩ := h
  intro a ha
  rw [hlog] at ha
  rcases List.mem_append.mp ha with ha | ha
  · exact Notice.asks_of_mute (hbefore a ha).1
  · rcases List.mem_cons.mp ha with rfl | ha
    · rfl
    · exact Notice.asks_of_plain (hrest a ha).1

/-- The number of blocks stayed, or blocks were removed. -/
def Thinned (v : Catalog × Nat) (t : Session) : Prop := t.Told v ∨ t.Shrunk v.1

/-- Nothing was announced, or a block was added. -/
def Swollen (v : Catalog × Nat) (t : Session) : Prop := t.Silent v ∨ t.Grown v.1

theorem Logs.mono {Q Q' : Scene → Prop} {N N' : Notice → Prop} {t : Session} (h : t.Logs Q N)
    (hQ : ∀ s, Q s → Q' s) (hN : ∀ n, N n → N' n) : t.Logs Q' N' :=
  ⟨hQ _ h.1, fun a ha => ⟨hN _ (h.2 a ha).1, hQ _ (h.2 a ha).2⟩⟩

/-- If the number stayed at announcements of a kind, it stayed. -/
theorem Logs.told {v : Catalog × Nat} {N : Notice → Prop} {t : Session} (h : t.Steady v N) :
    t.Told v :=
  h.mono (fun _ hs => hs) fun _ _ => trivial

end Session

/-! ## what is selected afterwards -/

namespace Scene

/-- A card is selected when it is in the scene and marked. -/
theorem mem_chosenCards {s : Scene} {c : Nat} :
    c ∈ s.chosenCards ↔ .card c ∈ s.items ∧ (s.card c).selected = true := by
  unfold chosenCards
  rw [List.mem_filterMap]
  constructor
  · rintro ⟨item, hitem, hc⟩
    cases item with
    | card h =>
      cases hc
      exact mem_selection.mp hitem
    | wire w => cases hc
  · exact fun h => ⟨.card c, mem_selection.mpr h, rfl⟩

theorem items_withoutWire_subset (s : Scene) (w : Nat) : (s.withoutWire w).items ⊆ s.items := by
  cases hl : (s.wire w).link with
  | none =>
    rw [withoutWire_of_none hl]
    exact List.Subset.refl _
  | some l =>
    rw [withoutWire_of_some hl]
    exact List.filter_sublist.subset

theorem items_withoutWires_subset (ws : List Nat) (s : Scene) :
    (ws.foldl withoutWire s).items ⊆ s.items :=
  foldl_keeps (fun t w ht => List.Subset.trans (t.items_withoutWire_subset w) ht) ws
    (List.Subset.refl _)

/-- The cards left after some are removed are the others. -/
theorem mem_items_withoutBlocks {cs : List Nat} {s : Scene} {c : Nat}
    (h : .card c ∈ (cs.foldl withoutBlock s).items) : .card c ∈ s.items ∧ c ∉ cs := by
  induction cs generalizing s with
  | nil => exact ⟨h, List.not_mem_nil⟩
  | cons b cs ih =>
    obtain ⟨hmem, hrest⟩ := ih h
    obtain ⟨hmem, hne⟩ := List.mem_filter.mp hmem
    refine ⟨items_withoutWires_subset _ s hmem, fun hc => ?_⟩
    rcases List.mem_cons.mp hc with rfl | hc
    · simp at hne
    · exact hrest hc

/-- When what is selected was deleted, no card is selected. -/
theorem chosenCards_withoutSelected (s : Scene) : s.withoutSelected.chosenCards = [] := by
  have hcards : s.withoutSelected.cards = s.cards :=
    foldl_keeps (P := fun t => t.cards = s.cards)
      (fun t c ht => (t.cards_withoutBlock c).trans ht) _
      (cards_withoutWires _ s)
  refine List.eq_nil_iff_forall_not_mem.mpr fun c hc => ?_
  obtain ⟨hitem, hselected⟩ := mem_chosenCards.mp hc
  obtain ⟨hitem, hnot⟩ := mem_items_withoutBlocks hitem
  unfold card at hselected
  rw [hcards] at hselected
  exact hnot (mem_chosenCards.mpr ⟨items_withoutWires_subset _ s hitem, hselected⟩)

/-- The cards in the scene were made, and none of them is selected. -/
def Unselected (s : Scene) : Prop :=
  ∀ c, .card c ∈ s.items → c < s.cards.length ∧ (s.card c).selected = false

/-- Where no card is selected, the selection has none. -/
theorem Unselected.chosenCards {s : Scene} (h : s.Unselected) : s.chosenCards = [] := by
  refine List.eq_nil_iff_forall_not_mem.mpr fun c hc => ?_
  obtain ⟨hitem, hselected⟩ := mem_chosenCards.mp hc
  rw [(h c hitem).2] at hselected
  cases hselected

/-- A card that was just made is not selected. -/
theorem selected_of_cardFor {catalog : Catalog} {n : Node} {c : Card}
    (h : Edit.cardFor catalog n = .ok c) : c.selected = false := by
  obtain ⟨fs, -, h⟩ := Outcome.bind_eq_ok_iff.mp h
  obtain ⟨title, -, h⟩ := Outcome.bind_eq_ok_iff.mp h
  dsimp only at h
  split at h
  · cases h
  · rw [← Except.ok.inj h]
    rfl

theorem Unselected.addCard {s : Scene} (h : s.Unselected) {c : Card} (hc : c.selected = false) :
    (s.addCard c).Unselected := by
  intro k hk
  have hlength : (s.addCard c).cards.length = s.cards.length + 1 := by simp [Scene.addCard]
  rcases List.mem_append.mp hk with hold | hnew
  · obtain ⟨hlt, hselected⟩ := h k hold
    rw [hlength, card_addCard_of_lt c hlt]
    exact ⟨Nat.lt_succ_of_lt hlt, hselected⟩
  · cases List.mem_singleton.mp hnew
    rw [hlength, card_addCard_self]
    exact ⟨Nat.lt_succ_self _, hc⟩

/-- Restoring a link selects nothing. -/
theorem Unselected.restored {s : Scene} (h : s.Unselected) (l : Link) :
    (s.restored l).Unselected := by
  unfold Scene.restored
  split
  · intro k hk
    rcases List.mem_append.mp hk with hold | hnew
    · exact h k hold
    · cases List.mem_singleton.mp hnew
  · exact h

/-- When a diagram was opened, no card is selected. -/
theorem chosenCards_loaded (s : Scene) (d : Diagram) : (s.loaded d).chosenCards = [] := by
  have hcards (nodes : List Node) {t : Scene} (ht : t.Unselected) :
      (t.withCards nodes).Unselected := by
    induction nodes generalizing t with
    | nil => exact ht
    | cons n rest ih =>
      unfold withCards
      cases hc : Edit.cardFor t.catalog n with
      | error fault => exact ht
      | ok c => exact ih (ht.addCard (selected_of_cardFor hc))
  have hdealt : ((s.cleared d.links).withCards d.nodes).Unselected :=
    hcards d.nodes fun c hc => absurd hc List.not_mem_nil
  refine Unselected.chosenCards ?_
  unfold loaded
  split
  · exact foldl_keeps (fun t l ht => ht.restored l) d.links hdealt
  · exact hdealt

end Scene

open Session

namespace Edit

/-! ## edits that leave the blocks alone -/

section Logs

variable {Q : Scene → Prop} {N : Notice → Prop}

/-- A change announces nothing. -/
theorem logs_change {g : Scene → Scene} (hg : ∀ s, Q s → Q (g s)) : Keeps (Logs Q N) (change g) :=
  keeps_change fun t ht => ⟨hg t.scene ht.1, ht.2⟩

/-- An announcement adds one entry, of the scene as it is. -/
theorem logs_announce {E : Session → Prop} {n : Notice} (hn : N n) :
    Meets (Logs Q N) (announce n) (fun _ => Logs Q N) E := by
  refine meets_modify fun t ht => ⟨ht.1, fun a ha => ?_⟩
  rcases List.mem_append.mp ha with hold | hnew
  · exact ht.2 a hold
  · rw [List.mem_singleton.mp hnew]
    exact ⟨hn, ht.1⟩

theorem logs_announceDiagram (hN : ∀ d, N (.changed d)) : Keeps (Logs Q N) announceDiagram :=
  keeps_scene.bind fun _ => logs_announce (hN _)

variable (hQ : ∀ s s' : Scene, s'.tally = s.tally → Q s → Q s') (hN : N .selectionChanged)

include hQ hN

theorem logs_takeOut (item : Item) : Keeps (Logs Q N) (takeOut item) := by
  refine keeps_scene.bind fun s => (logs_change fun s hs => ?_).bind fun _ => ?_
  · exact hQ s _ rfl hs
  · exact .ite (logs_announce hN) (keeps_pure _)

theorem logs_cancelPreview : Keeps (Logs Q N) cancelPreview := by
  have hend : Keeps (Logs Q N) (change fun s => { s with drawn := none, drawnFrom := none }) :=
    logs_change fun s hs => hQ s _ rfl hs
  refine keeps_scene.bind fun s => ?_
  cases s.drawn with
  | none => exact hend
  | some w => exact (logs_takeOut hQ hN _).bind fun _ => hend

/-- Removing a wire may announce that the selection changed. -/
theorem logs_removeWire (w : Nat) : Keeps (Logs Q N) (removeWire w) := by
  refine keeps_scene.bind fun s => ?_
  cases (s.wire w).link with
  | none => exact keeps_pure _
  | some l =>
    refine (logs_change fun s hs => hQ s _ ?_ hs).bind fun _ => ?_
    · dsimp only
      rw [Scene.detach_eq]
      rfl
    · exact (logs_takeOut hQ hN _).bind fun _ => keeps_pure _

end Logs

/-- An edit that leaves the blocks alone leaves their number, at every announcement. -/
theorem undisturbed_told (v : Catalog × Nat) : Undisturbed (Told v) := by
  have hQ (s s' : Scene) (hs : s'.tally = s.tally) (h : s.tally = v) : s'.tally = v := hs.trans h
  have hannounce (n : Notice) : Keeps (Told v) (announce n) := logs_announce trivial
  have hcancel : Keeps (Told v) cancelPreview := logs_cancelPreview hQ trivial
  constructor
  case announce => exact hannounce
  case setCard => exact fun t h f _ ht => ht
  case setWire => exact fun t h f _ ht => ht
  case beginWire =>
    intro r
    unfold beginWire
    cases r.side with
    | input => exact keeps_scene.bind fun s => .ite (hannounce _) (hannounce _)
    | output =>
      refine hcancel.bind fun _ => (logs_change fun s hs => ?_).bind fun _ => hannounce _
      exact hs
  case completeWire =>
    intro r
    refine keeps_scene.bind fun s => ?_
    dsimp only
    split
    · exact keeps_pure _
    · split
      · exact (hannounce _).bind fun _ => .ite hcancel (keeps_pure _)
      · refine hcancel.bind fun _ => (logs_change fun s hs => ?_).bind fun _ => ?_
        · exact hs
        · refine (keeps_look _).bind fun _ => (keeps_look _).bind fun _ =>
            (hannounce _).bind fun _ => ?_
          exact (logs_announceDiagram fun _ => trivial).bind fun _ => hannounce _
  case cancelPreview => exact hcancel
  case setDrops => exact fun t on ht => ht
  case setListener => exact fun t listener ht => ht

/-! ## deleting -/

section Deleting

variable {c : Catalog} {v : Catalog × Nat}

/-- While blocks are removed only the selection is announced. -/
theorem keeps_removeSelected : Keeps (Muted c) removeSelected := by
  have hQ (s s' : Scene) (hs : s'.tally = s.tally) (h : s.catalog = c) : s'.catalog = c :=
    (congrArg Prod.fst hs).trans h
  have hN : Notice.selectionChanged.mute = true := rfl
  have hwire (w : Nat) : Keeps (Muted c) (removeWire w) := logs_removeWire hQ hN w
  have hwires (uid : Text) : Keeps (Muted c) (removeWiresOf uid) :=
    keeps_scene.bind fun _ => (keeps_mapM hwire).bind fun _ => keeps_pure _
  have hcard (h : Nat) : Keeps (Muted c) (removeCard h) := by
    refine keeps_scene.bind fun s => Keeps.bind (logs_change fun s hs => ?_) fun _ =>
      logs_takeOut hQ hN _
    exact hs
  refine keeps_scene.bind fun s => (keeps_mapM hwire).bind fun _ => ?_
  refine (keeps_mapM fun h => keeps_scene.bind fun s => ?_).bind fun _ => keeps_pure _
  exact (hwires _).bind fun _ => (hcard h).bind fun _ => keeps_pure _

/-- Removing the selection goes through the wires and cards selected when it began. -/
theorem run_removeSelected (t : Session) :
    removeSelected.run t = (do
      let gone ← t.scene.chosenWires.mapM removeWire
      let touching ← t.scene.chosenCards.mapM fun h => do
        let count ← removeWiresOf ((← scene).card h).node.uid
        removeCard h
        return count
      return ⟨t.scene.chosenCards.length, gone.countP id + touching.foldl Nat.add 0⟩ :
        Edit Removed).run t :=
  rfl

/-- With no block selected, the number of blocks stays while links are removed. -/
theorem meets_removeSelected_of_none {N : Notice → Prop} (hN : N .selectionChanged) :
    Meets (fun t => t.Steady v N ∧ t.scene.chosenCards = []) removeSelected
      (fun removed t => removed.blocks = 0 ∧ t.Steady v N)
      (Steady v N) := by
  rintro t ⟨ht, hnone⟩
  have hwire (w : Nat) : Keeps (Steady v N) (removeWire w) :=
    logs_removeWire (fun _ _ hs h => hs.trans h) hN w
  rw [run_removeSelected, hnone, List.mapM_nil]
  refine Meets.bind (keeps_mapM hwire) (fun gone => ?_) t ht
  exact fun t ht => .inl ⟨_, t, rfl, rfl, ht⟩

/-- Announce how many links were removed, and the diagram that is left. -/
def reportLinks (removed : Removed) : Edit Removed := do
  if removed.links ≠ 0 then
    announce (.linksRemoved removed.links)
    status ("Удалено соединений: " ++ toString removed.links)
  if removed.blocks ≠ 0 ∨ removed.links ≠ 0 then announceDiagram
  return removed

/-- Announce what was removed, the blocks first. -/
def report (removed : Removed) : Edit Removed := do
  if removed.blocks ≠ 0 then
    announce (.blocksRemoved removed.blocks)
    status ("Удалено блоков: " ++ toString removed.blocks)
    reportLinks removed
  else reportLinks removed

/-- Deleting is removing and then reporting. -/
theorem deleteSelected_eq : deleteSelected = removeSelected >>= report := rfl

/-- Reporting links makes plain announcements only. -/
theorem meets_reportLinks {P E : Session → Prop}
    (hannounce : ∀ n : Notice, n.plain = true → Meets P (announce n) (fun _ => P) E)
    (removed : Removed) :
    Meets P (reportLinks removed) (fun _ => P) E := by
  have hdiagram : Meets P announceDiagram (fun _ => P) E :=
    fun t ht => hannounce (.changed _) rfl t ht
  have hlast : Meets P
      (if removed.blocks ≠ 0 ∨ removed.links ≠ 0 then do announceDiagram; return removed
      else return removed) (fun _ => P) E := by
    split
    · exact hdiagram.bind fun _ => meets_pure removed
    · exact meets_pure removed
  unfold reportLinks
  dsimp only
  split
  · exact (hannounce _ rfl).bind fun _ => (hannounce _ rfl).bind fun _ => hlast
  · exact hlast

/-- Plain announcements may follow once the removal of blocks was announced. -/
theorem shrunk_announce {E : Session → Prop} {n : Notice} (hn : n.plain = true) :
    Meets (Shrunk c) (announce n) (fun _ => Shrunk c) E := by
  refine meets_modify fun t ht => ?_
  obtain ⟨hcatalog, before, count, rest, hlog, hcount, hbefore, hrest⟩ := ht
  refine ⟨hcatalog, before, count, rest ++ [(n, t.scene)], ?_, hcount, hbefore, fun a ha => ?_⟩
  · simp [hlog]
  · rcases List.mem_append.mp ha with hold | hnew
    · exact hrest a hold
    · rw [List.mem_singleton.mp hnew]
      exact ⟨hn, rfl⟩

/-- Blocks that were removed are announced before anything else is. -/
theorem meets_report {E : Session → Prop} {removed : Removed} (h : removed.blocks ≠ 0) :
    Meets (Muted c) (report removed) (fun _ => Shrunk c) E := by
  have hfirst : Meets (Muted c) (announce (.blocksRemoved removed.blocks)) (fun _ => Shrunk c) E :=
    meets_modify fun t ht =>
      ⟨ht.1, t.log, removed.blocks, [], rfl, h, ht.2, fun _ ha => absurd ha List.not_mem_nil⟩
  rw [report, if_pos h]
  refine hfirst.bind fun _ => (shrunk_announce rfl).bind fun _ => ?_
  exact meets_reportLinks (fun n hn => shrunk_announce hn) removed

/-- Without a block among what is selected, the number of blocks stays. -/
theorem meets_deleteSelected_of_none :
    Meets (fun t => t.Steady v (fun n => n.asks = false) ∧ t.scene.chosenCards = [])
      deleteSelected (fun _ => Steady v fun n => n.asks = false)
      (Steady v fun n => n.asks = false) := by
  rw [deleteSelected_eq]
  refine Meets.bind (meets_removeSelected_of_none rfl) fun removed => ?_
  rintro t ⟨hzero, ht⟩
  rw [report, if_neg (not_not_intro hzero)]
  refine meets_reportLinks (fun n hn => logs_announce ?_) removed t ht
  exact Notice.asks_of_plain hn

/-- Else the blocks go, and that is announced. -/
theorem meets_deleteSelected_of_some {E : Session → Prop} :
    Meets (fun t => Muted c t ∧ t.scene.chosenCards ≠ []) deleteSelected (fun _ => Shrunk c) E := by
  rintro t ⟨ht, hsome⟩
  obtain ⟨links, hends⟩ := ends_removeSelected t.scene
  obtain ⟨log, hrun⟩ := hends t.log
  have hmuted := keeps_removeSelected.run ht
  rw [hrun] at hmuted
  rw [deleteSelected_eq, run_of_ok hrun]
  exact meets_report (fun h => hsome (List.length_eq_zero_iff.mp h)) _ hmuted

/-- A deletion either leaves the number of blocks and asks for nothing, or removes blocks and says
so. -/
theorem meets_deleteSelected :
    Meets (Steady v fun n => n.mute) deleteSelected
      (fun _ t => t.Steady v (fun n => n.asks = false) ∨ Shrunk v.1 t) (Told v) := by
  intro t ht
  by_cases hnone : t.scene.chosenCards = []
  · have hunasked : t.Steady v fun n => n.asks = false :=
      ht.mono (fun _ hs => hs) fun _ => Notice.asks_of_mute
    exact (meets_deleteSelected_of_none.mono (fun _ h => h) (fun _ _ h => .inl h)
      fun _ h => h.told) t
      ⟨hunasked, hnone⟩
  · have hmuted : t.Muted v.1 := ht.mono (fun _ hs => congrArg Prod.fst hs) fun _ hn => hn
    exact (meets_deleteSelected_of_some.post fun _ _ h => .inr h) t ⟨hmuted, hnone⟩

/-- A deletion asks for no properties. -/
theorem unasked_deleteSelected :
    Meets (Steady v fun n => n.mute) deleteSelected (fun _ t => ∀ a ∈ t.log, a.1.asks = false)
      (fun _ => True) :=
  meets_deleteSelected.mono (fun _ h => h)
    (fun _ _ h => h.elim (fun h a ha => (h.2 a ha).1) Shrunk.unasked) fun _ _ => trivial

/-- A deletion leaves the number of blocks or announces that there are fewer. -/
theorem thinned_deleteSelected :
    Meets (Steady v fun n => n.mute) deleteSelected (fun _ => Thinned v) (Told v) :=
  meets_deleteSelected.post fun _ _ h => h.imp_left Logs.told

/-! ## menus -/

/-- What is announced at the end is announced in the scene that is left. -/
theorem shrinks_announce {E : Session → Prop} {n : Notice} (hn : n.plain = true) :
    Meets (fun t => t.Thinned v) (announce n) (fun _ t => t.Thinned v) E := by
  rintro t (ht | ht)
  · exact ((logs_announce trivial).post fun _ _ h => .inl h) t ht
  · exact ((shrunk_announce hn).post fun _ _ h => .inr h) t ht

/-- So does the menu, which may delete the selection. -/
theorem meets_openMenu (choice : Option Text) :
    Meets (Steady v fun n => n.mute) (openMenu choice)
      (fun _ t => t.Thinned v) (Told v) := by
  have hnothing : Meets (Steady v fun n => n.mute) (pure false : Edit Bool)
      (fun _ t => t.Thinned v) (Told v) := fun t ht => .inl ⟨_, t, rfl, .inl ht.told⟩
  have hdelete : Meets (Steady v fun n => n.mute)
      (do return (← deleteSelected).any) (fun _ t => t.Thinned v) (Told v) :=
    thinned_deleteSelected.bind fun _ => meets_pure _
  have hproperties (h : Nat) : Meets (Steady v fun n => n.mute)
      (do announce (.properties h ((← scene).card h).node.uid); return true : Edit Bool)
      (fun _ t => t.Thinned v) (Told v) := by
    refine Meets.mono (P := Told v) (Q := fun _ => Told v) ?_ (fun _ => Logs.told)
      (fun _ _ h => .inl h)
      fun _ h => h
    exact keeps_scene.bind fun _ => Meets.bind (logs_announce trivial) fun _ => keeps_pure _
  refine meets_scene.bind fun s => .ite hnothing (Meets.bind (logs_announce rfl) fun _ => ?_)
  split
  · exact .ite (hproperties _) (.ite hdelete hnothing)
  · exact .ite hdelete hnothing

/-- The menu of the scene may delete. -/
theorem meets_menu (choice : Option Text) :
    Meets (Steady v fun n => n.mute) (menu choice)
      (fun _ t => t.Thinned v) (Told v) := by
  refine Meets.bind (meets_openMenu choice) fun handled => .ite (meets_pure _) ?_
  exact Meets.bind (shrinks_announce rfl) fun _ => meets_pure _

theorem meets_menuOn (choice : Option Text) (target : Target) :
    Meets (Steady v fun n => n.mute) (menuOn choice target)
      (fun _ t => t.Thinned v) (Told v) := by
  have hpass : Meets (Steady v fun n => n.mute) (passOn "contextMenuEvent")
      (fun _ t => t.Thinned v) (Told v) := by
    refine Meets.mono (P := Told v) (Q := fun _ => Told v) ?_ (fun _ => Logs.told)
      (fun _ _ h => .inl h)
      fun _ h => h
    exact keeps_passOn (undisturbed_told v) _
  have hmark (t : Session) (item : Item) (on : Bool)
      (ht : t.Steady v fun n => n.mute) :
      Steady v (fun n => n.mute) { t with scene := t.scene.mark item on } := by
    cases item <;> exact ht
  have hchanged : Keeps (Steady v fun n => n.mute) (announce .selectionChanged) :=
    logs_announce rfl
  have hclear : Meets (Steady v fun n => n.mute) clearSelection (fun _ => Steady v fun n => n.mute)
      (Told v) :=
    (keeps_clearSelection hmark hchanged).fail fun _ => Logs.told
  unfold menuOn
  split
  · exact hpass
  · refine (meets_isThere _).bind fun there => .ite (meets_scene.bind fun s => ?_) hpass
    refine .ite (hclear.bind fun _ => ?_) (meets_menu choice)
    exact ((keeps_select hmark hchanged _ _).fail fun _ => Logs.told).bind fun _ =>
      meets_menu choice
  · exact (meets_isThere _).bind fun there => .ite (hclear.bind fun _ => meets_menu choice) hpass

end Deleting

/-! ## adding -/

section Adding

variable {v : Catalog × Nat} {c : Catalog}

/-- What is looked up is what the scene says. -/
theorem meets_look {α : Type} {P : Session → Prop} (g : Scene → Outcome α) :
    Meets P (look g) (fun a t => g t.scene = .ok a ∧ P t) P := by
  intro t ht
  rw [run_look]
  cases hg : g t.scene with
  | ok a => exact .inl ⟨a, t, rfl, hg, ht⟩
  | error fault => exact .inr ⟨fault, t, rfl, ht⟩

/-- Making a card announces nothing, and the type of the card has a title. -/
theorem meets_makeCard (n : Node) :
    Meets (Silent v) (makeCard n)
      (fun h t => t.log = [] ∧ t.scene.catalog = v.1 ∧ v.1.Titled (t.scene.card h).node.type)
        (Silent v) := by
  refine Meets.bind (meets_look fun s => cardFor s.catalog n) fun card => ?_
  rintro t ⟨hcard, hlog, htally⟩
  have hcatalog : t.scene.catalog = v.1 := congrArg Prod.fst htally
  refine .inl ⟨t.scene.cards.length, { t with scene := t.scene.addCard card }, rfl, hlog,
    hcatalog, ?_⟩
  dsimp only
  rw [Scene.card_addCard_self, ← hcatalog]
  exact titled_of_cardFor hcard

/-- Anything may be announced once the new block was. -/
theorem grown_announce {E : Session → Prop} (n : Notice) :
    Meets (Grown c) (announce n) (fun _ => Grown c) E := by
  refine meets_modify fun t ht => ?_
  obtain ⟨hcatalog, b, rest, hlog, htitled, hrest⟩ := ht
  refine ⟨hcatalog, b, rest ++ [(n, t.scene)], ?_, htitled, fun a ha => ?_⟩
  · simp [hlog]
  · rcases List.mem_append.mp ha with hold | hnew
    · exact hrest a hold
    · rw [List.mem_singleton.mp hnew]

/-- A block whose card is put up is announced at once. -/
theorem meets_addNode (n : Node) :
    Meets (Silent v) (do
      let h ← makeCard n
      announce (.blockAdded ((← scene).card h).node)
      announceDiagram
      status ("Добавлен блок: " ++ (← look fun s => s.catalog.title n.type))
      return h) (fun _ => Grown v.1) (Swollen v) := by
  have hlook (g : Scene → Outcome Text) :
      Meets (Grown v.1) (look g) (fun _ => Grown v.1) (Swollen v) :=
    (keeps_look g).fail fun _ => .inr
  have hdiagram : Meets (Grown v.1) announceDiagram (fun _ => Grown v.1) (Swollen v) :=
    meets_scene.bind fun _ => grown_announce _
  refine Meets.bind ((meets_makeCard n).fail fun _ => .inl) fun h => ?_
  rintro t ⟨hlog, hcatalog, htitled⟩
  -- the scene that is looked up is the one in which the card was put up
  have hscene : scene.run t = (.ok t.scene, t) := rfl
  rw [run_of_ok hscene]
  have hfirst : Meets (fun u => u = t) (announce (.blockAdded (t.scene.card h).node))
      (fun _ => Grown v.1)
      (Swollen v) := by
    refine meets_modify ?_
    rintro u rfl
    exact ⟨hcatalog, _, [], by simp [hlog], htitled, fun _ ha => absurd ha List.not_mem_nil⟩
  refine Meets.bind hfirst (fun _ => hdiagram.bind fun _ => (hlook _).bind fun title => ?_) t rfl
  exact (grown_announce _).bind fun _ => meets_pure h

/-- A block that is added is announced first, also where what is said of it later fails. -/
theorem meets_add (type : Value) (p : Point) (uid : Text) (given : Fields) :
    Meets (Silent v) (add type p uid given) (fun _ => Grown v.1) (Swollen v) := by
  have hfresh : Meets (Silent v) freshUid (fun _ => Silent v) (Swollen v) :=
    fun t ht => .inl ⟨_, _, rfl, ht⟩
  refine Meets.bind ((keeps_look _).fail fun _ => .inl) fun fs => ?_
  exact .ite (hfresh.bind fun uid => meets_addNode _)
    (Meets.bind (meets_pure uid) fun uid => meets_addNode _)

/-- Either way nothing was announced, or a block was added. -/
theorem swollen_add (type : Value) (p : Point) (uid : Text) (given : Fields) :
    Meets (Silent v) (add type p uid given) (fun _ => Swollen v) (Swollen v) :=
  (meets_add type p uid given).post fun _ _ => .inr

/-- So is a block that is dropped. -/
theorem meets_drop (payload : Option Payload) (p : Point) :
    Meets (Silent v) (drop payload p) (fun _ => Swollen v) (Swollen v) := by
  refine meets_scene.bind fun s => .ite ?_ fun t ht => .inl ⟨_, t, rfl, .inl ht⟩
  refine Meets.bind ((keeps_ofExcept _).fail fun _ => .inl) fun q => ?_
  exact (swollen_add _ q "" []).bind fun _ => meets_pure _

end Adding

/-! ## opening a diagram -/

/-- Opening a diagram announces the selection before the blocks go. -/
theorem meets_load {v : Catalog × Nat} (d : Diagram) :
    Meets (Steady v fun n => n.mute) (load d) (fun _ => Opened v) (Opened v) := by
  have hopened {t : Session} (ht : t.Steady v fun n => n.mute) : t.Opened v :=
    ⟨congrArg Prod.fst ht.1, fun a ha => ⟨(ht.2 a ha).1, .inl (ht.2 a ha).2⟩⟩
  have hchange {g : Scene → Scene} (hg : ∀ s, (g s).catalog = s.catalog) :
      Keeps (Opened v) (change g) :=
    keeps_change fun t ht => ⟨(hg t.scene).trans ht.1, ht.2⟩
  have hmake (n : Node) : Keeps (Opened v) (makeCard n) := by
    refine (keeps_look _).bind fun card => keeps_scene.bind fun s => ?_
    exact (hchange (g := fun s => s.addCard card) fun _ => rfl).bind fun _ => keeps_pure _
  have hstatus (text : Text) (time : Nat) : Keeps (Opened v) (announce (.status text time)) := by
    refine keeps_modify fun t ht => ⟨ht.1, fun a ha => ?_⟩
    rcases List.mem_append.mp ha with hold | hnew
    · exact ht.2 a hold
    · rw [List.mem_singleton.mp hnew]
      exact ⟨rfl, .inr rfl⟩
  have hrestore (l : Link) : Keeps (Opened v) (restoreLink l) := by
    refine keeps_scene.bind fun s => ?_
    dsimp only
    split
    · exact hchange fun _ => rfl
    · exact (hstatus _ _).bind fun _ => hchange fun _ => rfl
  have hbuild : Meets (Steady v fun n => n.mute) (do
      change fun s => { s with byUid := [], byKey := [], links := d.links }
      d.nodes.forM fun n => do let _ ← makeCard n
      d.links.forM restoreLink) (fun _ => Opened v) (Opened v) := by
    refine Meets.mono (P := Opened v) (Q := fun _ => Opened v) ?_ (fun _ => hopened)
      (fun _ _ h => h)
      fun _ h => h
    refine Keeps.bind (hchange fun _ => ?_) fun _ => ?_
    · rfl
    exact (keeps_forM fun n _ => (hmake n).discard).bind fun _ => keeps_forM fun l _ => hrestore l
  have hcancel : Keeps (Steady v fun n => n.mute) cancelPreview :=
    logs_cancelPreview (fun _ _ hs h => hs.trans h) rfl
  refine (hcancel.fail fun _ => hopened).bind fun _ => meets_scene.bind fun s => ?_
  refine Meets.bind ((logs_change fun s hs => ?_).fail fun _ => hopened) fun _ => ?_
  · exact hs
  · exact .ite (Meets.bind (logs_announce rfl) fun _ => hbuild) hbuild

end Edit

end BlockSketch.Canvas
