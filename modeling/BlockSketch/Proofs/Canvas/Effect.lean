import BlockSketch.Canvas.Event

/-!
# BlockSketch.Proofs.Canvas.Effect

What edits do to the scene.  `Edit.Ends e s o s'` says that the edit `e`, begun in
the scene `s`, ends with the outcome `o` in the scene `s'`; announcements are left
out, since no edit reads them back.  For every edit of `BlockSketch.Canvas.Edit`
there is a function on scenes beside it, and one lemma that the edit ends in the
scene the function gives:

* `ends_cancelPreview`, `ends_beginWire`, `leadsTo_completeWire` — drawing a wire;
* `leadsTo_add` — adding a block;
* `ends_deleteSelected` — deleting;
* `ends_load` — opening a diagram, which stops at the first block that has no card.
-/

namespace BlockSketch.Canvas

/-! ## scenes after a step -/

namespace Scene

def withoutPreview (s : Scene) : Scene :=
  { (match s.drawn with
      | some w => s.takeOut (.wire w)
      | none => s) with drawn := none, drawnFrom := none }

/-- The scene in which a wire is being drawn from a port; nothing is drawn from an input. -/
def begun (s : Scene) (r : PortRef) : Scene :=
  match r.side with
  | .input => s
  | .output =>
    let s := s.withoutPreview
    { s.addWire { start := r, loose := s.anchor r, selectable := false } with
      drawn := some s.wires.length
      drawnFrom := some r }

def linked (s : Scene) (start finish : PortRef) : Scene :=
  let l := Edit.linkBetween s start finish
  let s := s.withoutPreview
  { s.joinPorts l start finish with links := s.links ++ [l] }

/-- The scene after the wire that is being drawn was ended at a port. -/
def completed (s : Scene) (finish : PortRef) : Scene :=
  match s.preview with
  | none => s
  | some p =>
    match Edit.refusal? s p.start finish with
    | some why => if why ≠ .notInput then s.withoutPreview else s
    | none => s.linked p.start finish

/-- The scene after a button went up at a place. -/
def released (s : Scene) (left : Bool) (p : Point) : Scene :=
  if s.drawn.isSome && left then
    match (s.portsNear p).find? fun r => r.side = .input with
    | some r => s.completed r
    | none => s.withoutPreview
  else s

/-- The scene without a wire and its link; a wire that shows no link stays. -/
def withoutWire (s : Scene) (h : Nat) : Scene :=
  match (s.wire h).link with
  | none => s
  | some l =>
    let s := s.detach h
    (({ s with
        byKey := Assoc.erase s.byKey l.key
        links := s.links.filter fun other => other ≠ l }).tell (.link l.key)).takeOut (.wire h)

def touching (s : Scene) (uid : Text) : List Nat :=
  s.byKey.values.filter fun h => ((s.wire h).link.map fun l => l.touches uid) == some true

def withoutCard (s : Scene) (h : Nat) : Scene :=
  (({ s with
      links := s.links.filter fun l => !l.touches (s.card h).node.uid
      byUid := Assoc.erase s.byUid (s.card h).node.uid }).tell (.block (s.card h).node.uid)).takeOut
    (.card h)

/-- The scene without a card and the wires of the links that touch its block. -/
def withoutBlock (s : Scene) (h : Nat) : Scene :=
  ((s.touching (s.card h).node.uid).foldl withoutWire s).withoutCard h

def chosenWires (s : Scene) : List Nat :=
  s.selection.filterMap fun | .wire h => some h | .card _ => none

def chosenCards (s : Scene) : List Nat :=
  s.selection.filterMap fun | .card h => some h | .wire _ => none

def withoutSelected (s : Scene) : Scene :=
  s.chosenCards.foldl withoutBlock (s.chosenWires.foldl withoutWire s)

/-- The scene in which nothing of a diagram is shown yet but its links are known. -/
def cleared (s : Scene) (links : List Link) : Scene :=
  { s.withoutPreview with items := [], byUid := [], byKey := [], links }

/-- The scene with the cards of blocks, up to the first block that has none. -/
def withCards (s : Scene) : List Node → Scene
  | [] => s
  | n :: rest =>
    match Edit.cardFor s.catalog n with
    | .ok c => (s.addCard c).withCards rest
    | .error _ => s

/-- The port that an end of a link names. -/
def portAt? (s : Scene) (uid name : Text) (side : Side) : Option PortRef :=
  (Assoc.get? s.byUid uid).bind fun h => s.portOn? h side name

/-- The scene with the wire of a link, or without the link when a port of it is missing. -/
def restored (s : Scene) (l : Link) : Scene :=
  match s.portAt? l.fromUid l.fromPort .output, s.portAt? l.toUid l.toPort .input with
  | some start, some finish => s.joinPorts l start finish
  | _, _ => { s with links := s.links.filter fun other => other ≠ l }

def showsAll (s : Scene) (d : Diagram) : Bool :=
  d.nodes.all fun n => (Edit.cardFor s.catalog n).isOk

/-- The scene after a diagram was opened in it.  When a block has no card, the links are not
looked at. -/
def loaded (s : Scene) (d : Diagram) : Scene :=
  let t := (s.cleared d.links).withCards d.nodes
  if s.showsAll d then d.links.foldl restored t else t

def nextUid (s : Scene) : Text := "uuid-" ++ toString (s.minted + 1)

/-- The identifier of a block to be added, and the scene in which it was given out. -/
def withUid (s : Scene) (uid : Text) : Text × Scene :=
  if uid.isEmpty then (s.nextUid, { s with minted := s.minted + 1 }) else (uid, s)

def added (s : Scene) (type : Value) (p : Point) (uid : Text) (given : Fields) : Scene :=
  match s.catalog.entry type with
  | .error _ => s
  | .ok fs =>
    let (uid, s) := s.withUid uid
    s.withCards [{ uid, type, x := p.x, y := p.y, params := Edit.startValues fs given }]

/-- The scene after an item was selected or not. -/
def chosen (s : Scene) (item : Item) (on : Bool) : Scene :=
  if s.canSelect item && s.isSelected item != on then s.mark item on else s

end Scene

namespace Edit

/-! ## how an edit ends -/

/-- The edit `e`, begun in the scene `s`, ends with the outcome `o` in the scene `s'`, whatever was
announced before. -/
def Ends {α : Type} (e : Edit α) (s : Scene) (o : Outcome α) (s' : Scene) : Prop :=
  ∀ log, ∃ log', e.run ⟨s, log⟩ = (o, ⟨s', log'⟩)

/-- The edit `e`, begun in the scene `s`, ends in the scene `s'`, by a fault or not. -/
def LeadsTo {α : Type} (e : Edit α) (s s' : Scene) : Prop := ∃ o, Ends e s o s'

theorem Ends.leadsTo {α : Type} {e : Edit α} {s s' : Scene} {o : Outcome α} (he : Ends e s o s') :
    LeadsTo e s s' := ⟨o, he⟩

section Rules

variable {α β : Type} {e : Edit α} {f : α → Edit β} {s s' s'' : Scene} {o : Outcome β} {a : α}

/-- Two edits in a row: the second starts where the first ended. -/
theorem Ends.bind (he : Ends e s (.ok a) s') (hf : Ends (f a) s' o s'') :
    Ends (e >>= f) s o s'' := by
  intro log
  obtain ⟨log', h'⟩ := he log
  obtain ⟨log'', h''⟩ := hf log'
  refine ⟨log'', ?_⟩
  change (ExceptT.bindCont f (e.run ⟨s, log⟩).1).run (e.run ⟨s, log⟩).2 = _
  rw [h']
  exact h''

/-- A failure of the first of two edits is one of both, and leaves what the first had done. -/
theorem Ends.bind_error {fault : Fault} (he : Ends e s (.error fault) s') :
    Ends (e >>= f) s (.error fault) s' := by
  intro log
  obtain ⟨log', h'⟩ := he log
  refine ⟨log', ?_⟩
  change (ExceptT.bindCont f (e.run ⟨s, log⟩).1).run (e.run ⟨s, log⟩).2 = _
  rw [h']
  rfl

/-- Where the second of two edits only has its scene known, so has the row. -/
theorem Ends.bind_leadsTo (he : Ends e s (.ok a) s') (hf : LeadsTo (f a) s' s'') :
    LeadsTo (e >>= f) s s'' := by
  obtain ⟨o, ho⟩ := hf
  exact ⟨o, he.bind ho⟩

theorem ends_pure (a : α) (s : Scene) : Ends (pure a) s (.ok a) s := fun log => ⟨log, rfl⟩

theorem ends_scene (s : Scene) : Ends scene s (.ok s) s := fun log => ⟨log, rfl⟩

/-- A change ends in the changed scene. -/
theorem ends_change (g : Scene → Scene) (s : Scene) : Ends (change g) s (.ok ()) (g s) :=
  fun log => ⟨log, rfl⟩

theorem ends_announce (n : Notice) (s : Scene) : Ends (announce n) s (.ok ()) s :=
  fun log => ⟨log ++ [(n, s)], rfl⟩

theorem ends_ofOutcome (r : Outcome α) (s : Scene) : Ends (ofOutcome r) s r s := by
  cases r <;> exact fun log => ⟨log, rfl⟩

/-- Looking something up changes nothing, whether it fails or not. -/
theorem ends_look (g : Scene → Outcome α) (s : Scene) : Ends (look g) s (g s) s :=
  (ends_scene s).bind (ends_ofOutcome (g s) s)

/-- A look at the scene may stop the edit, but not change the scene. -/
theorem leadsTo_look (g : Scene → Outcome α) (hf : ∀ a, LeadsTo (f a) s s) :
    LeadsTo (look g >>= f) s s := by
  have hg := ends_look g s
  cases hr : g s with
  | error fault =>
    rw [hr] at hg
    exact hg.bind_error.leadsTo
  | ok a =>
    rw [hr] at hg
    exact hg.bind_leadsTo (hf a)

theorem ends_status (text : Text) (s : Scene) : Ends (status text) s (.ok ()) s :=
  ends_announce _ s

theorem ends_announceDiagram (s : Scene) : Ends announceDiagram s (.ok ()) s :=
  (ends_scene s).bind (ends_announce _ s)

end Rules

/-- Edits that always succeed, one for each item of a list, follow one another. -/
theorem ends_mapM {α β : Type} {f : α → Edit β} {next : Scene → α → Scene}
    (hf : ∀ s a, ∃ b, Ends (f a) s (.ok b) (next s a)) (as : List α) (s : Scene) :
    ∃ bs, Ends (as.mapM f) s (.ok bs) (as.foldl next s) := by
  induction as generalizing s with
  | nil => exact ⟨[], by rw [List.mapM_nil]; exact ends_pure [] s⟩
  | cons a as ih =>
    obtain ⟨b, hb⟩ := hf s a
    obtain ⟨bs, hbs⟩ := ih (next s a)
    refine ⟨b :: bs, ?_⟩
    rw [List.mapM_cons]
    exact hb.bind (hbs.bind (ends_pure _ _))

/-! ## selecting and drawing -/

/-- Taking an item out ends in the scene without it. -/
theorem ends_takeOut (item : Item) (s : Scene) :
    Ends (takeOut item) s (.ok ()) (s.takeOut item) := by
  refine (ends_scene s).bind ((ends_change _ s).bind ?_)
  split
  · exact ends_announce _ _
  · exact ends_pure _ _

/-- Selecting ends in the scene with the item marked. -/
theorem ends_select (item : Item) (on : Bool) (s : Scene) :
    Ends (select item on) s (.ok ()) (s.chosen item on) := by
  refine (ends_scene s).bind ?_
  rw [Scene.chosen]
  split
  · exact (ends_change _ s).bind (ends_announce _ _)
  · exact ends_pure _ _

/-- Cancelling gives up the wire that is being drawn. -/
theorem ends_cancelPreview (s : Scene) : Ends cancelPreview s (.ok ()) s.withoutPreview := by
  refine (ends_scene s).bind ?_
  rw [Scene.withoutPreview]
  cases s.drawn with
  | none => exact ends_change _ s
  | some w => exact (ends_takeOut _ s).bind (ends_change _ _)

/-- Beginning a wire at a port never fails. -/
theorem ends_beginWire (r : PortRef) (s : Scene) : Ends (beginWire r) s (.ok ()) (s.begun r) := by
  unfold beginWire Scene.begun
  cases r.side with
  | input =>
    refine (ends_scene s).bind ?_
    split
    · exact ends_status _ s
    · exact ends_status _ s
  | output => exact (ends_cancelPreview s).bind ((ends_change _ _).bind (ends_status _ _))

/-- A wire that is ended may still meet a type without a title, after the link was made. -/
theorem leadsTo_completeWire (finish : PortRef) (s : Scene) :
    LeadsTo (completeWire finish) s (s.completed finish) := by
  refine (ends_scene s).bind_leadsTo ?_
  unfold Scene.completed
  cases s.preview with
  | none => exact (ends_pure _ s).leadsTo
  | some p =>
    dsimp only
    cases refusal? s p.start finish with
    | some why =>
      refine (ends_status _ s).bind_leadsTo ?_
      dsimp only
      split
      · exact (ends_cancelPreview s).leadsTo
      · exact (ends_pure _ s).leadsTo
    | none =>
      refine (ends_cancelPreview s).bind_leadsTo ((ends_change _ _).bind_leadsTo ?_)
      refine leadsTo_look _ fun titleFrom => leadsTo_look _ fun titleTo => ?_
      exact ((ends_announce _ _).bind ((ends_announceDiagram _).bind (ends_status _ _))).leadsTo

/-- A button that goes up ends the wire at an input nearby, or gives it up. -/
theorem leadsTo_releaseAt (left : Bool) (p : Point) (s : Scene) :
    LeadsTo (releaseAt left p) s (s.released left p) := by
  refine (ends_scene s).bind_leadsTo ?_
  unfold Scene.released
  split
  · cases (s.portsNear p).find? fun r => r.side = .input with
    | some r =>
      obtain ⟨o, ho⟩ := leadsTo_completeWire r s
      cases o with
      | error fault => exact ho.bind_error.leadsTo
      | ok u => exact (ho.bind (ends_pure Verdict.accepted _)).leadsTo
    | none =>
      refine (ends_status _ s).bind_leadsTo ((ends_cancelPreview s).bind_leadsTo ?_)
      exact (ends_pure Verdict.accepted _).leadsTo
  · exact ((ends_announce _ s).bind (ends_pure Verdict.none s)).leadsTo

/-! ## deleting -/

/-- Removing a wire never fails. -/
theorem ends_removeWire (h : Nat) (s : Scene) :
    ∃ b, Ends (removeWire h) s (.ok b) (s.withoutWire h) := by
  unfold Scene.withoutWire
  cases hl : (s.wire h).link with
  | none =>
    refine ⟨false, (ends_scene s).bind ?_⟩
    rw [hl]
    exact ends_pure _ s
  | some l =>
    refine ⟨true, (ends_scene s).bind ?_⟩
    rw [hl]
    exact (ends_change _ s).bind ((ends_takeOut _ _).bind (ends_pure _ _))

/-- Removing the wires of a block removes them one after the other. -/
theorem ends_removeWiresOf (uid : Text) (s : Scene) :
    ∃ n, Ends (removeWiresOf uid) s (.ok n) ((s.touching uid).foldl Scene.withoutWire s) := by
  obtain ⟨removed, hr⟩ := ends_mapM (fun s h => ends_removeWire h s) (s.touching uid) s
  exact ⟨removed.countP id, (ends_scene s).bind (hr.bind (ends_pure _ _))⟩

theorem ends_removeCard (h : Nat) (s : Scene) : Ends (removeCard h) s (.ok ()) (s.withoutCard h) :=
  (ends_scene s).bind ((ends_change _ s).bind (ends_takeOut _ _))

/-- Removing the selection never fails, and tells the number of selected cards. -/
theorem ends_removeSelected (s : Scene) :
    ∃ links, Ends removeSelected s (.ok ⟨s.chosenCards.length, links⟩) s.withoutSelected := by
  have hblock (s : Scene) (h : Nat) : ∃ n, Ends (do
      let count ← removeWiresOf ((← scene).card h).node.uid
      removeCard h
      return count) s (.ok n) (s.withoutBlock h) := by
    obtain ⟨n, hn⟩ := ends_removeWiresOf (s.card h).node.uid s
    exact ⟨n, (ends_scene s).bind (hn.bind ((ends_removeCard h _).bind (ends_pure _ _)))⟩
  obtain ⟨gone, hgone⟩ := ends_mapM (fun s h => ends_removeWire h s) s.chosenWires s
  obtain ⟨counts, hcounts⟩ :=
    ends_mapM hblock s.chosenCards (s.chosenWires.foldl Scene.withoutWire s)
  exact ⟨_, (ends_scene s).bind (hgone.bind (hcounts.bind (ends_pure _ _)))⟩

theorem ends_deleteSelected (s : Scene) :
    ∃ r, Ends deleteSelected s (.ok r) s.withoutSelected := by
  obtain ⟨links, hr⟩ := ends_removeSelected s
  generalize (⟨s.chosenCards.length, links⟩ : Removed) = removed at hr
  have hlast : Ends
      (if removed.blocks ≠ 0 ∨ removed.links ≠ 0 then do announceDiagram; return removed
      else return removed) s.withoutSelected (.ok removed) s.withoutSelected := by
    split
    · exact (ends_announceDiagram _).bind (ends_pure _ _)
    · exact ends_pure _ _
  refine ⟨removed, hr.bind ?_⟩
  dsimp only
  split <;> split
  · exact (ends_announce _ _).bind ((ends_status _ _).bind
      ((ends_announce _ _).bind ((ends_status _ _).bind hlast)))
  · exact (ends_announce _ _).bind ((ends_status _ _).bind hlast)
  · exact (ends_announce _ _).bind ((ends_status _ _).bind hlast)
  · exact hlast

/-! ## adding and opening -/

/-- A card that can be made gets the next number. -/
theorem ends_makeCard_ok {n : Node} {c : Card} {s : Scene} (hc : cardFor s.catalog n = .ok c) :
    Ends (makeCard n) s (.ok s.cards.length) (s.addCard c) := by
  have hlook := ends_look (fun s => cardFor s.catalog n) s
  rw [hc] at hlook
  exact hlook.bind ((ends_scene s).bind ((ends_change _ s).bind (ends_pure _ _)))

/-- A card that cannot be made fails before anything has changed. -/
theorem ends_makeCard_error {n : Node} {fault : Fault} {s : Scene}
    (hc : cardFor s.catalog n = .error fault) : Ends (makeCard n) s (.error fault) s := by
  have hlook := ends_look (fun s => cardFor s.catalog n) s
  rw [hc] at hlook
  exact hlook.bind_error

/-- Either way the scene is the one with the cards that can be made. -/
theorem leadsTo_makeCard (n : Node) (s : Scene) : LeadsTo (makeCard n) s (s.withCards [n]) := by
  unfold Scene.withCards
  cases hc : cardFor s.catalog n with
  | ok c => exact (ends_makeCard_ok hc).leadsTo
  | error fault => exact (ends_makeCard_error hc).leadsTo

/-- A fresh identifier is given out once. -/
theorem ends_freshUid (s : Scene) :
    Ends freshUid s (.ok s.nextUid) { s with minted := s.minted + 1 } :=
  (ends_scene s).bind ((ends_change _ s).bind (ends_pure _ _))

/-- Adding a block leads to the scene with it added, also where it fails. -/
theorem leadsTo_add (type : Value) (p : Point) (uid : Text) (given : Fields) (s : Scene) :
    LeadsTo (add type p uid given) s (s.added type p uid given) := by
  have hlook := ends_look (fun s => s.catalog.entry type) s
  unfold Scene.added
  cases he : s.catalog.entry type with
  | error fault =>
    rw [he] at hlook
    exact hlook.bind_error.leadsTo
  | ok fs =>
    rw [he] at hlook
    have hrest (n : Node) (s : Scene) : LeadsTo (do
        let h ← makeCard n
        announce (.blockAdded ((← scene).card h).node)
        announceDiagram
        status ("Добавлен блок: " ++ (← look fun s => s.catalog.title type))
        return h) s (s.withCards [n]) := by
      obtain ⟨o, ho⟩ := leadsTo_makeCard n s
      cases o with
      | error fault => exact ho.bind_error.leadsTo
      | ok h =>
        refine ho.bind_leadsTo ((ends_scene _).bind_leadsTo ?_)
        refine (ends_announce _ _).bind_leadsTo ((ends_announceDiagram _).bind_leadsTo ?_)
        exact leadsTo_look _ fun title => ((ends_status _ _).bind (ends_pure h _)).leadsTo
    refine hlook.bind_leadsTo ?_
    unfold Scene.withUid
    dsimp only
    split
    · exact (ends_freshUid s).bind_leadsTo (hrest _ _)
    · exact (ends_pure uid s).bind_leadsTo (hrest _ _)

/-- The cards of blocks are put up in order, up to the first block that has none. -/
theorem ends_makeCards (nodes : List Node) (s : Scene) :
    (nodes.all (fun n => (cardFor s.catalog n).isOk) = true →
      Ends (nodes.forM fun n => do let _ ← makeCard n) s (.ok ()) (s.withCards nodes)) ∧
    (nodes.all (fun n => (cardFor s.catalog n).isOk) = false →
      ∃ fault, Ends (nodes.forM fun n => do let _ ← makeCard n) s (.error fault)
        (s.withCards nodes)) := by
  induction nodes generalizing s with
  | nil => exact ⟨fun _ => ends_pure _ s, fun h => nomatch h⟩
  | cons n rest ih =>
    unfold Scene.withCards
    rw [List.forM_eq_forM, List.forM_cons]
    cases hc : cardFor s.catalog n with
    | error fault =>
      refine ⟨fun h => ?_, fun _ => ⟨fault, (ends_makeCard_error hc).bind_error.bind_error⟩⟩
      simp [hc, Except.isOk, Except.toBool] at h
    | ok c =>
      have hmake : Ends (do let _ ← makeCard n) s (.ok ()) (s.addCard c) :=
        (ends_makeCard_ok hc).bind (ends_pure PUnit.unit _)
      have htail := ih (s.addCard c)
      have hall : (n :: rest).all (fun n => (cardFor s.catalog n).isOk) =
          rest.all (fun n => (cardFor s.catalog n).isOk) := by
        simp [hc, Except.isOk, Except.toBool]
      rw [hall]
      refine ⟨fun h => hmake.bind (htail.1 h), fun h => ?_⟩
      obtain ⟨fault, hf⟩ := htail.2 h
      exact ⟨fault, hmake.bind hf⟩

theorem ends_restoreLink (l : Link) (s : Scene) :
    Ends (restoreLink l) s (.ok ()) (s.restored l) := by
  refine (ends_scene s).bind ?_
  unfold Scene.restored
  change Ends (match s.portAt? l.fromUid l.fromPort .output, s.portAt? l.toUid l.toPort .input with
    | some start, some finish => change fun s => s.joinPorts l start finish
    | _, _ => do
      announce (.status "Не удалось восстановить соединение при загрузке проекта" 6000)
      change fun s => { s with links := s.links.filter fun other => other ≠ l }) s _ _
  cases s.portAt? l.fromUid l.fromPort .output with
  | none => exact (ends_announce _ s).bind (ends_change _ s)
  | some start =>
    cases s.portAt? l.toUid l.toPort .input with
    | none => exact (ends_announce _ s).bind (ends_change _ s)
    | some finish => exact ends_change _ s

/-- Restoring links goes through them in order and never fails. -/
theorem ends_restoreLinks (links : List Link) (s : Scene) :
    Ends (links.forM restoreLink) s (.ok ()) (links.foldl Scene.restored s) := by
  induction links generalizing s with
  | nil => exact ends_pure _ s
  | cons l rest ih =>
    rw [List.forM_eq_forM, List.forM_cons]
    exact (ends_restoreLink l s).bind (ih _)

/-- The catalog stays what it was while a diagram is opened. -/
theorem catalog_cleared (s : Scene) (links : List Link) :
    (s.cleared links).catalog = s.catalog := by
  unfold Scene.cleared Scene.withoutPreview
  cases s.drawn <;> rfl

/-- Opening a diagram stops at the first block without a card, if there is one. -/
theorem ends_load (d : Diagram) (s : Scene) :
    (s.showsAll d = true → Ends (load d) s (.ok ()) (s.loaded d)) ∧
    (s.showsAll d = false → ∃ fault, Ends (load d) s (.error fault) (s.loaded d)) := by
  have hprepare {o : Outcome Unit} {s' : Scene}
      (hk : Ends (do
        d.nodes.forM fun n => do let _ ← makeCard n
        d.links.forM restoreLink) (s.cleared d.links) o s') : Ends (load d) s o s' := by
    refine (ends_cancelPreview s).bind ((ends_scene _).bind ((ends_change _ _).bind ?_))
    dsimp only
    split
    · exact (ends_announce _ _).bind ((ends_change _ _).bind hk)
    · exact (ends_change _ _).bind hk
  have hcards := ends_makeCards d.nodes (s.cleared d.links)
  rw [catalog_cleared] at hcards
  unfold Scene.loaded
  refine ⟨fun h => ?_, fun h => ?_⟩
  · rw [h]
    exact hprepare ((hcards.1 h).bind (ends_restoreLinks d.links _))
  · rw [h]
    obtain ⟨fault, hf⟩ := hcards.2 h
    exact ⟨fault, hprepare hf.bind_error⟩

theorem leadsTo_announceParams (h : Nat) (s : Scene) : LeadsTo (announceParams h) s s :=
  leadsTo_look _ fun _ => ((ends_announceDiagram s).bind (ends_status _ s)).leadsTo

end Edit

end BlockSketch.Canvas
