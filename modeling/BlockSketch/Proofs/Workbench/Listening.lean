import BlockSketch.Proofs.Canvas.Tally
import BlockSketch.Proofs.Sheet.Looking
import BlockSketch.Workbench.Basic

/-!
# BlockSketch.Proofs.Workbench.Listening

What listening to the scene leaves alone.  The workbench takes up an announcement in the status
line, the menus and the property sheet; of the scene, only the parameter values of a block that is
shown may change.  So an edit that makes its announcements at the end leaves the blocks that it
would leave without anybody listening.

* `Outline` — the blocks of a scene without their values and places;
* `Workbench.standing` — what a listener leaves alone, together with the label;
* `meets_hear`, `meets_hearOrStop` — one announcement;
* `run_perform`, `outline_edit` — an edit whose announcements are taken up.
-/

namespace BlockSketch

namespace Canvas

/-- The blocks of a scene without their values and places: the types of the cards, by number, what
is in the scene, and the card of each block. -/
structure Outline where
  types : List Value
  items : List Item
  byUid : Assoc Text Nat

namespace Scene

def outline (s : Scene) : Outline := ⟨s.cards.map fun c => c.node.type, s.items, s.byUid⟩

/-- A scene without the parameter values of its blocks. -/
def bare (s : Scene) : Scene :=
  { s with cards := s.cards.map fun c => { c with node := { c.node with params := [] } } }

theorem bare_withParams (s : Scene) (h : Nat) (values : Fields) :
    (s.withParams h values).bare = s.bare := by
  have hcards : (s.withParams h values).bare.cards = s.bare.cards := by
    refine List.ext_getElem? fun k => ?_
    simp only [bare, withParams, setCard, List.getElem?_map, List.getElem?_modify]
    cases s.cards[k]? with
    | none => rfl
    | some c => by_cases hk : h = k <;> simp [hk]
  exact congrArg (fun cards => { s with cards }) hcards

theorem bare_withParamsOf (s later : Scene) : (s.withParamsOf later).bare = s.bare := by
  have hcards : (s.withParamsOf later).bare.cards = s.bare.cards := by
    refine List.ext_getElem? fun k => ?_
    simp only [bare, withParamsOf, List.getElem?_map, List.getElem?_mapIdx]
    cases s.cards[k]? <;> rfl
  exact congrArg (fun cards => { s with cards }) hcards

theorem outline_bare (s : Scene) : s.bare.outline = s.outline := by simp [outline, bare]

/-- The outline does not depend on parameter values. -/
theorem outline_eq_of_bare {s t : Scene} (h : s.bare = t.bare) : s.outline = t.outline := by
  rw [← outline_bare s, h, outline_bare]

theorem selected_bare (s : Scene) (h : Nat) : (s.bare.card h).selected = (s.card h).selected := by
  simp only [card, bare, List.getD_eq_getElem?_getD, List.getElem?_map]
  cases s.cards[h]? <;> rfl

theorem chosenCards_bare (s : Scene) : s.bare.chosenCards = s.chosenCards := by
  have hselected : s.bare.isSelected = s.isSelected := by
    funext item
    cases item with
    | card h => exact s.selected_bare h
    | wire w => rfl
  unfold chosenCards selection
  rw [hselected]
  rfl

end Scene

/-- The edit `e`, begun in the scene `s`, leaves the given blocks.  They are there when it makes its
announcements, and it does not ask for properties. -/
def Edit.Leaves {α : Type} (e : Edit α) (s : Scene) (blocks : Outline) : Prop :=
  ∃ o s' log, e.run ⟨s, []⟩ = (o, ⟨s', log⟩) ∧ s'.outline = blocks ∧
    ∀ a ∈ log, a.2.outline = blocks ∧ ∀ h uid, a.1 ≠ .properties h uid

theorem Notice.asks_of_ne {n : Notice} (h : ∀ card uid, n ≠ .properties card uid) :
    n.asks = false := by
  cases n with
  | properties card uid => exact absurd rfl (h card uid)
  | _ => rfl

/-- Whether the label is shown anew when an announcement is taken up. -/
def Notice.relabels (c : Catalog) : Notice → Bool
  | .blockAdded b => (c.title b.type).isOk
  | .blocksRemoved count => count != 0
  | .changed _ => true
  | _ => false

end Canvas

variable [Platform]

namespace Workbench

open Canvas

/-- What a listener leaves alone, together with the label. -/
def standing (w : Workbench) : Workbench where
  inspector := { session := { scene := w.scene.bare } }
  catalog := w.catalog
  board := w.board
  port := w.port
  label := w.label

def relabelled (w : Workbench) (s : Scene) : Workbench := { w with label := w.labelFor s }

/-- An announcement was taken up, made at the given scene. -/
def heard (w : Workbench) (n : Notice) (s : Scene) : Workbench :=
  if n.relabels w.catalog then w.relabelled s else w

/-- Another scene is there, without the values of its blocks. -/
def showing (w : Workbench) (s : Scene) : Workbench :=
  { w with inspector := { session := { scene := s.bare } } }

/-- The workbench stands as before where scene, board, port and label do. -/
theorem standing_congr {w w' : Workbench} (hscene : w'.scene.bare = w.scene.bare)
    (hcatalog : w'.catalog = w.catalog) (hboard : w'.board = w.board) (hport : w'.port = w.port)
    (hlabel : w'.label = w.label) : w'.standing = w.standing := by
  simp only [standing, hscene, hcatalog, hboard, hport, hlabel]

theorem scene_heard (w : Workbench) (n : Notice) (s : Scene) : (w.heard n s).scene = w.scene := by
  unfold heard
  split <;> rfl

end Workbench

namespace Work

open Canvas Workbench

/-! ## steps that leave everything standing -/

/-- The workbench stands as the given one. -/
abbrev Stands (v w : Workbench) : Prop := w.standing = v

section Standing

variable {α : Type} {v : Workbench} {E : Workbench → Prop}

theorem meets_note (n : Note) : Meets (Stands v) (note n) (fun _ => Stands v) E :=
  meets_modify fun _ hw => hw

/-- Showing the label anew changes nothing but the label. -/
theorem meets_relabel (s : Scene) :
    Meets (Stands v) (relabel s) (fun _ => Stands (v.relabelled s)) E := by
  refine meets_modify ?_
  rintro w rfl
  rfl

theorem keeps_setVisible (d : Dock) (on : Bool) : Keeps (Stands v) (setVisible d on) :=
  keeps_modify fun _ hw => hw

theorem run_atSheet (e : Inspect α) (w : Workbench) :
    (atSheet e).run w = ((e.run w.inspector).1, { w with inspector := (e.run w.inspector).2 }) := by
  have hrun : (atSheet e).run w = (MonadExcept.ofExcept (e.run w.inspector).1 : Work α).run
      { w with inspector := (e.run w.inspector).2 } := rfl
  rw [hrun, run_ofExcept]

/-- What the sheet does to values only leaves the workbench standing. -/
theorem keeps_atSheet {e : Inspect α}
    (he : ∀ i : Inspector, (e.run i).2.session.scene.bare = i.session.scene.bare) :
    Keeps (Stands v) (atSheet e) := by
  refine keeps_of_run ?_
  rintro w rfl
  rw [run_atSheet]
  exact standing_congr (w := w) (he w.inspector) rfl rfl rfl rfl

end Standing

/-! ## taking up an announcement -/

section Hearing

variable {v : Workbench} {E : Workbench → Prop}

/-- A block that is shown may get other values, but it stays what it is. -/
theorem bare_shown (h : Nat) (i : Inspector) :
    ((Inspect.bind h).run i).2.session.scene.bare = i.session.scene.bare := by
  rcases Inspect.bind_cases i h with ⟨-, fault, sheet, hrun⟩ |
    ⟨entry, fields, values, sheet, -, -, -, -, -, hrun⟩
  · rw [hrun]
  · rw [hrun]
    exact Scene.bare_withParams _ h values

/-- Following the selection leaves the workbench standing. -/
theorem keeps_followSelection (s : Scene) : Keeps (Stands v) (followSelection s) := by
  have hclear : Keeps (Stands v) (atSheet Inspect.clear) := keeps_atSheet fun _ => rfl
  unfold followSelection
  split
  · next h _ =>
    refine (keeps_atSheet (bare_shown h)).bind fun _ => keeps_get.bind fun w => ?_
    exact .ite (keeps_setVisible .sheet true) (keeps_pure ())
  · exact hclear

/-- Without a selected block, nothing is shown on the sheet. -/
theorem meets_followSelection_of_none {s : Scene} (hs : s.chosenCards = []) :
    Meets (Stands v) (followSelection s) (fun _ => Stands v) E := by
  have hclear : followSelection s = atSheet Inspect.clear := by
    unfold followSelection
    split
    · next h hone => exact absurd (hs.symm.trans hone) (by simp)
    · rfl
  rw [hclear]
  exact fun w hw => .inl ⟨(), _, rfl, hw⟩

/-- An announcement that shows no block is taken up without a fault. -/
theorem meets_hear_of_plain {n : Notice} (hn : n.plain = true) (s : Scene) :
    Meets (Stands v) (hear n s) (fun _ => Stands (v.heard n s)) E := by
  cases n with
  | blocksRemoved count =>
    unfold hear heard
    by_cases hcount : count = 0
    · simp only [hcount, Notice.relabels]
      exact meets_pure ()
    · simp only [Notice.relabels, bne_iff_ne, ne_eq, hcount, not_false_eq_true, if_true]
      exact (meets_note _).bind fun _ => meets_relabel s
  | linksRemoved count => exact .ite (meets_note _) (meets_pure ())
  | linkAdded l => exact meets_note _
  | changed d => exact meets_relabel s
  | status text time => exact meets_note _
  | menu entries => exact meets_note _
  | passedOn event => exact meets_note _
  | blockAdded b => cases hn
  | selectionChanged => cases hn
  | properties h uid => cases hn

/-- A block that was added shows in the label, if its type has a title. -/
theorem meets_hear_blockAdded (b : Node) (s : Scene) :
    Meets (Stands v) (hear (.blockAdded b) s) (fun _ => Stands (v.heard (.blockAdded b) s))
      (Stands (v.heard (.blockAdded b) s)) := by
  rintro w rfl
  have hrun : (hear (.blockAdded b) s).run w = (do
      let title ← MonadExcept.ofExcept (w.catalog.title b.type)
      status ("Добавлен блок: " ++ title) 3000
      relabel s
      followSelection s : Work Unit).run w := rfl
  have hheard : w.standing.heard (.blockAdded b) s =
      if (w.catalog.title b.type).isOk then w.standing.relabelled s else w.standing := rfl
  rw [hrun, hheard]
  cases w.catalog.title b.type with
  | error fault => exact .inr ⟨fault, w, rfl, rfl⟩
  | ok title =>
    rw [run_of_ok (run_ofExcept (.ok title) w)]
    refine Meets.bind (meets_note _) (fun _ => ?_) w rfl
    exact (meets_relabel s).bind fun _ => keeps_followSelection s

/-- An announcement that is taken up leaves the workbench as heard, also where a listener stops. -/
theorem meets_hear (n : Notice) (s : Scene) :
    Meets (Stands v) (hear n s) (fun _ => Stands (v.heard n s)) (Stands (v.heard n s)) := by
  cases hplain : n.plain with
  | true => exact meets_hear_of_plain hplain s
  | false =>
    cases n with
    | blockAdded b => exact meets_hear_blockAdded b s
    | selectionChanged =>
      have hupdate : Keeps (Stands v) (updateDelete s) := keeps_modify fun _ hw => hw
      exact hupdate.bind fun _ => keeps_followSelection s
    | properties h uid => exact keeps_pure ()
    | _ => cases hplain

/-- Where a fault stops the edit, the scene of the announcement is put back. -/
theorem meets_hearOrStop (n : Notice) (s : Scene) :
    Meets (Stands v) (hearOrStop n s) (fun _ => Stands (v.heard n s))
      (Stands ((v.heard n s).showing s)) := by
  refine (meets_hear n s).tryCatch fun fault => .ite ?_ (meets_pure ())
  refine Meets.bind (Q := fun _ => Stands ((v.heard n s).showing s))
    (meets_modify fun w hw => ?_) fun _ => meets_throw fault
  rw [← hw]
  exact congrArg
    (fun t => ({ w.standing with inspector := { session := { scene := t } } } : Workbench))
    (Scene.bare_withParamsOf s w.scene)

theorem meets_hearOrStop_of_plain {n : Notice} (hn : n.plain = true) (s : Scene) :
    Meets (Stands v) (hearOrStop n s) (fun _ => Stands (v.heard n s)) E :=
  (meets_hear_of_plain (E := fun _ => False) hn s).tryCatch fun _ _ h => h.elim

end Hearing

/-! ## editing with a listener -/

/-- How an announcement is taken up when the scene is edited. -/
def heed (n : Notice) (s : Scene) : Work Unit :=
  match n with
  | .properties h _ => tryCatch (openSheet h) fun f => do if Platform.stopsAtFault then throw f
  | _ => hearOrStop n s

/-- Unless properties are asked for, an announcement is heard. -/
theorem heed_of_unasked {n : Notice} (hn : n.asks = false) (s : Scene) :
    heed n s = hearOrStop n s := by
  cases n with
  | properties h uid => cases hn
  | _ => rfl

theorem perform_eq {α : Type} (x : Inspect α) : perform x = heardBy heed x := rfl

section Editing

variable {α β : Type} {w : Workbench}

/-- What is kept afterwards is what a step leaves. -/
theorem outline_bind {x : Work α} {f : α → Work β}
    (hf : ∀ a blocks, Keeps (fun w => w.scene.outline = blocks) (f a)) (w : Workbench) :
    ((x >>= f).run w).2.scene.outline = (x.run w).2.scene.outline :=
  Keeps.after (fun a => hf a _) rfl

/-- The announcements of a step are taken up in turn once it has ended. -/
theorem run_heardBy (listen : Notice → Scene → Work Unit) {x : Inspect α} {o : Outcome α}
    {i : Inspector} (h : x.run { w.inspector with session.log := [] } = (o, i)) :
    (heardBy listen x).run w = (do
      i.session.log.forM fun a => listen a.1 a.2
      MonadExcept.ofExcept o : Work α).run
        { w with inspector := { i with session.log := [] } } := by
  unfold heardBy
  refine (run_of_ok rfl).trans ?_
  dsimp only
  rw [h]
  rfl

theorem run_onCanvas (e : Edit α) (i : Inspector) :
    (Inspect.onCanvas e).run i =
      ((e.run i.session).1, { i with session := (e.run i.session).2 }) := by
  have hrun : (Inspect.onCanvas e).run i =
      (MonadExcept.ofExcept (e.run i.session).1 : Inspect α).run
      { i with session := (e.run i.session).2 } := rfl
  rw [hrun, run_ofExcept]

/-- An edit is made first, and then what it announced is heeded. -/
theorem run_edit {e : Edit α} {o : Outcome α} {t : Session} (h : e.run ⟨w.scene, []⟩ = (o, t)) :
    (edit e).run w = (do
      t.log.forM fun a => heed a.1 a.2
      MonadExcept.ofExcept o : Work α).run { w with inspector.session := ⟨t.scene, []⟩ } := by
  have hcanvas : (Inspect.onCanvas e).run { w.inspector with session.log := [] } =
      (o, { w.inspector with session := t }) := by
    have hsession : ({ w.inspector with session.log := [] } : Inspector).session = ⟨w.scene, []⟩ :=
      rfl
    rw [run_onCanvas, hsession, h]
  rw [edit, perform_eq, run_heardBy heed hcanvas]

/-- No announcement that is heard adds or removes blocks. -/
theorem outline_hearOrStop {blocks : Outline} (n : Notice) {s : Scene} (hs : s.outline = blocks) :
    Keeps (fun w => w.scene.outline = blocks) (hearOrStop n s) := by
  intro w hw
  have hscene {u : Workbench} (hu : u.standing = w.standing.heard n s) :
      u.scene.bare = w.scene.bare := by
    have hbare : u.standing.scene = (w.standing.heard n s).scene := by rw [hu]
    rwa [scene_heard] at hbare
  rcases meets_hearOrStop n s w rfl with ⟨a, w', hrun, hw'⟩ | ⟨fault, w', hrun, hw'⟩
  · exact .inl ⟨a, w', hrun, (Scene.outline_eq_of_bare (hscene hw')).trans hw⟩
  · have hbare : w'.scene.bare = s.bare := congrArg Workbench.scene hw'
    exact .inr ⟨fault, w', hrun, (Scene.outline_eq_of_bare hbare).trans hs⟩

/-- The blocks that an edit leaves are left whatever becomes of its announcements. -/
theorem outline_edit {e : Edit α} {blocks : Outline} (h : e.Leaves w.scene blocks) :
    ((edit e).run w).2.scene.outline = blocks := by
  obtain ⟨o, s, log, hrun, hblocks, hlog⟩ := h
  have hheeded : Keeps (fun w => w.scene.outline = blocks) (do
      log.forM fun a => heed a.1 a.2
      MonadExcept.ofExcept o : Work α) := by
    refine (keeps_forM fun a ha => ?_).bind fun _ => keeps_ofExcept o
    obtain ⟨hscene, hnotice⟩ := hlog a ha
    rw [heed_of_unasked (Notice.asks_of_ne hnotice)]
    exact outline_hearOrStop a.1 hscene
  rw [run_edit hrun]
  exact hheeded.run hblocks

end Editing

end Work

end BlockSketch
