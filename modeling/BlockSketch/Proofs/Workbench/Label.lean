import BlockSketch.Proofs.Sheet.Agreement
import BlockSketch.Proofs.Workbench.Listening
import BlockSketch.Workbench.Start

/-!
# BlockSketch.Proofs.Workbench.Label

Whether the label of the status line is current.  It is shown anew when an announcement tells of
blocks that came or went, and by the commands that change the board, the port or the whole
diagram.  Blocks that are removed are announced after changes of the selection, and a diagram that
is opened is shown in the label once it is there; a fault in between leaves the label behind.

* `keeps_perform` — a step that leaves the number of blocks alone keeps the label current;
* `keeps_edit_growing`, `meets_edit_thinning` — edits that add and remove blocks;
* `meets_edit_load` — opening a diagram.
-/

namespace BlockSketch

variable [Platform]

namespace Workbench

open Canvas

/-! ## labels -/

/-- The label shows the number of blocks of the diagram, the board and the port, with a dash for
one that is not set. -/
def Current (w : Workbench) : Prop :=
  let shown (v : Value) : Text := if v.isSet then v.shown else notChosen
  w.label = "Блоков на сцене: " ++ toString w.scene.diagram.nodes.length ++
    " | Плата: " ++ shown w.board ++ " | Порт: " ++ shown w.port

instance (w : Workbench) : Decidable w.Current := inferInstanceAs (Decidable (w.label = _))

/-- The label is current, and the types of blocks are known by the catalog of the scene. -/
def InStep (w : Workbench) : Prop := w.catalog = w.scene.catalog ∧ w.label = w.labelFor w.scene

/-- So it is, with as many blocks as given. -/
def InStepAt (v : Catalog × Nat) (w : Workbench) : Prop := w.InStep ∧ w.scene.tally = v

/-- The label is current when it is the one for the scene. -/
theorem current_iff (w : Workbench) : w.Current ↔ w.label = w.labelFor w.scene := by
  have hchosen (v : Value) :
      (v.orElse (.text notChosen)).shown = if v.isSet then v.shown else notChosen := by
    unfold Value.orElse
    split <;> rfl
  unfold Current labelFor
  simp only [hchosen]
  rfl

/-- The label depends on the board, the port and the number of blocks. -/
theorem labelFor_congr {w w' : Workbench} {s s' : Scene} (hboard : w'.board = w.board)
    (hport : w'.port = w.port) (hs : s'.tally = s.tally) : w'.labelFor s' = w.labelFor s := by
  unfold labelFor
  rw [hboard, hport, s'.length_nodes, s.length_nodes, hs]

/-- For one board and port, the label tells how many blocks there are. -/
theorem labelFor_inj {w w' : Workbench} {s s' : Scene} (hboard : w'.board = w.board)
    (hport : w'.port = w.port) :
    w'.labelFor s' = w.labelFor s ↔ s'.nodes.length = s.nodes.length := by
  unfold labelFor
  rw [hboard, hport]
  constructor
  · intro h
    have hletters := congrArg Text.letters h
    simp only [Text.letters_append, List.append_assoc, List.append_cancel_left_eq,
      List.append_cancel_right_eq] at hletters
    have hdigits : Nat.toDigits 10 s'.nodes.length = Nat.toDigits 10 s.nodes.length :=
      String.ofList_injective (Text.ofString_inj.mp (congrArg Text.mk hletters))
    rw [← Nat.ofDigitChars_ten_toDigits (n := s'.nodes.length), hdigits,
      Nat.ofDigitChars_ten_toDigits]
  · intro h
    rw [h]

theorem inStepAt_standing {v : Catalog × Nat} {w : Workbench} :
    InStepAt v w.standing ↔ InStepAt v w := by
  have hlabel : w.standing.labelFor w.standing.scene = w.labelFor w.scene :=
    labelFor_congr rfl rfl rfl
  unfold InStepAt InStep
  rw [hlabel]
  rfl

theorem InStepAt.congr {v : Catalog × Nat} {w w' : Workbench} (h : InStepAt v w)
    (hw : w'.standing = w.standing) : InStepAt v w' := by
  rw [← inStepAt_standing, hw, inStepAt_standing]
  exact h

theorem InStepAt.showing {v : Catalog × Nat} {w : Workbench} (h : InStepAt v w) {s : Scene}
    (hs : s.tally = v) : InStepAt v (w.showing s) := by
  obtain ⟨⟨hcatalog, hlabel⟩, htally⟩ := h
  have hsame : (w.showing s).scene.tally = w.scene.tally := hs.trans htally.symm
  have hlabel' : (w.showing s).labelFor (w.showing s).scene = w.labelFor w.scene :=
    labelFor_congr rfl rfl hsame
  have hcatalog' : (w.showing s).scene.catalog = w.scene.catalog := congrArg Prod.fst hsame
  refine ⟨⟨?_, ?_⟩, hs⟩
  · rw [hcatalog']
    exact hcatalog
  · rw [hlabel']
    exact hlabel

/-- The label is current once it is shown for a scene with as many blocks. -/
theorem inStepAt_relabelled {w : Workbench} (hcatalog : w.catalog = w.scene.catalog) {s : Scene}
    (hs : s.tally = w.scene.tally) : InStepAt w.scene.tally (w.relabelled s) :=
  ⟨⟨hcatalog, labelFor_congr rfl rfl hs⟩, rfl⟩

/-- A label that is current is not changed for a scene with as many blocks. -/
theorem InStepAt.heard {v : Catalog × Nat} {w : Workbench} (h : InStepAt v w) (n : Notice)
    {s : Scene} (hs : s.tally = v) : w.heard n s = w := by
  have hlabel : w.labelFor s = w.label :=
    (labelFor_congr rfl rfl (hs.trans h.2.symm)).trans h.1.2.symm
  unfold Workbench.heard relabelled
  rw [hlabel]
  exact ite_self w

/-! ## where a fault halts -/

/-- A fault halted what began at `w₀`: the label is current just when there are as many blocks as
there were. -/
def HaltedFrom (w₀ w : Workbench) : Prop :=
  w.catalog = w.scene.catalog ∧
    (w.label = w.labelFor w.scene ↔ w.scene.nodes.length = w₀.scene.nodes.length)

/-- A fault that leaves the number of blocks leaves the label current. -/
theorem InStepAt.haltedFrom {w₀ w : Workbench} (h : InStepAt w₀.scene.tally w) :
    HaltedFrom w₀ w := by
  refine ⟨h.1.1, fun _ => ?_, fun _ => h.1.2⟩
  rw [Scene.length_nodes, h.2, Scene.length_nodes]

/-- Another scene is there, and the label was not shown anew. -/
theorem haltedFrom_showing {w₀ w : Workbench} (h₀ : w₀.InStep) {s : Scene}
    (hs : s.catalog = w₀.scene.catalog) (hw : w.standing = w₀.standing.showing s) :
    HaltedFrom w₀ w := by
  have hcatalog : w.catalog = w₀.catalog := (congrArg Workbench.catalog hw :)
  have hscene : w.scene.bare = s.bare := congrArg Workbench.scene hw
  have hlabel : w.label = w₀.label := (congrArg Workbench.label hw :)
  have hboard : w₀.board = w.board := (congrArg Workbench.board hw).symm
  have hport : w₀.port = w.port := (congrArg Workbench.port hw).symm
  refine ⟨?_, ?_⟩
  · rw [hcatalog, h₀.1, ← hs]
    exact (congrArg Scene.catalog hscene).symm
  · rw [hlabel, h₀.2, labelFor_inj hboard hport]
    exact eq_comm

/-- A diagram without a selected block was put in place of that of `w₀`, and the label was not shown
anew. -/
def ReplacedFrom (w₀ w : Workbench) : Prop :=
  ∃ s : Scene, s.catalog = w₀.scene.catalog ∧ s.chosenCards = [] ∧
    w.standing = w₀.standing.showing s

theorem ReplacedFrom.aligned {w₀ w : Workbench} (h₀ : w₀.InStep) (h : ReplacedFrom w₀ w) :
    w.catalog = w.scene.catalog ∧ w.scene.chosenCards = [] := by
  obtain ⟨s, hs, hnone, hw⟩ := h
  have hscene : w.scene.bare = s.bare := congrArg Workbench.scene hw
  refine ⟨(haltedFrom_showing h₀ hs hw).1, ?_⟩
  rw [← Scene.chosenCards_bare, hscene, Scene.chosenCards_bare, hnone]

end Workbench

namespace Work

open Canvas Workbench Session

/-! ## steps that leave the number of blocks alone -/

section Steady

variable {α : Type} {v : Catalog × Nat}

theorem inStepAt_of_stands {x : Work α} (hx : ∀ u, Keeps (Stands u) x) : Keeps (InStepAt v) x :=
  fun w hw => (hx w.standing).mono (fun _ h => h) (fun _ _ h => hw.congr h)
    (fun _ h => hw.congr h) w rfl

/-- An announcement made when there were as many blocks leaves the label current. -/
theorem keeps_hearOrStop (n : Notice) {s : Scene} (hs : s.tally = v) :
    Keeps (InStepAt v) (hearOrStop n s) := by
  intro w hw
  have hstanding := inStepAt_standing.mpr hw
  have hheard := meets_hearOrStop (v := w.standing) n s
  rw [hstanding.heard n hs] at hheard
  refine hheard.mono (fun _ h => h) (fun _ u hu => hw.congr hu) (fun u hu => ?_) w rfl
  exact inStepAt_standing.mp (hu.symm ▸ hstanding.showing hs)

/-- Announcements that are made while the number of blocks stays keep the label current. -/
theorem keeps_heardBy {listen : Notice → Scene → Work Unit}
    (hlisten : ∀ n s, s.tally = v → Keeps (InStepAt v) (listen n s)) {x : Inspect α}
    (hx : Keeps (fun i => i.session.Told v) x) : Keeps (InStepAt v) (heardBy listen x) := by
  refine keeps_of_run fun w hw => ?_
  have htold : (x.run { w.inspector with session.log := [] }).2.session.Told v :=
    hx.run ⟨hw.2, fun _ ha => absurd ha List.not_mem_nil⟩
  rw [run_heardBy listen (Prod.eta _).symm]
  refine Meets.run (P := InStepAt v) ((keeps_forM fun a ha => ?_).bind fun _ => keeps_ofExcept _) ?_
  · exact hlisten a.1 a.2 (htold.2 a ha).2
  · exact inStepAt_standing.mp ((inStepAt_standing.mpr hw).showing htold.1)

theorem keeps_onCanvas {P : Session → Prop} {e : Edit α} (he : Keeps P e) :
    Keeps (fun i => P i.session) (Inspect.onCanvas e) := by
  refine keeps_of_run fun i hi => ?_
  rw [run_onCanvas]
  exact he.run hi

/-- The sheet is opened for a block, which becomes the selection. -/
theorem keeps_openSheet (h : Nat) : Keeps (InStepAt v) (openSheet h) := by
  have hcalm := Edit.undisturbed_told v
  have hselect : Keeps (InStepAt v) (heardBy hearOrStop (Inspect.onCanvas do
      Edit.clearSelection
      Edit.select (.card h) true)) := by
    refine keeps_heardBy (fun n s hs => keeps_hearOrStop n hs) (keeps_onCanvas ?_)
    exact (Edit.keeps_clearSelection hcalm.mark (hcalm.announce _)).bind fun _ => hcalm.select _ _
  have hshow {last : Option EditorKind → Work Unit}
      (hlast : ∀ u kind?, Keeps (Stands u) (last kind?)) :
      Keeps (InStepAt v) (do
        atSheet (Inspect.bind h)
        tick .sheet true
        setVisible .sheet true
        last (← atSheet Inspect.focus?)) := by
    refine inStepAt_of_stands fun u => (keeps_atSheet (bare_shown h)).bind fun _ => ?_
    have htick : Keeps (Stands u) (tick .sheet true) := keeps_modify fun _ hw => hw
    refine htick.bind fun _ => (keeps_setVisible .sheet true).bind fun _ => ?_
    exact (keeps_atSheet fun _ => rfl).bind fun kind? => hlast u kind?
  refine keeps_get.bind fun w =>
    .ite (hselect.bind fun _ => hshow fun _ kind? => ?_) (hshow fun _ kind? => ?_)
  all_goals
    cases kind? with
    | none => exact keeps_pure _
    | some kind => exact meets_note _

theorem keeps_heed (n : Notice) {s : Scene} (hs : s.tally = v) : Keeps (InStepAt v) (heed n s) := by
  cases n with
  | properties h uid =>
    exact (keeps_openSheet h).tryCatch fun f => .ite (keeps_throw f) (keeps_pure ())
  | _ => exact keeps_hearOrStop _ hs

/-- A step that leaves the number of blocks alone keeps the label current. -/
theorem keeps_perform {x : Inspect α} (hx : Keeps (fun i => i.session.Told v) x) :
    Keeps (InStepAt v) (perform x) :=
  keeps_heardBy (fun n _ hs => keeps_heed n hs) hx

/-! ## the property sheet -/

theorem told_setParam (h : Nat) (name : Text) (value : Value) :
    Keeps (fun i => i.session.Told v) (Inspect.setParam h name value) :=
  keeps_onCanvas (Edit.logs_change fun _ hs => hs)

theorem told_announceParams (h : Nat) :
    Keeps (fun i => i.session.Told v) (Inspect.onCanvas (Edit.announceParams h)) :=
  keeps_onCanvas (Edit.keeps_announceParams (Edit.undisturbed_told v) h)

theorem told_sheet : Keeps (fun i => i.session.Told v) Inspect.sheet :=
  keeps_get.bind fun _ => keeps_pure _

theorem told_change (f : Sheet → Sheet) : Keeps (fun i => i.session.Told v) (Inspect.change f) :=
  keeps_modify fun _ hi => hi

/-- Taking over a value changes no number of blocks. -/
theorem told_takeOver (name : Text) (value : Value) :
    Keeps (fun i => i.session.Told v) (Inspect.takeOver name value) := by
  refine told_sheet.bind fun sheet => ?_
  cases sheet.card with
  | none => exact keeps_pure _
  | some h => exact (told_setParam h name value).bind fun _ => told_announceParams h

theorem told_edit (name : Text) (input : Editor → Outcome (Editor × Option (Outcome Value))) :
    Keeps (fun i => i.session.Told v) (Inspect.edit name input) := by
  have hfield : Keeps (fun i => i.session.Told v) (Inspect.field name) := by
    refine told_sheet.bind fun sheet => ?_
    cases Assoc.get? sheet.fields name with
    | none => exact keeps_throw _
    | some f => exact keeps_pure _
  refine hfield.bind fun f => (keeps_ofExcept _).bind fun entered => ?_
  obtain ⟨editor, announced⟩ := entered
  refine (told_change _).bind fun _ => ?_
  cases announced with
  | none => exact keeps_pure _
  | some value => exact (keeps_ofExcept _).bind fun value => told_takeOver name value

/-- Setting the parameters back changes no number of blocks. -/
theorem told_reset : Keeps (fun i => i.session.Told v) Inspect.reset := by
  refine told_sheet.bind fun sheet => ?_
  cases sheet.card with
  | none => exact keeps_pure _
  | some h =>
    have hnode : Keeps (fun i => i.session.Told v) (Inspect.node h) :=
      keeps_get.bind fun _ => keeps_pure _
    refine hnode.bind fun n => (keeps_ofExcept _).bind fun entry => .ite ?_ (keeps_pure _)
    refine (keeps_forM fun e _ => ?_).bind fun _ => told_announceParams h
    refine (keeps_ofExcept _).bind fun editor => (told_change _).bind fun _ => ?_
    exact (keeps_ofExcept _).bind fun value => told_setParam h e.1 value

/-- What is done at the property sheet leaves the number of blocks alone. -/
theorem told_act (a : SheetAction) : Keeps (fun i => i.session.Told v) a.act := by
  unfold SheetAction.act
  cases a with
  | bind h =>
    refine keeps_of_run fun i hi => ?_
    rcases Inspect.bind_cases i h with ⟨-, fault, sheet, hrun⟩ |
      ⟨entry, fields, values, sheet, -, -, -, -, -, hrun⟩
    · rw [hrun]
      exact hi
    · rw [hrun]
      exact hi
  | enter name value => exact told_edit name _
  | pick name choice => exact told_edit name _
  | reset => exact told_reset
  | clear => exact told_change _

end Steady

/-! ## edits that add a block -/

section Growing

variable {α : Type} {v : Catalog × Nat} {c : Catalog} {u : Workbench}

/-- A block that was added shows in the label before anything else is heard. -/
theorem heeded_grown {t : Session} (ht : t.Grown c) (hu : u.catalog = c) :
    Meets (Stands (u.showing t.scene)) (t.log.forM fun a => heed a.1 a.2)
      (fun _ => InStepAt t.scene.tally) (InStepAt t.scene.tally) := by
  obtain ⟨hcatalog, b, rest, hlog, ⟨title, htitle⟩, hrest⟩ := ht
  have hheard : (u.showing t.scene).heard (.blockAdded b) t.scene =
      (u.showing t.scene).relabelled t.scene := by
    refine if_pos ?_
    change (u.catalog.title b.type).isOk = true
    rw [hu, htitle]
    rfl
  have hright : InStepAt t.scene.tally ((u.showing t.scene).relabelled t.scene) :=
    inStepAt_relabelled (w := u.showing t.scene) (hu.trans hcatalog.symm) rfl
  have hfirst := meets_hearOrStop (v := u.showing t.scene) (.blockAdded b) t.scene
  rw [hheard] at hfirst
  rw [hlog, List.forM_eq_forM, List.forM_cons]
  refine Meets.bind (Q := fun _ => InStepAt t.scene.tally)
    (hfirst.mono (fun _ h => h) (fun _ w hw => ?_) fun w hw => ?_) fun _ => ?_
  · exact inStepAt_standing.mp (hw.symm ▸ hright)
  · exact inStepAt_standing.mp (hw.symm ▸ hright.showing rfl)
  · refine keeps_forM fun a ha => keeps_heed a.1 ?_
    rw [hrest a ha]

/-- An edit that adds a block keeps the label current. -/
theorem keeps_edit_growing {e : Edit α}
    (he : ∀ v, Meets (Silent v) e (fun _ => Swollen v) (Swollen v)) :
    Keeps InStep (edit e) := by
  refine keeps_of_run fun w hw => ?_
  have hat : InStepAt w.scene.tally w := ⟨hw, rfl⟩
  obtain ⟨o, t, hrun⟩ : ∃ o t, e.run ⟨w.scene, []⟩ = (o, t) := ⟨_, _, (Prod.eta _).symm⟩
  have hswollen := (he w.scene.tally).run (i := ⟨w.scene, []⟩) ⟨rfl, rfl⟩
  rw [hrun] at hswollen
  rw [run_edit hrun]
  refine Keeps.after (fun _ => keeps_ofExcept _) ?_
  rcases hswollen with ⟨hlog, htally⟩ | hgrown
  · rw [hlog]
    exact (inStepAt_standing.mp ((inStepAt_standing.mpr hat).showing (s := t.scene) htally)).1
  · exact ((heeded_grown (u := w.standing) hgrown hw.1).run rfl).1

end Growing

/-! ## edits that remove blocks -/

section Thinning

variable {α : Type} {v : Catalog × Nat} {c : Catalog} {u w₀ : Workbench}

/-- Announcements that say nothing of blocks leave the label alone.  A fault in taking one up puts
back the scene that it was made at. -/
theorem heeded_mute {Q : Scene → Prop} {log : List (Notice × Scene)}
    (hlog : ∀ a ∈ log, a.1.mute = true ∧ (Q a.2 ∨ a.1.plain = true)) :
    Meets (Stands u) (log.forM fun a => heed a.1 a.2) (fun _ => Stands u)
      (fun w => ∃ s, Q s ∧ Stands (u.showing s) w) := by
  refine meets_forM fun a ha => ?_
  obtain ⟨hmute, hmade⟩ := hlog a ha
  have hheard : u.heard a.1 a.2 = u := by
    refine if_neg ?_
    cases hn : a.1 <;> simp_all [Notice.mute, Notice.relabels]
  rw [heed_of_unasked (Notice.asks_of_mute hmute)]
  rcases hmade with hscene | hplain
  · have hstop := meets_hearOrStop (v := u) a.1 a.2
    rw [hheard] at hstop
    exact hstop.fail fun w hw => ⟨a.2, hscene, hw⟩
  · have hstop :=
      meets_hearOrStop_of_plain (v := u) (E := fun w => ∃ s, Q s ∧ Stands (u.showing s) w)
      hplain a.2
    rwa [hheard] at hstop

/-- Announcements that show no block are taken up without a fault, and leave a label alone that is
current. -/
theorem heeded_plain {E : Workbench → Prop} (hu : InStepAt v u) {log : List (Notice × Scene)}
    (hlog : ∀ a ∈ log, a.1.plain = true ∧ a.2.tally = v) :
    Meets (Stands u) (log.forM fun a => heed a.1 a.2) (fun _ => Stands u) E := by
  refine meets_forM fun a ha => ?_
  obtain ⟨hplain, hscene⟩ := hlog a ha
  have hstop := meets_hearOrStop_of_plain (v := u) (E := E) hplain a.2
  rw [heed_of_unasked (Notice.asks_of_plain hplain)]
  rwa [hu.heard a.1 hscene] at hstop

/-- Blocks that were removed show in the label, unless a fault comes before they are announced. -/
theorem heeded_shrunk {t : Session} (ht : t.Shrunk c) (hu : u.catalog = c) :
    Meets (Stands (u.showing t.scene)) (t.log.forM fun a => heed a.1 a.2)
      (fun _ w => InStepAt t.scene.tally w ∧ w.scene.bare = t.scene.bare)
      (fun w => ∃ s : Scene, s.catalog = c ∧ Stands (u.showing s) w) := by
  obtain ⟨hcatalog, before, count, rest, hlog, hcount, hbefore, hrest⟩ := ht
  have hheard : (u.showing t.scene).heard (.blocksRemoved count) t.scene =
      (u.showing t.scene).relabelled t.scene := if_pos (bne_iff_ne.mpr hcount)
  have hright : InStepAt t.scene.tally ((u.showing t.scene).relabelled t.scene) :=
    inStepAt_relabelled (w := u.showing t.scene) (hu.trans hcatalog.symm) rfl
  have hmute := heeded_mute (u := u.showing t.scene) (Q := fun s => s.catalog = c)
    fun a ha => ⟨(hbefore a ha).1, .inl (hbefore a ha).2⟩
  have hremoved := meets_hearOrStop_of_plain (v := u.showing t.scene)
    (E := fun w => ∃ s : Scene, s.catalog = c ∧ Stands (u.showing s) w)
      (n := .blocksRemoved count) rfl
    t.scene
  rw [hheard] at hremoved
  rw [hlog, List.forM_eq_forM, List.forM_append, List.forM_cons]
  refine hmute.bind fun _ => hremoved.bind fun _ => ?_
  refine Meets.post (heeded_plain hright fun a ha => ⟨(hrest a ha).1, by rw [(hrest a ha).2]⟩)
    fun _ w hw => ⟨?_, congrArg Workbench.scene hw⟩
  exact inStepAt_standing.mp (hw.symm ▸ hright)

/-- An edit that removes blocks keeps the label current.  If it is halted by a fault, the label is
current just when all blocks are there yet. -/
theorem meets_edit_thinning {e : Edit α}
    (he : ∀ v, Meets (Steady v fun n => n.mute = true) e (fun _ => Thinned v) (Told v))
    (h₀ : w₀.InStep) :
    Meets (fun w => w = w₀) (edit e) (fun _ => InStep) (HaltedFrom w₀) := by
  rintro w rfl
  have hat : InStepAt w.scene.tally w := ⟨h₀, rfl⟩
  have htold {o : Outcome α} {t : Session} (ht : t.Told w.scene.tally) :
      Meets (Stands (w.standing.showing t.scene)) (do
        t.log.forM fun a => heed a.1 a.2
        MonadExcept.ofExcept o : Work α) (fun _ => InStep) (HaltedFrom w) := by
    have hkeeps : Keeps (InStepAt w.scene.tally) (do
        t.log.forM fun a => heed a.1 a.2
        MonadExcept.ofExcept o : Work α) :=
      (keeps_forM fun a ha => keeps_heed a.1 (ht.2 a ha).2).bind fun _ => keeps_ofExcept o
    refine hkeeps.mono (fun w' hw' => ?_) (fun _ _ h => h.1) fun _ h => h.haltedFrom
    exact inStepAt_standing.mp (hw'.symm ▸ (inStepAt_standing.mpr hat).showing ht.1)
  rcases he w.scene.tally ⟨w.scene, []⟩ ⟨rfl, fun _ ha => absurd ha List.not_mem_nil⟩ with
    ⟨a, t, hrun, ht | ht⟩ | ⟨fault, t, hrun, ht⟩
  · rw [run_edit hrun]
    exact htold ht _ rfl
  · rw [run_edit hrun]
    have hshrunk := heeded_shrunk (u := w.standing) ht h₀.1
    refine Meets.bind (hshrunk.mono (fun _ h => h) (fun _ _ h => h.1.1) ?_)
      (fun _ => meets_pure a) _ rfl
    rintro w' ⟨s, hs, hw'⟩
    exact haltedFrom_showing h₀ hs hw'
  · rw [run_edit hrun]
    exact htold ht _ rfl

/-- Where no announcement asks for properties, the blocks stay those that the edit left. -/
theorem meets_edit_unasked {e : Edit α} {a : α} {t : Session}
    (hrun : e.run ⟨w₀.scene, []⟩ = (.ok a, t)) (hlog : ∀ a ∈ t.log, a.1.asks = false) :
    Meets (fun w => w = w₀) (edit e) (fun _ w => w.scene.bare = t.scene.bare) (fun _ => True) := by
  have hheed (n : Notice) (s : Scene) (hn : n.asks = false) :
      Meets (fun w => w.scene.bare = t.scene.bare) (heed n s)
        (fun _ w => w.scene.bare = t.scene.bare)
        (fun _ => True) := by
    intro w hw
    rw [heed_of_unasked hn]
    refine (meets_hearOrStop n s).mono (fun _ h => h) (fun _ w' hw' => ?_)
      (fun _ _ => trivial) w rfl
    have hscene : w'.scene.bare = (w.standing.heard n s).scene := congrArg Workbench.scene hw'
    rw [hscene, scene_heard]
    exact hw
  rintro w rfl
  rw [run_edit hrun]
  refine Meets.bind (meets_forM fun a ha => hheed a.1 a.2 (hlog a ha)) (fun _ => meets_pure a) _ ?_
  rfl

/-- When what is selected was deleted, the label is current and no block is selected. -/
theorem meets_edit_deleteSelected (h₀ : w₀.InStep) :
    Meets (fun w => w = w₀) (edit Edit.deleteSelected)
      (fun _ w => w.InStep ∧ w.scene.chosenCards = [])
      (HaltedFrom w₀) := by
  have hthin := meets_edit_thinning (fun _ => Edit.thinned_deleteSelected) h₀
  obtain ⟨removed, hends⟩ := Edit.ends_deleteSelected w₀.scene
  obtain ⟨log, hrun⟩ := hends []
  have hunasked : ∀ a ∈ log, a.1.asks = false := by
    rcases Edit.unasked_deleteSelected (v := w₀.scene.tally) ⟨w₀.scene, []⟩
      ⟨rfl, fun _ ha => absurd ha List.not_mem_nil⟩ with
      ⟨a, t, hrun', ht⟩ | ⟨fault, t, hrun', -⟩
    · cases hrun.symm.trans hrun'
      exact ht
    · cases hrun.symm.trans hrun'
  refine (hthin.and (meets_edit_unasked hrun hunasked)).mono (fun _ h => ⟨h, h⟩)
    (fun _ w hw => ⟨hw.1, ?_⟩)
    fun _ h => h.1
  rw [← Scene.chosenCards_bare, hw.2, Scene.chosenCards_bare]
  exact w₀.scene.chosenCards_withoutSelected

end Thinning

/-! ## opening a diagram -/

section Opening

variable {w₀ : Workbench}

/-- A diagram that was opened is there, and the label was not shown anew.  A fault comes either from
taking up an announcement, while the former blocks are there, or from a block that has no card. -/
theorem meets_edit_load (d : Diagram) (h₀ : w₀.InStep) :
    Meets (fun w => w = w₀) (edit (Edit.load d)) (fun _ => ReplacedFrom w₀)
      (fun w => InStepAt w₀.scene.tally w ∨ w₀.scene.showsAll d = false ∧ ReplacedFrom w₀ w) := by
  have hopened {o : Outcome Unit} {log : List (Notice × Scene)}
      (hrun : (Edit.load d).run ⟨w₀.scene, []⟩ = (o, ⟨w₀.scene.loaded d, log⟩))
      (hfault : o = .ok () ∨ w₀.scene.showsAll d = false) :
      Meets (fun w => w = w₀) (edit (Edit.load d)) (fun _ => ReplacedFrom w₀)
        (fun w => InStepAt w₀.scene.tally w ∨ w₀.scene.showsAll d = false ∧ ReplacedFrom w₀ w) := by
    rintro w rfl
    have hlog := (Edit.meets_load (v := w.scene.tally) d).run (i := ⟨w.scene, []⟩)
      ⟨rfl, fun _ ha => absurd ha List.not_mem_nil⟩
    rw [hrun] at hlog
    have hreplaced {w' : Workbench} (hw' : w'.standing = w.standing.showing (w.scene.loaded d)) :
        ReplacedFrom w w' := ⟨_, hlog.1, w.scene.chosenCards_loaded d, hw'⟩
    have hheeded := heeded_mute (u := w.standing.showing (w.scene.loaded d))
      (Q := fun s => s.tally = w.scene.tally) hlog.2
    rw [run_edit hrun]
    refine Meets.bind (hheeded.fail ?_) (fun _ => ?_) _ rfl
    · rintro w' ⟨s, hs, hw'⟩
      refine .inl (inStepAt_standing.mp ?_)
      rw [hw']
      exact (inStepAt_standing.mpr ⟨h₀, rfl⟩).showing hs
    · rcases hfault with rfl | hnone
      · exact (meets_pure ()).post fun _ _ h => hreplaced h
      · exact (meets_ofExcept o fun w' h => .inr ⟨hnone, hreplaced h⟩).post fun _ _ h =>
          hreplaced h.2
  cases hall : w₀.scene.showsAll d with
  | true =>
    obtain ⟨log, hrun⟩ := (Edit.ends_load d w₀.scene).1 hall []
    rw [hall] at hopened
    exact hopened hrun (.inl rfl)
  | false =>
    obtain ⟨fault, hends⟩ := (Edit.ends_load d w₀.scene).2 hall
    obtain ⟨log, hrun⟩ := hends []
    rw [hall] at hopened
    exact hopened hrun (.inr rfl)

end Opening

end Work

end BlockSketch
