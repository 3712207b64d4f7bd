import BlockSketch.Proofs.Workbench.Label

/-!
# BlockSketch.Proofs.Workbench.Status

The status line along what is done at the workbench.  An `Action` is anything that a user can do:
the commands, the palette, the scene, the property sheet and the panels.  Each leaves the label
current, faults or not, unless a fault interrupts one that takes blocks away.

* `keeps_execute`, `meets_execute` — the commands;
* `keeps_work`, `meets_work` — the actions;
* `current_after_iff` — when an action leaves the label current;
* `label_current_iff` — when it is current all along a run.
-/

namespace BlockSketch

/-- Whether a command can take blocks away and stop for a fault then. -/
def Command.takesAway : Command → Bool
  | .openProject | .delete => true
  | _ => false

section Commands

variable [Platform]

namespace Work

open Canvas Workbench Session

/-! ## commands that leave the blocks alone -/

section Leaving

variable {α : Type} {u : Workbench} {E : Workbench → Prop}

theorem inStep_of_inStepAt {x : Work α} (hx : ∀ v, Keeps (InStepAt v) x) : Keeps InStep x :=
  fun w hw => (hx w.scene.tally).mono (fun _ h => h) (fun _ _ h => h.1) (fun _ h => h.1) w ⟨hw, rfl⟩

theorem inStep_of_stands {x : Work α} (hx : ∀ u, Keeps (Stands u) x) : Keeps InStep x :=
  inStep_of_inStepAt fun _ => inStepAt_of_stands hx

/-- The label is current once it is shown for the scene that is there. -/
theorem meets_relabel_scene (w₁ : Workbench) :
    Meets (fun w => w₁ = w ∧ w.catalog = w.scene.catalog) (relabel w₁.scene)
      (fun _ => InStep) E := by
  refine meets_modify ?_
  rintro w ⟨rfl, hw⟩
  exact (inStepAt_relabelled hw rfl).1

theorem keeps_note (n : Note) : Keeps (Stands u) (note n) := meets_note n

/-- Saving leaves the workbench standing. -/
theorem keeps_saveTo (path : Text.FilePath) : Keeps (Stands u) (saveTo path) := by
  refine keeps_get.bind fun w => (keeps_ofExcept _).bind fun board => (keeps_ofExcept _).bind
    fun port => ?_
  dsimp only
  exact Keeps.bind (keeps_modify fun _ hw => hw) fun _ => .ite (keeps_note _) (keeps_note _)

theorem keeps_saveAs (file : Option Text) : Keeps (Stands u) (saveAs file) := by
  cases file with
  | none => exact keeps_pure _
  | some file =>
    refine (keeps_ofExcept _).bind fun path => ?_
    refine Keeps.bind (keeps_modify fun _ hw => hw) fun _ => (keeps_saveTo _).bind fun _ => ?_
    exact keeps_modify fun _ hw => hw

/-- The board or the port that is chosen shows in the label. -/
theorem keeps_choose (c : Choice) (r : Replies) : Keeps InStep (choose c r) := by
  have hnote (n : Note) : Keeps InStep (note n) := inStep_of_stands fun _ => keeps_note n
  refine keeps_get.bind fun w => (keeps_ofExcept _).bind fun offered => (hnote _).bind fun _ => ?_
  refine .ite ?_ (keeps_pure _)
  dsimp only
  refine .ite (hnote _) ?_
  refine Meets.bind (Q := fun _ w => w.catalog = w.scene.catalog)
    (meets_modify fun w hw => ?_) fun _ => ?_
  · cases c <;> exact hw.1
  · exact meets_get.bind fun w => (meets_relabel_scene w).bind fun _ => hnote _

end Leaving

/-! ## commands that put other blocks in place -/

section Replacing

variable {w₀ : Workbench}

/-- An empty project can always be shown, so nothing comes between it and its label. -/
theorem keeps_newProject : Keeps InStep newProject := by
  intro w₀ h₀
  have hload : Meets (fun w => w = w₀) (edit (Edit.load {})) (fun _ => ReplacedFrom w₀) InStep := by
    refine (meets_edit_load {} h₀).fail ?_
    rintro w (h | ⟨hall, -⟩)
    · exact h.1
    · cases hall
  have hclear : Keeps InStep (atSheet Inspect.clear) :=
    inStep_of_stands fun _ => keeps_atSheet fun _ => rfl
  refine Meets.bind hload (fun _ => ?_) w₀ rfl
  refine Meets.bind (Q := fun _ => ReplacedFrom w₀) (meets_modify fun _ h => h) fun _ => ?_
  refine Meets.bind (Q := fun _ => ReplacedFrom w₀) (meets_modify fun _ h => h) fun _ => ?_
  refine meets_get.bind fun w => Meets.bind (Q := fun _ => InStep) ?_ fun _ => hclear
  exact (meets_relabel_scene w).pre fun _ h => ⟨h.1, (h.2.aligned h₀).1⟩

/-- Where no block is selected, the label is shown and nothing can fail any more. -/
theorem meets_followSelection_inStep {E : Workbench → Prop} {s : Scene} (hs : s.chosenCards = []) :
    Meets InStep (followSelection s) (fun _ => InStep) E := by
  intro w hw
  refine (meets_followSelection_of_none (v := w.standing) hs).mono (fun _ h => h)
    (fun _ w' hw' => ?_)
    (fun _ h => h) w rfl
  exact (InStepAt.congr ⟨hw, rfl⟩ hw').1

/-- Opening a file ends in step, or was halted. -/
theorem meets_openFile (path : Text.FilePath) (h₀ : w₀.InStep) :
    Meets (fun w => w = w₀) (openFile path) (fun _ => InStep) (HaltedFrom w₀) := by
  have hload (d : Diagram) : Meets (fun w => w = w₀) (edit (Edit.load d)) (fun _ => ReplacedFrom w₀)
      (HaltedFrom w₀) := by
    refine (meets_edit_load d h₀).fail ?_
    rintro w (h | ⟨-, s, hs, -, hw⟩)
    · exact h.haltedFrom
    · exact haltedFrom_showing h₀ hs hw
  have hnote (n : Note) : Meets InStep (note n) (fun _ => InStep) (HaltedFrom w₀) :=
    meets_modify fun _ h => h
  refine meets_get.bind fun w => ?_
  dsimp only
  split
  · exact (hnote _).pre fun _ h => h.2 ▸ h₀
  · next p _ _ =>
    refine Meets.bind ((hload p.diagram).pre fun _ h => h.2) fun _ => ?_
    refine Meets.bind (Q := fun _ w => w.catalog = w.scene.catalog ∧ w.scene.chosenCards = [])
      (meets_modify fun w hw => ?_) fun _ => meets_get.bind fun w => ?_
    · have haligned := hw.aligned h₀
      exact haligned
    · rintro w' ⟨rfl, hcatalog, hnone⟩
      refine Meets.bind (meets_relabel_scene w) (fun _ => ?_) w ⟨rfl, hcatalog⟩
      exact (meets_followSelection_inStep hnone).bind fun _ => hnote _

/-- So does deleting the selection. -/
theorem meets_deleteSelection (inText : Bool) (h₀ : w₀.InStep) :
    Meets (fun w => w = w₀) (deleteSelection inText) (fun _ => InStep) (HaltedFrom w₀) := by
  have hkept {E : Workbench → Prop} (s : Scene) :
      Meets InStep (updateDelete s) (fun _ => InStep) E :=
    meets_modify fun _ hw => hw
  unfold deleteSelection
  refine .ite ?_ ?_
  · refine (meets_edit_deleteSelected h₀).bind fun removed => meets_get.bind fun w => ?_
    rintro w' ⟨rfl, hw, hnone⟩
    have hend : Meets InStep (do updateDelete w.scene; followSelection w.scene) (fun _ => InStep)
        (HaltedFrom w₀) := (hkept _).bind fun _ => meets_followSelection_inStep hnone
    refine Meets.ite (P := fun w' => w = w' ∧ w'.InStep) ?_ ?_ w ⟨rfl, hw⟩
    · exact Meets.bind ((meets_relabel_scene w).pre fun _ h => ⟨h.1, h.2.1⟩) fun _ => hend
    · exact hend.pre fun _ h => h.2
  · rintro w rfl
    exact meets_pure () w h₀

end Replacing

/-! ## all commands -/

/-- A command that takes nothing away keeps in step, whatever stops it. -/
theorem keeps_execute {c : Command} (hc : c.takesAway = false) (r : Replies) (on : Bool) :
    Keeps InStep (execute c r on) := by
  have hnote (n : Note) : Keeps InStep (note n) := inStep_of_stands fun _ => keeps_note n
  have hscale (s : Scaling) : Keeps InStep (scale s) := keeps_modify fun _ hw => hw
  have hshow (d : Dock) (on : Bool) : Keeps InStep (setVisible d on) :=
    inStep_of_stands fun _ => keeps_setVisible d on
  have hsaveAs (file : Option Text) : Keeps InStep (saveAs file) :=
    inStep_of_stands fun _ => keeps_saveAs file
  cases c with
  | newProject => exact keeps_newProject
  | openProject => cases hc
  | save =>
    refine keeps_get.bind fun w => ?_
    cases w.project with
    | none => exact hsaveAs _
    | some path => exact inStep_of_stands fun _ => keeps_saveTo path
  | saveAs => exact hsaveAs _
  | delete => cases hc
  | choose c => exact keeps_choose c r
  | generate => exact Keeps.bind (keeps_modify fun _ hw => hw) fun _ => hnote _
  | theme dark => exact .ite (hnote _) (keeps_pure _)
  | toggle d => exact hshow d on
  | openMonitor =>
    exact Keeps.bind (keeps_modify fun _ hw => hw) fun _ => (hshow _ _).bind fun _ => hnote _
  | zoom inward => exact hscale _
  | resetZoom => exact hscale _
  | exit | scan | compile | upload | telemetry | simulator | about => exact hnote _

/-- A command that takes blocks away ends in step, or was halted. -/
theorem meets_execute {w₀ : Workbench} (h₀ : w₀.InStep) {c : Command} (hc : c.takesAway = true)
    (r : Replies)
    (on : Bool) : Meets (fun w => w = w₀) (execute c r on) (fun _ => InStep) (HaltedFrom w₀) := by
  cases c with
  | openProject =>
    cases hchosen : r.chosen? with
    | none =>
      have hnothing : execute .openProject r on = pure () := by simp only [execute, hchosen]
      rw [hnothing]
      rintro w rfl
      exact meets_pure () w h₀
    | some file =>
      have hopen : execute .openProject r on = openFile (Text.FilePath.ofText file) := by
        simp only [execute, hchosen]
      rw [hopen]
      exact meets_openFile _ h₀
  | delete => exact meets_deleteSelection r.inText h₀
  | _ => cases hc

theorem keeps_trigger {c : Command} (hc : c.takesAway = false) (r : Replies)
    (ticked : Option Bool) :
    Keeps InStep (trigger c r ticked) := by
  have htick (d : Dock) (on : Bool) : Keeps InStep (tick d on) := keeps_modify fun _ hw => hw
  cases c with
  | toggle d =>
    cases ticked with
    | none => exact keeps_execute hc r false
    | some on => exact (htick d on).bind fun _ => keeps_execute hc r on
  | _ => exact keeps_execute hc r (ticked.getD false)

theorem meets_trigger {w₀ : Workbench} (h₀ : w₀.InStep) {c : Command} (hc : c.takesAway = true)
    (r : Replies) (ticked : Option Bool) :
    Meets (fun w => w = w₀) (trigger c r ticked) (fun _ => InStep) (HaltedFrom w₀) := by
  cases c with
  | openProject => exact meets_execute h₀ hc r (ticked.getD false)
  | delete => exact meets_execute h₀ hc r (ticked.getD false)
  | _ => cases hc

/-- A block that is taken from the palette shows in the label. -/
theorem keeps_addFromPalette (type : Value) (middle : Point) :
    Keeps InStep (addFromPalette type middle) := by
  have hadd : Keeps InStep (edit (Edit.add type middle "" [])) :=
    keeps_edit_growing fun _ => Edit.swollen_add type middle "" []
  refine .ite (hadd.bind fun _ => meets_get.bind fun w => ?_) (keeps_pure _)
  exact (meets_relabel_scene w).pre fun _ h => ⟨h.1, h.2.1⟩

end Work

namespace Workbench

open Canvas Session Work

/-! ## what can be done -/

/-- What can be done at the workbench, and what becomes of its files from outside. -/
inductive Action where
  -- the menu entry of a command may be ticked first
  | command (c : Command) (r : Replies) (ticked : Option Bool)
  | take (type : Value) (middle : Point)
  | scene (c : Canvas.Command)
  | sheet (a : SheetAction)
  | panel (d : Dock) (on : Bool)
  | copy
  | line (text : Text)
  | files (disk : FileTree)

namespace Action

def work : Action → Work Unit
  | .command c r ticked => Work.trigger c r ticked
  | .take type middle => Work.addFromPalette type middle
  | .scene c => Work.edit c.edit
  | .sheet a => Work.perform a.act
  | .panel d on => Work.setVisible d on
  | .copy => Work.copyCode
  | .line text => Work.appendLine text
  | .files disk => modify fun w => { w with disk }

/-- Whether the workbench offers an action.  A diagram is opened by a command only, and the catalog
stays. -/
def offered : Action → Bool
  | .scene (.operation (.load _)) | .scene (.setCatalog _) => false
  | _ => true

/-- Whether an action can take blocks away and stop for a fault then: opening a project and
deleting, by a command or at the scene. -/
def takesAway : Action → Bool
  | .command c _ _ => c.takesAway
  | .scene (.operation .deleteSelected) | .scene (.menu _) | .scene (.menuOn ..) => true
  | _ => false

end Action

/-- The workbench after an action, whether or not it stopped for a fault. -/
def after (w : Workbench) (a : Action) : Workbench := (a.work.run w).2

def run (w : Workbench) (as : List Action) : Workbench := as.foldl after w

/-- An action that takes blocks away stopped for a fault when the number of blocks had changed. -/
def Action.Interrupted (a : Action) (w : Workbench) : Prop :=
  a.takesAway = true ∧ (a.work.run w).1.isOk = false ∧
    (w.after a).scene.diagram.nodes.length ≠ w.scene.diagram.nodes.length

instance (a : Action) (w : Workbench) : Decidable (a.Interrupted w) :=
  inferInstanceAs (Decidable (_ ∧ _ ∧ _))

/-! ## one action -/

theorem keeps_scene {c : Canvas.Command} (hoffered : (Action.scene c).offered = true)
    (hc : (Action.scene c).takesAway = false) : Keeps InStep (edit c.edit) := by
  have hgrow {α : Type} {e : Edit α}
      (he : ∀ v, Meets (Silent v) e (fun _ => Swollen v) (Swollen v)) :
      Keeps InStep (edit (do let _ ← e)) :=
    keeps_edit_growing fun v => (he v).bind fun _ => meets_pure _
  by_cases hleaves : c.leavesBlocks = true
  · exact inStep_of_inStepAt fun v =>
      keeps_perform (keeps_onCanvas (Edit.keeps_leaving (Edit.undisturbed_told v) hleaves))
  · unfold Canvas.Command.edit
    cases c with
    | operation op =>
      cases op with
      | add type p uid params => exact hgrow fun _ => Edit.swollen_add type p uid params
      | deleteSelected => cases hc
      | load d => cases hoffered
      | _ => exact absurd rfl hleaves
    | menu choice => cases hc
    | menuOn choice target => cases hc
    | drop payload p => exact hgrow fun _ => Edit.meets_drop payload p
    | setCatalog entries => cases hoffered
    | _ => exact absurd rfl hleaves

theorem meets_scene {w₀ : Workbench} (h₀ : w₀.InStep) {c : Canvas.Command}
    (hc : (Action.scene c).takesAway = true) :
    Meets (fun w => w = w₀) (edit c.edit) (fun _ => InStep) (HaltedFrom w₀) := by
  have hthin {α : Type} {e : Edit α}
      (he : ∀ v, Meets (Steady v fun n => n.mute) e (fun _ => Thinned v) (Told v)) :
      Meets (fun w => w = w₀) (edit (do let _ ← e)) (fun _ => InStep) (HaltedFrom w₀) :=
    meets_edit_thinning (fun v => (he v).bind fun _ => meets_pure _) h₀
  unfold Canvas.Command.edit
  cases c with
  | operation op =>
    cases op with
    | deleteSelected => exact hthin fun _ => Edit.thinned_deleteSelected
    | _ => cases hc
  | menu choice => exact hthin fun _ => Edit.meets_menu choice
  | menuOn choice target => exact hthin fun _ => Edit.meets_menuOn choice target
  | _ => cases hc

/-- An action that takes nothing away keeps in step. -/
theorem keeps_work {a : Action} (hoffered : a.offered = true) (ha : a.takesAway = false) :
    Keeps InStep a.work := by
  cases a with
  | command c r ticked => exact keeps_trigger ha r ticked
  | take type middle => exact keeps_addFromPalette type middle
  | scene c => exact keeps_scene hoffered ha
  | sheet a => exact inStep_of_inStepAt fun _ => keeps_perform (told_act a)
  | panel d on => exact inStep_of_stands fun _ => keeps_setVisible d on
  | copy =>
    refine inStep_of_stands fun _ => keeps_get.bind fun w => ?_
    exact .ite (keeps_note _) (keeps_pure _)
  | line text => exact keeps_modify fun _ hw => hw
  | files disk => exact keeps_modify fun _ hw => hw

/-- An action that takes blocks away ends in step, or was halted. -/
theorem meets_work {w₀ : Workbench} (h₀ : w₀.InStep) {a : Action} (ha : a.takesAway = true) :
    Meets (fun w => w = w₀) a.work (fun _ => InStep) (HaltedFrom w₀) := by
  cases a with
  | command c r ticked => exact meets_trigger h₀ ha r ticked
  | scene c => exact meets_scene h₀ ha
  | _ => cases ha

/-- Whatever an action does, the types of blocks stay those of the scene. -/
theorem aligned_after {w : Workbench} (h : w.InStep) {a : Action} (hoffered : a.offered = true) :
    (w.after a).catalog = (w.after a).scene.catalog := by
  cases ha : a.takesAway with
  | false => exact ((keeps_work hoffered ha).run h).1
  | true =>
    have haligned : Meets (fun w' => w' = w) a.work (fun _ w' => w'.catalog = w'.scene.catalog)
        (fun w' => w'.catalog = w'.scene.catalog) :=
      (meets_work h ha).mono (fun _ h => h) (fun _ _ h => h.1) fun _ h => h.1
    exact haligned.run rfl

/-- After an action that was not interrupted, the label is current. -/
theorem current_after_iff {w : Workbench} (h : w.InStep) {a : Action}
    (hoffered : a.offered = true) :
    (w.after a).Current ↔ ¬ a.Interrupted w := by
  rw [current_iff]
  unfold Action.Interrupted after
  cases ha : a.takesAway with
  | false =>
    exact iff_of_true ((keeps_work hoffered ha).run h).2 fun hstopped =>
      Bool.false_ne_true hstopped.1
  | true =>
    rcases meets_work h ha w rfl with ⟨_, w', hrun, hw'⟩ | ⟨fault, w', hrun, -, hw'⟩
    · rw [hrun]
      exact iff_of_true hw'.2 fun hstopped => Bool.false_ne_true hstopped.2.1.symm
    · rw [hrun, hw']
      exact ⟨fun heq hstopped => hstopped.2.2 heq,
        fun hnot => not_not.mp fun hne => hnot ⟨rfl, rfl, hne⟩⟩

/-! ## runs of actions -/

/-- The label is current all along a run just when no action of it was interrupted. -/
theorem current_run_iff {as : List Action} (hoffered : ∀ a ∈ as, a.offered = true) {w : Workbench}
    (h : w.InStep) :
    (∀ k, (w.run (as.take k)).Current) ↔
      ∀ k (hk : k < as.length), ¬ (as.get ⟨k, hk⟩).Interrupted (w.run (as.take k)) := by
  induction as generalizing w with
  | nil =>
    refine iff_of_true (fun k => ?_) fun k hk => absurd hk (Nat.not_lt_zero k)
    rw [List.take_nil]
    exact (current_iff w).mpr h.2
  | cons a as ih =>
    obtain ⟨ha, has⟩ := List.forall_mem_cons.mp hoffered
    -- an interrupted first action makes both sides false; else the rest begins in step
    by_cases hstopped : a.Interrupted w
    · refine iff_of_false (fun hall => ?_) fun hnone => hnone 0 (Nat.succ_pos _) hstopped
      exact (current_after_iff h ha).mp (hall 1) hstopped
    · have hfirst : (w.after a).InStep :=
        ⟨aligned_after h ha, (current_iff _).mp ((current_after_iff h ha).mpr hstopped)⟩
      constructor
      · intro hall k hk
        cases k with
        | zero => exact hstopped
        | succ k => exact (ih has hfirst).mp (fun j => hall (j + 1)) k (Nat.lt_of_succ_lt_succ hk)
      · intro hnone k
        cases k with
        | zero => exact (current_iff w).mpr h.2
        | succ k => exact (ih has hfirst).mpr (fun j hj => hnone (j + 1) (Nat.succ_lt_succ hj)) k

theorem inStep_ready {w : Workbench} (h : w.catalog = w.scene.catalog) : w.ready.InStep :=
  ⟨h, labelFor_congr rfl rfl rfl⟩

/-- A workbench that starts is in step. -/
theorem inStep_of_start {lib : Outcome Library} {w : Workbench} (h : start lib = .ok w) :
    w.InStep := by
  cases lib with
  | ok lib =>
    obtain ⟨catalog, -, hw⟩ := Outcome.bind_eq_ok_iff.mp h
    rw [← Except.ok.inj hw]
    exact inStep_ready rfl
  | error fault =>
    cases fault with
    | library code =>
      rw [← Except.ok.inj h]
      exact inStep_ready rfl
    | _ => cases h

/-- From the start on, the label shows the number of blocks, the board and the port after every
action, as long as no action that takes blocks away is interrupted by a fault. -/
theorem label_current_iff {lib : Outcome Library} {w : Workbench} (hstart : start lib = .ok w)
    {as : List Action} (hoffered : ∀ a ∈ as, a.offered = true) :
    (∀ k, (w.run (as.take k)).Current) ↔
      ∀ k (hk : k < as.length), ¬ (as.get ⟨k, hk⟩).Interrupted (w.run (as.take k)) :=
  current_run_iff hoffered (inStep_of_start hstart)

end Workbench

end Commands

namespace Workbench

open scoped Plain

/-- A block is taken from the palette, selected and deleted again. -/
theorem label_current_deleted :
    let w : Workbench := ready { notes := [.failure "Ошибка чтения палитры"] }
    let as : List Action := [.take (.text "x") {}, .scene (.operation (.select (.card 0) true)),
      .command .delete {} none]
    start (.error (.library .wrongShape)) = .ok w ∧ (∀ a ∈ as, a.offered = true) ∧
      (as.inits.map fun done => (w.run done).scene.diagram.nodes.length) = [0, 1, 1, 0] ∧
      ∀ k, (w.run (as.take k)).Current := by
  intro w as
  have hstart : start (.error (.library .wrongShape)) = .ok w := rfl
  have hoffered : ∀ a ∈ as, a.offered = true := by decide
  refine ⟨hstart, hoffered, by decide +kernel, (label_current_iff hstart hoffered).mpr ?_⟩
  decide +kernel

/-- A project file with a block that has no place is opened.  The block that was there is gone, but
the label still counts it. -/
theorem label_behind_opened :
    let w : Workbench := ready { notes := [.failure "Ошибка чтения палитры"] }
    let text : Text := "\x7b\"nodes\":[\x7b\"type\":\"x\",\"pos\":\x7b\"x\":NaN\x7d\x7d]\x7d"
    let as : List Action :=
      [.take (.text "x") {}, .files (({} : FileTree).store ["p.robojson"] text).1,
      .command .openProject { file := some "p.robojson" } none]
    start (.error (.library .wrongShape)) = .ok w ∧ (∀ a ∈ as, a.offered = true) ∧
      (w.run as).scene.diagram.nodes = [] ∧
      (w.run as).label = "Блоков на сцене: 1 | Плата: — | Порт: —" ∧ ¬ (w.run as).Current := by
  intro w text as
  refine ⟨rfl, by decide, ?_⟩
  decide +kernel

end Workbench

end BlockSketch
