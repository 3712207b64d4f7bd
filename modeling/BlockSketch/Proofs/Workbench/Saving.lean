import BlockSketch.Proofs.Step
import BlockSketch.Platform.Plain
import BlockSketch.Workbench.Command

/-!
# BlockSketch.Proofs.Workbench.Saving

What saving does to the workbench.  The project is written to the file at hand, or to one that is
chosen; the chosen file becomes the file at hand, and its folder the one in which files are asked
for, whether or not the project could be written.

* `run_saveTo` — writing the project to a file;
* `run_saveTo_of_refused`, `run_saveAs_of_refused` — what is left when that fails;
* `asBefore_of_refused_iff` — when it leaves the workbench as it was.
-/

namespace BlockSketch

def Workbench.chosenFile? (r : Replies) : Option Text.FilePath :=
  r.chosen?.bind fun name => (Work.projectFile name).toOption

/-- A file is chosen by a name that is that of a project file. -/
theorem Workbench.chosenFile?_eq_some_iff {r : Replies} {path : Text.FilePath} :
    chosenFile? r = some path ↔
      ∃ name, r.chosen? = some name ∧ Work.projectFile name = .ok path := by
  unfold chosenFile?
  rw [Option.bind_eq_some_iff]
  refine exists_congr fun name => and_congr_right fun _ => ?_
  cases Work.projectFile name <;> simp [Except.toOption]

section Files

variable [Platform]

namespace Workbench

/-- The project at hand as it is saved. -/
def saved (w : Workbench) : Outcome Project := do
  let board ← Choice.name? w.board
  let port ← Choice.name? w.port
  return ⟨w.scene.diagram, board.getD .null, port.getD .null⟩

/-- The workbench once a project was written to a file, or could not be. -/
def stored (w : Workbench) (path : Text.FilePath) (p : Project) : Workbench :=
  let written := w.disk.store path.parts p.fileText
  { w with
    disk := written.1
    notes := w.notes ++ [if written.2.isSome then .failure Work.failureTitle
      else .status ("Проект сохранён: " ++ path.name) 4000] }

/-- The project at hand cannot be written to a file. -/
def Refuses (w : Workbench) (path : Text.FilePath) : Prop :=
  ∃ p, w.saved = .ok p ∧ (w.disk.store path.parts p.fileText).2.isSome = true

/-- The file that a command saves to, as the user answers it. -/
def target? (w : Workbench) (c : Command) (r : Replies) : Option Text.FilePath :=
  match c with
  | .save => w.project.or (chosenFile? r)
  | .saveAs => chosenFile? r
  | _ => none

/-- Two workbenches have the same project at hand: its file, the folder of files, the board and the
port, and the blocks and links of the scene. -/
structure AsBefore (w w' : Workbench) : Prop where
  project : w'.project = w.project
  folder : w'.folder = w.folder
  board : w'.board = w.board
  port : w'.port = w.port
  nodes : w'.scene.nodes = w.scene.nodes
  links : w'.scene.links = w.scene.links

end Workbench

namespace Work

open Workbench

/-- Saving writes the project, or shows that it could not. -/
theorem run_saveTo {w : Workbench} {p : Project} (h : w.saved = .ok p) (path : Text.FilePath) :
    (saveTo path).run w = (.ok (), w.stored path p) := by
  obtain ⟨board, hboard, h⟩ := Outcome.bind_eq_ok_iff.mp h
  obtain ⟨port, hport, h⟩ := Outcome.bind_eq_ok_iff.mp h
  cases h
  have hboard : (MonadExcept.ofExcept (Choice.name? w.board) : Work _).run w = (.ok board, w) := by
    rw [hboard, run_ofExcept]
  have hport : (MonadExcept.ofExcept (Choice.name? w.port) : Work _).run w = (.ok port, w) := by
    rw [hport, run_ofExcept]
  refine (run_of_ok rfl).trans ((run_of_ok hboard).trans ((run_of_ok hport).trans ?_))
  unfold stored
  dsimp only
  generalize w.disk.store path.parts _ = written
  obtain ⟨disk, fault⟩ := written
  cases fault <;> rfl

/-- A project that cannot be written is still at hand, and the failure is shown. -/
theorem run_saveTo_of_refused {path : Text.FilePath} {w : Workbench} (h : w.Refuses path) :
    ∃ disk, (saveTo path).run w =
      (.ok (), { w with disk, notes := w.notes ++ [.failure failureTitle] }) := by
  obtain ⟨p, hsaved, hfault⟩ := h
  refine ⟨(w.disk.store path.parts p.fileText).1, ?_⟩
  rw [run_saveTo hsaved]
  simp only [stored, hfault, if_true]

/-- A file that is chosen becomes the file at hand even if the project cannot be written to it. -/
theorem run_saveAs_of_refused {name : Text} {path : Text.FilePath} {w : Workbench}
    (hname : projectFile name = .ok path) (h : w.Refuses path) :
    ∃ disk, (saveAs (some name)).run w = (.ok (), { w with
      disk
      notes := w.notes ++ [.failure failureTitle]
      project := some path
      folder := path.parent }) := by
  have hpath : (MonadExcept.ofExcept (projectFile name) : Work _).run w = (.ok path, w) := by
    rw [hname, run_ofExcept]
  -- the folder is set before the project is written, and writing does not look at it
  have hthere : ({ w with folder := path.parent } : Workbench).Refuses path := h
  obtain ⟨disk, hto⟩ := run_saveTo_of_refused hthere
  exact ⟨disk, (run_of_ok hpath).trans ((run_of_ok rfl).trans ((run_of_ok hto).trans rfl))⟩

/-- A command saves to the file at hand, or to one that is chosen. -/
theorem run_execute_of_target {w : Workbench} {c : Command} {r : Replies} {path : Text.FilePath}
    (h : w.target? c r = some path) (on : Bool) :
    (c = .save ∧ w.project = some path ∧ (execute c r on).run w = (saveTo path).run w) ∨
      (c = .save → w.project = none) ∧ ∃ name, projectFile name = .ok path ∧
        (execute c r on).run w = (saveAs (some name)).run w := by
  cases c with
  | save =>
    cases hproject : w.project with
    | some file =>
      have hpath : file = path := by simpa [target?, hproject] using h
      refine .inl ⟨rfl, by rw [hpath], (run_of_ok rfl).trans ?_⟩
      rw [hproject, hpath]
    | none =>
      have hchosen : chosenFile? r = some path := by simpa [target?, hproject] using h
      obtain ⟨name, hname, hpath⟩ := chosenFile?_eq_some_iff.mp hchosen
      refine .inr ⟨fun _ => rfl, name, hpath, (run_of_ok rfl).trans ?_⟩
      rw [hproject, hname]
  | saveAs =>
    obtain ⟨name, hname, hpath⟩ := chosenFile?_eq_some_iff.mp h
    refine .inr ⟨fun hsave => absurd hsave (by decide), name, hpath, ?_⟩
    rw [← hname]
    rfl
  | _ => cases h

end Work

open Work

/-- When a command that saves fails to write its file, the failure is shown, and the board, the port
and the scene are as they were.  But the file becomes the file at hand, and a file that was chosen
also decides the folder; so all is as it was exactly when the file at hand was saved, or was
chosen again in the folder in which files are asked for. -/
theorem Workbench.asBefore_of_refused_iff (w : Workbench) (c : Command) (r : Replies) (on : Bool)
    (path : Text.FilePath) (htarget : w.target? c r = some path) (hrefused : w.Refuses path) :
    ∃ w', (execute c r on).run w = (.ok (), w') ∧ w'.notes = w.notes ++ [.failure failureTitle] ∧
      w'.board = w.board ∧ w'.port = w.port ∧ w'.scene = w.scene ∧ w'.project = some path ∧
      (w.AsBefore w' ↔ w.project = some path ∧ (c = .save ∨ w.folder = path.parent)) := by
  rcases run_execute_of_target htarget on with ⟨hsave, hproject, hrun⟩ | ⟨hnone, name, hpath, hrun⟩
  · obtain ⟨disk, hto⟩ := run_saveTo_of_refused hrefused
    refine ⟨_, hrun.trans hto, rfl, rfl, rfl, rfl, hproject, ?_⟩
    exact iff_of_true ⟨rfl, rfl, rfl, rfl, rfl, rfl⟩ ⟨hproject, .inl hsave⟩
  · obtain ⟨disk, hto⟩ := run_saveAs_of_refused hpath hrefused
    refine ⟨_, hrun.trans hto, rfl, rfl, rfl, rfl, rfl, ?_⟩
    constructor
    · intro hsame
      exact ⟨hsame.project.symm, .inr hsame.folder.symm⟩
    · rintro ⟨hproject, hsave | hfolder⟩
      · rw [hnone hsave] at hproject
        cases hproject
      · exact ⟨hproject.symm, hfolder.symm, rfl, rfl, rfl, rfl⟩

end Files

section Crowded

open Work
open scoped Plain

/-- A new project, and a file where a folder is wanted. -/
def Workbench.crowded : Workbench := { disk := ⟨[(["x"], .file "")]⟩ }

/-- The project of the crowded workbench cannot be saved below the file. -/
theorem Workbench.asBefore_of_refused_crowded :
    Workbench.crowded.target? .saveAs { file := some "x/y" } = some ⟨"", ["x", "y.robojson"]⟩ ∧
      Workbench.crowded.Refuses ⟨"", ["x", "y.robojson"]⟩ ∧
      ∃ w', (execute .saveAs { file := some "x/y" } false).run .crowded = (.ok (), w') ∧
        ¬ Workbench.crowded.AsBefore w' := by
  have htarget : Workbench.crowded.target? .saveAs { file := some "x/y" } =
      some ⟨"", ["x", "y.robojson"]⟩ := by decide +kernel
  have hrefused : Workbench.crowded.Refuses ⟨"", ["x", "y.robojson"]⟩ :=
    ⟨⟨{}, .null, .null⟩, rfl, by decide +kernel⟩
  obtain ⟨w', hrun, -, -, -, -, -, hiff⟩ :=
    Workbench.asBefore_of_refused_iff .crowded .saveAs { file := some "x/y" } false _ htarget
      hrefused
  refine ⟨htarget, hrefused, w', hrun, fun hsame => ?_⟩
  exact absurd (hiff.mp hsame).1 (by decide)

/-- The file that could not be made becomes the file at hand, although nothing was saved. -/
theorem Workbench.project_moved_of_refused :
    Workbench.crowded.project = none ∧
      ((execute .saveAs { file := some "x/y" } false).run .crowded).2.notes =
        [.failure failureTitle] ∧
      ((execute .saveAs { file := some "x/y" } false).run .crowded).2.project =
        some ⟨"", ["x", "y.robojson"]⟩ := by
  decide +kernel

end Crowded

end BlockSketch
