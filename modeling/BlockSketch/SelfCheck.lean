import BlockSketch.Canvas.Edit
import BlockSketch.Files.Tree
import BlockSketch.Json.Reader
import BlockSketch.Json.Writer
import BlockSketch.Text.Encoding

/-!
# BlockSketch.SelfCheck

The check of a working copy: the files that have to be there, the marks that some
of them have to hold or must not hold, and two short scenarios of the program
itself.
-/

namespace BlockSketch.SelfCheck

/-- The files that have to be there. -/
def required : List Text :=
  ["app/ui/main_window.py", "app/ui/canvas/model.py", "app/ui/canvas/items.py",
   "app/ui/canvas/canvas_scene.py", "app/ui/widgets/block_list.py",
   "app/ui/widgets/canvas_view.py", "app/ui/widgets/code_panel.py"]

/-- A complaint about the text of a file, raised when the condition holds. -/
structure Rule where
  broken : Text → Bool
  complaint : Text

/-- A text that has to occur. -/
def needs (mark complaint : Text) : Rule := ⟨fun text => !Text.contains text mark, complaint⟩

/-- A text that has to be found, by the name it is known by. -/
def finds (mark label : Text) : Rule := needs mark (label ++ " not found")

/-- Texts of which one has to occur. -/
def needsOne (marks : List Text) (complaint : Text) : Rule :=
  ⟨fun text => !marks.any (Text.contains text), complaint⟩

/-- Texts that must not occur. -/
def forbids (marks : List Text) (complaint : Text) : Rule :=
  ⟨fun text => marks.any (Text.contains text), complaint⟩

/-- The marks that an unfinished merge leaves. -/
def mergeMarks : List Text := ["<<<<<<<", "=======", ">>>>>>>"]

structure FileCheck where
  path : Text
  rules : List Rule

def FileCheck.name (c : FileCheck) : Text := (Text.FilePath.ofText c.path).name

/-- The format in which blocks are handed over, as the files have to spell it. -/
def formatMark : Text := "from ..common.mime import BLOCK_MIME"

/-- The checks of the files that are looked at first. -/
def firstChecks : List FileCheck :=
  [⟨"app/ui/common/mime.py",
      [finds "BLOCK_MIME = \"application/x-robolab-block\"" "BLOCK_MIME constant"]⟩,
   ⟨"app/ui/canvas/canvas_scene.py",
      [finds formatMark "canvas_scene imports BLOCK_MIME",
       needs "catalog_defaults = metadata.get(\"default_params\")"
         "default_params merge block missing",
       forbids ["MIME_BLOCK"] "legacy MIME_BLOCK symbol detected",
       forbids mergeMarks "merge markers detected",
       needs "def delete_selection" "delete_selection helper missing"]⟩]

/-- The checks of the other files. -/
def laterChecks : List FileCheck :=
  [⟨"app/ui/widgets/block_list.py",
      [finds "mime.setData(BLOCK_MIME" "block_list uses shared BLOCK_MIME",
       needs formatMark "BLOCK_MIME import missing"]⟩,
   ⟨"app/ui/canvas/items.py",
      [finds "class BlockItem" "class BlockItem declaration",
       finds "class PortItem" "class PortItem declaration",
       finds "class ConnectionItem" "class ConnectionItem declaration",
       forbids mergeMarks "merge markers detected"]⟩,
   ⟨"app/ui/main_window.py",
      [needs "Удалить выделенное" "Delete action missing",
       needs "QApplication.focusWidget" "focus guard missing",
       needsOne ["_TEXT_INPUT_WIDGETS", "TEXT_INPUT_WIDGETS"] "text input guard tuple missing"]⟩]

/-- The two files of which one has to guard the delete key. -/
def guardFiles : List Text := ["app/ui/widgets/canvas_view.py", "app/ui/canvas/canvas_view.py"]

def fileText (t : FileTree) (path : Text) : Outcome Text := do
  match (← t.read (FileTree.partsOf path)).reread? with
  | some s => return s
  | none => .error .notEncodable

/-- Why a file cannot be read, in words. -/
def readProblem (folder path : Text) (f : Fault) : Text :=
  let problem := match f with
    | .notADirectory => "[Errno 20] Not a directory"
    | .isADirectory => "[Errno 21] Is a directory"
    | _ => "[Errno 2] No such file or directory"
  problem ++ ": '" ++ folder ++ "/" ++ path ++ "'"

def FileCheck.complaints (folder : Text) (t : FileTree) (c : FileCheck) : List Text :=
  match fileText t c.path with
  | .ok text => (c.rules.filter fun r => r.broken text).map fun r => c.name ++ ": " ++ r.complaint
  | .error f => [c.name ++ " read failed: " ++ readProblem folder c.path f]

/-- The complaint about the guard of the delete key. -/
def guardComplaints (t : FileTree) : List Text :=
  let guarded := guardFiles.any fun path =>
    match fileText t path with
    | .ok text => Text.contains text "QApplication.focusWidget"
    | .error _ => false
  if guarded then [] else ["canvas_view.py: focus guard for Delete missing"]

/-- The complaints about files that are not there. -/
def missingComplaints (t : FileTree) : List Text :=
  (required.filter fun path => !t.has (FileTree.partsOf path)).map fun path =>
    "Missing file: " ++ path

/-- The complaints about required files that stand there and cannot be read. -/
def unreadableComplaints (folder : Text) (t : FileTree) : List Text :=
  required.filterMap fun path =>
    if t.isFolder (FileTree.partsOf path) then
      some (folder ++ "/" ++ path ++ ": Unexpected error: " ++
        readProblem folder path .isADirectory)
    else none

/-! ## scenarios -/

/-- The complaint when a condition does not hold. -/
def expect (holds : Bool) (complaint : Text) : List Text := if holds then [] else [complaint]

/-- A diagram of three blocks in a row loses a link and then a block. -/
def diagramScenario : List Text :=
  let node (uid type : Text) : Node := { uid, type := .text type }
  let ab : Link := ⟨"A", "out", "B", "in"⟩
  let bc : Link := ⟨"B", "out", "C", "in"⟩
  let d : Diagram :=
    ⟨[node "A" "logic/start", node "B" "logic/step", node "C" "logic/end"], [ab, bc]⟩
  let cut := d.removeLink ab
  let rest := cut.removeNode "B"
  let restored := (Json.parse .usual (Json.render rest.toDocument).plain).toOption.bind fun v =>
    (Diagram.ofDocument v).toOption
  expect (cut.links.length == 1) "ProjectModel: connection removal inconsistent" ++
  expect (!cut.links.contains ab) "ProjectModel: dangling reference to removed connection" ++
  expect (rest.nodes.all fun n => n.uid != "B") "ProjectModel: block removal failed" ++
  expect (rest.linksOf "B").isEmpty "ProjectModel: edges referencing removed block remain" ++
  expect (match restored with
    | some d =>
      let uids := d.nodes.map (·.uid)
      d.links.all fun l => uids.contains l.fromUid && uids.contains l.toUid
    | none => false) "ProjectModel: roundtrip produced dangling connections"

/-- Presets come before listed defaults, and given values before both. -/
def presetScenario : List Text :=
  let entry : Fields :=
    [("default_params", .dict [("threshold", .float 0.5), ("7", .text "lucky")]),
     ("params", .list
       [.dict [("name", .text "mode"), ("default", .text "auto")], .text "garbage",
        .dict [("name", .text "threshold"), ("default", .float 0.25)]])]
  let merged := Canvas.Edit.startValues entry [("mode", .text "manual"), ("11", .int 42)]
  let expected : Fields :=
    [("threshold", .float 0.5), ("7", .text "lucky"), ("mode", .text "manual"), ("11", .int 42)]
  expect (merged == expected) ("Default merge simulation mismatch: expected " ++
    (Value.dict expected).written ++ ", got " ++ (Value.dict merged).written)

/-! ## the report -/

/-- All complaints about a working copy, named by its folder. -/
def complaints (folder : Text) (t : FileTree) : List Text :=
  missingComplaints t ++ unreadableComplaints folder t ++
    firstChecks.flatMap (FileCheck.complaints folder t) ++ guardComplaints t ++
    laterChecks.flatMap (FileCheck.complaints folder t) ++ diagramScenario ++ presetScenario

def report (complaints : List Text) : List Text :=
  if complaints.isEmpty then ["SMOKE CI: OK"]
  else "SMOKE CI: FAIL" :: complaints.map (" - " ++ ·)

def exitCode (complaints : List Text) : Nat := if complaints.isEmpty then 0 else 1

end BlockSketch.SelfCheck
