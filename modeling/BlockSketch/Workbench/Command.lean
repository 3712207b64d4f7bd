import BlockSketch.Diagram.Outline
import BlockSketch.Diagram.Project
import BlockSketch.Workbench.Basic

/-!
# BlockSketch.Workbench.Command

The commands of the workbench, from its menus and its shortcut keys.
-/

namespace BlockSketch

/-- What the user answers to the dialogs of a command. -/
structure Replies where
  -- the name of the file; none, or an empty one, when no file was chosen
  file : Option Text := none
  input : Text := ""
  accepted : Bool := false
  -- whether the keys go to a text field
  inText : Bool := false
deriving Inhabited

/-- The file that was chosen. -/
def Replies.chosen? (r : Replies) : Option Text := r.file.filter (!·.isEmpty)

/-- What is chosen by name for a project. -/
inductive Choice where
  | board
  | port
deriving DecidableEq, Repr, Inhabited

inductive Command where
  | newProject
  | openProject
  | save
  | saveAs
  | exit
  | delete
  | choose (c : Choice)
  | scan
  | generate
  | compile
  | upload
  | theme (dark : Bool)
  | toggle (d : Dock)
  | openMonitor
  | telemetry
  | simulator
  | about
  | zoom (inward : Bool)
  | resetZoom
deriving DecidableEq, Repr, Inhabited

def Command.ofKey? : String → Option Command
  | "Ctrl+N" => some .newProject
  | "Ctrl+O" => some .openProject
  | "Ctrl+S" => some .save
  | "Backspace" | "Delete" => some .delete
  | "ZoomIn" => some (.zoom true)
  | "ZoomOut" => some (.zoom false)
  | "Ctrl+0" => some .resetZoom
  | _ => none

variable [Platform]

namespace Choice

def title : Choice → Text
  | .board => "Выбор платы"
  | .port => "Выбор порта"

def question : Choice → Text
  | .board => "Введите идентификатор платы:"
  | .port => "Введите имя порта (например, COM3):"

/-- The words before the name that was chosen. -/
def confirmation : Choice → Text
  | .board => "Выбрана плата: "
  | .port => "Выбран порт: "

def blankMessage : Choice → Text
  | .board => "Укажите название платы для продолжения."
  | .port => "Имя порта не может быть пустым."

def current (w : Workbench) : Choice → Value
  | .board => w.board
  | .port => w.port

/-- Choose a value. -/
def set (w : Workbench) (v : Value) : Choice → Workbench
  | .board => { w with board := v }
  | .port => { w with port := v }

/-- The name that was chosen, `none` when there is none.  A list or a dictionary is no name. -/
def name? : Value → Outcome (Option Value)
  | .list _ | .dict _ => .error .wrongKind
  | .null => .ok none
  | .text s => .ok (if s = notChosen then none else some (.text s))
  | v => .ok (some v)

end Choice

namespace Work

/-! ## projects -/

/-- The ending of the names of project files. -/
def projectEnding : Text := ".robojson"

def failureTitle : Text := "Ошибка"

/-- Begin an empty project. -/
def newProject : Work Unit := do
  edit (Canvas.Edit.load {})
  modify fun w => { w with project := none }
  status "Создан новый проект" 3000
  relabel (← get).scene
  atSheet Inspect.clear

def openFile (path : Text.FilePath) : Work Unit := do
  let w ← get
  let content := match w.disk.read path.parts with
    | .ok text => Json.Content.text text Platform.room
    | .error _ => .missing
  let aliases := w.aliases.map fun e => (e.1, Value.text e.2)
  match Project.load (.dict aliases) .null content with
  | .error _ => note (.failure failureTitle)
  | .ok (p, _) =>
    edit (Canvas.Edit.load p.diagram)
    modify fun w => { w with
      project := some path
      folder := path.parent
      board := p.board.orElse (.text notChosen)
      port := p.port.orElse (.text notChosen) }
    let s := (← get).scene
    relabel s
    followSelection s
    status ("Проект загружен: " ++ path.name) 4000

/-- Save the project to a file. -/
def saveTo (path : Text.FilePath) : Work Unit := do
  let w ← get
  let board ← MonadExcept.ofExcept (Choice.name? w.board)
  let port ← MonadExcept.ofExcept (Choice.name? w.port)
  let p : Project := ⟨w.scene.diagram, board.getD .null, port.getD .null⟩
  let (disk, fault) := w.disk.store path.parts p.fileText
  modify fun w => { w with disk }
  if fault.isSome then note (.failure failureTitle)
  else status ("Проект сохранён: " ++ path.name) 4000

/-- The project file that is chosen by a name, which gets the ending of project files.  A path
without a part, such as the root, cannot get it. -/
def projectFile (name : Text) : Outcome Text.FilePath :=
  let path := Text.FilePath.ofText name
  if Text.lower path.suffix = projectEnding then .ok path
  else match path.withSuffix? projectEnding with
    | some path => .ok path
    | none => .error .malformed

/-- Save the project to the file that is chosen. -/
def saveAs (file : Option Text) : Work Unit := do
  if let some file := file then
    let path ← MonadExcept.ofExcept (projectFile file)
    modify fun w => { w with folder := path.parent }
    saveTo path
    modify fun w => { w with project := some path }

/-! ## the other commands -/

/-- Delete what is selected, unless the keys go to a text field. -/
def deleteSelection (inText : Bool) : Work Unit := do
  if !inText then
    let removed ← edit Canvas.Edit.deleteSelected
    let s := (← get).scene
    if removed.any then relabel s
    updateDelete s
    followSelection s

/-- Choose the board or the port by name. -/
def choose (c : Choice) (r : Replies) : Work Unit := do
  let offered ← MonadExcept.ofExcept (Choice.name? (c.current (← get)))
  note (.question c.title c.question (offered.getD (.text "")))
  if r.accepted then
    let name := Text.trim r.input
    if name.isEmpty then inform c.title c.blankMessage
    else
      modify fun w => c.set w (.text name)
      relabel (← get).scene
      status (c.confirmation ++ name) 3000

def scale (s : Canvas.Scaling) : Work Unit :=
  modify fun w => { w with scalings := w.scalings ++ [s] }

/-- Execute a command; `on` tells whether its menu entry is ticked now. -/
def execute (c : Command) (r : Replies) (on : Bool) : Work Unit := do
  match c with
  | .newProject => newProject
  | .openProject => if let some file := r.chosen? then openFile (Text.FilePath.ofText file)
  | .save =>
    match (← get).project with
    | some path => saveTo path
    | none => saveAs r.chosen?
  | .saveAs => saveAs r.chosen?
  | .exit => note .closed
  | .delete => deleteSelection r.inText
  | .choose c => choose c r
  | .scan => inform "Сканирование устройств" "Поиск плат и портов будет добавлен позже."
  | .generate =>
    modify fun w => { w with code := w.scene.diagram.outline }
    status "Скетч обновлён" 3000
  | .compile => inform "Компиляция" "Компиляция прошивки будет добавлена в следующих версиях."
  | .upload => inform "Загрузка прошивки" "Загрузка прошивки пока недоступна."
  | .theme dark =>
    if on then
      inform "Настройка темы" ((if dark then "Тёмная" else "Светлая") ++
        " тема интерфейса будет доступна в следующих обновлениях.")
  | .toggle d => setVisible d on
  | .openMonitor =>
    tick .monitor true
    setVisible .monitor true
    status "Сериал-монитор открыт" 2000
  | .telemetry => inform "Телеметрия" "Модуль телеметрии находится в разработке."
  | .simulator => inform "Симулятор" "2D-симулятор будет доступен в будущих релизах."
  | .about => note (.about "Arduino RoboLab" "Arduino RoboLab (Preview)\nВерсия: 0.1.0")
  | .zoom inward => scale (.by (Canvas.View.freeFactor inward))
  | .resetZoom => scale .reset

/-- Choose a command from a menu, whose entry is ticked first when `ticked` says so. -/
def trigger (c : Command) (r : Replies) (ticked : Option Bool) : Work Unit := do
  if let .toggle d := c then
    if let some on := ticked then tick d on
  execute c r (ticked.getD false)

/-- Add a block of the palette at the middle of the view. -/
def addFromPalette (type : Value) (middle : Canvas.Point) : Work Unit := do
  if type.isSet then
    let _ ← edit (Canvas.Edit.add type middle "" [])
    relabel (← get).scene

def copyCode : Work Unit := do
  let code := (← get).code
  if !code.isEmpty then note (.copied code)

/-- Add a line to the serial monitor. -/
def appendLine (line : Text) : Work Unit :=
  modify fun w =>
    { w with monitor := if w.monitor.isEmpty then line else w.monitor ++ "\n" ++ line }

end Work

end BlockSketch
