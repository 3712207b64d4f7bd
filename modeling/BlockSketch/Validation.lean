import BlockSketch.Board
import BlockSketch.Program
import BlockSketch.Text.Substitute

/-!
# BlockSketch.Validation

Checks of a program against a registry and a board: a walk over the blocks that
collects complaints and the sections in use, and closing complaints about
sections that nothing uses.
-/

namespace BlockSketch

/-- A complaint about a program. -/
structure Complaint where
  message : Text
  block : Option Text := none
deriving DecidableEq, Repr

def Complaint.render (c : Complaint) : Text :=
  match c.block with
  | some id => if id.isEmpty then c.message else "[" ++ id ++ "] " ++ c.message
  | none => c.message

namespace Validation

/-- What a walk has found. -/
structure Findings where
  complaints : List Complaint := []
  used : List Section := []
deriving DecidableEq, Repr, Inhabited

abbrev Walk := Findings → Outcome Findings

/-- Add a complaint about a block. -/
def Findings.complain (f : Findings) (message : Text) (block : Option Text) : Findings :=
  { f with complaints := f.complaints ++ [⟨message, block⟩] }

/-- Note a section as used. -/
def Findings.use (f : Findings) (s : Section) : Findings :=
  if f.used.contains s then f else { f with used := f.used ++ [s] }

/-- Whether a fault says that a value is no number, rather than too large a one. -/
def isFormFault : Fault → Bool
  | .wrongKind | .malformed => true
  | _ => false

/-- The number of a pin: an analog pin counts by the digits behind its letter. -/
def pinNumber (v : Value) : Outcome Int := do
  let s ← v.spelled
  if s.startsWith "A" then Value.intOfText (Text.substitute "A" "" s) else v.toInt

def checkPin (board : Board) (id : Option Text) (v : Value) : Walk := fun f =>
  match pinNumber v with
  | .error fault =>
    if isFormFault fault then .ok (f.complain "Неверный формат пина" id) else .error fault
  | .ok pin =>
    if board.digital.contains pin then .ok f
    else .ok (f.complain ("Пин D" ++ Value.intText pin ++ " недоступен для платы " ++
      board.name.shown) id)

def checkInt (name : Text) (id : Option Text) (v : Value) : Walk := fun f =>
  match v.toInt with
  | .error fault =>
    if isFormFault fault then .ok (f.complain ("Параметр '" ++ name ++ "' должен быть числом") id)
    else .error fault
  | .ok _ => .ok f

def checkParameter (board : Board) (id : Option Text) (values : Fields) (p : Parameter) : Walk :=
  fun f =>
    match values.get p.name p.default with
    | .null => .ok (f.complain ("Не задан параметр '" ++ p.name ++ "'") id)
    | v =>
      if p.type = "digital_pin" then checkPin board id v f
      else if p.type = "int" then checkInt p.name id v f
      else .ok f

/-- The sections a definition uses. -/
def usedBy (d : Definition) : List Section :=
  d.target.toList ++ (if d.setup.isEmpty then [] else [.setup]) ++
    (if d.globals.isEmpty then [] else [.globals])

/-- Run steps one after the other. -/
def runAll (steps : List Walk) : Walk := fun f => steps.foldlM (fun f step => step f) f

/-- Check a block, given the checks of its children. -/
def checkBlock (r : Registry) (board : Board) (id : Option Text) (definition : Text)
    (values : Fields) (children : Assoc Text (List Walk)) : Walk := fun f =>
  match Assoc.get? r.definitions definition with
  | none => .ok (f.complain "Неизвестный тип блока" id)
  | some d => do
    let f := (usedBy d).foldl Findings.use f
    let f ← runAll (d.parameters.map (checkParameter board id values)) f
    runAll (d.containers.flatMap fun c => Assoc.getD children c.name []) f

mutual

/-- Check a tree of blocks. -/
def walk (r : Registry) (board : Board) : Block → Walk
  | .mk id definition values children =>
    checkBlock r board id definition values (slotWalks r board children)

/-- The checks of the children of every container. -/
def slotWalks (r : Registry) (board : Board) :
    List (Text × List Block) → Assoc Text (List Walk)
  | [] => []
  | (name, blocks) :: rest => (name, listWalks r board blocks) :: slotWalks r board rest

/-- The checks of the blocks of a list. -/
def listWalks (r : Registry) (board : Board) : List Block → List Walk
  | [] => []
  | b :: rest => walk r board b :: listWalks r board rest

end

/-- The complaints about sections that nothing uses. -/
def closing (used : List Section) : List Complaint :=
  (if used.contains .loop then [] else [⟨"В цикле loop() отсутствуют исполняемые блоки", none⟩]) ++
    ([Section.loop, Section.setup].filter fun s => !used.contains s).map fun s =>
      ⟨"Секция '" ++ s.name ++ "' пуста", none⟩

/-- Check a program. -/
def validate (r : Registry) (board : Board) (p : Program) : Outcome (List Complaint) :=
  match p.root with
  | none => .ok [⟨"Проект не содержит корневого блока EV_START", none⟩]
  | some root => do
    let f ← walk r board root {}
    return f.complaints ++ closing f.used

end Validation

end BlockSketch
