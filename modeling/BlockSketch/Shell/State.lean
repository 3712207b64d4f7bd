import BlockSketch.Shell.Machine
import BlockSketch.Shell.Token

/-!
# BlockSketch.Shell.State

The state of a running script.  What a script reads and writes is kept in a
store of inputs, outputs and files, which all parts of a script share; the rest
belongs to one shell, and a command in a shell of its own leaves it as it was.
-/

namespace BlockSketch.Shell

/-- What a descriptor stands for. -/
inductive Stream where
  -- nothing to read, and what is written is dropped
  | null
  | input (n : Nat)
  | output (n : Nat)
  -- the end of a file
  | file (path : Bytes)
  -- a folder, which cannot be read
  | folder
deriving DecidableEq, Repr, Inhabited

/-- A variable.  Where it is exported, programs see it. -/
structure Variable where
  value : Option Bytes := none
  exported : Bool := false
  readOnly : Bool := false
deriving Inhabited

/-- What keeps commands from being run until it is settled. -/
inductive Skip where
  | break_ (loops : Nat)
  | continue_ (loops : Nat)
  | return_
deriving DecidableEq, Repr

/-- The options of a shell. -/
inductive Setting where
  | errexit | noglob | noexec | xtrace | verbose | noclobber | allexport | nounset
deriving DecidableEq, Repr

namespace Setting

/-- The options in order, with their names and letters. -/
def all : List (Setting × String × Char) :=
  [(.errexit, "errexit", 'e'), (.noglob, "noglob", 'f'), (.noexec, "noexec", 'n'),
   (.xtrace, "xtrace", 'x'), (.verbose, "verbose", 'v'), (.noclobber, "noclobber", 'C'),
   (.allexport, "allexport", 'a'), (.nounset, "nounset", 'u')]

def ofLetter? (c : Char) : Option Setting := (all.find? fun o => o.2.2 = c).map Prod.fst

def ofName? (name : Bytes) : Option Setting :=
  (all.find? fun o => o.2.1.toList = name).map Prod.fst

def letters (settings : List Setting) : Bytes :=
  (all.filter fun o => settings.contains o.1).reverse.map fun o => o.2.2

end Setting

/-- A shell, without what it shares. -/
structure Standing where
  process : Nat := 2
  name : Bytes := []
  words : List Bytes := []
  vars : Assoc Bytes Variable := []
  functions : Assoc Bytes Tree := []
  fds : Assoc Nat Stream := []
  status : Nat := 0
  -- the exit status of the last command inside a word
  wordStatus : Nat := 0
  settings : List Setting := []
  line : Nat := 0
  -- the line up to which the script was read
  readLine : Nat := 0
  depth : Nat := 0
  command : Option Bytes := none
  -- what is run at an exit, which is signal zero, and at signals
  traps : Assoc Nat Bytes := []
  -- the traps of the shell in which this one was started, if it is one of its own
  outerTraps : Option (Assoc Nat Bytes) := none
  -- the signals that were ignored from the start, which no trap can change
  ignored : List Nat := []
  exitStatus : Option Nat := none
  skip : Option Skip := none
  loops : Nat := 0
  -- the variables that functions give back when they end, innermost first
  saved : List (List (Bytes × Option Variable)) := []
  folder : Bytes := []
deriving Inhabited

/-- What all parts of a script share. -/
structure Store where
  inputs : List Bytes := []
  outputs : List Bytes := []
  disk : Disk := []
  -- the shells that have others inside, with their traps
  shells : Assoc Nat (Assoc Nat Bytes) := []
  -- the signals that wait for their traps, with the processes that got them
  signals : List (Nat × Nat) := []
  -- the processes that a signal ended while a part of them goes on
  ended : Assoc Nat Nat := []
deriving Inhabited

/-- What was written to an output. -/
def Store.written (s : Store) (n : Nat) : Bytes := s.outputs.getD n []

/-- A shell at work. -/
structure Session extends Standing where
  store : Store := {}
deriving Inhabited

/-- Why a script ends. -/
inductive Stop where
  | exit
  -- a command failed that had to succeed, or another program took over
  | ended
  | fault
  | killed (process signal : Nat)
  -- commands lie too deep in one another
  | exhausted
deriving DecidableEq, Repr

/-- A step of a script. -/
abbrev Run := ExceptT Stop (StateM Session)

namespace Run

/-- Run something and see how it ends. -/
def ending {α : Type} (act : Run α) : Run (Except Stop α) := fun s =>
  let (result, s) := act s
  (.ok result, s)

def setStatus (n : Nat) : Run Unit := modify fun s => { s with status := n }

def isOn (o : Setting) : Run Bool := return (← get).settings.contains o

/-! ## streams -/

/-- Write to a stream; whether that is possible. -/
def writeTo (stream : Stream) (b : Bytes) : Run Bool := do
  match stream with
  | .null => return true
  | .input _ | .folder => return b.isEmpty
  | .output n =>
    modify fun s => { s with store.outputs := s.store.outputs.modify n (· ++ b) }
    return true
  | .file path =>
    modify fun s => { s with
      store.disk := s.store.disk.put path (s.store.disk.getD path [] ++ b) }
    return true

/-- Write to a descriptor; whether that is possible. -/
def write (fd : Nat) (b : Bytes) : Run Bool := do
  match (← get).fds.get? fd with
  | some stream => writeTo stream b
  | none => return b.isEmpty

def openInput (text : Bytes) : Run Stream := do
  let n := (← get).store.inputs.length
  modify fun s => { s with store.inputs := s.store.inputs ++ [text] }
  return .input n

def openOutput : Run Nat := do
  let n := (← get).store.outputs.length
  modify fun s => { s with store.outputs := s.store.outputs ++ [[]] }
  return n

/-- What is left to read from a descriptor. -/
def unread (fd : Nat) : Run Bytes := do
  let s ← get
  match s.fds.get? fd with
  | some (.input n) => return s.store.inputs.getD n []
  | _ => return []

/-- Leave a part of what a descriptor reads. -/
def setUnread (fd : Nat) (b : Bytes) : Run Unit := do
  match (← get).fds.get? fd with
  | some (.input n) => modify fun s => { s with store.inputs := s.store.inputs.set n b }
  | _ => return

/-! ## complaints -/

/-- Write a line about a problem. -/
def say (message : Bytes) : Run Unit := do
  let s ← get
  let command := match s.command with
    | some c => c ++ bytes ": "
    | none => []
  let _ ← write 2 (s.name ++ bytes ": " ++ decimalText s.line ++ bytes ": " ++ command ++ message ++
    ['\n'])

/-- Report a fault. -/
def fail {α : Type} (message : Bytes) : Run α := do
  say message
  setStatus 2
  throw .fault

/-- Report something that should be a number. -/
def badNumber {α : Type} (b : Bytes) : Run α := fail (bytes "Illegal number: " ++ b)

/-- The number in a word of digits. -/
def number (b : Bytes) : Run Nat := do
  let n := digitsValue b
  if b.isEmpty || !b.all Char.isDigit || 2147483647 < n then badNumber b
  else return n

/-! ## variables -/

def value? (name : Bytes) : Run (Option Bytes) := do
  return ((← get).vars.get? name).bind Variable.value

/-- Stop at a variable that keeps its value. -/
def checkFree (name : Bytes) : Run Unit := do
  if ((← get).vars.getD name {}).readOnly then fail (name ++ bytes ": is read only")

/-- Set a variable. -/
def assign (name value : Bytes) : Run Unit := do
  checkFree name
  modify fun s =>
    let v := s.vars.getD name {}
    let exported := v.exported || s.settings.contains .allexport
    { s with vars := s.vars.put name { v with value := some value, exported } }

/-- Let programs see a variable. -/
def exportVariable (name : Bytes) : Run Unit :=
  modify fun s => { s with vars := s.vars.update name fun v => { v with exported := true } }

/-- Take a variable away. -/
def forget (name : Bytes) : Run Unit := do
  checkFree name
  modify fun s => { s with vars := s.vars.erase name }

/-- Remember a variable, to be given back when the function in hand ends. -/
def remember (name : Bytes) : Run Unit :=
  modify fun s =>
    match s.saved with
    | vars :: rest =>
      if vars.any (·.1 = name) then s
      else { s with saved := ((name, s.vars.get? name) :: vars) :: rest }
    | [] => s

/-- Give back what was remembered last. -/
def giveBack : Run Unit :=
  modify fun s =>
    { s with
      saved := s.saved.tail
      vars := (s.saved.headD []).foldl (fun vars (name, v) =>
        match v with
        | some v => vars.put name v
        | none => vars.erase name) s.vars }

/-- What stands between parts of a word, and between the words of a script when they are joined. -/
def separators : Run Bytes := return (← value? (bytes "IFS")).getD [' ', '\t', '\n']

end Run

end BlockSketch.Shell
