import BlockSketch.Firmware.Flasher
import BlockSketch.Shell.Eval

/-!
# BlockSketch.Shell.Program

Running programs: the small ones, and shells with a script.  Here the runners of
commands are tied up, and a command is run from outside.
-/

namespace BlockSketch.Shell

namespace Run

/-! ## shells -/

/-- The options and words that a shell is called with: whether a word is the script, and the other
words, of which there are at most so many. -/
def shellLine : Nat → Bool → List Bytes → Run (Bool × List Bytes)
  | n + 1, isText, words => do
    match words with
    | ['-'] :: rest | ['-', '-'] :: rest => return (isText, rest)
    | ('-' :: letters) :: rest => do
      let rest ← setLetters true (letters.filter (· ≠ 'c')) rest
      shellLine n (isText || letters.contains 'c') rest
    | ('+' :: letters) :: rest => do shellLine n isText (← setLetters false letters rest)
    | words => return (isText, words)
  | 0, isText, words => return (isText, words)

/-- Run the script that a shell is given: a word, a file or what it reads. -/
def shellScript (r : Runner) (words : List Bytes) : Run Unit := do
  match ← shellLine (words.length + 1) false words with
  | (true, []) => fail (bytes "-c requires an argument")
  | (true, text :: rest) =>
    modify fun s => { s with name := rest.headD s.name, words := rest.drop 1 }
    setStatus (← script r false text)
  | (false, path :: rest) =>
    match ← place path with
    | .written content =>
      modify fun s => { s with name := path, words := rest }
      setStatus (← script r false content)
    | .missing | .underFile => fail (bytes "cannot open " ++ path ++ bytes ": No such file")
    | _ => return
  | (false, []) =>
    let text ← unread 0
    setUnread 0 []
    setStatus (← script r false text)

/-- The variables that a shell starts with, besides those it is handed. -/
def startVariables (folder : Bytes) (vars : Assoc Bytes Variable) : Assoc Bytes Variable :=
  let own : List (String × Bytes) := [("IFS", [' ', '\t', '\n']), ("PS4", bytes "+ ")]
  let vars := own.foldl (fun vars (name, value) =>
    vars.put (bytes name) { vars.getD (bytes name) {} with value := some value }) vars
  let vars := vars.putNew (bytes "PATH") { value := some usualProgramPath }
  vars.put (bytes "PWD") { value := some folder, exported := true }

/-- Run a shell.  It ignores the signals that the shell which started it ignores. -/
def shell (r : Runner) (argv : List Bytes) : Run Int := do
  let outer ← get
  let process := outer.process + 1
  let traps := outer.outerTraps.getD outer.traps
  set {
    process
    name := argv.headD []
    vars := startVariables outer.folder
      (outer.vars.filter fun entry => entry.2.exported && entry.2.value.isSome)
    fds := outer.fds
    ignored := outer.ignored ++ (outer.traps.filter fun e => e.2.isEmpty && e.1 ≠ 0).map Prod.fst
    folder := outer.folder
    store := { outer.store with shells := outer.store.shells.put outer.process traps } : Session }
  let result ← ending (do settle r (← ending (shellScript r argv.tail)))
  let after ← get
  set { outer with store := { after.store with shells := outer.store.shells } }
  checkEnded
  match result with
  | .ok () => return (after.status % 256 : Nat)
  | .error (.killed p signal) => if p = process then return -signal else throw (.killed p signal)
  | .error stop => throw stop

/-! ## programs -/

/-- Run a small program. -/
def tool (name : Bytes) (argv : List Bytes) : Run Int := do
  let f := runTool name (argv.headD []) argv.tail
  let written ← write 1 f.out
  let _ ← write 2 f.err
  if written then return f.status
  else
    let _ ← write 2 (complaint (argv.headD []) (bytes "write error: Bad file descriptor"))
    return 1

/-- Run a program by its name. -/
def program (r : Runner) (name : Bytes) (argv : List Bytes) : Run Int :=
  if name = bytes "sh" || name = bytes "dash" then shell r argv else tool name argv

end Run

/-- The runner for commands that lie at most so deep in one another. -/
def runner : Nat → Runner
  | 0 => ⟨fun _ _ => throw .exhausted, fun _ _ => throw .exhausted⟩
  | n + 1 =>
    { eval := fun tested t => Run.evalTree (runner n) tested t
      program := fun name argv => Run.program (runner n) name argv }

/-- How deep commands may lie in one another. -/
def maxCommandDepth : Nat := 100000

/-- The signal of a process whose stack is used up. -/
def stackSignal : Int := 11

/-! ## commands from outside -/

/-- The folder in which commands from outside are run. -/
def startFolder : Bytes := bytes "/root"

/-- The longest word of a command. -/
def maxWordLength : Nat := 131071

/-- The program that a command names, or why it cannot be run. -/
def programOf (name : Bytes) : Outcome Bytes :=
  let places := (candidates usualProgramPath name).map (Disk.place [] startFolder)
  let program? := places.findSome? fun
    | .program n => some n
    | _ => none
  let found := places.filter fun p => p ≠ .missing && p ≠ .underFile
  match program?, found with
  | some n, _ => .ok n
  | none, p :: _ => .error (if p = .tooLong then .nameTooLong else .notAllowed)
  | none, [] =>
    if name.contains '/' && places.contains .underFile then .error .notADirectory
    else .error .noSuchFile

/-- Run a command, with nothing to read. -/
def runCommand (words : List Bytes) : Outcome Finished := do
  match words with
  | [] => .error .outOfRange
  | name :: _ =>
    let program ← programOf name
    if words.any fun w => maxWordLength < w.length then .error .nameTooLong
    let environment : List (String × Bytes) := [("HOME", startFolder), ("PATH", usualProgramPath)]
    let start : Session := {
      process := 1
      vars := environment.map fun (n, value) => (bytes n, { value := some value, exported := true })
      fds := [(0, .input 0), (1, .output 0), (2, .output 1)]
      store := { inputs := [[]], outputs := [[], []] }
      folder := startFolder }
    let (result, s) := (Run.program (runner maxCommandDepth) program words).run start
    let status : Int := match result with
      | .ok status => status
      | .error (.killed _ signal) => -signal
      | .error _ => -stackSignal
    return { status, out := s.store.written 0, err := s.store.written 1 }

/-- The bytes of a word of a command. -/
def wordOf : Value → Outcome Bytes
  | .text s => wordBytes s
  | _ => .error .wrongKind

/-- Run a command and read what it leaves behind. -/
def runHere (command : List Value) : Outcome Firmware.CommandResult := do
  let f ← runCommand (← command.mapM wordOf)
  return ⟨command, .int f.status, .text (← outputText f.out), .text (← outputText f.err)⟩

end BlockSketch.Shell
