import BlockSketch.Shell.Builtin

/-!
# BlockSketch.Shell.Eval

Running the commands of a script.  Commands run commands, so the functions here
take a runner for what lies deeper, which is tied up at a bound on the depth.
-/

namespace BlockSketch.Shell

/-- What runs the parts of a command. -/
structure Runner where
  -- run a command; a command that is tested may fail without ending the script
  eval : Bool → Tree → Run Unit
  -- run a program by its name and the words it is called with; signals count negative
  program : Bytes → List Bytes → Run Int

/-- What the first word of a command stands for. -/
inductive Found where
  | function (body : Tree)
  | builtin
  | program (name path : Bytes)
  | blocked
  | missing

/-- The commands of a shell that are not special. -/
def regularCommands : List String :=
  ["[", "cd", "command", "echo", "false", "kill", "printf", "pwd", "read", "test", "true", "type",
   "wait"]

/-- Whether something is a command of the shell. -/
def isBuiltin (name : Bytes) : Bool :=
  isSpecialCommand name || regularCommands.contains (String.ofList name)

/-- Whether the words of a command are assignments when they look like some. -/
def takesAssignments (name : Bytes) : Bool :=
  ["export", "local", "readonly"].contains (String.ofList name)

/-- Where a redirection leads, after its word was expanded. -/
inductive Target where
  | file (fd : Nat) (use : FileUse) (path : Bytes)
  | copy (fd : Nat) (source : Option Nat)

/-- How often a loop goes round at most. -/
def maxRounds : Nat := 10000000

/-- How deep functions may call one another. -/
def maxFunctionDepth : Nat := 1000

/-- Whether a command of a script was left early. -/
def Session.isSkipping (s : Session) : Bool := s.skip.isSome

namespace Run

/-! ## scripts -/

/-- Run a script that is a text: the exit status of its last command. -/
def scriptFrom (r : Runner) (tested : Bool) : Nat → Reading → Nat → Run Nat
  | n + 1, reading, status => do
    let (result, reading) := readLine reading
    modify fun s => { s with readLine := reading.line }
    match result with
    | .error problem =>
      modify fun s => { s with line := problem.line }
      fail (bytes "Syntax error: " ++ bytes problem.message)
    | .ok none => return status
    | .ok (some t) =>
      r.eval tested t
      let s ← get
      if s.isSkipping then return s.status
      else scriptFrom r tested n reading (match t with
        | .empty => status
        | _ => s.status)
  | 0, _, status => return status

/-- Run a script that is a text. -/
def script (r : Runner) (tested : Bool) (text : Bytes) : Run Nat :=
  scriptFrom r tested maxRounds { rest := text } 0

/-! ## shells of their own -/

/-- Run what is to be run at the end, and settle the exit status. -/
def atExit (r : Runner) : Run Unit := do
  let s ← get
  match s.traps.get? 0 with
  | some action =>
    set { s with traps := s.traps.erase 0, skip := none, exitStatus := none, command := none }
    match ← ending (script r false action) with
    | .error (.killed p n) => throw (.killed p n)
    | .error .exhausted => throw .exhausted
    | .error .ended | .error .fault => return
    | _ => modify fun t => { t with status := t.exitStatus.getD s.status }
  | none => return

/-- Settle how a script ended: an exit and a fault end it, anything else goes on. -/
def settle (r : Runner) (result : Except Stop Unit) : Run Unit := do
  match result with
  | .error (.killed p n) => throw (.killed p n)
  | .error .exhausted => throw .exhausted
  | _ => atExit r

/-- The state of a shell that is started inside another one. -/
def inner (s : Standing) : Standing :=
  { s with
    traps := s.traps.filter fun entry => entry.2.isEmpty
    outerTraps := some (s.outerTraps.getD s.traps)
    readLine := 1 }

/-- Run something in a shell of its own, which shares only the store: its exit status. -/
def isolated (r : Runner) (act : Run Unit) : Run Nat := do
  let before ← get
  set { before with toStanding := inner before.toStanding }
  let result ← ending (do settle r (← ending act))
  let after ← get
  set { before with store := after.store }
  checkEnded
  match result with
  | .ok () => return after.status % 256
  | .error stop => throw stop

/-- What a command writes, without the line ends behind it.  Where there is no command, none is
run. -/
def capture (r : Runner) (t : Tree) : Run Bytes := do
  match t with
  | .empty => return []
  | t =>
    let n ← openOutput
    let status ← isolated r do
      modify fun s => { s with fds := s.fds.put 1 (.output n) }
      r.eval false t
    modify fun s => { s with wordStatus := status }
    let out := ((← get).store.written n).filter (· ≠ '\x00')
    return (out.reverse.dropWhile (· = '\n')).reverse

/-! ## signals -/

/-- Run the trap of a signal. -/
def trapAction (r : Runner) (signal : Nat) : Run Unit := do
  let s ← get
  match s.traps.get? signal with
  | some action =>
    let _ ← script r false action
    modify fun t => if t.isSkipping then t else { t with status := s.status }
  | none => return

/-- Run the traps of the signals that have come. -/
def signalTraps (r : Runner) : Run Unit := do
  checkEnded
  let s ← get
  if s.outerTraps.isNone then
    let (mine, others) := s.store.signals.partition fun e => e.1 = s.process
    set { s with store.signals := others }
    mine.forM fun e => trapAction r e.2

/-! ## redirections -/

/-- Expand the word of a redirection. -/
def targetOf (r : Runner) : Redirect → Run Target
  | .file fd use name => do
    return .file fd use (← textOf (capture r) { tilde := true } name)
  | .copy fd source => do
    let bad : Run Target := do
      modify fun s => { s with line := s.readLine }
      fail (bytes "Syntax error: Bad fd number")
    match ← textOf (capture r) { tilde := true } source with
    | ['-'] => return .copy fd none
    | [c] => if c.isDigit then return .copy fd (some (c.toNat - 0x30)) else bad
    | _ => bad

/-- Set what a descriptor stands for. -/
def connect (fd : Nat) (stream : Stream) : Run Unit :=
  modify fun s => { s with fds := s.fds.put fd stream }

/-- Let a descriptor stand for what another one does.  Complaints go nowhere while the descriptor
for them is put aside. -/
def connectCopy (aside : Bool) (fd source : Nat) : Run Unit := do
  match (← get).fds.get? source with
  | some stream => connect fd stream
  | none =>
    if aside && fd = 2 then modify fun s => { s with fds := s.fds.erase 2 }
    fail (decimalText source ++ bytes ": Bad file descriptor")

def openRead (fd : Nat) (path : Bytes) : Run Unit := do
  let problem (message : String) : Run Unit :=
    fail (bytes "cannot open " ++ path ++ bytes (": " ++ message))
  match ← place path with
  | .missing | .underFile => problem "No such file"
  | .tooLong => problem "File name too long"
  | .descriptor n => connectCopy false fd n
  | .written content => do connect fd (← openInput content)
  | .folder => connect fd .folder
  | _ => connect fd .null

/-- Open a file for writing. -/
def openWrite (fd : Nat) (use : FileUse) (path : Bytes) : Run Unit := do
  let problem (message : String) : Run Unit :=
    fail (bytes "cannot create " ++ path ++ bytes (": " ++ message))
  let s ← get
  let full := absolutePath s.folder path
  let start (content : Bytes) : Run Unit := do
    modify fun s => { s with store.disk := s.store.disk.put full content }
    connect fd (.file full)
  let inFolder := (← place (absolutePath s.folder (path ++ bytes "/.."))) = .folder
  if path.getLast? = some '/' && inFolder then problem "Is a directory"
  else match ← place path with
  | .folder => problem "Is a directory"
  | .underFile => problem "Directory nonexistent"
  | .tooLong => problem "File name too long"
  | .descriptor n => connectCopy false fd n
  | .missing => if path.isEmpty || !inFolder then problem "Directory nonexistent" else start []
  | .written content =>
    if use = .write && s.settings.contains .noclobber then problem "File exists"
    else start (if use = .append || use = .readWrite then content else [])
  | _ =>
    if full = bytes "/dev/full" then do connect fd (← openInput [])
    else if full = bytes "/dev/tty" then problem "No such device or address"
    else connect fd .null

/-- Make a redirection. -/
def redirect (aside : Bool) : Target → Run Unit
  | .file fd .read path => openRead fd path
  | .file fd use path => openWrite fd use path
  | .copy fd (some source) => connectCopy aside fd source
  | .copy fd none => modify fun s => { s with fds := s.fds.erase fd }

/-- Make redirections, with the old descriptors put aside or not; whether they could be made. -/
def redirectAll (aside : Bool) (targets : List Target) : Run Bool := do
  let command := (← get).command
  let result ← ending (targets.forM (redirect aside))
  modify fun s => { s with command }
  match result with
  | .ok () => return true
  | .error .fault => return false
  | .error stop => throw stop

/-- Do something, and give the descriptors back however it ends. -/
def keepingDescriptors {α : Type} (act : Run α) : Run α := do
  let fds := (← get).fds
  let result ← ending act
  modify fun s => { s with fds }
  match result with
  | .ok a => return a
  | .error stop => throw stop

/-! ## finding commands -/

/-- Look for a program in folders. -/
def search (path name : Bytes) : Run Found := do
  let s ← get
  let places := (candidates path name).map fun p => (p, s.store.disk.place s.folder p)
  let program? := places.findSome? fun
    | (p, .program n) => some (n, p)
    | _ => none
  match program? with
  | some (n, p) => return .program n p
  | none =>
    return if places.any (fun entry => match entry.2 with
      | .missing | .underFile | .tooLong => false
      | _ => true) then .blocked else .missing

/-- What a name stands for.  Functions may be passed over, and programs may be looked for in the
usual folders only. -/
def find (functions usual : Bool) (name : Bytes) : Run Found := do
  let own := (← get).functions
  match if functions then own.get? name else none with
  | some body => return .function body
  | none =>
    if isBuiltin name then return .builtin
    else
      let path ← value? (bytes "PATH")
      search (if usual then usualProgramPath else path.getD []) name

/-- Say that a name stands for nothing that can be run: the exit status. -/
def notRun (name : Bytes) (found : Found) : Run Nat := do
  match found with
  | .blocked =>
    say (name ++ bytes ": Permission denied")
    return if name.contains '/' then 126 else 127
  | _ =>
    say (name ++ bytes ": not found")
    return 127

/-- Describe what names stand for. -/
def describe (brief usual : Bool) (name : Bytes) : Run Nat := do
  let line (short long : Bytes) : Run Nat :=
    emit ((if brief then short else name ++ bytes " is " ++ long) ++ ['\n'])
  if (Keyword.ofText? name).isSome then line name (bytes "a shell keyword")
  else match ← find true usual name with
    | .function _ => line name (bytes "a shell function")
    | .builtin =>
      line name (if isSpecialCommand name then bytes "a special shell builtin"
        else bytes "a shell builtin")
    | .program _ path => line path path
    | _ =>
      if !brief then
        let _ ← emit (name ++ bytes ": not found\n")
      return 127

/-! ## commands of the shell -/

/-- Turn the end of a program into an exit status, with a remark on signals. -/
def programStatus (status : Int) : Run Nat := do
  if 0 ≤ status then return status.toNat
  else
    let signal := status.natAbs
    if let some remark := signalRemark? signal then
      let _ ← write 2 (bytes remark ++ ['\n'])
    return 128 + signal

/-- Take the place of the shell by a program. -/
def replace (r : Runner) (words : List Bytes) : Run Nat := do
  let name := words.headD []
  match ← search ((← value? (bytes "PATH")).getD []) name with
  | .program n _ =>
    let status ← r.program n words
    modify fun s => { s with traps := [] }
    if status < 0 then throw (.killed (← get).process status.natAbs)
    setStatus status.toNat
    throw .ended
  | found =>
    setStatus (← notRun name found)
    throw .ended

def leaveLoops (words : List Bytes) (skip : Nat → Skip) : Run Nat := do
  let n ← match words with
    | [] => pure 1
    | w :: _ => do
      let n ← number w
      if n = 0 then badNumber w else pure n
  let n := min n (← get).loops
  if 0 < n then modify fun s => { s with skip := some (skip n) }
  return 0

/-- Run a command of the shell. -/
def builtin (r : Runner) (tested : Bool) (name : Bytes) (words : List Bytes) : Run Nat := do
  match String.ofList name with
  | "false" => return 1
  | "echo" => echo words
  | "printf" => printfWords words
  | "test" | "[" => testWords name words
  | "read" => readWords words
  | "export" | "readonly" => mark name words
  | "local" => localWords words
  | "unset" => unsetWords words
  | "set" => setWords words
  | "shift" => shiftWords words
  | "cd" => changeFolder words
  | "pwd" => emit ((← get).folder ++ ['\n'])
  | "trap" => trapWords words
  | "kill" => killWords words
  | "break" => leaveLoops words .break_
  | "continue" => leaveLoops words .continue_
  | "return" =>
    let status ← match words with
      | [] => pure (← get).status
      | w :: _ => number w
    modify fun s => { s with skip := some .return_ }
    return status
  | "exit" =>
    if let w :: _ := words then
      let n ← number w
      modify fun s => { s with status := n, exitStatus := some n }
    throw .exit
  | "eval" =>
    if words.isEmpty then return 0 else script r tested (spaced words)
  | "exec" => if words.isEmpty then return 0 else replace r words
  | "type" =>
    let mut status := 0
    for w in words do
      status := status ||| (← describe false false w)
    return status
  | "command" =>
    let (found, words) ← takeOptions "pvV" words
    match words with
    | [] => return 0
    | w :: _ => describe (!found.contains 'V') (found.contains 'p') w
  | _ => return 0

/-! ## simple commands -/

def callFunction (r : Runner) (tested : Bool) (body : Tree) (words : List Bytes) : Run Unit := do
  let before ← get
  if maxFunctionDepth ≤ before.depth then
    fail (bytes "Maximum function recursion depth (" ++ decimalText maxFunctionDepth ++
      bytes ") reached")
  set { before with words, loops := 0, depth := before.depth + 1, saved := [] :: before.saved }
  let result ← ending (r.eval tested body)
  giveBack
  modify fun s => { s with
    words := before.words
    loops := before.loops
    depth := before.depth
    skip := if s.skip = some .return_ then none else s.skip }
  match result with
  | .ok () => return
  | .error stop => throw stop

/-- Call a command of the shell; a fault ends the script only in a special one. -/
def callBuiltin (r : Runner) (tested special : Bool) (name : Bytes) (words : List Bytes) :
    Run Unit := do
  let command := (← get).command
  modify fun s => { s with command := some name }
  let result ← ending (builtin r tested name words)
  match result with
  | .ok status => modify fun s => { s with command, status }
  | .error .fault =>
    modify fun s => { s with command }
    if special then throw .fault
  | .error stop =>
    modify fun s => { s with command }
    throw stop

/-- The words of a command, expanded.  The words behind a command that takes assignments are not
divided when they look like assignments. -/
def expandWords (r : Runner) (assigning : Bool) (done : List Bytes) :
    List Word → Run (List Bytes)
  | [] => return done
  | w :: rest => do
    let fields ← match if assigning then assignment? w else none with
      | some (name, value) => do
        let b ← textOf (capture r) { tilde := true, tildes := true } value
        pure [name ++ '=' :: b]
      | none => fieldsOf (capture r) w
    let done := done ++ fields
    let name := (done.dropWhile (· = bytes "command")).headD []
    expandWords r (takesAssignments name && isBuiltin name) done rest

/-- How the command of a command is looked for. -/
structure Bypass where
  -- whether functions are passed over
  functions : Bool := false
  -- whether programs are looked for in the usual folders only
  usual : Bool := false

/-- The words behind a `command` that runs a command, and whether programs are looked for in the
usual folders: its options ask for nothing else, and there are words. -/
def bypassed? (usual : Bool) : List Bytes → Option (Bool × List Bytes)
  | [] => none
  | w :: rest =>
    match w with
    | ['-', '-'] => if rest.isEmpty then none else some (usual, rest)
    | '-' :: c :: cs => if (c :: cs).all (· = 'p') then bypassed? true rest else none
    | _ => some (usual, w :: rest)

/-- Take away each `command` before the words of a command, of which there are at most so many, and
tell how the command is looked for. -/
def plainWords : Nat → Bypass → List Bytes → Bypass × List Bytes
  | n + 1, b, w :: rest =>
    match if w = bytes "command" then bypassed? b.usual rest else none with
    | some (usual, words) => plainWords n ⟨true, usual⟩ words
    | none => (b, w :: rest)
  | _, b, words => (b, words)

def trace (stream : Option Stream) (words : List Bytes) : Run Unit := do
  if let some stream := stream then
    if ← isOn .xtrace then
      let _ ← writeTo stream ((← value? (bytes "PS4")).getD [] ++ spaced words ++ ['\n'])

/-- Run a simple command. -/
def simple (r : Runner) (tested : Bool) (line : Nat) (assignments words : List Word)
    (redirects : List Redirect) : Run Unit := do
  modify fun s => { s with line, wordStatus := 0 }
  let all ← expandWords r false [] words
  let (bypass, words) := plainWords all.length {} all
  let name := words.headD []
  let special := !bypass.functions && isSpecialCommand name
  let ownVariables := !words.isEmpty && !special
  let exporting := ownVariables || (name = bytes "exec" && 1 < words.length)
  let targets ← redirects.mapM (targetOf r)
  let traced := (← get).fds.get? 2
  let fds := (← get).fds
  let act : Run Unit := do
    let texts ← assignments.mapM fun w => do
      match assignment? w with
      | some (n, value) =>
        let b ← textOf (capture r) { tilde := true, tildes := true } value
        if ownVariables then remember n
        assign n b
        if exporting then exportVariable n
        return n ++ '=' :: b
      | none => return []
    trace traced (texts ++ all)
    if words.isEmpty then modify fun s => { s with status := s.wordStatus }
    else match ← find (!bypass.functions) bypass.usual name with
      | .function body => callFunction r tested body words.tail
      | .builtin => callBuiltin r tested special name words.tail
      | .program n _ => do setStatus (← programStatus (← r.program n words))
      | found => do setStatus (← notRun name found)
  if !(← redirectAll true targets) then
    modify fun s => { s with fds, status := 2 }
    if special then throw .fault
  else
    if ownVariables then modify fun s => { s with saved := [] :: s.saved }
    let result ← ending act
    if ownVariables then giveBack
    let keeps := name = bytes "exec" && words.length = 1
    if !keeps || result.toBool = false then modify fun s => { s with fds }
    match result with
    | .ok () => return
    | .error stop => throw stop

/-! ## compound commands -/

/-- Settle how a round of a loop was left: whether the loop goes on. -/
def goesOn : Run Bool := do
  match (← get).skip with
  | none => return true
  | some .return_ => return false
  | some (.break_ n) =>
    modify fun s => { s with skip := if n ≤ 1 then none else some (.break_ (n - 1)) }
    return false
  | some (.continue_ n) =>
    if n ≤ 1 then
      modify fun s => { s with skip := none }
      return true
    else
      modify fun s => { s with skip := some (.continue_ (n - 1)) }
      return false

/-- Go round a loop at most so many times; the status is that of the last body. -/
def rounds (r : Runner) (tested until_ : Bool) (test body : Tree) : Nat → Nat → Run Nat
  | n + 1, status => do
    r.eval true test
    let s ← get
    if s.isSkipping then
      if ← goesOn then rounds r tested until_ test body n status
      else return if s.skip = some .return_ then s.status else status
    else if (s.status = 0) = until_ then return status
    else
      r.eval tested body
      let status := (← get).status
      if ← goesOn then rounds r tested until_ test body n status else return status
  | 0, _ => throw .exhausted

/-- Run a body for each of some words. -/
def eachRound (r : Runner) (tested : Bool) (name : Bytes) (body : Tree) : List Bytes → Run Unit
  | [] => return
  | w :: rest => do
    assign name w
    r.eval tested body
    if ← goesOn then eachRound r tested name body rest

/-- Do something inside one more loop. -/
def inLoop (act : Run Unit) : Run Unit := do
  modify fun s => { s with loops := s.loops + 1 }
  act
  modify fun s => { s with loops := s.loops - 1 }

/-- The first command of some arms with a pattern that matches a text. -/
def armOf? (r : Runner) (text : Bytes) : List (List Word × Tree) → Run (Option Tree)
  | [] => return none
  | (patterns, body) :: rest => do
    for p in patterns do
      if matchesPattern (← patternOf (capture r) p) text then return some body
    armOf? r text rest

/-- Run the stages of a pipeline one after the other, each on the output of the one before: the
exit status of the last. -/
def stages (r : Runner) (input : Option Stream) : List Tree → Run Nat
  | [] => return 0
  | t :: rest => do
    let n ← openOutput
    let status ← isolated r do
      if let some stream := input then connect 0 stream
      if !rest.isEmpty then connect 1 (.output n)
      r.eval false t
    if rest.isEmpty then return status
    stages r (some (← openInput ((← get).store.written n))) rest

/-- Do something with redirections made. -/
def redirected (r : Runner) (aside : Bool) (line : Nat) (redirects : List Redirect)
    (act : Run Unit) : Run Unit := do
  if redirects.isEmpty then act
  else
    modify fun s => { s with line }
    let targets ← redirects.mapM (targetOf r)
    keepingDescriptors do
      if ← redirectAll aside targets then act else setStatus 2

/-- End the script if a command failed that was not tested. -/
def checkFailure (tested : Bool) : Run Unit := do
  let s ← get
  if s.status ≠ 0 && !tested && s.settings.contains .errexit && !s.isSkipping then throw .ended

/-- Run a command. -/
def evalTree (r : Runner) (tested : Bool) (t : Tree) : Run Unit := do
  if ← isOn .noexec then return
  signalTraps r
  match t with
  | .empty => return
  | .simple line assignments words redirects =>
    simple r tested line assignments words redirects
    checkFailure tested
  | .sequence a b =>
    r.eval tested a
    if !(← get).isSkipping then r.eval tested b
  | .both a b =>
    r.eval true a
    let s ← get
    if s.status = 0 && !s.isSkipping then r.eval tested b
  | .either a b =>
    r.eval true a
    let s ← get
    if s.status ≠ 0 && !s.isSkipping then r.eval tested b
  | .negation a =>
    r.eval true a
    modify fun s =>
      if s.isSkipping then s else { s with status := if s.status = 0 then 1 else 0 }
  | .pipeline ts =>
    setStatus (← stages r none ts)
    checkFailure tested
  | .background a =>
    let _ ← isolated r do
      connect 0 .null
      r.eval false a
    setStatus 0
  | .subshell line a redirects =>
    redirected r false line redirects do
      setStatus (← isolated r (r.eval tested a))
    checkFailure tested
  | .redirected line a redirects =>
    redirected r true line redirects (r.eval tested a)
    checkFailure tested
  | .conditional test yes no =>
    r.eval true test
    let s ← get
    if !s.isSkipping then
      if s.status = 0 then r.eval tested yes
      else match no with
        | .empty => setStatus 0
        | no => r.eval tested no
  | .loop until_ test body =>
    inLoop do setStatus (← rounds r tested until_ test body maxRounds 0)
  | .each line name words body =>
    modify fun s => { s with line }
    let fields := (← words.mapM (fieldsOf (capture r))).flatten
    if fields.isEmpty then setStatus 0 else inLoop (eachRound r tested name body fields)
  | .select line word arms =>
    modify fun s => { s with line }
    let text ← textOf (capture r) { tilde := true } word
    match ← armOf? r text arms with
    | some .empty => setStatus 0
    | some body => r.eval tested body
    | none => setStatus 0
  | .function name body =>
    modify fun s => { s with functions := s.functions.put name body, status := 0 }
  signalTraps r

end Run

end BlockSketch.Shell
