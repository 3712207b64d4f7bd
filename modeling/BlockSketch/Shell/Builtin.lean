import BlockSketch.Shell.Condition
import BlockSketch.Shell.Expansion
import BlockSketch.Shell.Parser
import BlockSketch.Shell.Signal
import BlockSketch.Shell.Tool

/-!
# BlockSketch.Shell.Builtin

The commands that a shell has of its own and that run no other commands.  Each
takes its words and gives an exit status.
-/

namespace BlockSketch.Shell

/-- A text in quotes, in at most so many parts. -/
def quotedFrom : Nat → Bytes → Bytes
  | n + 1, b =>
    let plain := b.takeWhile (· ≠ '\'')
    let rest := b.dropWhile (· ≠ '\'')
    let quotes := rest.takeWhile (· = '\'')
    let rest := rest.dropWhile (· = '\'')
    ['\''] ++ plain ++ ['\''] ++ (if quotes.isEmpty then [] else ['"'] ++ quotes ++ ['"']) ++
      (if rest.isEmpty then [] else quotedFrom n rest)
  | 0, _ => []

/-- A text in single quotes; single quotes in it stand in double quotes. -/
def singleQuoted (b : Bytes) : Bytes := quotedFrom (b.length + 1) b

/-- The value of a word that is an assignment, and its name. -/
def nameAndValue (w : Bytes) : Bytes × Option Bytes :=
  let name := w.takeWhile (· ≠ '=')
  (name, if name.length < w.length then some (w.drop (name.length + 1)) else none)

namespace Run

/-- Write output; a problem is reported. -/
def emit (b : Bytes) : Run Nat := do
  if ← write 1 b then return 0
  else
    say ((← get).command.getD [] ++ bytes ": I/O error")
    return 1

/-- The options at the front of words, and the other words, of which there are at most so many. -/
def options (known : String) : Nat → List Bytes → Run (List Char × List Bytes)
  | n + 1, words => do
    match words with
    | ['-', '-'] :: rest => return ([], rest)
    | ('-' :: c :: more) :: rest =>
      match (c :: more).find? fun c => !known.toList.contains c with
      | some bad => fail (bytes "Illegal option -" ++ [bad])
      | none =>
        let (found, words) ← options known n rest
        return (c :: more ++ found, words)
    | words => return ([], words)
  | 0, words => return ([], words)

/-- The options at the front of words. -/
def takeOptions (known : String) (words : List Bytes) : Run (List Char × List Bytes) :=
  options known (words.length + 1) words

/-- What a path leads to. -/
def place (path : Bytes) : Run Place := do
  let s ← get
  return s.store.disk.place s.folder path

/-! ## texts -/

/-- Write words. -/
def echo (words : List Bytes) : Run Nat := do
  let (newline, words) := match words with
    | ['-', 'n'] :: rest => (false, rest)
    | words => (true, words)
  let u := echoUnescaped wordEscape words
  emit (u.out ++ (if newline && !u.stopped then ['\n'] else []))

/-- Write words by a format. -/
def printfWords (words : List Bytes) : Run Nat := do
  match (← takeOptions "" words).2 with
  | [] => fail (bytes "usage: printf format [arg ...]")
  | format :: words =>
    let p := printf .command format words
    p.notes.forM say
    let broken ← emit p.out
    return if p.status = 0 then broken else p.status

/-- Whether a test of a file holds. -/
def placeTest (letter : Char) : Place → Bool
  | .folder => "rwxeds".toList.contains letter
  | .program _ => "rwxefs".toList.contains letter
  | .device | .descriptor _ => "rwec".toList.contains letter
  | .written content => "rwef".toList.contains letter || (letter = 's' && !content.isEmpty)
  | _ => false

def testWords (name : Bytes) (words : List Bytes) : Run Nat := do
  let words ← if name = ['['] then
      if (words.getLast?.bind List.head?) = some ']' then pure words.dropLast
      else fail (bytes "missing ]")
    else pure words
  let s ← get
  match condition (fun letter w => placeTest letter (s.store.disk.place s.folder w)) words with
  | .ok holds => return if holds then 0 else 1
  | .error message => fail message

/-- A row of glyphs without the separators of some kind at its front. -/
def dropSeparators (p : Char → Bool) (glyphs : List Glyph) : List Glyph :=
  glyphs.dropWhile fun
    | .char c false => p c
    | _ => false

/-- The first field of a line that is read, and what follows it and its end. -/
def takeField (ifs : Bytes) (glyphs : List Glyph) : List Glyph × List Glyph :=
  let blank (c : Char) : Bool := ifs.contains c && (c = ' ' || c = '\t' || c = '\n')
  let inField : Glyph → Bool
    | .char c false => !ifs.contains c
    | _ => true
  let field := glyphs.takeWhile inField
  let rest := dropSeparators blank (glyphs.dropWhile inField)
  let rest := match rest with
    | .char c false :: after =>
      if ifs.contains c then dropSeparators blank after else rest
    | _ => rest
  (field, rest)

/-- The values that the variables of a line get. -/
def fieldValues (ifs : Bytes) : List Bytes → List Glyph → List (Bytes × Bytes)
  | [], _ => []
  | [name], glyphs =>
    let blank (c : Char) : Bool := ifs.contains c && (c = ' ' || c = '\t' || c = '\n')
    let (field, rest) := takeField ifs glyphs
    let whole := (dropSeparators blank glyphs.reverse).reverse
    [(name, glyphText (if rest.isEmpty then field else whole))]
  | name :: names, glyphs =>
    let (field, rest) := takeField ifs glyphs
    (name, glyphText field) :: fieldValues ifs names rest

/-- A line of an input: its glyphs, whether it ended, and what follows. -/
def takeLine (raw : Bool) : Bytes → List Glyph × Bool × Bytes
  | [] => ([], false, [])
  | '\n' :: rest => ([], true, rest)
  | '\\' :: '\n' :: rest =>
    if raw then ([.char '\\' false], true, rest) else takeLine raw rest
  | '\\' :: c :: rest =>
    if raw then
      let (line, ended, rest) := takeLine raw (c :: rest)
      (.char '\\' false :: line, ended, rest)
    else
      let (line, ended, rest) := takeLine raw rest
      (.char c true :: line, ended, rest)
  | c :: rest =>
    let (line, ended, rest) := takeLine raw rest
    (if c = '\x00' then line else .char c false :: line, ended, rest)
termination_by b => b.length

/-- Read a line into variables. -/
def readWords (words : List Bytes) : Run Nat := do
  let (found, names) ← takeOptions "r" words
  if names.isEmpty then fail (bytes "arg count")
  let (line, ended, rest) := takeLine (found.contains 'r') (← unread 0)
  setUnread 0 rest
  let ifs ← separators
  let blank (c : Char) : Bool := ifs.contains c && (c = ' ' || c = '\t' || c = '\n')
  (fieldValues ifs names (dropSeparators blank line)).forM fun (word, value) =>
    let name := (nameAndValue word).1
    if isName name then assign name value else fail (name ++ bytes ": bad variable name")
  return if ended then 0 else 1

/-! ## variables -/

/-- The variables that are listed, by name. -/
def listed (p : Variable → Bool) : Run (List (Bytes × Variable)) := do
  return (((← get).vars.filter fun entry => p entry.2).mergeSort fun a b => !Test.isBefore b.1 a.1)

/-- Export variables or keep them from being changed. -/
def mark (name : Bytes) (words : List Bytes) : Run Nat := do
  let (found, words) ← takeOptions "p" words
  let exporting := name = bytes "export"
  if words.isEmpty || !found.isEmpty then
    let vars ← listed fun v => if exporting then v.exported else v.readOnly
    emit (vars.flatMap fun (n, v) =>
      name ++ [' '] ++ n ++ (match v.value with
        | some b => '=' :: singleQuoted b
        | none => []) ++ ['\n'])
  else
    words.forM fun w => do
      let (n, value) := nameAndValue w
      if !isName n then fail (n ++ bytes ": bad variable name")
      if let some b := value then assign n b
      modify fun s =>
        let v := s.vars.getD n {}
        let v := if exporting then { v with exported := true } else { v with readOnly := true }
        { s with vars := s.vars.put n v }
    return 0

/-- Make variables the function's own. -/
def localWords (words : List Bytes) : Run Nat := do
  if (← get).saved.isEmpty then fail (bytes "not in a function")
  words.forM fun w => do
    let (n, value) := nameAndValue w
    if !isName n then fail (n ++ bytes ": bad variable name")
    remember n
    if let some b := value then assign n b
  return 0

/-- Take variables or functions away. -/
def unsetWords (words : List Bytes) : Run Nat := do
  let (found, names) ← takeOptions "vf" words
  if found.getLast? = some 'f' then
    modify fun s => { s with functions := names.foldl Assoc.erase s.functions }
  else
    names.forM fun n =>
      if isName n then forget n else fail (n ++ bytes ": bad variable name")
  return 0

/-- Turn an option on or off. -/
def turn (on : Bool) (o : Setting) : Run Unit :=
  modify fun s =>
    let others := s.settings.filter (· ≠ o)
    { s with settings := if on then o :: others else others }

/-- Turn the options in the letters of a word on or off; `o` takes its name from the words behind,
of which the rest is given back. -/
def setLetters (on : Bool) : Bytes → List Bytes → Run (List Bytes)
  | [], words => return words
  | 'o' :: letters, words => do
    match words with
    | [] => setLetters on letters []
    | name :: rest =>
      match Setting.ofName? name with
      | some o => turn on o
      | none => fail (bytes "Illegal option -o " ++ name)
      setLetters on letters rest
  | c :: letters, words => do
    match Setting.ofLetter? c with
    | some o => turn on o
    | none => fail (bytes "Illegal option -" ++ [c])
    setLetters on letters words

def setScriptWords (words : List Bytes) : Run Unit := modify fun s => { s with words }

/-- Set the options at the front of words, of which there are at most so many, and then the words
of the script. -/
def setFrom : Nat → List Bytes → Run Unit
  | n + 1, words => do
    match words with
    | [] => return
    | ['-', '-'] :: rest => setScriptWords rest
    | ['-'] :: rest =>
      turn false .xtrace
      turn false .verbose
      if !rest.isEmpty then setScriptWords rest
    | ('-' :: letters) :: rest => do setFrom n (← setLetters true letters rest)
    | ('+' :: letters) :: rest => do setFrom n (← setLetters false letters rest)
    | words => setScriptWords words
  | 0, _ => return

/-- Set options and the words of the script, or list the variables. -/
def setWords (words : List Bytes) : Run Nat := do
  if words.isEmpty then
    let vars ← listed fun v => v.value.isSome
    emit (vars.flatMap fun (n, v) => n ++ '=' :: singleQuoted (v.value.getD []) ++ ['\n'])
  else
    setFrom (words.length + 1) words
    return 0

/-- Drop words of the script. -/
def shiftWords (words : List Bytes) : Run Nat := do
  let n ← match words with
    | [] => pure 1
    | w :: _ => number w
  if (← get).words.length < n then fail (bytes "can't shift that many")
  setScriptWords ((← get).words.drop n)
  return 0

/-! ## folders -/

/-- Go to the folder of a command. -/
def changeFolder (words : List Bytes) : Run Nat := do
  let back := words.head? = some ['-']
  let target := (← match words.head? with
    | some ['-'] => value? (bytes "OLDPWD")
    | some w => pure (some w)
    | none => value? (bytes "HOME")).getD []
  let target := if target.isEmpty then ['.'] else target
  if (← place target) ≠ .folder then fail (bytes "can't cd to " ++ target)
  let old := (← get).folder
  let folder := absolutePath old target
  modify fun s => { s with folder }
  assign (bytes "OLDPWD") old
  assign (bytes "PWD") folder
  exportVariable (bytes "OLDPWD")
  exportVariable (bytes "PWD")
  if back then emit (folder ++ ['\n']) else return 0

/-! ## signals -/

/-- Set, drop or list traps. -/
def trapWords (words : List Bytes) : Run Nat := do
  let (_, words) ← takeOptions "" words
  let set (action : Option Bytes) : List Bytes → Run Nat := fun names => do
    for name in names do
      match signalOf? 0 name with
      | some n =>
        modify fun s => { s with traps := match action with
          | some a => s.traps.put n a
          | none => s.traps.erase n }
      | none =>
        let _ ← write 2 (bytes "trap: " ++ name ++ bytes ": bad trap\n")
        return 1
    return 0
  match words with
  | [] =>
    let traps := (← get).traps
    emit ((List.range signalBound).flatMap fun n =>
      match traps.get? n with
      | some a => bytes "trap -- " ++ singleQuoted a ++ [' '] ++ signalName n ++ ['\n']
      | none => [])
  | [name] => set none [name]
  | action :: names => set (if action = ['-'] then none else some action) names

/-- End a process by a signal.  A shell that the process started goes on until it is done. -/
def endProcess (process signal : Nat) : Run Unit := do
  let s ← get
  if process = s.process && s.outerTraps.isNone then throw (.killed process signal)
  else set { s with store.ended := s.store.ended.putNew process signal }

/-- Stop if the process at work was ended in the meantime. -/
def checkEnded : Run Unit := do
  let s ← get
  if s.outerTraps.isNone then
    if let some signal := s.store.ended.get? s.process then throw (.killed s.process signal)

/-- Send a signal to a process; whether there is one. -/
def sendSignal (signal process : Nat) : Run Bool := do
  let s ← get
  if process < 2 || s.process < process then return false
  else
    let mine := process = s.process
    let traps := if mine then s.outerTraps.getD s.traps else s.store.shells.getD process []
    let ignored := mine && s.ignored.contains signal
    match if signal = 9 then none else if ignored then some [] else traps.get? signal with
    | some action =>
      if !action.isEmpty then
        modify fun s => { s with store.signals := s.store.signals ++ [(process, signal)] }
      return true
    | none =>
      if isDeadly signal then endProcess process signal
      return true

/-- The complaint about the words of `kill`. -/
def killUsage : Bytes :=
  bytes "Usage: kill [-s sigspec | -signum | -sigspec] [pid | job]... or\nkill -l [exitstatus]"

/-- Send a signal to processes. -/
def killWords (words : List Bytes) : Run Nat := do
  let signal (name : Bytes) : Run Nat := do
    match signalOf? 1 name with
    | some n => return n
    | none => fail (bytes "invalid signal number or name: " ++ name)
  let (named, words) ← match words with
    | ['-', 's'] :: name :: rest => do pure (← signal name, rest)
    | ('-' :: c :: cs) :: rest =>
      match signalOf? 1 (c :: cs) with
      | some n => pure (n, rest)
      | none => fail (bytes "Illegal option -" ++ [c])
    | words => pure (15, words)
  if words.isEmpty then fail killUsage
  let mut status := 0
  for w in words do
    if !(← sendSignal named (← number w)) then
      say (bytes "No such process\n")
      status := 1
  return status

end Run

end BlockSketch.Shell
