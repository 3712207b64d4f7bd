import BlockSketch.Shell.Directive

/-!
# BlockSketch.Shell.Printf

What `printf` writes.  The format is gone through again while words are left and
each round uses some.  The program of this name and the command of the shell
differ in their escapes, in the directives they take, and in what they say.
-/

namespace BlockSketch.Shell

inductive PrintfKind where
  | tool
  | command
deriving DecidableEq, Repr

/-- Where the writing stands. -/
structure Printing where
  out : Bytes := []
  notes : List Bytes := []
  -- whether a complaint makes the whole a failure
  failed : Bool := false
  words : List Bytes := []

/-- Why the writing ends before the format does. -/
inductive PrintEnd where
  | stopped
  | broken

/-- A step of the writing. -/
abbrev Print := ExceptT PrintEnd (StateM Printing)

namespace Print

/-- Write bytes. -/
def put (b : Bytes) : Print Unit := modify fun p => { p with out := p.out ++ b }

def note (b : Bytes) : Print Unit := modify fun p => { p with notes := p.notes ++ [b] }

/-- Complain about a word, which makes the whole a failure. -/
def complain (b : Bytes) : Print Unit := do
  note b
  modify fun p => { p with failed := true }

/-- Complain about something that is malformed. -/
def break_ {α : Type} (b : Bytes) : Print α := do
  note b
  throw .broken

/-- The next word, if one is left. -/
def word? : Print (Option Bytes) := do
  match (← get).words with
  | [] => return none
  | w :: rest =>
    modify fun p => { p with words := rest }
    return some w

/-- The next word, or an empty one. -/
def word : Print Bytes := return (← word?).getD []

/-- Write what the escapes of a word come to. -/
def putUnescaped (u : Unescaped) : Print Unit := do
  put u.out
  if u.stopped then throw .stopped
  if let some message := u.problem then break_ message

/-! ## quoting -/

/-- A byte inside the quotes of a complaint. -/
def quotedByte (c : Char) : Bytes :=
  if c = '\\' then ['\\', '\\']
  else if c = '\n' then ['\\', 'n'] else if c = '\t' then ['\\', 't']
  else if c = '\r' then ['\\', 'r'] else if c = '\x07' then ['\\', 'a']
  else if c = '\x08' then ['\\', 'b'] else if c = '\x0b' then ['\\', 'v']
  else if c = '\x0c' then ['\\', 'f']
  else if c.toNat < 0x20 ∨ c.toNat = 0x7F then '\\' :: Decimal.padLeft 3 (Nat.toDigits 8 c.toNat)
  else [c]

/-- A word in the quotes of a complaint. -/
def quoted (w : Bytes) : Bytes := bytes "‘" ++ w.flatMap quotedByte ++ bytes "’"

/-- The bytes that mean themselves in a command, quoted or not. -/
def isPlainByte (c : Char) : Bool :=
  c.isAlphanum || "_./:@%+,-]".toList.contains c || 0x80 ≤ c.toNat

/-- Whether a byte needs no quotes; `braces` and `marks` tell whether braces and those bytes that
are special only at the beginning of a word need none here. -/
def isFree (c : Char) (braces marks : Bool) : Bool :=
  isPlainByte c || (braces && (c = '\x7b' || c = '\x7d')) || (marks && (c = '#' || c = '~'))

/-- Whether a byte means itself between single quotes as between double ones. -/
def isSafe (c : Char) : Bool := isPlainByte c || c = ' ' || c = '\''

/-- Whether a word needs no quotes in a command: a few bytes need them only at its beginning, and
braces only on their own. -/
def needsNoQuotes (w : Bytes) : Bool :=
  !w.isEmpty && isFree (w.headD ' ') (w.length ≠ 1) false &&
    w.tail.all fun c => isFree c true true

/-- Whether two kinds of quotes say the same of a word. -/
def isDoubleSafe (w : Bytes) : Bool :=
  ("#~".toList.contains (w.headD ' ') || isSafe (w.headD ' ')) && w.tail.all isSafe

/-- Whether a byte has no sign of its own. -/
def isSignless (c : Char) : Bool := c.toNat < 0x20 || c.toNat = 0x7F

/-- A word between single quotes, from behind the opening one; bytes without a sign of their own
stand as escapes, and `escaping` tells whether such a row of escapes is open. -/
def singleQuotedFrom (escaping : Bool) : Bytes → Bytes
  | [] => ['\'']
  | c :: rest =>
    if c = '\'' then ['\'', '\\', '\'', '\''] ++ singleQuotedFrom false rest
    else if isSignless c then
      (if escaping then [] else ['\'', '$', '\'']) ++ quotedByte c ++ singleQuotedFrom true rest
    else (if escaping then ['\'', '\''] else []) ++ c :: singleQuotedFrom false rest

/-- A word as it would be written in a command.  When it holds a single quote and ends in an
escape, the row of escapes counts as open at its beginning as well. -/
def shellQuoted (w : Bytes) : Bytes :=
  if needsNoQuotes w then w
  else if w.contains '\'' && isDoubleSafe w then '"' :: w ++ ['"']
  else '\'' :: singleQuotedFrom (w.contains '\'' && isSignless (w.getLastD ' ')) w

/-! ## numbers -/

/-- The complaint about a number that was read from a word. -/
def check (kind : PrintfKind) (w : Bytes) {α : Type} (r : Read α) : Print α := do
  let shown := if kind = .tool then quoted w else w
  let say (tool command : String) :=
    complain (shown ++ bytes (if kind = .tool then tool else command))
  let range := say ": Numerical result out of range" ": Numerical result out of range"
  let garbled :=
    if r.rest.length = w.length then say ": expected a numeric value" ": expected numeric value"
    else say ": value not completely converted" ": not completely converted"
  match kind with
  | .tool => if r.outOfRange then range else if !r.rest.isEmpty then garbled
  | .command => if !r.rest.isEmpty then garbled else if r.outOfRange then range
  return r.value

/-- The code of the character that a word names behind a quote: the code and what follows. -/
def characterCode (kind : PrintfKind) (cs : Bytes) : Nat × Bytes :=
  let first := (cs.headD '\x00').toNat
  let single := (first, cs.drop 1)
  let several := (List.range 3).findSome? fun k =>
    (Text.charOf? (cs.map fun c => UInt8.ofNat c.toNat) (k + 2)).map (·, k + 2)
  if kind = .tool ∧ 0x80 ≤ first then
    match several with
    | some (c, size) => (c.toNat, cs.drop size)
    | none => single
  else single

/-- The code of a character behind a quote, if a word is one. -/
def character? (kind : PrintfKind) (w : Bytes) : Print (Option Nat) := do
  match w with
  | q :: cs =>
    if (q = '"' ∨ q = '\'') ∧ (kind = .command ∨ !cs.isEmpty) then
      let (code, rest) := characterCode kind cs
      if kind = .tool ∧ !rest.isEmpty then
        note (bytes "warning: " ++ rest ++
          bytes ": character(s) following character constant have been ignored")
      return some code
    else return none
  | [] => return none

/-- The number in the next word; without a word it is zero. -/
def number {α : Type} (kind : PrintfKind) (ofCode : Nat → α) (zero : α) (read : Bytes → Read α) :
    Print α := do
  match ← word? with
  | none => return zero
  | some w =>
    match ← character? kind w with
    | some code => return ofCode code
    | none => check kind w (read w)

/-- The signed integer in the next word. -/
def integer (kind : PrintfKind) : Print Int := number kind Int.ofNat 0 readSigned

/-! ## directives -/

/-- The largest width and precision. -/
def maxCount : Int := 2147483647

/-- The number of widths and precisions. -/
def countBound : Nat := 4294967296

/-- Take a width or a precision: digits, or an asterisk for the next word.  When that is too large,
the program refuses it with a complaint, and the command takes its lower half. -/
def count (kind : PrintfKind) (tooLarge : Int → Bool) (complaint : String) (cs : Bytes) :
    Print (Option Int × Bytes) := do
  match cs with
  | '*' :: rest =>
    let w := (← get).words.headD []
    let n ← integer kind
    if kind = .tool then
      if tooLarge n then break_ (bytes complaint ++ quoted w)
      return (some n, rest)
    else return (some (Int.bmod n countBound), rest)
  | _ =>
    if startsWith decimalDigit? cs then
      let (n, rest) := takeDigits decimalDigit? 10 cs.length 0 cs
      return (some (Int.ofNat n), rest)
    else return (none, cs)

/-- The letters that the flags of the program leave. -/
def lettersFor (flags : List Char) (precision : Bool) : List Char :=
  let drop (flag : Char) (letters from_ : List Char) :=
    if flags.contains flag then from_.filter fun c => !letters.contains c else from_
  let all := ['a', 'A', 'c', 'd', 'e', 'E', 'f', 'F', 'g', 'G', 'i', 'o', 's', 'u', 'x', 'X']
  let left := drop '\'' ['a', 'A', 'c', 'e', 'E', 'o', 's', 'x', 'X']
    (drop '#' ['c', 'd', 'i', 's', 'u'] (drop '0' ['c', 's'] all))
  if precision then left.filter (· ≠ 'c') else left

/-- Write the next word by a directive and its letter. -/
def putBy (kind : PrintfKind) (d : Directive) (letter : Char) : Print Unit := do
  let p := if kind = .tool then Precision.extended else .double
  if letter = 's' then put (d.word (← word))
  else if letter = 'c' then put (d.firstByte (← word))
  else if letter = 'd' ∨ letter = 'i' then put (d.signed (← integer kind))
  else if Directive.realLetters.contains letter then
    let ofCode (n : Nat) := Decimal.Binary.finite false n 0
    put (d.real letter p (← number kind ofCode (ofCode 0) p.read))
  else put (d.unsigned letter (← number kind id 0 readUnsigned))

/-- Write by a directive, from behind its percent sign; the text behind it is left. -/
def directive (kind : PrintfKind) (cs : Bytes) : Print Bytes := do
  let flagSet :=
    if kind = .tool then ['\'', 'I', '-', '+', ' ', '#', '0'] else ['#', '-', '+', ' ', '0']
  let flags := cs.takeWhile flagSet.contains
  let (width, rest) ← count kind (fun n => n < -maxCount - 1 || maxCount < n)
    "invalid field width: "
    (cs.drop flags.length)
  let (precision, rest) ← match rest with
    | '.' :: rest => do
      let (n, rest) ← count kind (maxCount < ·) "invalid precision: " rest
      pure (some (n.getD 0), rest)
    | _ => pure (none, rest)
  let rest := if kind = .tool then rest.dropWhile ['l', 'L', 'h', 'j', 't', 'z'].contains else rest
  let text := '%' :: cs.take (cs.length - rest.length + 1)
  let d : Directive :=
    { flags, precision := precision.bind fun n => if n < 0 then none else some n.toNat }
  let d := d.withWidth (width.getD 0)
  match kind, rest with
  | .command, [] => break_ (bytes "missing format character")
  | .tool, [] => break_ (text ++ bytes ": invalid conversion specification")
  | .tool, c :: rest =>
    if (lettersFor flags precision.isSome).contains c then
      putBy kind d c
      return rest
    else break_ (text ++ bytes ": invalid conversion specification")
  | .command, c :: rest =>
    if c = 'b' then
      let u := unescape wordEscape (← word)
      putUnescaped { u with out := d.word u.out }
      return rest
    else if ['c', 's', 'd', 'i', 'o', 'u', 'x', 'X'].contains c ∨
      Directive.realLetters.contains c then
      if maxCount < width.getD 0 ∨ maxCount < precision.getD 0 then
        let before := (← get).out
        putBy kind { flags } c
        modify fun p => { p with out := before }
        break_ (bytes "xvsnprintf failed")
      putBy kind d c
      return rest
    else break_ (text ++ bytes ": invalid directive")

/-- Go once through a format of at most so many bytes. -/
def formatFrom (kind : PrintfKind) : Nat → Bytes → Print Unit
  | n + 1, '\\' :: rest => do
    match (if kind = .tool then toolEscape false else formatEscape) rest with
    | .wrote out rest =>
      put out
      formatFrom kind n rest
    | .stop => throw .stopped
    | .bad message => break_ message
  | n + 1, '%' :: '%' :: rest => do
    put ['%']
    formatFrom kind n rest
  | n + 1, '%' :: rest => do
    match kind, rest with
    | .tool, 'b' :: rest =>
      putUnescaped (unescape (toolEscape true) (← word))
      formatFrom kind n rest
    | .tool, 'q' :: rest =>
      if let some w ← word? then put (shellQuoted w)
      formatFrom kind n rest
    | _, _ => formatFrom kind n (← directive kind rest)
  | n + 1, c :: rest => do
    put [c]
    formatFrom kind n rest
  | _, _ => return

/-- Go through a format while words are left and used, at most so many times. -/
def rounds (kind : PrintfKind) (format : Bytes) : Nat → Print Unit
  | n + 1 => do
    let before := (← get).words.length
    formatFrom kind format.length format
    let after := (← get).words.length
    if after < before ∧ 0 < after then rounds kind format n
  | 0 => return

/-- The whole of a `printf`. -/
def all (kind : PrintfKind) (format : Bytes) (words : List Bytes) : Print Unit := do
  rounds kind format (words.length + 1)
  if kind = .tool then
    if let w :: _ := (← get).words then
      note (bytes "warning: ignoring excess arguments, starting with " ++ quoted w)

end Print

/-- What a `printf` did. -/
structure Printed where
  status : Nat
  out : Bytes
  notes : List Bytes

/-- Write words by a format. -/
def printf (kind : PrintfKind) (format : Bytes) (words : List Bytes) : Printed :=
  let (result, p) := (Print.all kind format words).run { words }
  let status := match result with
    | .error .broken => if kind = .tool then 1 else 2
    | .error .stopped => if kind = .command && p.failed then 1 else 0
    | .ok () => if p.failed then 1 else 0
  ⟨status, p.out, p.notes⟩

end BlockSketch.Shell
