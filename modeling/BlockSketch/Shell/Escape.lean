import BlockSketch.Shell.Bytes

/-!
# BlockSketch.Shell.Escape

Escapes with a backslash, as `echo` and `printf` understand them.  The programs
of these names know more escapes than the commands of the shell.
-/

namespace BlockSketch.Shell

def octalDigit? (c : Char) : Option Nat :=
  if '0' ≤ c ∧ c ≤ '7' then some (c.toNat - 0x30) else none

def decimalDigit? (c : Char) : Option Nat :=
  if '0' ≤ c ∧ c ≤ '9' then some (c.toNat - 0x30) else none

/-- The value of a hexadecimal digit. -/
def hexDigit? (c : Char) : Option Nat :=
  if '0' ≤ c ∧ c ≤ '9' then some (c.toNat - 0x30)
  else if 'a' ≤ c ∧ c ≤ 'f' then some (c.toNat - 0x57)
  else if 'A' ≤ c ∧ c ≤ 'F' then some (c.toNat - 0x37)
  else none

/-- Take at most so many digits of a base: their value and what follows. -/
def takeDigits (digit? : Char → Option Nat) (base : Nat) : Nat → Nat → Bytes → Nat × Bytes
  | count + 1, value, c :: rest =>
    match digit? c with
    | some d => takeDigits digit? base count (value * base + d) rest
    | none => (value, c :: rest)
  | _, value, cs => (value, cs)

/-- Whether a byte string begins with a digit. -/
def startsWith (digit? : Char → Option Nat) (cs : Bytes) : Bool :=
  match cs with
  | c :: _ => (digit? c).isSome
  | [] => false

def letterEscape? (c : Char) : Option Char :=
  if c = 'a' then some '\x07' else if c = 'b' then some '\x08' else if c = 'e' then some '\x1b'
  else if c = 'f' then some '\x0c' else if c = 'n' then some '\n' else if c = 'r' then some '\r'
  else if c = 't' then some '\t' else if c = 'v' then some '\x0b'
  else if c = '\\' then some '\\' else none

/-- What an escape comes to. -/
inductive Escaped where
  | wrote (out rest : Bytes)
  | stop
  | bad (message : Bytes)

/-- A backslash that stands for itself. -/
def Escaped.literal (rest : Bytes) : Escaped := .wrote ['\\'] rest

def digitsEscape (digit? : Char → Option Nat) (base count : Nat) (rest : Bytes) : Escaped :=
  let (n, rest) := takeDigits digit? base count 0 rest
  .wrote [byte n] rest

/-- The escapes in words of the program `echo`, from behind the backslash. -/
def echoEscape : Bytes → Escaped
  | [] => .literal []
  | c :: rest =>
    if c = 'c' then .stop
    else if c = 'x' ∧ startsWith hexDigit? rest then digitsEscape hexDigit? 16 2 rest
    else if c = '0' then digitsEscape octalDigit? 8 3 rest
    else if (octalDigit? c).isSome then digitsEscape octalDigit? 8 3 (c :: rest)
    else match letterEscape? c with
      | some e => .wrote [e] rest
      | none => .wrote ['\\', c] rest

/-- The escapes in a format of the shell's `printf`, from behind the backslash. -/
def formatEscape : Bytes → Escaped
  | [] => .literal []
  | c :: rest =>
    if (octalDigit? c).isSome then digitsEscape octalDigit? 8 3 (c :: rest)
    else match letterEscape? c with
      | some e => .wrote [e] rest
      | none => .literal (c :: rest)

/-- The escapes in words of the shell's `echo` and of `%b`, from behind the backslash. -/
def wordEscape : Bytes → Escaped
  | 'c' :: _ => .stop
  | '0' :: rest => formatEscape (if startsWith octalDigit? rest then rest else '0' :: rest)
  | cs => formatEscape cs

/-- The escape of a character by its code point, of so many hexadecimal digits. -/
def codeEscape (letter : Char) (count : Nat) (rest : Bytes) : Escaped :=
  let ds := (rest.take count).takeWhile fun c => (hexDigit? c).isSome
  if ds.length < count then .bad (bytes "missing hexadecimal number in escape")
  else
    let n := (takeDigits hexDigit? 16 count 0 rest).1
    if (n ≤ 0x9F ∧ n ≠ 0x24 ∧ n ≠ 0x40 ∧ n ≠ 0x60) ∨ (0xD800 ≤ n ∧ n ≤ 0xDFFF) then
      .bad (bytes "invalid universal character name \\" ++ letter :: ds.map Char.toLower)
    else .wrote (utf8 n) (rest.drop count)

/-- The escapes of the program `printf`, from behind the backslash; in words an octal number may
have a zero before its three digits. -/
def toolEscape (inWord : Bool) : Bytes → Escaped
  | [] => .literal []
  | c :: rest =>
    if c = 'c' then .stop
    else if c = 'x' then
      if startsWith hexDigit? rest then digitsEscape hexDigit? 16 2 rest
      else .bad (bytes "missing hexadecimal number in escape")
    else if inWord ∧ c = '0' then digitsEscape octalDigit? 8 3 rest
    else if (octalDigit? c).isSome then digitsEscape octalDigit? 8 3 (c :: rest)
    else if c = 'u' then codeEscape c 4 rest
    else if c = 'U' then codeEscape c 8 rest
    else if c = '"' then .wrote [c] rest
    else match letterEscape? c with
      | some e => .wrote [e] rest
      | none => .wrote ['\\', c] rest

/-- What a word with escapes writes. -/
structure Unescaped where
  out : Bytes := []
  -- whether an escape said that nothing more is written
  stopped : Bool := false
  -- the complaint about a malformed escape, which ends the word
  problem : Option Bytes := none

/-- Bytes written before. -/
def Unescaped.after (out : Bytes) (u : Unescaped) : Unescaped := { u with out := out ++ u.out }

/-- Expand the escapes in a word of at most so many bytes. -/
def unescapeWith (escape : Bytes → Escaped) : Nat → Bytes → Unescaped
  | n + 1, '\\' :: rest =>
    match escape rest with
    | .wrote out rest => (unescapeWith escape n rest).after out
    | .stop => { stopped := true }
    | .bad message => { problem := some message }
  | n + 1, c :: rest => (unescapeWith escape n rest).after [c]
  | _, _ => {}

/-- Expand the escapes in a word. -/
def unescape (escape : Bytes → Escaped) (word : Bytes) : Unescaped :=
  unescapeWith escape word.length word

end BlockSketch.Shell
