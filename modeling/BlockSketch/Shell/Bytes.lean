import BlockSketch.Fault
import BlockSketch.Text.Encoding

/-!
# BlockSketch.Shell.Bytes

Byte strings.  Programs take and give bytes, which need not be text in UTF-8, so
a byte string is a list of characters below 256.  It is made from a text when a
program starts and becomes a text again when its output is read.
-/

namespace BlockSketch.Shell

/-- A byte string, whose characters are all below 256. -/
abbrev Bytes := List Char

def byte (n : Nat) : Char := Char.ofNat (n % 256)

/-- The bytes of a code point in UTF-8. -/
def utf8 (n : Nat) : Bytes :=
  let last (k : Nat) := byte (0x80 + k % 64)
  if n < 0x80 then [byte n]
  else if n < 0x800 then [byte (0xC0 + n / 64), last n]
  else if n < 0x10000 then [byte (0xE0 + n / 4096), last (n / 64), last n]
  else [byte (0xF0 + n / 262144), last (n / 4096), last (n / 64), last n]

def bytes (s : String) : Bytes := s.toList.flatMap fun c => utf8 c.toNat

/-- The bytes of a number's decimal digits. -/
def decimalText (n : Int) : Bytes :=
  (if n < 0 then ['-'] else []) ++ Nat.toDigits 10 n.natAbs

/-- The number that a row of decimal digits is. -/
def digitsValue (ds : Bytes) : Nat := ds.foldl (fun n c => 10 * n + (c.toNat - 0x30)) 0

/-- The bytes of a word of a command, which may not hold the null character. -/
def wordBytes (t : Text) : Outcome Bytes :=
  match t.nameBytes? with
  | none => .error .notEncodable
  | some bs => if bs.contains 0 then .error .malformed else .ok (bs.map fun b => byte b.toNat)

/-- Output as a text, with unified line ends. -/
def outputText (b : Bytes) : Outcome Text :=
  match Text.decode? (b.map fun c => UInt8.ofNat c.toNat) with
  | some s => .ok s
  | none => .error .notUnicode

end BlockSketch.Shell
