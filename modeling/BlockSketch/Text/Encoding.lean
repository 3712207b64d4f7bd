import BlockSketch.Text.Lines

/-!
# BlockSketch.Text.Encoding

Texts as bytes.  The bytes of a text file are read as strict UTF-8 and its line
ends are unified.  The bytes of a name may be any: those that are no UTF-8 are
held as the halves of surrogate pairs from 0xDC80 to 0xDCFF.
-/

namespace BlockSketch.Text

/-! ## files -/

/-- The string of UTF-8 bytes with its line ends unified, or `none` when the bytes are not well
formed. -/
def decode? (bytes : List UInt8) : Option String :=
  (String.fromUTF8? ⟨bytes.toArray⟩).map unifyLineEnds

/-- The string that is read back from a file that a text was written to, or `none` when the text
has no form in UTF-8. -/
def reread? (t : Text) : Option String := t.plain?.map unifyLineEnds

/-! ## names -/

def nameBytesOf? (l : Letter) : Option (List UInt8) :=
  match l with
  | .char c => some (String.singleton c).toUTF8.toList
  | .half _ =>
    if 0xDC80 ≤ l.code ∧ l.code ≤ 0xDCFF then some [UInt8.ofNat (l.code - 0xDC00)] else none

/-- The bytes of a name, or `none` when it holds another half of a surrogate pair. -/
def nameBytes? (t : Text) : Option (List UInt8) := (t.letters.mapM nameBytesOf?).map List.flatten

/-- The character that so many bytes at the front are in UTF-8. -/
def charOf? (bytes : List UInt8) (count : Nat) : Option Char :=
  match (String.fromUTF8? ⟨(bytes.take count).toArray⟩).map String.toList with
  | some [c] => some c
  | _ => none

/-- The letters of bytes; `skip` bytes still belong to the letter before. -/
def nameLettersFrom : Nat → List UInt8 → List Letter
  | _, [] => []
  | skip + 1, _ :: rest => nameLettersFrom skip rest
  | 0, b :: rest =>
    match [1, 2, 3, 4].findSome? fun n => (charOf? (b :: rest) n).map (·, n) with
    | some (c, n) => .char c :: nameLettersFrom (n - 1) rest
    | none => .ofCode (0xDC00 + b.toNat) :: nameLettersFrom 0 rest

/-- A name as it is read back: bytes that are UTF-8 after all become characters. -/
def settledName (t : Text) : Text :=
  match t.nameBytes? with
  | some bytes => ⟨nameLettersFrom 0 bytes⟩
  | none => t

end BlockSketch.Text
