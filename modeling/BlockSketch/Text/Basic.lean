/-!
# BlockSketch.Text.Basic

Texts.  A text is a list of letters, and a letter is a character or half of a
surrogate pair without its partner, which documents can spell by its number.  A
text with such a half has no form in UTF-8; every other text is a string.

* `Letter.ofCode_code` — a letter is known by its code point;
* `Text.plain?_ofString` — a string is its own text.
-/

namespace BlockSketch

/-! ## letters -/

inductive Letter where
  | char (c : Char)
  -- half of a surrogate pair, counted from the first half
  | half (n : Fin 2048)
deriving DecidableEq, Repr, Inhabited

instance : Coe Char Letter := ⟨.char⟩

namespace Letter

/-- The code point of the first half of a surrogate pair. -/
def firstHalf : Nat := 0xD800

/-- The code point of a letter. -/
def code : Letter → Nat
  | .char c => c.toNat
  | .half n => firstHalf + n

/-- The letter of a code point. -/
def ofCode (n : Nat) : Letter :=
  if h : firstHalf ≤ n ∧ n - firstHalf < 2048 then .half ⟨n - firstHalf, h.2⟩
  else .char (Char.ofNat n)

/-- The character that a letter is. -/
def char? : Letter → Option Char
  | .char c => some c
  | .half _ => none

/-- Whether a letter is a character of a class. -/
def isIn (class_ : Char → Bool) : Letter → Bool
  | .char c => class_ c
  | .half _ => false

theorem ofCode_code (l : Letter) : ofCode l.code = l := by
  cases l with
  | char c =>
    have valid : c.toNat < 0xD800 ∨ 0xDFFF < c.toNat ∧ c.toNat < 0x110000 := c.valid
    have outside : ¬ (firstHalf ≤ c.toNat ∧ c.toNat - firstHalf < 2048) := by
      simp only [firstHalf]; omega
    simp [ofCode, code, outside]
  | half n => simp [ofCode, code]

end Letter

/-! ## texts -/

structure Text where
  letters : List Letter
deriving DecidableEq, Repr, Inhabited

namespace Text

/-- The text of some characters. -/
def ofChars (cs : List Char) : Text := ⟨cs.map .char⟩

def ofString (s : String) : Text := ofChars s.toList

instance : Coe String Text := ⟨ofString⟩

instance : Append Text := ⟨fun s t => ⟨s.letters ++ t.letters⟩⟩

/-- Whether a text has no letters. -/
def isEmpty (t : Text) : Bool := t.letters.isEmpty

/-- How many letters a text has. -/
def length (t : Text) : Nat := t.letters.length

/-- Whether a letter stands in a text. -/
def has (t : Text) (l : Letter) : Bool := t.letters.contains l

/-- Whether a text begins with another. -/
def startsWith (t start : Text) : Bool := start.letters.isPrefixOf t.letters

/-- Texts one behind the other. -/
def concat (ts : List Text) : Text := ⟨ts.flatMap letters⟩

/-- Texts one behind the other with a separator between them. -/
def intercalate (separator : Text) (ts : List Text) : Text :=
  ⟨List.intercalate separator.letters (ts.map letters)⟩

/-- The same letter so many times. -/
def replicate (n : Nat) (l : Letter) : Text := ⟨List.replicate n l⟩

/-- The string that a text is, if it has no half of a surrogate pair. -/
def plain? (t : Text) : Option String := (t.letters.mapM Letter.char?).map String.ofList

/-- A text as a string in which the replacement character stands for halves of surrogate pairs. -/
def plain (t : Text) : String :=
  String.ofList (t.letters.map fun l => l.char?.getD (Char.ofNat 0xFFFD))

/-- The code points of a text. -/
def codes (t : Text) : List Nat := t.letters.map Letter.code

@[simp] theorem letters_append (s t : Text) : (s ++ t).letters = s.letters ++ t.letters := rfl

theorem mapM_char? (cs : List Char) : (cs.map Letter.char).mapM Letter.char? = some cs := by
  induction cs with
  | nil => rfl
  | cons c cs ih => simp [Letter.char?, ih]

theorem plain?_ofString (s : String) : plain? s = some s := by
  rw [plain?, ofString, ofChars, mapM_char?]
  simp

theorem ofString_inj {s t : String} : ofString s = ofString t ↔ s = t := by
  refine ⟨fun h => Option.some.inj ?_, congrArg ofString⟩
  rw [← plain?_ofString s, ← plain?_ofString t, h]

end Text

end BlockSketch
