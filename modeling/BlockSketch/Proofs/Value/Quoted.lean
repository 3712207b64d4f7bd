import BlockSketch.Value.Written
import Mathlib.Algebra.GroupWithZero.Nat

/-!
# BlockSketch.Proofs.Value.Quoted

Quoting loses nothing.  A letter inside quotes stands for itself or is spelled by an
escape, and escapes tell by their second letter how long they are; so the letters of a
quoted text can be read off one by one, and two texts with the same quoted form are the
same text.

* `readHex_hexLetters` — the number that hexadecimal digits spell;
* `readLetter_quotedLetter` — the letter that its quoted form spells;
* `quoted_injective` — a quoted text names one text only.
-/

namespace BlockSketch.Value

/-! ## hexadecimal numbers -/

def hexValue (l : Letter) : Nat := if l.code < 58 then l.code - 48 else l.code - 87

def readHex (ls : List Letter) : Nat := ls.foldl (fun n l => 16 * n + hexValue l) 0

theorem hexValue_digitChar : ∀ d < 16, hexValue (.char (Nat.digitChar d)) = d := by decide

/-- The hexadecimal digits of a number spell it. -/
theorem readHex_toDigits (n : Nat) : readHex ((Nat.toDigits 16 n).map .char) = n := by
  induction n using Nat.strongRecOn with
  | ind n ih =>
    rw [Nat.toDigits_eq_if (by decide)]
    split
    · next hlt => simp [readHex, hexValue_digitChar n hlt]
    · next hge =>
      have hlast := hexValue_digitChar (n % 16) (Nat.mod_lt n (by decide))
      have hrest := ih (n / 16) (by omega)
      unfold readHex at hrest ⊢
      rw [List.map_append, List.foldl_append, hrest]
      simp only [List.map_cons, List.map_nil, List.foldl_cons, List.foldl_nil, hlast]
      omega

/-- An escape is as wide as it is meant to be. -/
theorem length_hexLetters {width n : Nat} (hpos : 0 < width) (h : n < 16 ^ width) :
    (hexLetters width n).length = width := by
  have hle := (Nat.length_toDigits_le_iff (b := 16) (n := n) (by decide) hpos).mpr h
  simp only [hexLetters, List.length_map, List.length_append, List.length_replicate]
  omega

/-- Leading zeros change nothing. -/
theorem readHex_hexLetters (width n : Nat) : readHex (hexLetters width n) = n := by
  have hzeros (k : Nat) :
      (List.replicate k (Letter.char '0')).foldl (fun n l => 16 * n + hexValue l) 0 = 0 := by
    induction k with
    | zero => rfl
    | succ k ih => exact ih
  have hdigits := readHex_toDigits n
  unfold readHex at hdigits ⊢
  rw [hexLetters, List.map_append, List.map_replicate, List.foldl_append, hzeros, hdigits]

/-! ## letters -/

/-- The letter at the front of what stands inside quotes, and what comes behind it. -/
def readLetter : List Letter → Option (Letter × List Letter)
  | .char '\\' :: .char 'n' :: rest => some ('\n', rest)
  | .char '\\' :: .char 'r' :: rest => some ('\r', rest)
  | .char '\\' :: .char 't' :: rest => some ('\t', rest)
  | .char '\\' :: .char 'x' :: rest => some (.ofCode (readHex (rest.take 2)), rest.drop 2)
  | .char '\\' :: .char 'u' :: rest => some (.ofCode (readHex (rest.take 4)), rest.drop 4)
  | .char '\\' :: .char 'U' :: rest => some (.ofCode (readHex (rest.take 8)), rest.drop 8)
  | .char '\\' :: c :: rest => some (c, rest)
  | c :: rest => some (c, rest)
  | [] => none

/-- A letter that is no backslash is itself. -/
theorem readLetter_of_ne {c : Letter} (h : c ≠ '\\') (rest : List Letter) :
    readLetter (c :: rest) = some (c, rest) := by
  rw [readLetter] <;> intros <;> contradiction

theorem code_lt (c : Letter) : c.code < 0x110000 := by
  cases c with
  | char c =>
    have hvalid : c.toNat < 0xD800 ∨ 0xDFFF < c.toNat ∧ c.toNat < 0x110000 := c.valid
    simp only [Letter.code]
    omega
  | half n =>
    simp only [Letter.code, Letter.firstHalf]
    omega

/-- An escaped letter is read back, whatever comes behind it. -/
theorem readLetter_escapeLetter (c : Letter) (rest : List Letter) :
    readLetter (escapeLetter c ++ rest) = some (c, rest) := by
  -- the digits are as many as the letter behind the backslash says
  have hread (width : Nat) (hpos : 0 < width) (hlt : c.code < 16 ^ width) :
      Letter.ofCode (readHex ((hexLetters width c.code ++ rest).take width)) = c ∧
        (hexLetters width c.code ++ rest).drop width = rest := by
    have hlength := length_hexLetters hpos hlt
    rw [List.take_left' hlength, List.drop_left' hlength, readHex_hexLetters, Letter.ofCode_code]
    exact ⟨rfl, rfl⟩
  have hcode := code_lt c
  unfold escapeLetter
  dsimp only
  split
  · next hlt =>
    obtain ⟨hletter, hrest⟩ := hread 2 (by decide) hlt
    simp [readLetter, hletter, hrest]
  · split
    · next hlt =>
      obtain ⟨hletter, hrest⟩ := hread 4 (by decide) hlt
      simp [readLetter, hletter, hrest]
    · obtain ⟨hletter, hrest⟩ := hread 8 (by decide) (by omega)
      simp [readLetter, hletter, hrest]

/-- Whatever stands for itself, a letter can be read back from its form inside quotes. -/
theorem readLetter_quotedLetter (plain : Char → Bool) {quote : Letter}
    (hquote : quote = '"' ∨ quote = '\'') (c : Letter) (rest : List Letter) :
    readLetter (quotedLetter plain quote c ++ rest) = some (c, rest) := by
  unfold quotedLetter
  split
  · next h => rcases hquote with rfl | rfl <;> rcases h with rfl | rfl <;> rfl
  · next h =>
    have hne : c ≠ '\\' := fun heq => h (.inr heq)
    split
    · next hfeed => rw [hfeed]; rfl
    · split
      · next hreturn => rw [hreturn]; rfl
      · split
        · next htab => rw [htab]; rfl
        · split
          · exact readLetter_of_ne hne rest
          · exact readLetter_escapeLetter c rest

/-! ## texts -/

/-- Two texts that look alike inside the same quotes are the same. -/
theorem flatMap_quotedLetter_inj {plain : Char → Bool} {quote : Letter}
    (hquote : quote = '"' ∨ quote = '\'') {ls ls' : List Letter}
    (h : ls.flatMap (quotedLetter plain quote) = ls'.flatMap (quotedLetter plain quote)) :
    ls = ls' := by
  have hread (c : Letter) (rest : List Letter) := readLetter_quotedLetter plain hquote c rest
  induction ls generalizing ls' with
  | nil =>
    cases ls' with
    | nil => rfl
    | cons c' rest' =>
      have hempty := hread c' (rest'.flatMap (quotedLetter plain quote))
      rw [← List.flatMap_cons, ← h] at hempty
      exact nomatch hempty
  | cons c rest ih =>
    have hfirst := hread c (rest.flatMap (quotedLetter plain quote))
    rw [← List.flatMap_cons, h] at hfirst
    cases ls' with
    | nil => exact nomatch hfirst
    | cons c' rest' =>
      rw [List.flatMap_cons, hread, Option.some_inj, Prod.mk.injEq] at hfirst
      rw [hfirst.1, ih hfirst.2.symm]

/-- Quotes are double or single. -/
theorem quoteFor_cases (t : Text) : quoteFor t = '"' ∨ quoteFor t = '\'' := by
  unfold quoteFor
  split
  · exact .inl rfl
  · exact .inr rfl

/-- A text can be told from how it is quoted. -/
theorem quoted_injective : Function.Injective quoted := by
  intro t t' h
  have hletters := congrArg Text.letters h
  simp only [quoted, quotedWith, List.cons_append, List.cons.injEq] at hletters
  obtain ⟨hquote, hinner⟩ := hletters
  rw [hquote] at hinner
  exact congrArg Text.mk (flatMap_quotedLetter_inj (quoteFor_cases t')
    (List.append_cancel_right hinner))

end BlockSketch.Value
