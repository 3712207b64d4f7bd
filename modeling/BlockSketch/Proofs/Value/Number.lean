import BlockSketch.Proofs.Decimal.Binary
import BlockSketch.Value.Number
import BlockSketch.Value.Written

/-!
# BlockSketch.Proofs.Value.Number

Integers out of values.  The decimal text of a number is read back, up to the length
that such a text may have.  Where a value gives no integer, something is wrong with its
form or its kind, unless it is an infinite double: that one alone is too large.

* `intOfText_eq`, `intOfText_intText` — the text of an integer spells the integer;
* `intOfText_error` — a text that spells no integer is malformed;
* `toInt_of_isInfinite`, `toInt_error` — the values that give no integer.
-/

namespace BlockSketch.Value

/-! ## texts of digits -/

theorem toNat_of_isDigit {c : Char} (h : c.isDigit = true) : 48 ≤ c.toNat ∧ c.toNat ≤ 57 := by
  simpa [Char.isDigit, UInt32.le_iff_toNat_le] using h

/-- Digits are no gap. -/
theorem isNumberGap_of_isDigit {c : Char} (h : c.isDigit = true) : isNumberGap c = false := by
  have hrange := toNat_of_isDigit h
  have hblank : ¬ Text.isBlank c = true := by
    simp only [Text.isBlank, Bool.or_eq_true, decide_eq_true_eq, beq_iff_eq]
    omega
  rw [isNumberGap, Bool.eq_false_iff.mpr hblank, Bool.false_and]

section Digits

variable {ds : List Char}

/-- Plain digits stand for themselves. -/
theorem asciiDigits_of_isDigit (h : ∀ d ∈ ds, d.isDigit = true) : asciiDigits ds = ds := by
  refine (List.map_congr_left fun d hd => ?_).trans (List.map_id' ds)
  have hrange := toNat_of_isDigit (h d hd)
  have hvalue : Text.digitValue? d = some (d.toNat - 0x30) := by
    unfold Text.digitValue?
    rw [if_pos (by omega), if_pos (h d hd)]
  have hback : 0x30 + (d.toNat - 0x30) = d.toNat := by omega
  rw [hvalue]
  simp only [hback, Char.ofNat_toNat]

/-- All of some digits are taken. -/
theorem takeDigits_of_isDigit (h : ∀ d ∈ ds, d.isDigit = true) : takeDigits ds = (ds, []) := by
  induction ds with
  | nil => rfl
  | cons d ds ih =>
    obtain ⟨hd, hrest⟩ := List.forall_mem_cons.mp h
    unfold takeDigits
    split
    · next heq =>
      -- an underscore is no digit
      obtain ⟨rfl, rfl⟩ := List.cons.inj heq
      exact absurd (hrest '_' List.mem_cons_self) (by decide)
    · next heq =>
      obtain ⟨rfl, rfl⟩ := List.cons.inj heq
      rw [if_pos hd, ih hrest]
    · next heq => exact absurd heq (by simp)

/-- Digits alone have no sign. -/
theorem takeSign_of_isDigit (h : ∀ d ∈ ds, d.isDigit = true) : takeSign ds = (false, ds) := by
  unfold takeSign
  split
  · exact absurd (h '-' List.mem_cons_self) (by decide)
  · exact absurd (h '+' List.mem_cons_self) (by decide)
  · rfl

end Digits

/-- The digits of a number spell it. -/
theorem digitsValue_toDigits (n : Nat) : digitsValue (Nat.toDigits 10 n) = n := by
  have hfold : digitsValue (Nat.toDigits 10 n) = Nat.ofDigitChars 10 (Nat.toDigits 10 n) 0 := by
    unfold digitsValue
    rw [Nat.ofDigitChars_eq_foldl]
    exact congrArg (fun f => List.foldl f 0 (Nat.toDigits 10 n))
      (by funext m c; rw [Nat.mul_comm]; rfl)
  rw [hfold, Nat.ofDigitChars_ten_toDigits]

/-! ## texts of integers -/

/-- Nothing is cut off a text without gaps. -/
theorem trimBy_of_isNumberGap {cs : List Char} (h : ∀ c ∈ cs, isNumberGap c = false) :
    (Text.ofChars cs).trimBy isNumberGap = .ofChars cs := by
  have hkeep (cs : List Char) (hcs : ∀ c ∈ cs, isNumberGap c = false) :
      (cs.map Letter.char).dropWhile (·.isIn isNumberGap) = cs.map Letter.char := by
    cases cs with
    | nil => rfl
    | cons c cs =>
      have hgap := hcs c List.mem_cons_self
      exact List.dropWhile_cons_of_neg (by simp [Letter.isIn, hgap])
  unfold Text.trimBy Text.ofChars
  dsimp only
  rw [hkeep cs h, ← List.map_reverse, hkeep cs.reverse (by simpa using h), ← List.map_reverse,
    List.reverse_reverse]

def intChars (n : Int) : List Char := (if n < 0 then ['-'] else []) ++ Nat.toDigits 10 n.natAbs

section Integers

variable (n : Int)

theorem isDigit_of_mem_toDigits {n : Nat} {d : Char} (h : d ∈ Nat.toDigits 10 n) :
    d.isDigit = true :=
  Nat.isDigit_of_mem_toDigits (by decide) (by decide) h

/-- The text of an integer is made of digits and a minus sign. -/
theorem isDigit_or_minus {c : Char} (h : c ∈ intChars n) : c = '-' ∨ c.isDigit = true := by
  rcases List.mem_append.mp h with hsign | hdigit
  · split at hsign
    · exact .inl (List.mem_singleton.mp hsign)
    · exact absurd hsign List.not_mem_nil
  · exact .inr (isDigit_of_mem_toDigits hdigit)

theorem asciiDigits_intChars : asciiDigits (intChars n) = intChars n := by
  have hdigits := asciiDigits_of_isDigit fun d (hd : d ∈ Nat.toDigits 10 n.natAbs) =>
    isDigit_of_mem_toDigits hd
  have hminus : asciiDigits ['-'] = ['-'] := by decide
  unfold intChars
  split
  · rw [asciiDigits, List.map_append, ← asciiDigits, ← asciiDigits, hminus, hdigits]
  · exact hdigits

/-- The text of an integer has the sign of the integer in front of its digits. -/
theorem takeSign_intChars : takeSign (intChars n) = (decide (n < 0), Nat.toDigits 10 n.natAbs) := by
  unfold intChars
  by_cases h : n < 0
  · rw [if_pos h, decide_eq_true h]
    rfl
  · rw [if_neg h, decide_eq_false h]
    exact takeSign_of_isDigit fun d hd => isDigit_of_mem_toDigits hd

/-- An integer is its size with its sign. -/
theorem withSign_natAbs : Decimal.withSign (decide (n < 0)) n.natAbs = n := by
  unfold Decimal.withSign
  by_cases h : n < 0
  · rw [decide_eq_true h, if_pos rfl]
    exact (Int.eq_neg_natAbs_of_nonpos (Int.le_of_lt h)).symm
  · rw [decide_eq_false h, if_neg Bool.false_ne_true]
    exact Int.natAbs_of_nonneg (Int.not_lt.mp h)

/-- What the text of an integer spells. -/
theorem intOfText_eq : intOfText (intText n) =
    if maxDigits < Decimal.digitCount n.natAbs then .error .malformed else .ok n := by
  have htext : intText n = .ofChars (intChars n) := rfl
  have hgap : ∀ c ∈ intChars n, isNumberGap c = false := by
    intro c hc
    rcases isDigit_or_minus n hc with rfl | hdigit
    · decide
    · exact isNumberGap_of_isDigit hdigit
  have hplain : (Text.ofChars (intChars n)).plain.toList = intChars n := by
    unfold Text.plain Text.ofChars
    rw [String.toList_ofList, List.map_map]
    exact List.map_id _
  have hsome : (Nat.toDigits 10 n.natAbs).isEmpty = false := by simp [Nat.toDigits_ne_nil]
  unfold intOfText
  rw [htext, trimBy_of_isNumberGap hgap, hplain, asciiDigits_intChars, takeSign_intChars]
  dsimp only
  rw [takeDigits_of_isDigit fun d hd => isDigit_of_mem_toDigits hd]
  dsimp only
  rw [hsome, digitsValue_toDigits, withSign_natAbs, if_neg (by simp)]
  rfl

/-- The text of an integer spells it, if it is not too long. -/
theorem intOfText_intText (h : Decimal.digitCount n.natAbs ≤ maxDigits) :
    intOfText (intText n) = .ok n := by
  rw [intOfText_eq, if_neg (Nat.not_lt.mpr h)]

end Integers

/-- A text that spells no integer is malformed. -/
theorem intOfText_error {t : Text} {fault : Fault} (h : intOfText t = .error fault) :
    fault = .malformed := by
  unfold intOfText at h
  split at h
  split at h
  split at h
  · exact (Except.error.inj h).symm
  · split at h
    · exact (Except.error.inj h).symm
    · exact absurd h (by simp)

/-! ## values -/

def isInfinite : Value → Bool
  | .float x => x.isInf
  | _ => false

/-- An infinite double is no integer. -/
theorem toInt_of_isInfinite {v : Value} (h : v.isInfinite = true) : v.toInt = .error .tooLarge := by
  cases v with
  | float x =>
    obtain ⟨_, hnan, negative, hx⟩ | ⟨hinf, _⟩ | ⟨hinf, _⟩ := Decimal.ofFloat_cases x
    · simp only [toInt, Decimal.truncate?, hx, hnan, Bool.false_eq_true, if_false]
    · exact absurd (hinf.symm.trans h) (by simp)
    · exact absurd (hinf.symm.trans h) (by simp)
  | _ => exact absurd h (by simp [isInfinite])

/-- A value that is not infinite and gives no integer is malformed or of the wrong kind. -/
theorem toInt_error {v : Value} {fault : Fault} (hv : v.isInfinite = false)
    (h : v.toInt = .error fault) : fault = .malformed ∨ fault = .wrongKind := by
  cases v with
  | float x =>
    obtain ⟨hinf, _⟩ | ⟨_, hnan, hx⟩ | ⟨_, _, negative, m, e, hx⟩ := Decimal.ofFloat_cases x
    · exact absurd (hinf.symm.trans hv) (by simp)
    · simp only [toInt, Decimal.truncate?, hx, hnan, if_true, Except.error.injEq] at h
      exact .inl h.symm
    · simp [toInt, Decimal.truncate?, hx] at h
  | undefined mark => exact .inl (Except.error.inj h).symm
  | text s =>
    rw [toInt] at h
    exact .inl (intOfText_error h)
  | null | list items | dict entries => exact .inr (Except.error.inj h).symm
  | bool b | int n => exact absurd h (by simp [toInt])

end BlockSketch.Value
