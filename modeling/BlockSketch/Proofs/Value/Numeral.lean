import BlockSketch.Proofs.Value.Number

/-!
# BlockSketch.Proofs.Value.Numeral

Which values are shown as the numeral of an integer.  The text of a double has a point, an
exponent or the letters of a name, and every other value that is no number and no text has
letters or brackets, so that only the integer itself and its text are left.

* `intText_injective` — different integers have different numerals;
* `not_numeral_render` — a double is not shown as an integer;
* `shown_eq_intText_iff` — the values that are shown as the numeral of an integer.
-/

namespace BlockSketch

namespace Value

/-- Whether a text has only what the numerals of integers have. -/
def hasNumeralLetters (t : Text) : Bool := t.letters.all (·.isIn fun c => c == '-' || c.isDigit)

theorem hasNumeralLetters_intText (n : Int) : hasNumeralLetters (intText n) = true := by
  refine List.all_eq_true.mpr fun l hl => ?_
  obtain ⟨c, hc, rfl⟩ := List.mem_map.mp hl
  have hkinds := isDigit_or_minus n hc
  simpa [Letter.isIn] using hkinds

/-- A text with another character is no numeral. -/
theorem not_hasNumeralLetters {t : Text} (c : Char) (hmem : .char c ∈ t.letters)
    (hc : (c == '-' || c.isDigit) = false) : hasNumeralLetters t = false := by
  refine Bool.eq_false_iff.mpr fun hall => ?_
  have hin := List.all_eq_true.mp hall _ hmem
  exact absurd (hc.symm.trans hin) (by simp)

theorem intText_injective : Function.Injective intText := by
  intro m n h
  have hchars : intChars m = intChars n :=
    (List.map_inj_right fun _ _ => Letter.char.inj).mp (congrArg Text.letters h)
  have hsigns := congrArg takeSign hchars
  rw [takeSign_intChars, takeSign_intChars, Prod.mk.injEq] at hsigns
  have hdigits := congrArg digitsValue hsigns.2
  rw [digitsValue_toDigits, digitsValue_toDigits] at hdigits
  rw [← withSign_natAbs m, hsigns.1, hdigits, withSign_natAbs]

end Value

/-! ## doubles -/

namespace Decimal

/-- A number in positional notation has a point. -/
theorem point_mem_positional (ds : List Char) (point : Int) : '.' ∈ positional ds point := by
  unfold positional
  split
  · simp
  · split <;> simp

/-- A number with an exponent has the mark of it. -/
theorem mark_mem_scientific (width : Nat) (ds : List Char) (exponent : Int) :
    'e' ∈ scientific width ds exponent := by
  simp [scientific, exponentText]

theorem mem_magnitude (f : Layout) (m : Nat) (e : Int) :
    '.' ∈ f.magnitude m e ∨ 'e' ∈ f.magnitude m e := by
  unfold Layout.magnitude
  split
  · exact .inl (by simp)
  · dsimp only
    split
    · exact .inl (point_mem_positional _ _)
    · exact .inr (mark_mem_scientific _ _ _)

/-- A double is not shown as an integer. -/
theorem not_numeral_render (x : Float) :
    Value.hasNumeralLetters (Layout.plain.render x) = false := by
  unfold Layout.render
  split
  · decide
  · next negative _ => cases negative <;> decide
  · next negative m e _ =>
    have hletters {c : Char} (hc : c ∈ Layout.plain.magnitude m e) :
        .char c ∈ (Text.ofString (String.ofList
          (minus negative ++ Layout.plain.magnitude m e))).letters := by
      rw [Text.ofString, String.toList_ofList]
      exact List.mem_map_of_mem (List.mem_append_right _ hc)
    rcases mem_magnitude Layout.plain m e with hpoint | hmark
    · exact Value.not_hasNumeralLetters '.' (hletters hpoint) (by decide)
    · exact Value.not_hasNumeralLetters 'e' (hletters hmark) (by decide)

end Decimal

/-! ## values -/

namespace Value

/-- A value that is neither an integer nor a text is shown with a letter that no numeral has. -/
theorem not_numeral_shown {v : Value} (hint : ∀ n, v ≠ .int n) (htext : ∀ s, v ≠ .text s) :
    hasNumeralLetters v.shown = false := by
  cases v with
  | int m => exact absurd rfl (hint m)
  | text s => exact absurd rfl (htext s)
  | null => decide
  | bool b => cases b <;> decide
  | float x => exact Decimal.not_numeral_render x
  | undefined mark => exact Decimal.not_numeral_render Decimal.notANumber
  | list items => exact not_hasNumeralLetters '[' List.mem_cons_self (by decide)
  | dict entries => exact not_hasNumeralLetters '{' List.mem_cons_self (by decide)

/-- Only an integer and its text are shown as its numeral. -/
theorem shown_eq_intText_iff (v : Value) (n : Int) :
    v.shown = intText n ↔ v = .int n ∨ v = .text (intText n) := by
  constructor
  · intro h
    cases v with
    | int m => exact .inl (congrArg Value.int (intText_injective h))
    | text s => exact .inr (congrArg Value.text h)
    | _ =>
      have hnumeral := h ▸ hasNumeralLetters_intText n
      rw [not_numeral_shown (by simp) (by simp)] at hnumeral
      exact absurd hnumeral (by simp)
  · rintro (rfl | rfl)
    · rfl
    · rfl

end Value

end BlockSketch
