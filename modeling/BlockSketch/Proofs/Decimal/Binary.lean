import BlockSketch.Decimal.Binary

/-!
# BlockSketch.Proofs.Decimal.Binary

What the bits of a double say, against the double's own tests.  A double is read by
arithmetic on its bits here, and by cutting its bit vector in the core library; both
see the same exponent and the same fraction, so they agree on which doubles are
infinite and which are no numbers.

* `ofFloat_cases` — the doubles that are infinite, no numbers, or have digits.
-/

namespace BlockSketch.Decimal

open Float.Model (Format UnpackedFloat)

/-- The bits of a double as the core library cuts them. -/
abbrev bitVec (x : Float) : BitVec Format.binary64.numBits := x.toBits.toBitVec

theorem toNat_unpackExponent (x : Float) :
    (UnpackedFloat.unpackExponent (bitVec x)).toNat = x.toBits.toNat / twoPow 52 % twoPow 11 := by
  simp [UnpackedFloat.unpackExponent, twoPow, Nat.shiftRight_eq_div_pow]

theorem toNat_unpackMantissa (x : Float) :
    (UnpackedFloat.unpackMantissa (bitVec x)).toNat = x.toBits.toNat % twoPow 52 := by
  simp [UnpackedFloat.unpackMantissa, twoPow]

/-- The exponent of a double without digits. -/
theorem unpackExponent_eq_iff (x : Float) :
    UnpackedFloat.unpackExponent (bitVec x) = -1#_ ↔
      x.toBits.toNat / twoPow 52 % twoPow 11 = 2047 := by
  rw [← toNat_unpackExponent, ← BitVec.toNat_inj]
  rfl

theorem unpackMantissa_eq_iff (x : Float) :
    UnpackedFloat.unpackMantissa (bitVec x) = 0#_ ↔ x.toBits.toNat % twoPow 52 = 0 := by
  rw [← toNat_unpackMantissa, ← BitVec.toNat_inj]
  rfl

/-- Every double is infinite, no number, or has digits, by its bits as by its own tests. -/
theorem ofFloat_cases (x : Float) :
    (x.isInf = true ∧ x.isNaN = false ∧ ∃ negative, Binary.ofFloat x = .infinite negative) ∨
      (x.isInf = false ∧ x.isNaN = true ∧ Binary.ofFloat x = .nan) ∨
      (x.isInf = false ∧ x.isNaN = false ∧
        ∃ negative m e, Binary.ofFloat x = .finite negative m e) := by
  have hinf : x.isInf = (UnpackedFloat.unpack Format.binary64 (bitVec x)).isInf := rfl
  have hnan : x.isNaN = (UnpackedFloat.unpack Format.binary64 (bitVec x)).isNaN := rfl
  rw [hinf, hnan]
  unfold UnpackedFloat.unpack Binary.ofFloat
  dsimp only
  by_cases hexponent : x.toBits.toNat / twoPow 52 % twoPow 11 = 2047
  · rw [if_pos hexponent, if_pos ((unpackExponent_eq_iff x).mpr hexponent)]
    by_cases hfraction : x.toBits.toNat % twoPow 52 = 0
    · rw [if_pos hfraction, if_pos ((unpackMantissa_eq_iff x).mpr hfraction)]
      exact .inl ⟨rfl, rfl, _, rfl⟩
    · rw [if_neg hfraction, if_neg fun h => hfraction ((unpackMantissa_eq_iff x).mp h)]
      exact .inr (.inl ⟨rfl, rfl, rfl⟩)
  · rw [if_neg hexponent, if_neg fun h => hexponent ((unpackExponent_eq_iff x).mp h)]
    refine .inr (.inr ?_)
    rw [← and_assoc]
    refine ⟨?_, by split <;> exact ⟨_, _, _, rfl⟩⟩
    by_cases hsmall : UnpackedFloat.unpackExponent (bitVec x) = 0#11
    · rw [if_pos hsmall]
      by_cases hzero : UnpackedFloat.unpackMantissa (bitVec x) = 0#52
      · rw [dif_pos hzero]
        exact ⟨rfl, rfl⟩
      · rw [dif_neg hzero]
        exact ⟨rfl, rfl⟩
    · rw [if_neg hsmall]
      exact ⟨rfl, rfl⟩

end BlockSketch.Decimal
