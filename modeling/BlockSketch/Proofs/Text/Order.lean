import BlockSketch.Text.Order

/-!
# BlockSketch.Proofs.Text.Order

The order of texts, and lists that are sorted by a text.  Of two texts that are not the same one
comes before the other; a sorted list has its items in that order, and those with equal texts
in the order that they had.

* `precedes_connected`, `precedes_cotrans` — the order of texts;
* `sortOn_pairwise`, `sortOn_strict`, `filter_sortOn` — sorted lists.
-/

namespace BlockSketch.Text

/-- One text comes before another, by the first code point in which they differ. -/
def Precedes (s t : Text) : Prop := List.Lex (· < ·) s.codes t.codes

/-- The comparison of code points decides the order. -/
theorem lex_codes_iff (s t : Text) : s.codes.lex t.codes Nat.blt = true ↔ s.Precedes t := by
  have hblt : (fun m n => Nat.blt m n = true) = fun m n => m < n := by
    funext m n
    exact Nat.blt_eq
  rw [List.lex_eq_true_iff_lex, hblt]
  rfl

/-- A text is known by its code points. -/
theorem codes_inj {s t : Text} (h : s.codes = t.codes) : s = t := by
  have hback (u : Text) : u.codes.map Letter.ofCode = u.letters := by
    rw [codes, List.map_map]
    exact (List.map_congr_left fun l _ => Letter.ofCode_code l).trans (List.map_id _)
  have hletters : s.letters = t.letters := by rw [← hback s, ← hback t, h]
  cases s
  cases t
  exact congrArg Text.mk hletters

theorem precedes_irrefl (s : Text) : ¬ s.Precedes s := List.lt_irrefl s.codes

theorem precedes_asymm {s t : Text} (h : s.Precedes t) : ¬ t.Precedes s := List.lt_asymm h

/-- Two texts of which neither comes before the other are the same. -/
theorem precedes_connected {s t : Text} (hst : ¬ s.Precedes t) (hts : ¬ t.Precedes s) : s = t :=
  codes_inj (List.le_antisymm (List.not_lt.mp hts) (List.not_lt.mp hst))

/-- What may stand in front of something may stand in front of what comes behind it. -/
theorem precedes_cotrans {s t u : Text} (hst : ¬ t.Precedes s) (htu : ¬ u.Precedes t) :
    ¬ u.Precedes s :=
  List.not_lt.mpr (List.le_trans (List.not_lt.mp hst) (List.not_lt.mp htu))

section Sorting

variable {α : Type} (key : α → Text)

/-- Whether an item may stand in front of another. -/
def mayPrecede (a b : α) : Bool := !(key b).codes.lex (key a).codes Nat.blt

/-- An item may stand in front of another unless the key of the other comes first. -/
theorem mayPrecede_iff (a b : α) : mayPrecede key a b = true ↔ ¬ (key b).Precedes (key a) := by
  rw [mayPrecede, Bool.not_eq_true', ← Bool.not_eq_true, lex_codes_iff]

theorem mayPrecede_trans (a b c : α) (hab : mayPrecede key a b = true)
    (hbc : mayPrecede key b c = true) :
    mayPrecede key a c = true := by
  rw [mayPrecede_iff] at *
  exact precedes_cotrans hab hbc

theorem mayPrecede_total (a b : α) : (mayPrecede key a b || mayPrecede key b a) = true := by
  rw [Bool.or_eq_true, mayPrecede_iff, mayPrecede_iff]
  by_cases h : (key b).Precedes (key a)
  · exact .inr (precedes_asymm h)
  · exact .inl h

/-- Once sorted, no item stands behind one whose key comes later than its own. -/
theorem sortOn_pairwise (xs : List α) :
    (sortOn key xs).Pairwise fun a b => ¬ (key b).Precedes (key a) :=
  (List.pairwise_mergeSort (mayPrecede_trans key) (mayPrecede_total key) xs).imp
    fun {a b} h => (mayPrecede_iff key a b).mp h

/-- Items with different texts are in strict order. -/
theorem sortOn_strict {xs : List α} (h : (xs.map key).Nodup) :
    (sortOn key xs).Pairwise fun a b => (key a).Precedes (key b) := by
  have hne : (sortOn key xs).Pairwise fun a b => key a ≠ key b :=
    List.pairwise_map.mp (((sortOn_perm key xs).map key).nodup_iff.mpr h)
  refine (hne.and (sortOn_pairwise key xs)).imp fun {a b} hab => ?_
  by_cases hlt : (key a).Precedes (key b)
  · exact hlt
  · exact absurd (precedes_connected hlt hab.2) hab.1

/-- Items with the same text keep their order. -/
theorem filter_sortOn (xs : List α) (t : Text) :
    (sortOn key xs).filter (fun a => key a = t) = xs.filter fun a => key a = t := by
  have hequal : (xs.filter fun a => key a = t).Pairwise fun a b => mayPrecede key a b = true := by
    refine List.pairwise_of_forall_mem_list fun a ha b hb => ?_
    have ha : key a = t := by simpa using (List.mem_filter.mp ha).2
    have hb : key b = t := by simpa using (List.mem_filter.mp hb).2
    rw [mayPrecede_iff, ha, hb]
    exact precedes_irrefl t
  have hkept : (xs.filter fun a => key a = t).Sublist (sortOn key xs) :=
    List.sublist_mergeSort (mayPrecede_trans key) (mayPrecede_total key) hequal List.filter_sublist
  have hsub := hkept.filter fun a => decide (key a = t)
  rw [List.filter_filter] at hsub
  simp only [Bool.and_self] at hsub
  exact (hsub.eq_of_length ((sortOn_perm key xs).filter _).length_eq.symm).symm

end Sorting

end BlockSketch.Text
