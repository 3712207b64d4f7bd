import BlockSketch.Diagram.Basic
import BlockSketch.Proofs.Text.Split

/-!
# BlockSketch.Proofs.Diagram.Key

The keys of links.  A key puts the four texts of a link in a row, with a colon between a
block and its port and an arrow between the two ends, and escapes nothing; so a colon or an
arrow inside the texts may be taken for one of those between them.

* `Unmistakable` — the links none of whose texts can be cut elsewhere;
* `eq_of_key_eq` — no other link has the key of such a link;
* `exists_key_eq` — every other link shares its key with some link.
-/

namespace BlockSketch

namespace Text

theorem occurs_iff (pattern ls : List Letter) : occurs pattern ls = true ↔ pattern <:+: ls := by
  induction ls with
  | nil => simp [occurs]
  | cons l ls ih => simp [occurs, List.infix_cons_iff, ih]

/-- A text is cut at a letter that stands in it. -/
theorem cut_of_has {t : Text} {l : Letter} (h : t.has l = true) :
    ∃ before after : Text, t.letters = before.letters ++ l :: after.letters := by
  have hmem : l ∈ t.letters := by simpa [has] using h
  obtain ⟨before, after, hcut⟩ := List.append_of_mem hmem
  exact ⟨⟨before⟩, ⟨after⟩, hcut⟩

/-- A text is cut at a pattern that occurs in it. -/
theorem cut_of_contains {t pattern : Text} (h : t.contains pattern = true) :
    ∃ before after : Text, t.letters = before.letters ++ pattern.letters ++ after.letters := by
  obtain ⟨before, after, hcut⟩ := (occurs_iff _ _).mp h
  exact ⟨⟨before⟩, ⟨after⟩, hcut.symm⟩

end Text

namespace Link

/-- A link whose key can be read in one way only: its texts have no colon, and the two beside the
arrow have no arrow. -/
def Unmistakable (l : Link) : Prop :=
  (∀ t ∈ [l.fromUid, l.fromPort, l.toUid, l.toPort], t.has ':' = false) ∧
    ∀ t ∈ [l.fromPort, l.toUid], t.contains "->" = false

instance (l : Link) : Decidable l.Unmistakable := inferInstanceAs (Decidable (_ ∧ _))

/-- What stands between the two colons of a key. -/
def middle (l : Link) : List Letter :=
  l.fromPort.letters ++ .char '-' :: .char '>' :: l.toUid.letters

@[simp] theorem letters_colon : (Text.ofString ":").letters = [.char ':'] := rfl

@[simp] theorem letters_arrow : (Text.ofString "->").letters = [.char '-', .char '>'] := rfl

theorem letters_key (l : Link) :
    l.key.letters = l.fromUid.letters ++
      .char ':' :: (l.middle ++ .char ':' :: l.toPort.letters) := by
  simp [key, middle]

/-! ## one reading -/

/-- An arrow is found where it is, between texts that have none. -/
theorem arrow_inj {p v p' v' : List Letter} (hp : ¬ [.char '-', .char '>'] <:+: p)
    (hv : ¬ [.char '-', .char '>'] <:+: v)
    (h : p ++ .char '-' :: .char '>' :: v = p' ++ .char '-' :: .char '>' :: v') :
    p = p' ∧ v = v' := by
  rcases List.append_eq_append_iff.mp h with ⟨rest, hp', hrest⟩ | ⟨rest, hp', hrest⟩
  · match rest, hrest with
    | [], hrest => simp_all
    | [_], hrest => simp at hrest
    | _ :: _ :: rest, hrest =>
      -- the arrow of the other reading stands in `v`
      simp only [List.cons_append, List.cons.injEq] at hrest
      exact absurd ⟨rest, v', by simp [hrest.2.2]⟩ hv
  · match rest, hrest with
    | [], hrest => simp_all
    | [_], hrest => simp at hrest
    | _ :: _ :: rest, hrest =>
      -- the arrow of the other reading stands in `p`
      simp only [List.cons_append, List.cons.injEq] at hrest
      exact absurd ⟨p', rest, by simp [hp', ← hrest.1, ← hrest.2.1]⟩ hp

/-- The texts between the colons of a key, when there are no others. -/
theorem splitLetters_key {l : Link} (h : l.key.letters.count (.char ':') = 2) :
    Text.splitLetters (.char ':') l.key.letters =
      [l.fromUid.letters, l.middle, l.toPort.letters] := by
  rw [letters_key] at h ⊢
  have hcount : l.fromUid.letters.count (.char ':') = 0 ∧ l.middle.count (.char ':') = 0 ∧
      l.toPort.letters.count (.char ':') = 0 := by
    simp only [List.count_append, List.count_cons_self] at h
    omega
  simp only [List.count_eq_zero] at hcount
  obtain ⟨hfrom, hmiddle, hto⟩ := hcount
  rw [Text.splitLetters_append, Text.splitLetters_append, Text.splitLetters_of_not_mem hfrom,
    Text.splitLetters_of_not_mem hmiddle, Text.splitLetters_of_not_mem hto]
  rfl

/-- No other link has the key of an unmistakable link. -/
theorem eq_of_key_eq {a b : Link} (ha : a.Unmistakable) (h : a.key = b.key) : a = b := by
  obtain ⟨hcolons, harrows⟩ := ha
  simp only [List.forall_mem_cons, Text.has, List.contains_eq_mem,
    decide_eq_false_iff_not] at hcolons
  obtain ⟨hfrom, hport, hto, hlast, -⟩ := hcolons
  have hcount : a.key.letters.count (.char ':') = 2 := by
    simp [letters_key, middle, List.count_eq_zero.mpr, hfrom, hport, hto, hlast]
  -- the colons of `b` are the two of its key as well, so both keys are cut alike
  have hsplit := (splitLetters_key hcount).symm.trans
    ((congrArg (Text.splitLetters (.char ':') ∘ Text.letters) h).trans
      (splitLetters_key (h ▸ hcount)))
  have hmiddle : a.fromUid.letters = b.fromUid.letters ∧ a.middle = b.middle ∧
      a.toPort.letters = b.toPort.letters := by simpa using hsplit
  have harrow (t : Text) (ht : t.contains "->" = false) :
      ¬ [.char '-', .char '>'] <:+: t.letters := by
    rw [← Text.occurs_iff]
    exact Bool.eq_false_iff.mp ht
  have hends :=
    arrow_inj (harrow _ (harrows _ (by simp))) (harrow _ (harrows _ (by simp))) hmiddle.2.1
  have htext {s t : Text} (h : s.letters = t.letters) : s = t := congrArg Text.mk h
  cases a
  cases b
  exact Link.mk.injEq .. ▸ ⟨htext hmiddle.1, htext hends.1, htext hends.2, htext hmiddle.2.2⟩

/-! ## other readings -/

/-- Every link that is not unmistakable shares its key with another one. -/
theorem exists_key_eq {a : Link} (h : ¬ a.Unmistakable) : ∃ b, a.key = b.key ∧ a ≠ b := by
  -- another reading, by its letters; it differs in the length of one text
  have hother {b : Link} (hkey : a.key.letters = b.key.letters)
      (hne : a.fromUid.length ≠ b.fromUid.length ∨ a.toUid.length ≠ b.toUid.length) :
      ∃ b, a.key = b.key ∧ a ≠ b :=
    ⟨b, congrArg Text.mk hkey, by rintro rfl; simp at hne⟩
  obtain ⟨u, p, v, q⟩ := a
  have hcases : u.has ':' = true ∨ p.has ':' = true ∨ v.has ':' = true ∨ q.has ':' = true ∨
      p.contains "->" = true ∨ v.contains "->" = true := by
    by_contra hnone
    simp only [not_or, Bool.not_eq_true] at hnone
    refine h ⟨?_, ?_⟩
    · simp [hnone]
    · simp [hnone]
  simp only [letters_key, middle, Text.length] at hother
  rcases hcases with hu | hp | hv | hq | hp | hv
  · obtain ⟨s, t, hcut⟩ := Text.cut_of_has hu
    exact hother (b := ⟨s, t ++ ":" ++ p, v, q⟩) (by simp [hcut]) (by simp [hcut])
  · obtain ⟨s, t, hcut⟩ := Text.cut_of_has hp
    exact hother (b := ⟨u ++ ":" ++ s, t, v, q⟩) (by simp [hcut]) (by simp)
  · obtain ⟨s, t, hcut⟩ := Text.cut_of_has hv
    exact hother (b := ⟨u, p, s, t ++ ":" ++ q⟩) (by simp [hcut]) (by simp [hcut])
  · obtain ⟨s, t, hcut⟩ := Text.cut_of_has hq
    exact hother (b := ⟨u, p, v ++ ":" ++ s, t⟩) (by simp [hcut]) (by simp)
  · obtain ⟨s, t, hcut⟩ := Text.cut_of_contains hp
    exact hother (b := ⟨u, s, t ++ "->" ++ v, q⟩) (by simp [hcut]) (by simp; omega)
  · obtain ⟨s, t, hcut⟩ := Text.cut_of_contains hv
    exact hother (b := ⟨u, p ++ "->" ++ s, t, q⟩) (by simp [hcut]) (by simp [hcut]; omega)

end Link

end BlockSketch
