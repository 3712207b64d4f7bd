import BlockSketch.Text.Lines

/-!
# BlockSketch.Proofs.Text.Lines

Lines at the seam of two texts.  Where a line feed joins two texts, the lines of the
whole are the lines of the first and then those of the second.  If the first text ends
at a line boundary, or is empty, there is an empty line between them, unless that
boundary is a carriage return, which the line feed completes.

* `lines_append_feed` — the lines of two texts that are joined by a line feed;
* `lines_of_unbroken`, `unbroken_of_mem_lines` — a text is one line exactly when no line ends in it;
* `lines_unlines` — the lines of lines that were joined.
-/

namespace BlockSketch.Text

/-- No line ends in a text. -/
def Unbroken (t : Text) : Prop := ∀ l ∈ t.letters, l.isIn isLineEnd = false

instance (t : Text) : Decidable t.Unbroken :=
  inferInstanceAs (Decidable (∀ l ∈ t.letters, l.isIn isLineEnd = false))

theorem Unbroken.append {s t : Text} (hs : s.Unbroken) (ht : t.Unbroken) : (s ++ t).Unbroken :=
  List.forall_mem_append.mpr ⟨hs, ht⟩

/-- A letter that does not begin a carriage return with its line feed. -/
theorem linesFrom_cons (current : List Letter) {l : Letter} {rest : List Letter}
    (h : ∀ rest', l = .char '\r' → rest ≠ .char '\n' :: rest') :
    linesFrom current (l :: rest) =
      if l.isIn isLineEnd then current.reverse :: linesFrom [] rest
      else linesFrom (l :: current) rest := by
  rw [linesFrom]
  intro rest' hl hrest
  exact h rest' hl hrest

/-- The lines of a text and of what follows it behind a line feed. -/
theorem linesFrom_append_feed (current before after : List Letter) :
    ∃ between, (between = [] ∨ between = [[]]) ∧
      linesFrom current (before ++ .char '\n' :: after) =
        linesFrom current before ++ between ++ linesFrom [] after := by
  fun_induction linesFrom current before with
  | case1 current hempty =>
    rw [List.isEmpty_iff.mp hempty]
    exact ⟨[[]], .inr rfl, linesFrom_newline [] after⟩
  | case2 current hempty => exact ⟨[], .inl rfl, linesFrom_newline current after⟩
  | case3 current rest ih =>
    obtain ⟨between, hbetween, hlines⟩ := ih
    exact ⟨between, hbetween, congrArg (current.reverse :: ·) hlines⟩
  | case4 current l rest hfirst hend ih =>
    cases rest with
    | nil =>
      by_cases hl : l = .char '\r'
      · -- the line feed belongs to the carriage return
        rw [hl]
        exact ⟨[], .inl rfl, rfl⟩
      · refine ⟨[[]], .inr rfl, ?_⟩
        rw [List.singleton_append, linesFrom_cons current fun _ h => absurd h hl, if_pos hend,
          linesFrom_newline]
        rfl
    | cons l' rest =>
      obtain ⟨between, hbetween, hlines⟩ := ih
      refine ⟨between, hbetween, ?_⟩
      rw [List.cons_append, linesFrom_cons current, if_pos hend, hlines]
      · rfl
      · intro rest' hl hrest
        exact hfirst rest hl (by rw [(List.cons.inj hrest).1])
  | case5 current l rest hfirst hend ih =>
    obtain ⟨between, hbetween, hlines⟩ := ih
    have hl : l ≠ .char '\r' := fun hl => hend (by rw [hl]; decide)
    refine ⟨between, hbetween, ?_⟩
    rw [List.cons_append, linesFrom_cons current fun _ h => absurd h hl, if_neg hend, hlines]

/-- Between the lines of two texts that a line feed joins, there is at most an empty one. -/
theorem lines_append_feed (a b : Text) :
    ∃ between, (between = [] ∨ between = [("" : Text)]) ∧
      lines (a ++ "\n" ++ b) = lines a ++ between ++ lines b := by
  obtain ⟨between, hbetween, hlines⟩ := linesFrom_append_feed [] a.letters b.letters
  have hletters : (a ++ "\n" ++ b).letters = a.letters ++ .char '\n' :: b.letters :=
    List.append_assoc a.letters [.char '\n'] b.letters
  refine ⟨between.map Text.mk, ?_, ?_⟩
  · rcases hbetween with rfl | rfl
    · exact .inl rfl
    · exact .inr rfl
  · unfold lines
    rw [hletters, hlines, List.map_append, List.map_append]

/-- No line ends in a line. -/
theorem unbroken_of_mem_lines {t line : Text} (h : line ∈ t.lines) : line.Unbroken := by
  have hfrom (current rest : List Letter) (hcurrent : ∀ l ∈ current, l.isIn isLineEnd = false) :
      ∀ line ∈ linesFrom current rest, ∀ l ∈ line, l.isIn isLineEnd = false := by
    have hfirst (l : Letter) (hl : l ∈ current.reverse) : l.isIn isLineEnd = false :=
      hcurrent l (List.mem_reverse.mp hl)
    fun_induction linesFrom current rest with
    | case1 current hempty => exact fun line hline => absurd hline List.not_mem_nil
    | case2 current hempty =>
      intro line hline
      rw [List.mem_singleton.mp hline]
      exact hfirst
    | case3 current rest ih | case4 current l rest _ hend ih =>
      intro line hline
      rcases List.mem_cons.mp hline with rfl | hlater
      · exact hfirst
      · exact ih (by simp) (by simp) line hlater
    | case5 current l rest _ hend ih =>
      have hnext : ∀ l' ∈ l :: current, l'.isIn isLineEnd = false :=
        List.forall_mem_cons.mpr ⟨by simpa using hend, hcurrent⟩
      exact ih hnext fun l' hl' => hnext l' (List.mem_reverse.mp hl')
  obtain ⟨ls, hls, rfl⟩ := List.mem_map.mp h
  exact hfrom [] t.letters (by simp) ls hls

theorem eq_empty_of_isEmpty {t : Text} (h : t.isEmpty = true) : t = "" :=
  congrArg Text.mk (List.isEmpty_iff.mp h)

/-- Letters at which no line ends go on with the line in hand. -/
theorem linesFrom_append_of_unbroken (current : List Letter) {ls : List Letter}
    (h : ∀ l ∈ ls, l.isIn isLineEnd = false) (rest : List Letter) :
    linesFrom current (ls ++ rest) = linesFrom (ls.reverse ++ current) rest := by
  induction ls generalizing current with
  | nil => rfl
  | cons l ls ih =>
    obtain ⟨hl, hls⟩ := List.forall_mem_cons.mp h
    have hreturn : l ≠ .char '\r' := fun heq => absurd (heq ▸ hl) (by decide)
    rw [List.cons_append, linesFrom_cons current fun _ heq => absurd heq hreturn,
      if_neg (by simp [hl]), ih (l :: current) hls]
    simp

/-- A text in which no line ends is a line of its own. -/
theorem lines_of_unbroken {t : Text} (h : t.Unbroken) (ht : t.isEmpty = false) : lines t = [t] := by
  have hletters : t.letters ≠ [] := by simpa [isEmpty] using ht
  have hfrom := linesFrom_append_of_unbroken [] h []
  unfold lines
  rw [List.append_nil] at hfrom
  rw [hfrom]
  simp [linesFrom, hletters]

/-- Lines that are joined are cut apart again, but an empty line at the end leaves no trace. -/
theorem lines_unlines {ls : List Text} (h : ∀ line ∈ ls, line.Unbroken) :
    lines (unlines ls) = if ls.getLast?.any isEmpty then ls.dropLast else ls := by
  induction ls with
  | nil => rfl
  | cons line ls ih =>
    obtain ⟨hline, hls⟩ := List.forall_mem_cons.mp h
    cases ls with
    | nil =>
      have hone : unlines [line] = line := by simp [unlines, intercalate]
      rw [hone]
      cases hempty : line.isEmpty with
      | true =>
        rw [eq_empty_of_isEmpty hempty]
        rfl
      | false =>
        rw [lines_of_unbroken hline hempty]
        simp [hempty]
    | cons next ls =>
      have hjoin : (unlines (line :: next :: ls)).letters =
          line.letters ++ .char '\n' :: (unlines (next :: ls)).letters := by
        simp only [unlines, intercalate, List.map_cons, List.intercalate_cons_cons,
          List.append_assoc]
        rfl
      have hcut : lines (unlines (line :: next :: ls)) = line :: lines (unlines (next :: ls)) := by
        unfold lines
        rw [hjoin, linesFrom_append_of_unbroken [] hline, linesFrom_newline]
        simp
      rw [hcut, ih hls, List.getLast?_cons_cons]
      split <;> rfl

end BlockSketch.Text
