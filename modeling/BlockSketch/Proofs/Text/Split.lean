import BlockSketch.Text.Blank
import BlockSketch.Text.Substitute
import Mathlib.Algebra.GroupWithZero.Nat
import Mathlib.Data.List.DropRight

/-!
# BlockSketch.Proofs.Text.Split

Texts cut at line feeds.  A text has one line more than it has line feeds, and the
lines of texts that are joined by line feeds are the lines of each in turn.

* `splitLetters_append` — a separator ends the piece before it;
* `intercalate_split` — the pieces of a text, put together again;
* `lineAt_intercalate` — on which line a text begins that was joined with others;
* `lineAt_append_feed` — a line feed at the end adds nothing to the lines;
* `trim_spec`, `trimmed_trim` — trimming cuts the blanks off both ends, and nothing else.
-/

namespace BlockSketch.Text

/-! ## pieces -/

theorem splitLetters_ne_nil (separator : Letter) (ls : List Letter) :
    splitLetters separator ls ≠ [] := by
  induction ls with
  | nil => simp [splitLetters]
  | cons l ls ih =>
    rw [splitLetters]
    split
    · simp
    · split <;> simp

/-- A letter is a separator, or it goes in front of the first piece. -/
theorem splitLetters_cons (separator l : Letter) (ls : List Letter) :
    splitLetters separator (l :: ls) =
      if l = separator then [] :: splitLetters separator ls
      else (splitLetters separator ls).modifyHead (List.cons l) := by
  rw [splitLetters]
  cases hs : splitLetters separator ls with
  | nil => exact absurd hs (splitLetters_ne_nil separator ls)
  | cons piece pieces => simp

/-- A separator ends the piece before it and begins another. -/
theorem splitLetters_append (separator : Letter) (before after : List Letter) :
    splitLetters separator (before ++ separator :: after) =
      splitLetters separator before ++ splitLetters separator after := by
  induction before with
  | nil => simp [splitLetters_cons, splitLetters]
  | cons l before ih =>
    rw [List.cons_append, splitLetters_cons, splitLetters_cons, ih]
    obtain ⟨piece, pieces, hs⟩ := List.exists_cons_of_ne_nil (splitLetters_ne_nil separator before)
    rw [hs]
    split <;> simp

/-- There is one piece more than there are separators. -/
theorem length_splitLetters (separator : Letter) (ls : List Letter) :
    (splitLetters separator ls).length = ls.count separator + 1 := by
  induction ls with
  | nil => rfl
  | cons l ls ih =>
    rw [splitLetters_cons]
    by_cases hl : l = separator
    · simp [hl, ih]
    · simp [hl, ih, List.count_cons_of_ne]

/-- Splitting what was joined with the separator splits each of the parts. -/
theorem splitLetters_intercalate (separator : Letter) (first : List Letter)
    (others : List (List Letter)) :
    splitLetters separator (List.intercalate [separator] (first :: others)) =
      (first :: others).flatMap (splitLetters separator) := by
  induction others generalizing first with
  | nil => simp
  | cons next others ih =>
    rw [List.intercalate_cons_cons, List.append_assoc, List.singleton_append,
      splitLetters_append, ih]
    rfl

/-- Without a separator there is one piece. -/
theorem splitLetters_of_not_mem {separator : Letter} {ls : List Letter} (h : separator ∉ ls) :
    splitLetters separator ls = [ls] := by
  induction ls with
  | nil => rfl
  | cons l ls ih =>
    obtain ⟨hl, hrest⟩ := List.ne_and_not_mem_of_not_mem_cons h
    rw [splitLetters_cons, if_neg (Ne.symm hl), ih hrest]
    rfl

/-- No separator is left in the pieces. -/
theorem not_mem_of_mem_splitLetters {separator : Letter} {ls piece : List Letter}
    (h : piece ∈ splitLetters separator ls) : separator ∉ piece := by
  induction ls generalizing piece with
  | nil =>
    rw [List.mem_singleton.mp h]
    exact List.not_mem_nil
  | cons l ls ih =>
    rw [splitLetters_cons] at h
    split at h
    · rcases List.mem_cons.mp h with rfl | hlater
      · exact List.not_mem_nil
      · exact ih hlater
    · next hl =>
      obtain ⟨first, pieces, hs⟩ := List.exists_cons_of_ne_nil (splitLetters_ne_nil separator ls)
      rw [hs] at h ih
      rcases List.mem_cons.mp h with rfl | hlater
      · exact List.not_mem_cons_of_ne_of_not_mem (Ne.symm hl) (ih List.mem_cons_self)
      · exact ih (List.mem_cons_of_mem first hlater)

/-- The pieces with the separators between them are the text. -/
theorem intercalate_splitLetters (separator : Letter) (ls : List Letter) :
    List.intercalate [separator] (splitLetters separator ls) = ls := by
  induction ls with
  | nil => rfl
  | cons l ls ih =>
    obtain ⟨first, pieces, hs⟩ := List.exists_cons_of_ne_nil (splitLetters_ne_nil separator ls)
    rw [splitLetters_cons]
    rw [hs] at ih ⊢
    split
    · next hl => rw [List.intercalate_cons_cons, ih, hl]; rfl
    · cases pieces with
      | nil => simpa using ih
      | cons next pieces =>
        rw [List.intercalate_cons_cons] at ih
        rw [List.modifyHead_cons, List.intercalate_cons_cons, ← ih]
        rfl

theorem split_ne_nil (separator : Letter) (t : Text) : t.split separator ≠ [] :=
  fun h => splitLetters_ne_nil separator t.letters (List.map_eq_nil_iff.mp h)

/-- A text without the separator is its only piece. -/
theorem split_of_not_has {separator : Letter} {t : Text} (h : t.has separator = false) :
    t.split separator = [t] :=
  congrArg (List.map Text.mk) (splitLetters_of_not_mem (by simpa [has] using h))

/-- No piece has a separator. -/
theorem not_has_of_mem_split {separator : Letter} {t piece : Text} (h : piece ∈ t.split separator) :
    piece.has separator = false := by
  obtain ⟨ls, hls, rfl⟩ := List.mem_map.mp h
  simpa [has] using not_mem_of_mem_splitLetters hls

/-- The pieces joined with the separator are the text again. -/
theorem intercalate_split (separator : Letter) (t : Text) :
    intercalate ⟨[separator]⟩ (t.split separator) = t := by
  have hletters : (t.split separator).map letters = splitLetters separator t.letters :=
    List.map_map.trans (List.map_id _)
  unfold intercalate
  rw [hletters, intercalate_splitLetters]

/-- Joined texts begin with the first. -/
theorem letters_intercalate_cons (separator t : Text) (ts : List Text) :
    ∃ rest, (intercalate separator (t :: ts)).letters = t.letters ++ rest := by
  cases ts <;> simp [intercalate]

/-- Joined texts end with the last. -/
theorem letters_intercalate_concat (separator t : Text) (ts : List Text) :
    ∃ rest, (intercalate separator (ts ++ [t])).letters = rest ++ t.letters := by
  induction ts with
  | nil => exact ⟨[], by simp [intercalate]⟩
  | cons first ts ih =>
    obtain ⟨rest, hrest⟩ := ih
    obtain ⟨next, others, hts⟩ : ∃ next others, ts ++ [t] = next :: others := by
      cases ts <;> exact ⟨_, _, rfl⟩
    refine ⟨first.letters ++ separator.letters ++ rest, ?_⟩
    rw [hts] at hrest
    rw [List.cons_append, hts, List.append_assoc, ← hrest]
    exact List.intercalate_cons_cons

/-! ## lines -/

/-- The line of a number, counted from one; beyond the last there is nothing. -/
def lineAt (t : Text) (n : Nat) : Text := (t.split '\n').getD (n - 1) ""

def firstLine (t : Text) : Text := t.lineAt 1

def feeds (ts : List Text) : Nat := (ts.map fun t => t.letters.count (.char '\n')).sum

theorem feeds_cons (t : Text) (ts : List Text) :
    feeds (t :: ts) = t.letters.count (.char '\n') + feeds ts := rfl

/-- Texts hold no line feed when none of them has one. -/
theorem feeds_eq_zero_iff (ts : List Text) : feeds ts = 0 ↔ ∀ t ∈ ts, t.has '\n' = false := by
  induction ts with
  | nil => simp [feeds]
  | cons t ts ih => simp [feeds_cons, ih, has, List.count_eq_zero]

/-- Texts have as many lines as there are texts and line feeds in them. -/
theorem length_flatMap_split (ts : List Text) :
    (ts.flatMap fun t => splitLetters '\n' t.letters).length = ts.length + feeds ts := by
  induction ts with
  | nil => rfl
  | cons t ts ih =>
    rw [List.flatMap_cons, List.length_append, length_splitLetters, ih, feeds_cons,
      List.length_cons]
    omega

/-- Of texts joined by line feeds, each begins on the line of its place, put off by the line feeds
of the texts before it. -/
theorem lineAt_intercalate (before : List Text) (t : Text) (after : List Text) :
    (intercalate "\n" (before ++ t :: after)).lineAt (before.length + 1 + feeds before) =
      t.firstLine := by
  obtain ⟨first, others, hts⟩ :
      ∃ first others, (before ++ t :: after).map letters = first :: others := by
    cases before <;> exact ⟨_, _, rfl⟩
  have hpieces : splitLetters '\n' (intercalate "\n" (before ++ t :: after)).letters =
      before.flatMap (fun t => splitLetters '\n' t.letters) ++
        (splitLetters '\n' t.letters ++ after.flatMap fun t => splitLetters '\n' t.letters) := by
    change splitLetters '\n' (List.intercalate ['\n'] ((before ++ t :: after).map letters)) = _
    rw [hts, splitLetters_intercalate, ← hts, List.flatMap_map, List.flatMap_append,
      List.flatMap_cons]
  obtain ⟨piece, pieces, hs⟩ := List.exists_cons_of_ne_nil (splitLetters_ne_nil '\n' t.letters)
  unfold firstLine lineAt split
  rw [hpieces, hs]
  have hplace : before.length + 1 + feeds before - 1 =
      (before.flatMap fun t => splitLetters '\n' t.letters).length := by
    rw [length_flatMap_split]
    omega
  rw [hplace, List.getD_eq_getElem?_getD, List.getD_eq_getElem?_getD]
  simp

theorem empty_append (t : Text) : ("" : Text) ++ t = t := rfl

theorem append_empty (t : Text) : t ++ ("" : Text) = t :=
  congrArg Text.mk (List.append_nil t.letters)

/-- A line feed at the end changes no line. -/
theorem lineAt_append_feed (t : Text) (n : Nat) : (t ++ "\n").lineAt n = t.lineAt n := by
  have hsplit : (t ++ "\n").split '\n' = t.split '\n' ++ [("" : Text)] := by
    unfold split
    change (splitLetters '\n' (t.letters ++ .char '\n' :: [])).map Text.mk = _
    rw [splitLetters_append, List.map_append]
    rfl
  unfold lineAt
  rw [hsplit, List.getD_eq_getElem?_getD, List.getD_eq_getElem?_getD, List.getElem?_append]
  split
  · rfl
  · next hbeyond =>
    -- behind the last line there is the empty one, and then none
    rw [List.getElem?_eq_none (Nat.le_of_not_lt hbeyond)]
    cases n - 1 - (t.split '\n').length <;> rfl

/-! ## trimming -/

def Blank (t : Text) : Prop := ∀ l ∈ t.letters, l.isIn isBlank = true

/-- Trimming cuts blanks off both ends, and none off an end that has none. -/
theorem trim_spec (t : Text) :
    ∃ lead cut : Text, Blank lead ∧ Blank cut ∧ t = lead ++ t.trim ++ cut ∧
    (∀ l ∈ t.letters.head?, l.isIn isBlank = false → lead = "") ∧
    (∀ l ∈ t.letters.getLast?, l.isIn isBlank = false → cut = "") := by
  let blank (l : Letter) : Bool := l.isIn isBlank
  let rest := t.letters.dropWhile blank
  have hrest : t.letters = t.letters.takeWhile blank ++ rest := List.takeWhile_append_dropWhile.symm
  refine ⟨⟨t.letters.takeWhile blank⟩, ⟨rest.rtakeWhile blank⟩,
    fun l hl => List.mem_takeWhile_imp hl, fun l hl => List.mem_rtakeWhile_imp hl, ?_, ?_, ?_⟩
  · have hletters : t.letters =
        t.letters.takeWhile blank ++ rest.rdropWhile blank ++ rest.rtakeWhile blank := by
      rw [List.append_assoc, List.rdropWhile_append_rtakeWhile]
      exact hrest
    exact congrArg Text.mk hletters
  · intro l hl hblank
    obtain ⟨others, hs⟩ := List.head?_eq_some_iff.mp hl
    have hnone : t.letters.takeWhile blank = [] := by simp [hs, blank, hblank]
    exact congrArg Text.mk hnone
  · intro l hl hblank
    have hnone : rest.rtakeWhile blank = [] := by
      refine List.rtakeWhile_eq_nil_iff.mpr fun hne => ?_
      have hlast : rest.getLast? = some l := by
        rw [hrest, List.getLast?_append_of_ne_nil _ hne] at hl
        exact hl
      rw [List.getLast?_eq_some_getLast hne] at hlast
      rw [Option.some.inj hlast]
      simp [blank, hblank]
    exact congrArg Text.mk hnone

def Trimmed (t : Text) : Prop :=
  (∀ l ∈ t.letters.head?, l.isIn isBlank = false) ∧ ∀ l ∈ t.letters.getLast?, l.isIn isBlank = false

/-- Trimming leaves no blank at an end. -/
theorem trimmed_trim (t : Text) : t.trim.Trimmed := by
  let blank (l : Letter) : Bool := l.isIn isBlank
  let rest := t.letters.dropWhile blank
  have hletters : t.trim.letters = rest.rdropWhile blank := rfl
  constructor
  · intro l hl
    -- what stands first was first before the end was cut off
    obtain ⟨cut, hcut⟩ := List.rdropWhile_prefix blank rest
    have hfirst : rest.head? = some l := by
      rw [← hcut, ← hletters, List.head?_append, Option.mem_def.mp hl, Option.some_or]
    have hblank := List.head?_dropWhile_not blank t.letters
    rwa [hfirst] at hblank
  · intro l hl
    obtain ⟨hne, hlast⟩ := List.mem_getLast?_eq_getLast hl
    rw [Bool.eq_false_iff, hlast]
    exact List.rdropWhile_last_not blank rest hne

end BlockSketch.Text
