import BlockSketch.Text.Words
import Mathlib.Data.List.Basic

/-!
# BlockSketch.Proofs.Text.Words

The words of a command line.  Without quotes and backslashes they are the parts of the
line between its gaps.  A quote or a backslash is used up where it stands outside quotes,
so a line that has one never has all of them in its words.

* `flatten_parts` — the parts of a list between gaps;
* `words_of_unquoted` — the words of a line without quotes and backslashes;
* `wordsFrom_step`, `countP_wordsFrom_le` — the quotes and backslashes that come to the words;
* `unquoted_of_words` — where none is lost, there was none.
-/

namespace BlockSketch.Text

/-- Whether a letter is a quote or a backslash. -/
def isQuoting (l : Letter) : Bool := l = '\\' || l = '\'' || l = '"'

/-- The parts of a list between its gaps; where gaps meet there is none. -/
def parts {α : Type} (gap : α → Bool) (as : List α) : List (List α) :=
  (as.splitOnP gap).filter fun part => !part.isEmpty

/-! ## parts -/

section Parts

variable {α : Type} {gap : α → Bool}

/-- The parts put together are the list without its gaps. -/
theorem flatten_parts (as : List α) : (parts gap as).flatten = as.filter fun a => !gap a := by
  unfold parts
  rw [List.flatten_filter_not_isEmpty]
  induction as with
  | nil => rfl
  | cons a as ih =>
    rw [List.splitOnP_cons_eq_if_modifyHead]
    obtain ⟨first, others, hs⟩ := List.exists_cons_of_ne_nil (List.splitOnP_ne_nil gap as)
    rw [hs] at ih ⊢
    cases hgap : gap a <;> simpa [hgap] using ih

/-- There is no gap in a part. -/
theorem not_gap_of_mem_parts {as part : List α} (h : part ∈ parts gap as) {a : α} (ha : a ∈ part) :
    gap a = false := by
  have hflat : a ∈ (parts gap as).flatten := List.mem_flatten.mpr ⟨part, h, ha⟩
  rw [flatten_parts] at hflat
  simpa using (List.mem_filter.mp hflat).2

theorem splitOnP_append_of_not_gap {as : List α} (h : ∀ a ∈ as, gap a = false) (bs : List α) :
    (as ++ bs).splitOnP gap = (bs.splitOnP gap).modifyHead (as ++ ·) := by
  obtain ⟨first, others, hs⟩ := List.exists_cons_of_ne_nil (List.splitOnP_ne_nil gap bs)
  induction as with
  | nil => rw [List.nil_append, hs]; rfl
  | cons a as ih =>
    obtain ⟨ha, has⟩ := List.forall_mem_cons.mp h
    rw [List.cons_append, List.splitOnP_cons_eq_if_modifyHead, ha, if_neg (by simp), ih has, hs]
    rfl

end Parts

/-! ## lines without quotes -/

/-- Where the scan stands outside quotes with a word in hand, which may still be empty. -/
def begun : List Letter → WordState
  | [] => .gap
  | l :: word => .plain (l :: word)

theorem wordsFrom_begun_plain (word : List Letter) {l : Letter} (rest : List Letter)
    (hgap : isWordGap l = false) (hquoting : isQuoting l = false) :
    wordsFrom (begun word) (l :: rest) = wordsFrom (begun (l :: word)) rest := by
  have hquotes : l ≠ '\\' ∧ l ≠ '\'' ∧ l ≠ '"' := by simpa [isQuoting, and_assoc] using hquoting
  cases word <;>
    simp only [begun, wordsFrom, hgap, Bool.false_eq_true, if_false, if_neg hquotes.1,
      if_neg hquotes.2.1, if_neg hquotes.2.2]

theorem wordsFrom_begun_gap (word : List Letter) {l : Letter} (rest : List Letter)
    (hgap : isWordGap l = true) :
    wordsFrom (begun word) (l :: rest) =
      (wordsFrom .gap rest).map ((if word.isEmpty then [] else [word.reverse]) ++ ·) := by
  cases word with
  | nil =>
    rw [begun, wordsFrom, if_pos hgap]
    cases wordsFrom .gap rest <;> rfl
  | cons l' word => rw [begun, wordsFrom, if_pos hgap]; rfl

/-- From outside quotes, a rest of the line without quotes and backslashes is cut at its gaps. -/
theorem wordsFrom_of_unquoted (word : List Letter) {ls : List Letter}
    (h : ∀ l ∈ ls, isQuoting l = false) :
    wordsFrom (begun word) ls =
      .ok ((ls.splitOnPPrepend isWordGap word).filter fun part => !part.isEmpty) := by
  induction ls generalizing word with
  | nil =>
    cases word with
    | nil => rfl
    | cons l word => simp [begun, wordsFrom]
  | cons l ls ih =>
    obtain ⟨hl, hrest⟩ := List.forall_mem_cons.mp h
    cases hgap : isWordGap l with
    | false =>
      rw [wordsFrom_begun_plain word ls hgap hl, ih (l :: word) hrest,
        List.splitOnPPrepend_cons_neg hgap]
    | true =>
      have hgaps : wordsFrom .gap ls = .ok (parts isWordGap ls) := ih [] hrest
      rw [wordsFrom_begun_gap word ls hgap, hgaps, List.splitOnPPrepend_cons_pos hgap]
      cases word with
      | nil => rfl
      | cons l' word => simp [Except.map, parts]

/-- The words of a line without quotes and backslashes are its parts. -/
theorem words_of_unquoted {t : Text} (h : ∀ l ∈ t.letters, isQuoting l = false) :
    words t = .ok ((parts isWordGap t.letters).map Text.mk) := by
  have hparts : wordsFrom .gap t.letters = .ok (parts isWordGap t.letters) :=
    wordsFrom_of_unquoted [] h
  unfold words
  rw [hparts]
  rfl

/-! ## lines with quotes -/

/-- The quotes and backslashes in the word in hand.  Behind a backslash in double quotes there is
one that may yet come to the word. -/
def WordState.held : WordState → Nat
  | .gap => 0
  | .plain word | .escaped word | .single word | .double word => word.countP isQuoting
  | .doubleEscaped word => word.countP isQuoting + 1

/-- One letter ends at most a word, and adds no more quotes and backslashes than it is. -/
theorem wordsFrom_step {state : WordState} {l : Letter} {rest : List Letter}
    {ws : List (List Letter)} (h : wordsFrom state (l :: rest) = .ok ws) :
    ∃ ended next later, ws = ended ++ later ∧ wordsFrom next rest = .ok later ∧
      ended.flatten.countP isQuoting + next.held ≤ state.held + [l].countP isQuoting := by
  have hgo (next : WordState) (hnext : wordsFrom next rest = .ok ws)
      (hheld : next.held ≤ state.held + [l].countP isQuoting) :
      ∃ ended next later, ws = ended ++ later ∧ wordsFrom next rest = .ok later ∧
        ended.flatten.countP isQuoting + next.held ≤ state.held + [l].countP isQuoting :=
    ⟨[], next, ws, rfl, hnext, by simpa using hheld⟩
  have hslash : isQuoting '\\' = true := by decide
  have hcons (word : List Letter) :
      (l :: word).countP isQuoting = word.countP isQuoting + [l].countP isQuoting := by
    rw [List.countP_cons, List.countP_singleton]
  cases state with
  | gap =>
    simp only [wordsFrom] at h
    split_ifs at h with hgap
    · exact hgo .gap h (Nat.zero_le _)
    · exact hgo (.escaped []) h (Nat.zero_le _)
    · exact hgo (.single []) h (Nat.zero_le _)
    · exact hgo (.double []) h (Nat.zero_le _)
    · exact hgo (.plain [l]) h (Nat.le_add_left _ _)
  | plain word =>
    simp only [wordsFrom] at h
    split_ifs at h with hgap
    · cases hlater : wordsFrom .gap rest with
      | error cause => rw [hlater] at h; exact absurd h (by simp [Except.map])
      | ok later =>
        rw [hlater] at h
        exact ⟨[word.reverse], .gap, later, (Except.ok.inj h).symm,
          hlater, by simp [WordState.held]⟩
    · exact hgo (.escaped word) h (Nat.le_add_right _ _)
    · exact hgo (.single word) h (Nat.le_add_right _ _)
    · exact hgo (.double word) h (Nat.le_add_right _ _)
    · exact hgo (.plain (l :: word)) h (Nat.le_of_eq (hcons word))
  | escaped word =>
    simp only [wordsFrom] at h
    exact hgo (.plain (l :: word)) h (Nat.le_of_eq (hcons word))
  | single word =>
    simp only [wordsFrom] at h
    split_ifs at h
    · exact hgo (.plain word) h (Nat.le_add_right _ _)
    · exact hgo (.single (l :: word)) h (Nat.le_of_eq (hcons word))
  | double word =>
    simp only [wordsFrom] at h
    split_ifs at h with hquote hescape
    · exact hgo (.plain word) h (Nat.le_add_right _ _)
    · exact hgo (.doubleEscaped word) h (by simp [WordState.held, hescape, hslash])
    · exact hgo (.double (l :: word)) h (Nat.le_of_eq (hcons word))
  | doubleEscaped word =>
    simp only [wordsFrom] at h
    split_ifs at h
    · exact hgo (.double (l :: word)) h (by simp only [WordState.held, hcons word]; omega)
    · have hboth : (l :: '\\' :: word).countP isQuoting =
          word.countP isQuoting + 1 + [l].countP isQuoting := by
        rw [hcons ('\\' :: word), List.countP_cons_of_pos hslash]
      exact hgo (.double (l :: '\\' :: word)) h (Nat.le_of_eq hboth)

/-- No quotes and backslashes are added. -/
theorem countP_wordsFrom_le {state : WordState} {ls : List Letter} {ws : List (List Letter)}
    (h : wordsFrom state ls = .ok ws) :
    ws.flatten.countP isQuoting ≤ state.held + ls.countP isQuoting := by
  induction ls generalizing state ws with
  | nil =>
    cases state with
    | gap => cases h; exact Nat.zero_le _
    | plain word => cases h; simp [WordState.held]
    | escaped word | single word | double word | doubleEscaped word =>
      exact absurd h (by simp [wordsFrom])
  | cons l ls ih =>
    obtain ⟨ended, next, later, rfl, hlater, hheld⟩ := wordsFrom_step h
    have hrest := ih hlater
    rw [List.flatten_append, List.countP_append, ← List.singleton_append, List.countP_append]
    omega

/-- From outside quotes, a quote or a backslash does not come to the word. -/
theorem wordsFrom_begun_quoting (word : List Letter) {l : Letter} (rest : List Letter)
    (h : isQuoting l = true) : ∃ next : WordState, next.held = word.countP isQuoting ∧
      wordsFrom (begun word) (l :: rest) = wordsFrom next rest := by
  have hcases : l = '\\' ∨ l = '\'' ∨ l = '"' := by simpa [isQuoting, or_assoc] using h
  rcases hcases with rfl | rfl | rfl
  · exact ⟨.escaped word, rfl, by cases word <;> rfl⟩
  · exact ⟨.single word, rfl, by cases word <;> rfl⟩
  · exact ⟨.double word, rfl, by cases word <;> rfl⟩

/-- From outside quotes, the first quote or backslash is used up. -/
theorem countP_wordsFrom_lt (word : List Letter) {ls : List Letter} {ws : List (List Letter)}
    (h : wordsFrom (begun word) ls = .ok ws) (hquoting : ∃ l ∈ ls, isQuoting l = true) :
    ws.flatten.countP isQuoting < word.countP isQuoting + ls.countP isQuoting := by
  induction ls generalizing word ws with
  | nil => exact absurd hquoting (by simp)
  | cons l ls ih =>
    cases hl : isQuoting l with
    | true =>
      obtain ⟨next, hnext, hwords⟩ := wordsFrom_begun_quoting word ls hl
      have hle := countP_wordsFrom_le (hwords.symm.trans h)
      rw [List.countP_cons_of_pos hl]
      omega
    | false =>
      have hlater : ∃ l ∈ ls, isQuoting l = true := by simpa [hl] using hquoting
      rw [List.countP_cons_of_neg (by simp [hl])]
      cases hgap : isWordGap l with
      | false =>
        rw [wordsFrom_begun_plain word ls hgap hl] at h
        have hlt := ih (l :: word) h hlater
        rwa [List.countP_cons_of_neg (by simp [hl])] at hlt
      | true =>
        rw [wordsFrom_begun_gap word ls hgap] at h
        cases hrest : wordsFrom .gap ls with
        | error cause => rw [hrest] at h; exact absurd h (by simp [Except.map])
        | ok later =>
          have hlt : later.flatten.countP isQuoting < 0 + ls.countP isQuoting := ih [] hrest hlater
          rw [hrest] at h
          obtain rfl := Except.ok.inj h
          have hended : (if word.isEmpty then [] else [word.reverse]).flatten.countP isQuoting ≤
              word.countP isQuoting := by
            split
            · exact Nat.zero_le _
            · simp
          rw [List.flatten_append, List.countP_append]
          omega

/-- A line keeps all its quotes and backslashes in its words only if it has none. -/
theorem unquoted_of_words {t : Text} {ts : List Text} (h : words t = .ok ts)
    (hcount : t.letters.countP isQuoting ≤ (ts.flatMap letters).countP isQuoting) :
    ∀ l ∈ t.letters, isQuoting l = false := by
  intro l hl
  by_contra hquoting
  unfold words at h
  cases hwords : wordsFrom .gap t.letters with
  | error cause => rw [hwords] at h; exact absurd h (by simp [Except.map])
  | ok ws =>
    rw [hwords] at h
    obtain rfl := Except.ok.inj h
    have hlt := countP_wordsFrom_lt [] hwords ⟨l, hl, by simpa using hquoting⟩
    have hletters : (ws.map Text.mk).flatMap letters = ws.flatten := by
      rw [List.flatMap_map]
      exact List.flatMap_id
    rw [hletters] at hcount
    rw [List.countP_nil, Nat.zero_add] at hlt
    omega

end BlockSketch.Text
