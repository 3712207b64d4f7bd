import BlockSketch.Proofs.Text.Braces
import BlockSketch.Sketch.Generator

/-!
# BlockSketch.Proofs.Text.Marks

Marks in texts, filled all at once and one name after the other.  To fill them at once a
text is cut into letters and marks, and the values are put where the marks stood.  One
after the other every name is looked for in the whole text, in the values that were put in
before as well.  That finds all marks of the text, since a mark is never cut into by another
match, but it may find more.

* `exists_found` — what one name finds, against the marks of the text;
* `fillMarks_eq_fillAll` — as many replacements as marks: then both ways give the same;
* `replacements_of_clear` — where it is so, by what stands behind opening braces and marks;
* `fillAll_congr` — filled at once, the order of the names is of no account.
-/

namespace BlockSketch.Text

/-! ## pieces -/

/-- A piece of a text: a letter, or the mark of a name. -/
inductive Piece where
  | letter (l : Letter)
  | slot (name : Text)
deriving DecidableEq

namespace Piece

def letters : Piece → List Letter
  | .letter l => [l]
  | .slot name => (mark name).letters

def isSlot : Piece → Bool
  | .letter _ => false
  | .slot _ => true

/-- The letters of a piece when a mark is filled. -/
def filled (entries : Assoc Text Text) : Piece → List Letter
  | .letter l => [l]
  | .slot name => (Assoc.getD entries name "").letters

end Piece

def flat (ps : List Piece) : List Letter := ps.flatMap Piece.letters

/-- Cut a text into letters and the marks of some names; `skip` letters still belong to a mark in
hand. -/
def piecesFrom (names : List Text) : Nat → List Letter → List Piece
  | _, [] => []
  | skip + 1, _ :: rest => piecesFrom names skip rest
  | 0, l :: rest =>
    match names.find? fun name => (mark name).letters.isPrefixOf (l :: rest) with
    | some name => .slot name :: piecesFrom names ((mark name).letters.length - 1) rest
    | none => .letter l :: piecesFrom names 0 rest

/-- A text cut into letters and the marks of some names. -/
def pieces (names : List Text) (t : Text) : List Piece := piecesFrom names 0 t.letters

def marks (names : List Text) (t : Text) : Nat := (pieces names t).countP Piece.isSlot

def fillAll (entries : Assoc Text Text) (t : Text) : Text :=
  ⟨(pieces (Assoc.keys entries) t).flatMap (Piece.filled entries)⟩

/-- How many marks are replaced when one entry is filled in after the other. -/
def replacements : Assoc Text Text → Text → Nat
  | [], _ => 0
  | e :: rest, t => marks [e.1] t + replacements rest (substitute (mark e.1) e.2 t)

section Pieces

variable {names : List Text} {name : Text}

theorem letters_mark (name : Text) : (mark name).letters = opening :: (name.letters ++ [closing]) :=
  rfl

theorem flat_append (ps qs : List Piece) : flat (ps ++ qs) = flat ps ++ flat qs :=
  List.flatMap_append

/-- Letters put together again are the letters. -/
theorem flat_map_letter (ls : List Letter) : flat (ls.map .letter) = ls := by
  simp [flat, List.flatMap_map, Piece.letters]

@[simp] theorem countP_map_letter (ls : List Letter) :
    (ls.map Piece.letter).countP Piece.isSlot = 0 :=
  List.countP_eq_zero.mpr (by simp [Piece.isSlot])

/-- Pieces without a mark are letters. -/
theorem exists_map_letter {ps : List Piece} (h : ∀ m, .slot m ∉ ps) :
    ∃ ls : List Letter, ps = ls.map .letter := by
  induction ps with
  | nil => exact ⟨[], rfl⟩
  | cons p ps ih =>
    obtain ⟨ls, rfl⟩ := ih fun m hm => h m (List.mem_cons_of_mem _ hm)
    cases p with
    | letter l => exact ⟨l :: ls, rfl⟩
    | slot m => exact absurd List.mem_cons_self (h m)

/-- The letters of a mark in front are passed over. -/
theorem piecesFrom_skip (names : List Text) (skipped rest : List Letter) :
    piecesFrom names skipped.length (skipped ++ rest) = piecesFrom names 0 rest := by
  induction skipped with
  | nil => rfl
  | cons l skipped ih => exact ih

/-- Nothing is lost when a text is cut. -/
theorem flat_piecesFrom (names : List Text) (skip : Nat) (ls : List Letter) :
    flat (piecesFrom names skip ls) = ls.drop skip := by
  fun_induction piecesFrom names skip ls with
  | case1 skip => simp [flat]
  | case2 skip l rest ih => simpa using ih
  | case3 l rest name hname ih =>
    have hmark := List.find?_some hname
    obtain ⟨after, hafter⟩ := List.isPrefixOf_iff_prefix.mp hmark
    rw [letters_mark, List.cons_append, List.cons.injEq] at hafter
    have hrest : rest.drop ((mark name).letters.length - 1) = after := by
      rw [← hafter.2]
      exact List.drop_left' rfl
    change (mark name).letters ++ flat _ = _
    rw [ih, hrest, letters_mark, List.cons_append, hafter.1, hafter.2]
    rfl
  | case4 l rest hnone ih =>
    change l :: flat _ = _
    rw [ih]
    rfl

/-- The pieces of a text make up the text. -/
theorem flat_pieces (names : List Text) (t : Text) : flat (pieces names t) = t.letters :=
  flat_piecesFrom names 0 t.letters

/-- Only marks of the names are cut out. -/
theorem mem_names_of_slot {skip : Nat} {ls : List Letter}
    (h : .slot name ∈ piecesFrom names skip ls) :
    name ∈ names := by
  fun_induction piecesFrom names skip ls with
  | case1 skip => exact absurd h List.not_mem_nil
  | case2 skip l rest ih => exact ih h
  | case3 l rest found hfound ih =>
    rcases List.mem_cons.mp h with heq | hlater
    · rw [Piece.slot.inj heq]
      exact List.mem_of_find?_eq_some hfound
    · exact ih hlater
  | case4 l rest hnone ih =>
    rcases List.mem_cons.mp h with heq | hlater
    · exact Piece.noConfusion heq
    · exact ih hlater

/-- To replace a mark is to fill the pieces of its name. -/
theorem substituteFrom_eq (name new : Text) (skip : Nat) (ls : List Letter) :
    substituteFrom (mark name).letters new.letters skip ls =
      (piecesFrom [name] skip ls).flatMap (Piece.filled [(name, new)]) := by
  fun_induction piecesFrom [name] skip ls with
  | case1 skip => simp [substituteFrom]
  | case2 skip l rest ih => exact ih
  | case3 l rest found hfound ih =>
    obtain rfl : found = name := List.mem_singleton.mp (List.mem_of_find?_eq_some hfound)
    rw [substituteFrom, if_pos (List.find?_some hfound), ih]
    simp [Piece.filled, Assoc.getD, Assoc.get?]
  | case4 l rest hnone ih =>
    have hmark : ¬ (mark name).letters.isPrefixOf (l :: rest) = true := by
      simpa using List.find?_eq_none.mp hnone name List.mem_cons_self
    rw [substituteFrom, if_neg hmark, ih]
    rfl

/-! ## how a text is cut -/

/-- Where neither has a closing brace, one name is closed where the other is only if they are the
same. -/
theorem append_closing_prefix_iff {as bs : List Letter} (ha : closing ∉ as) (hb : closing ∉ bs)
    (rest : List Letter) : as ++ [closing] <+: bs ++ closing :: rest ↔ as = bs := by
  induction as generalizing bs with
  | nil =>
    cases bs with
    | nil => simp
    | cons b bs =>
      refine iff_of_false (fun h => hb ?_) (by simp)
      rw [(List.cons_prefix_cons.mp h).1]
      exact List.mem_cons_self
  | cons a as ih =>
    cases bs with
    | nil =>
      refine iff_of_false (fun h => ha ?_) (by simp)
      rw [← (List.cons_prefix_cons.mp h).1]
      exact List.mem_cons_self
    | cons b bs =>
      have hrest :=
        ih (fun h => ha (List.mem_cons_of_mem _ h)) (fun h => hb (List.mem_cons_of_mem _ h))
      simp [hrest]

/-- Two names without a brace: the mark of one begins what the mark of the other begins only if they
are the same. -/
theorem mark_prefix_iff {m n : Text} (hm : m.braces = []) (hn : n.braces = [])
    (rest : List Letter) :
    (mark n).letters <+: (mark m).letters ++ rest ↔ n = m := by
  have hclosing {t : Text} (ht : t.braces = []) : closing ∉ t.letters :=
    fun hl => List.filter_eq_nil_iff.mp ht closing hl (by decide)
  have hnames := append_closing_prefix_iff (hclosing hn) (hclosing hm) rest
  rw [letters_mark, letters_mark, List.cons_append, List.cons_prefix_cons, List.append_assoc,
    List.singleton_append, hnames]
  constructor
  · exact fun h => congrArg Text.mk h.2
  · exact fun h => ⟨rfl, congrArg letters h⟩

/-- No mark begins with another letter than a brace. -/
theorem piecesFrom_of_not_mem (names : List Text) {start : List Letter} (h : opening ∉ start)
    (rest : List Letter) :
    piecesFrom names 0 (start ++ rest) = start.map .letter ++ piecesFrom names 0 rest := by
  induction start with
  | nil => rfl
  | cons l start ih =>
    rw [List.mem_cons, not_or] at h
    have hnone :
        names.find? (fun name => (mark name).letters.isPrefixOf (l :: (start ++ rest))) = none := by
      refine List.find?_eq_none.mpr fun name _ => ?_
      simp [letters_mark, h.1]
    rw [List.cons_append, piecesFrom, hnone, ih h.2]
    rfl

/-- A letter at which no mark begins is a piece. -/
theorem piecesFrom_cons_of_unmatched {l : Letter} {rest : List Letter}
    (h : ¬ (mark name).letters <+: l :: rest) :
    piecesFrom [name] 0 (l :: rest) = .letter l :: piecesFrom [name] 0 rest := by
  rw [← List.isPrefixOf_iff_prefix, Bool.not_eq_true] at h
  rw [piecesFrom]
  simp [h]

/-- A mark in front is a piece. -/
theorem piecesFrom_mark (name : Text) (rest : List Letter) :
    piecesFrom [name] 0 ((mark name).letters ++ rest) = .slot name :: piecesFrom [name] 0 rest := by
  have hprefix : (mark name).letters.isPrefixOf ((mark name).letters ++ rest) = true :=
    List.isPrefixOf_iff_prefix.mpr (List.prefix_append _ _)
  rw [letters_mark, List.cons_append] at hprefix ⊢
  rw [piecesFrom, List.find?_cons_of_pos (by rw [letters_mark]; exact hprefix)]
  dsimp only
  rw [letters_mark, List.length_cons, Nat.add_sub_cancel, piecesFrom_skip]

/-- The mark of another name is no match, nor is any part of it. -/
theorem piecesFrom_mark_of_ne {m n : Text} (hm : m.braces = []) (hn : n.braces = []) (h : n ≠ m)
    (rest : List Letter) : piecesFrom [n] 0 ((mark m).letters ++ rest) =
      (mark m).letters.map .letter ++ piecesFrom [n] 0 rest := by
  have hnot : ¬ (mark n).letters <+: (mark m).letters ++ rest := fun hp =>
    h ((mark_prefix_iff hm hn rest).mp hp)
  have hinner : opening ∉ m.letters ++ [closing] := by
    rw [List.mem_append, not_or]
    exact ⟨opening_not_mem hm, by decide⟩
  rw [letters_mark m, List.cons_append] at hnot ⊢
  rw [piecesFrom_cons_of_unmatched hnot, piecesFrom_of_not_mem [n] hinner]
  rfl

/-- Letters that begin what pieces give, and no brace among them, are pieces of their own. -/
theorem exists_of_prefix_flat {ls : List Letter} {ps : List Piece} (hls : opening ∉ ls)
    (h : ls <+: flat ps) : ∃ qs, ps = ls.map .letter ++ qs := by
  induction ls generalizing ps with
  | nil => exact ⟨ps, rfl⟩
  | cons l ls ih =>
    rw [List.mem_cons, not_or] at hls
    cases ps with
    | nil => exact absurd (List.prefix_nil.mp h) (by simp)
    | cons p ps =>
      cases p with
      | slot name =>
        obtain ⟨after, hafter⟩ := h
        exact absurd (List.cons.inj hafter).1.symm hls.1
      | letter l' =>
        obtain ⟨rfl, hrest⟩ := List.cons_prefix_cons.mp h
        obtain ⟨qs, rfl⟩ := ih hls.2 hrest
        exact ⟨qs, rfl⟩

end Pieces

/-! ## one name -/

/-- Put a value where the marks of a name stand. -/
def put (name new : Text) (ps : List Piece) : List Piece :=
  ps.flatMap fun p => if p = .slot name then new.letters.map .letter else [p]

/-- The marks of other names. -/
def others (name : Text) (ps : List Piece) : List Piece :=
  ps.filter fun p => p.isSlot && p != .slot name

section Step

variable {name new : Text} {ps qs : List Piece}

theorem others_append (name : Text) (ps qs : List Piece) :
    others name (ps ++ qs) = others name ps ++ others name qs := List.filter_append ..

@[simp] theorem others_map_letter (name : Text) (ls : List Letter) :
    others name (ls.map .letter) = [] := by
  simp [others, Piece.isSlot]

@[simp] theorem others_letter (name : Text) (l : Letter) (ps : List Piece) :
    others name (.letter l :: ps) = others name ps := rfl

@[simp] theorem others_slot_self (name : Text) (ps : List Piece) :
    others name (.slot name :: ps) = others name ps := by
  simp [others, Piece.isSlot]

theorem others_slot_of_ne {m : Text} (h : m ≠ name) (ps : List Piece) :
    others name (.slot m :: ps) = .slot m :: others name ps := by
  simp [others, Piece.isSlot, h]

/-- The marks of a text are those of a name and those of the others. -/
theorem countP_isSlot (name : Text) (ps : List Piece) :
    ps.countP Piece.isSlot = ps.count (.slot name) + (others name ps).length := by
  induction ps with
  | nil => rfl
  | cons p ps ih =>
    cases p with
    | letter l => simpa [Piece.isSlot] using ih
    | slot m =>
      rw [List.countP_cons_of_pos rfl, ih]
      by_cases h : m = name
      · subst h
        rw [List.count_cons_self, others_slot_self]
        omega
      · rw [List.count_cons_of_ne (by simpa using h), others_slot_of_ne h, List.length_cons]
        omega

/-- How often a name is found in the pieces `ps`, and what comes of them: the value stands wherever
the name is found, and the marks of other names stay.  All marks of the name are found; where
nothing else is, the value stands just where they stood. -/
structure Found (name new : Text) (ps qs : List Piece) : Prop where
  flat : flat qs = (piecesFrom [name] 0 (flat ps)).flatMap (Piece.filled [(name, new)])
  others : others name qs = others name ps
  gone : .slot name ∉ qs
  le : ps.count (.slot name) ≤ (piecesFrom [name] 0 (Text.flat ps)).countP Piece.isSlot
  eq_put : (piecesFrom [name] 0 (Text.flat ps)).countP Piece.isSlot = ps.count (.slot name) →
    qs = put name new ps

namespace Found

/-- The mark of the name that is filled becomes the value. -/
theorem filled_slot (name new : Text) : Piece.filled [(name, new)] (.slot name) = new.letters := by
  simp [Piece.filled, Assoc.getD, Assoc.get?]

/-- Nothing is found in nothing. -/
theorem nil (name new : Text) : Found name new [] [] :=
  ⟨rfl, rfl, List.not_mem_nil, Nat.le_refl _, fun _ => rfl⟩

/-- The mark of the name is found, and its value put in its place. -/
theorem slot_self (h : Found name new ps qs) :
    Found name new (.slot name :: ps) (new.letters.map .letter ++ qs) := by
  have hcut : piecesFrom [name] 0 (Text.flat (.slot name :: ps)) =
      .slot name :: piecesFrom [name] 0 (Text.flat ps) := piecesFrom_mark name _
  refine ⟨?_, ?_, ?_, ?_, fun heq => ?_⟩
  · rw [hcut, List.flatMap_cons, filled_slot, flat_append, flat_map_letter, h.flat]
  · rw [others_append, others_map_letter, List.nil_append, others_slot_self, h.others]
  · simpa using h.gone
  · rw [hcut]
    simpa [List.countP_cons, Piece.isSlot] using h.le
  · rw [hcut] at heq
    rw [h.eq_put (by simpa [List.countP_cons, Piece.isSlot] using heq)]
    simp [put]

/-- The mark of another name is passed over. -/
theorem slot_of_ne {m : Text} (hm : m.braces = []) (hname : name.braces = []) (hne : m ≠ name)
    (h : Found name new ps qs) : Found name new (.slot m :: ps) (.slot m :: qs) := by
  have hcut : piecesFrom [name] 0 (Text.flat (.slot m :: ps)) =
      (mark m).letters.map .letter ++ piecesFrom [name] 0 (Text.flat ps) :=
    piecesFrom_mark_of_ne hm hname hne.symm _
  have hcount : (piecesFrom [name] 0 (Text.flat (.slot m :: ps))).countP Piece.isSlot =
      (piecesFrom [name] 0 (Text.flat ps)).countP Piece.isSlot := by
    rw [hcut, List.countP_append, countP_map_letter, Nat.zero_add]
  have hslots : (Piece.slot m :: ps).count (.slot name) = ps.count (.slot name) :=
    List.count_cons_of_ne (by simpa using hne)
  refine ⟨?_, ?_, ?_, ?_, fun heq => ?_⟩
  · rw [hcut, List.flatMap_append, List.flatMap_map, ← h.flat]
    simp [Text.flat, Piece.filled, Piece.letters]
  · rw [others_slot_of_ne hne, others_slot_of_ne hne, h.others]
  · simpa [hne.symm] using h.gone
  · rw [hcount, hslots]
    exact h.le
  · rw [hcount, hslots] at heq
    rw [h.eq_put heq]
    simp [put, hne]

/-- So is a letter that does not begin the mark of the name. -/
theorem letter {l : Letter} (hnot : ¬ (mark name).letters <+: l :: Text.flat ps)
    (h : Found name new ps qs) : Found name new (.letter l :: ps) (.letter l :: qs) := by
  have hcut : piecesFrom [name] 0 (Text.flat (.letter l :: ps)) =
      .letter l :: piecesFrom [name] 0 (Text.flat ps) := piecesFrom_cons_of_unmatched hnot
  refine ⟨?_, ?_, ?_, ?_, fun heq => ?_⟩
  · rw [hcut, List.flatMap_cons, ← h.flat]
    rfl
  · rw [others_letter, others_letter, h.others]
  · simpa using h.gone
  · rw [hcut]
    simpa [Piece.isSlot] using h.le
  · rw [hcut] at heq
    rw [h.eq_put (by simpa [Piece.isSlot] using heq)]
    simp [put]

/-- A match among the letters counts, though no mark stands there. -/
theorem stray (h : Found name new ps qs) :
    Found name new ((mark name).letters.map .letter ++ ps) (new.letters.map .letter ++ qs) := by
  have hcut : piecesFrom [name] 0 (Text.flat ((mark name).letters.map .letter ++ ps)) =
      .slot name :: piecesFrom [name] 0 (Text.flat ps) := by
    rw [flat_append, flat_map_letter, piecesFrom_mark]
  have hslots : ((mark name).letters.map Piece.letter ++ ps).count (.slot name) =
      ps.count (.slot name) := by
    rw [List.count_append, List.count_eq_zero.mpr (by simp), Nat.zero_add]
  have hle := h.le
  refine ⟨?_, ?_, ?_, ?_, fun heq => ?_⟩
  · rw [hcut, List.flatMap_cons, filled_slot, flat_append, flat_map_letter, h.flat]
  · rw [others_append, others_append, others_map_letter, others_map_letter, h.others]
  · simpa using h.gone
  · rw [hcut, hslots, List.countP_cons]
    omega
  · rw [hcut, hslots, List.countP_cons] at heq
    simp only [Piece.isSlot, if_true] at heq
    omega

end Found

/-- Looking for a name goes through the pieces: a match is a mark, or is made of letters only. -/
theorem exists_found (hname : name.braces = []) (new : Text) (ps : List Piece)
    (hps : ∀ m, .slot m ∈ ps → m.braces = []) : ∃ qs, Found name new ps qs := by
  match ps with
  | [] => exact ⟨[], Found.nil name new⟩
  | .slot m :: ps =>
    obtain ⟨qs, hqs⟩ := exists_found hname new ps fun m hm => hps m (List.mem_cons_of_mem _ hm)
    by_cases h : m = name
    · subst h
      exact ⟨_, hqs.slot_self⟩
    · exact ⟨_, hqs.slot_of_ne (hps m List.mem_cons_self) hname h⟩
  | .letter l :: ps =>
    by_cases hmatch : (mark name).letters <+: l :: flat ps
    · rw [letters_mark, List.cons_prefix_cons] at hmatch
      obtain ⟨rfl, hrest⟩ := hmatch
      have hinner : opening ∉ name.letters ++ [closing] := by
        rw [List.mem_append, not_or]
        exact ⟨opening_not_mem hname, by decide⟩
      obtain ⟨qs, hqs⟩ := exists_of_prefix_flat hinner hrest
      have hshorter : qs.length < ps.length + 1 := by
        rw [hqs, List.length_append]
        omega
      obtain ⟨rs, hrs⟩ := exists_found hname new qs fun m hm => hps m (by simp [hqs, hm])
      rw [hqs]
      exact ⟨_, hrs.stray⟩
    · obtain ⟨qs, hqs⟩ := exists_found hname new ps fun m hm => hps m (List.mem_cons_of_mem _ hm)
      exact ⟨_, hqs.letter hmatch⟩
termination_by ps.length

end Step

/-! ## one name after the other -/

section Chain

variable {entries : Assoc Text Text} {ps : List Piece}

namespace Found

variable {name new : Text} {qs : List Piece} (h : Found name new ps qs)

include h

/-- What is found is what a substitution replaces. -/
theorem substitute_flat : substitute (mark name) new ⟨Text.flat ps⟩ = ⟨Text.flat qs⟩ := by
  rw [substitute, substituteFrom_eq, h.flat]

/-- The entries that follow are filled into what came of the first. -/
theorem fillMarks_cons : Sketch.fillMarks ((name, new) :: entries) ⟨Text.flat ps⟩ =
    Sketch.fillMarks entries ⟨Text.flat qs⟩ := by
  rw [← h.substitute_flat]
  rfl

/-- The marks found are counted before those of the entries that follow. -/
theorem replacements_cons : replacements ((name, new) :: entries) ⟨Text.flat ps⟩ =
    (piecesFrom [name] 0 (Text.flat ps)).countP Piece.isSlot +
      replacements entries ⟨Text.flat qs⟩ := by
  rw [← h.substitute_flat]
  rfl

/-- The marks that are left are those of the other names. -/
theorem countP_isSlot : qs.countP Piece.isSlot = (Text.others name ps).length := by
  rw [Text.countP_isSlot name qs, List.count_eq_zero.mpr h.gone, Nat.zero_add, h.others]

/-- The marks that are left have names of the entries that follow. -/
theorem mem_keys (hps : ∀ m, .slot m ∈ ps → m ∈ Assoc.keys ((name, new) :: entries)) (m : Text)
    (hm : .slot m ∈ qs) : m ∈ Assoc.keys entries := by
  have hne : m ≠ name := fun heq => h.gone (heq ▸ hm)
  have hother : .slot m ∈ Text.others name ps := by
    rw [← h.others]
    simpa [Text.others, Piece.isSlot, hne] using hm
  have hold : .slot m ∈ ps := List.mem_of_mem_filter hother
  exact (List.mem_cons.mp (hps m hold)).resolve_left hne

end Found

theorem braces_of_mem_keys (hplain : ∀ e ∈ entries, e.1.braces = []) {n : Text}
    (hn : n ∈ Assoc.keys entries) : n.braces = [] := by
  obtain ⟨e, he, rfl⟩ := List.mem_map.mp hn
  exact hplain e he

/-- When the marks of a name were replaced by its value, the rest is filled from the others. -/
theorem flatMap_filled_put (name new : Text) (rest : Assoc Text Text) (ps : List Piece) :
    (put name new ps).flatMap (Piece.filled rest) =
      ps.flatMap (Piece.filled ((name, new) :: rest)) := by
  rw [put, List.flatMap_assoc]
  refine List.flatMap_congr fun p _ => ?_
  cases p with
  | letter l => simp [Piece.filled]
  | slot m =>
    by_cases h : m = name
    · subst h
      simp [Piece.filled, Assoc.getD, Assoc.get?, List.flatMap_map]
    · simp [Piece.filled, Assoc.getD, Assoc.get?, h, Ne.symm h]

/-- Pieces whose marks all have an entry: filled one entry after the other, at least as many marks
are replaced as there are.  If no more, each is filled with its value. -/
theorem fillMarks_flat (hplain : ∀ e ∈ entries, e.1.braces = [])
    (hps : ∀ m, .slot m ∈ ps → m ∈ Assoc.keys entries) :
    ps.countP Piece.isSlot ≤ replacements entries ⟨flat ps⟩ ∧
      (replacements entries ⟨flat ps⟩ = ps.countP Piece.isSlot →
        Sketch.fillMarks entries ⟨flat ps⟩ = ⟨ps.flatMap (Piece.filled entries)⟩) := by
  induction entries generalizing ps with
  | nil =>
    obtain ⟨ls, rfl⟩ := exists_map_letter fun m hm => absurd (hps m hm) List.not_mem_nil
    rw [countP_map_letter]
    refine ⟨Nat.zero_le _, fun _ => congrArg Text.mk ?_⟩
    rw [flat_map_letter, List.flatMap_map]
    exact (List.flatMap_singleton' ls).symm
  | cons e rest ih =>
    obtain ⟨name, new⟩ := e
    have hname : name.braces = [] := hplain _ List.mem_cons_self
    have hslots : ∀ m, .slot m ∈ ps → m.braces = [] :=
      fun m hm => braces_of_mem_keys hplain (hps m hm)
    obtain ⟨qs, hqs⟩ := exists_found hname new ps hslots
    obtain ⟨hle, heq⟩ := ih (fun e he => hplain e (List.mem_cons_of_mem _ he)) (hqs.mem_keys hps)
    have hcount := countP_isSlot name ps
    have hrest := hqs.countP_isSlot
    have hfirst := hqs.le
    rw [hqs.replacements_cons]
    refine ⟨by omega, fun hall => ?_⟩
    have hput := hqs.eq_put (by omega)
    rw [hqs.fillMarks_cons, heq (by omega), hput, flatMap_filled_put]

/-- The marks of a text are all replaced when one entry is filled in after the other.  If nothing
else is, the text is the one in which all are filled at once. -/
theorem fillMarks_eq_fillAll (hplain : ∀ e ∈ entries, e.1.braces = []) (t : Text) :
    marks (Assoc.keys entries) t ≤ replacements entries t ∧
      (replacements entries t = marks (Assoc.keys entries) t →
        Sketch.fillMarks entries t = fillAll entries t) := by
  have hslots : ∀ m, .slot m ∈ pieces (Assoc.keys entries) t → m ∈ Assoc.keys entries :=
    fun m hm => mem_names_of_slot hm
  have hflat := fillMarks_flat hplain hslots
  rw [flat_pieces] at hflat
  exact hflat

end Chain

/-! ## where nothing else is found -/

/-- Whether what is put behind a piece could make a mark with it: an opening brace, or a mark whose
value may end with one. -/
def Piece.opens : Piece → Bool
  | .letter l => l == opening
  | .slot _ => true

/-- Whether a piece is a letter that no name begins with. -/
def Piece.stops (start : Letter → Bool) : Piece → Bool
  | .letter l => !start l
  | .slot _ => false

/-- Behind opening braces and marks come letters that no name begins with. -/
def Clear (start : Letter → Bool) (ps : List Piece) : Prop :=
  ps.IsChain fun p q => p.opens = true → q.stops start = true

instance (start : Letter → Bool) (ps : List Piece) : Decidable (Clear start ps) :=
  inferInstanceAs (Decidable (List.IsChain _ _))

/-- A name begins with a letter of those. -/
def BeginsIn (start : Letter → Bool) (name : Text) : Prop := name.letters.head?.any start = true

instance (start : Letter → Bool) (name : Text) : Decidable (BeginsIn start name) :=
  inferInstanceAs (Decidable (_ = _))

section Clearing

variable {start : Letter → Bool} {entries : Assoc Text Text} {ps : List Piece} {name : Text}

/-- Only the marks of a name are found. -/
theorem countP_of_clear (hname : name.braces = []) (hstart : BeginsIn start name)
    (hslots : ∀ m, .slot m ∈ ps → m.braces = []) (h : Clear start ps) :
    (piecesFrom [name] 0 (flat ps)).countP Piece.isSlot = ps.count (.slot name) := by
  induction ps with
  | nil => rfl
  | cons p ps ih =>
    obtain ⟨hfirst, hrest⟩ := List.isChain_cons.mp h
    have hcount := ih (fun m hm => hslots m (List.mem_cons_of_mem _ hm)) hrest
    cases p with
    | slot m =>
      by_cases hm : m = name
      · subst hm
        have hcut :
            piecesFrom [m] 0 (flat (.slot m :: ps)) = .slot m :: piecesFrom [m] 0 (flat ps) :=
          piecesFrom_mark m _
        rw [hcut, List.countP_cons_of_pos rfl, hcount, List.count_cons_self]
      · have hcut : piecesFrom [name] 0 (flat (.slot m :: ps)) =
            (mark m).letters.map .letter ++ piecesFrom [name] 0 (flat ps) :=
          piecesFrom_mark_of_ne (hslots m List.mem_cons_self) hname (Ne.symm hm) _
        rw [hcut, List.countP_append, countP_map_letter, Nat.zero_add, hcount,
          List.count_cons_of_ne (by simpa using hm)]
    | letter l =>
      have hnot : ¬ (mark name).letters <+: l :: flat ps := by
        intro hprefix
        obtain ⟨first, rest, hletters⟩ : ∃ first rest, name.letters = first :: rest := by
          cases hcases : name.letters with
          | nil => simp [BeginsIn, hcases] at hstart
          | cons first rest => exact ⟨first, rest, rfl⟩
        have hbegins : start first = true := by simpa [BeginsIn, hletters] using hstart
        rw [letters_mark, List.cons_prefix_cons, hletters, List.cons_append] at hprefix
        obtain ⟨rfl, hprefix⟩ := hprefix
        -- the piece behind the brace is a letter, and that would have to be the first of the name
        cases ps with
        | nil => exact absurd (List.prefix_nil.mp hprefix) (by simp)
        | cons q ps =>
          have hstops := hfirst q rfl rfl
          cases q with
          | slot m => exact Bool.false_ne_true hstops
          | letter l' =>
            obtain ⟨rfl, -⟩ := List.cons_prefix_cons.mp hprefix
            simp [Piece.stops, hbegins] at hstops
      have hcut : piecesFrom [name] 0 (flat (.letter l :: ps)) =
          .letter l :: piecesFrom [name] 0 (flat ps) := piecesFrom_cons_of_unmatched hnot
      rw [hcut, List.countP_cons_of_neg Bool.false_ne_true, hcount, List.count_cons_of_ne (by simp)]

/-- A value in which nothing begins like a mark takes the place of marks. -/
theorem Clear.put (name : Text) {new : Text} (hnew : Guarded start new.letters)
    (h : Clear start ps) :
    Clear start (put name new ps) := by
  induction ps with
  | nil => exact List.isChain_nil
  | cons p ps ih =>
    obtain ⟨hfirst, hrest⟩ := List.isChain_cons.mp h
    have hinner : Clear start (if p = .slot name then new.letters.map .letter else [p]) := by
      split
      · refine List.isChain_map_of_isChain _ (fun l l' hl hopens => ?_) hnew
        rw [Piece.stops, hl (by simpa [Piece.opens] using hopens)]
        rfl
      · exact List.isChain_singleton _
    have hput : Text.put name new (p :: ps) =
        (if p = .slot name then new.letters.map .letter else [p]) ++ Text.put name new ps := rfl
    rw [hput]
    refine List.isChain_append.mpr ⟨hinner, ih hrest, fun x hx y hy hopens => ?_⟩
    have hp : p.opens = true := by
      by_cases hslot : p = .slot name
      · rw [hslot]
        rfl
      · rw [if_neg hslot] at hx
        have hx : p = x := Option.some.inj hx
        rw [hx]
        exact hopens
    cases ps with
    | nil => exact absurd hy (by simp [Text.put])
    | cons q ps =>
      have hstops := hfirst q rfl hp
      cases q with
      | slot m => exact absurd hstops Bool.false_ne_true
      | letter l =>
        rw [← Option.some.inj hy]
        exact hstops

/-- Pieces without a mark. -/
theorem Clear.guarded (h : Clear start ps) (hps : ∀ m, .slot m ∉ ps) : Guarded start (flat ps) := by
  obtain ⟨ls, rfl⟩ := exists_map_letter hps
  rw [flat_map_letter]
  refine ((List.isChain_map _).mp h).imp fun l l' hstops hl => ?_
  simpa [Piece.stops] using hstops (by simp [Piece.opens, hl])

/-- Values in which nothing begins like a mark, in a text where no mark can arise behind a brace or
a value: as many marks are replaced as there are, and nothing in the result begins like one. -/
theorem replacements_of_clear (hplain : ∀ e ∈ entries, e.1.braces = [])
    (hstart : ∀ e ∈ entries, BeginsIn start e.1)
    (hvalues : ∀ e ∈ entries, Guarded start e.2.letters)
    (hps : ∀ m, .slot m ∈ ps → m ∈ Assoc.keys entries) (h : Clear start ps) :
    replacements entries ⟨flat ps⟩ = ps.countP Piece.isSlot ∧
      Guarded start (Sketch.fillMarks entries ⟨flat ps⟩).letters := by
  induction entries generalizing ps with
  | nil =>
    have hnone : ∀ m, .slot m ∉ ps := fun m hm => absurd (hps m hm) List.not_mem_nil
    refine ⟨?_, h.guarded hnone⟩
    obtain ⟨ls, rfl⟩ := exists_map_letter hnone
    rw [countP_map_letter]
    rfl
  | cons e rest ih =>
    obtain ⟨name, new⟩ := e
    have hname : name.braces = [] := hplain _ List.mem_cons_self
    have hslots : ∀ m, .slot m ∈ ps → m.braces = [] :=
      fun m hm => braces_of_mem_keys hplain (hps m hm)
    obtain ⟨qs, hqs⟩ := exists_found hname new ps hslots
    have hcount := countP_of_clear hname (hstart _ List.mem_cons_self) hslots h
    have hclear : Clear start qs := by
      rw [hqs.eq_put hcount]
      exact h.put name (hvalues _ List.mem_cons_self)
    obtain ⟨hrest, hguarded⟩ := ih (fun e he => hplain e (List.mem_cons_of_mem _ he))
      (fun e he => hstart e (List.mem_cons_of_mem _ he))
      (fun e he => hvalues e (List.mem_cons_of_mem _ he))
      (hqs.mem_keys hps) hclear
    constructor
    · rw [hqs.replacements_cons, hrest, hqs.countP_isSlot, hcount, countP_isSlot name ps]
    · rw [hqs.fillMarks_cons]
      exact hguarded

end Clearing

/-! ## the order of the names -/

section Order

variable {names names' : List Text} {entries entries' : Assoc Text Text}

/-- At most one mark begins a text. -/
theorem find?_mark_congr (hplain : ∀ n ∈ names, n.braces = []) (h : ∀ n, n ∈ names ↔ n ∈ names')
    (ls : List Letter) : names.find? (fun n => (mark n).letters.isPrefixOf ls) =
      names'.find? fun n => (mark n).letters.isPrefixOf ls := by
  cases hfound : names.find? fun n => (mark n).letters.isPrefixOf ls with
  | none =>
    refine (List.find?_eq_none.mpr fun n hn => ?_).symm
    exact List.find?_eq_none.mp hfound n ((h n).mpr hn)
  | some n =>
    have hn := List.mem_of_find?_eq_some hfound
    have hmark := List.find?_some hfound
    cases hfound' : names'.find? fun n => (mark n).letters.isPrefixOf ls with
    | none => exact absurd hmark (List.find?_eq_none.mp hfound' n ((h n).mp hn))
    | some n' =>
      have hn' := (h n').mpr (List.mem_of_find?_eq_some hfound')
      have hmark' := List.find?_some hfound'
      obtain ⟨rest, hrest⟩ := List.isPrefixOf_iff_prefix.mp hmark'
      have hboth := List.isPrefixOf_iff_prefix.mp hmark
      rw [← hrest] at hboth
      rw [(mark_prefix_iff (hplain n' hn') (hplain n hn) rest).mp hboth]

/-- Where a text is cut depends on which names there are, not on their order. -/
theorem piecesFrom_congr (hplain : ∀ n ∈ names, n.braces = []) (h : ∀ n, n ∈ names ↔ n ∈ names')
    (skip : Nat) (ls : List Letter) : piecesFrom names skip ls = piecesFrom names' skip ls := by
  fun_induction piecesFrom names skip ls with
  | case1 skip => rfl
  | case2 skip l rest ih => exact ih
  | case3 l rest found hfound ih =>
    rw [find?_mark_congr hplain h] at hfound
    rw [piecesFrom, hfound, ih]
  | case4 l rest hnone ih =>
    rw [find?_mark_congr hplain h] at hnone
    rw [piecesFrom, hnone, ih]

/-- Filled at once, only the value of every name is of account. -/
theorem fillAll_congr (hplain : ∀ e ∈ entries, e.1.braces = [])
    (h : ∀ n, Assoc.get? entries n = Assoc.get? entries' n) (t : Text) :
    fillAll entries t = fillAll entries' t := by
  have hkeys : ∀ n, n ∈ Assoc.keys entries ↔ n ∈ Assoc.keys entries' := by
    intro n
    rw [← Assoc.has_iff_mem_keys, ← Assoc.has_iff_mem_keys, Assoc.has, Assoc.has, h]
  have hnames : ∀ n ∈ Assoc.keys entries, n.braces = [] := fun n hn => braces_of_mem_keys hplain hn
  have hfilled : Piece.filled entries = Piece.filled entries' := by
    funext p
    cases p with
    | letter l => rfl
    | slot n => rw [Piece.filled, Piece.filled, Assoc.getD, Assoc.getD, h]
  rw [fillAll, fillAll, pieces, pieces, piecesFrom_congr hnames hkeys, hfilled]

end Order

/-! ## entries that can be filled in -/

/-- Entries that can be filled into a text one after the other: no mark can arise but those of the
text. -/
structure Fillable (start : Letter → Bool) (entries : Assoc Text Text) (t : Text) : Prop where
  plain : ∀ e ∈ entries, e.1.braces = []
  begins : ∀ e ∈ entries, BeginsIn start e.1
  guarded : ∀ e ∈ entries, Guarded start e.2.letters
  clear : Clear start (pieces (Assoc.keys entries) t)

namespace Fillable

variable {start : Letter → Bool} {entries entries' : Assoc Text Text} {t : Text}
  (h : Fillable start entries t)

include h

/-- Every mark that is replaced stood in the text, and none can arise later. -/
theorem replacements_eq : replacements entries t = marks (Assoc.keys entries) t ∧
    Guarded start (Sketch.fillMarks entries t).letters := by
  have hslots : ∀ m, .slot m ∈ pieces (Assoc.keys entries) t → m ∈ Assoc.keys entries :=
    fun m hm => mem_names_of_slot hm
  have hflat := replacements_of_clear h.plain h.begins h.guarded hslots h.clear
  rw [flat_pieces] at hflat
  exact hflat

/-- Filled in one after the other or all at once, the text is the same. -/
theorem fillMarks_eq : Sketch.fillMarks entries t = fillAll entries t :=
  (fillMarks_eq_fillAll h.plain t).2 h.replacements_eq.1

/-- Filled in in another order they give the same. -/
theorem fillMarks_perm (hperm : entries.Perm entries')
    (hget : ∀ n, Assoc.get? entries n = Assoc.get? entries' n) :
    Sketch.fillMarks entries' t = Sketch.fillMarks entries t := by
  have hkeys : ∀ n, n ∈ Assoc.keys entries ↔ n ∈ Assoc.keys entries' :=
    fun n => (hperm.map Prod.fst).mem_iff
  have hpieces : pieces (Assoc.keys entries) t = pieces (Assoc.keys entries') t :=
    piecesFrom_congr (fun n hn => braces_of_mem_keys h.plain hn) hkeys 0 t.letters
  have h' : Fillable start entries' t :=
    { plain := fun e he => h.plain e (hperm.mem_iff.mpr he)
      begins := fun e he => h.begins e (hperm.mem_iff.mpr he)
      guarded := fun e he => h.guarded e (hperm.mem_iff.mpr he)
      clear := hpieces ▸ h.clear }
  rw [h.fillMarks_eq, h'.fillMarks_eq, fillAll_congr h.plain hget]

end Fillable

end BlockSketch.Text
