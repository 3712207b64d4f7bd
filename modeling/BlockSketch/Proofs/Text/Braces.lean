import BlockSketch.Proofs.Text.Lines
import BlockSketch.Proofs.Text.Split
import BlockSketch.Sketch.Indent
import Mathlib.Data.List.Chain

/-!
# BlockSketch.Proofs.Text.Braces

Braces in texts.  What the generator does with texts leaves their braces as they are:
it cuts them into lines, indents and joins lines, and cuts blanks off.  A mark is put
in its place by looking for a brace with a name behind it; in a text whose opening
braces all end their lines there is none.

* `Balanced.append`, `Balanced.nest` — balanced texts one behind the other and in braces;
* `braces_lines`, `braces_intercalate`, `braces_indent`, `braces_trim` — braces stay;
* `guarded_indent`, `guarded_intercalate` — what stands behind opening braces stays there;
* `sealed_indent`, `sealed_intercalate` — opening braces stay at the ends of lines;
* `substitute_mark` — the first mark of a text is replaced, and nothing behind it.
-/

namespace BlockSketch.Text

/-! ## balanced braces -/

def opening : Letter := .char '\x7b'

def closing : Letter := .char '\x7d'

/-- No beginning has more closing than opening braces, and the whole has as many of both. -/
structure Balanced (ls : List Letter) : Prop where
  closing_le : ∀ start, start <+: ls → start.count closing ≤ start.count opening
  count_eq : ls.count opening = ls.count closing

theorem balanced_nil : Balanced [] where
  closing_le := by simp
  count_eq := rfl

/-- One balanced text behind another is balanced. -/
theorem Balanced.append {ls ls' : List Letter} (h : Balanced ls) (h' : Balanced ls') :
    Balanced (ls ++ ls') where
  closing_le := by
    intro start hstart
    rcases List.prefix_or_prefix_of_prefix hstart (List.prefix_append ls ls') with hshort
      | ⟨rest, rfl⟩
    · exact h.closing_le start hshort
    · have hrest := h'.closing_le rest ((List.prefix_append_right_inj ls).mp hstart)
      rw [List.count_append, List.count_append, h.count_eq]
      omega
  count_eq := by rw [List.count_append, List.count_append, h.count_eq, h'.count_eq]

/-- Balanced braces in braces. -/
theorem Balanced.nest {ls : List Letter} (h : Balanced ls) :
    Balanced (opening :: (ls ++ [closing])) := by
  have hopened (start : List Letter) : (opening :: start).count closing = start.count closing ∧
      (opening :: start).count opening = start.count opening + 1 :=
    ⟨List.count_cons_of_ne (by decide), List.count_cons_self⟩
  have hclosed : (ls ++ [closing]).count closing = ls.count closing + 1 ∧
      (ls ++ [closing]).count opening = ls.count opening := by
    rw [List.count_append, List.count_append]
    exact ⟨rfl, rfl⟩
  have htotal := h.count_eq
  constructor
  · intro start hstart
    rcases List.prefix_cons_iff.mp hstart with rfl | ⟨rest, rfl, hrest⟩
    · simp
    · rw [(hopened rest).1, (hopened rest).2]
      rcases List.prefix_concat_iff.mp hrest with rfl | hshort
      · omega
      · have := h.closing_le rest hshort
        omega
  · rw [(hopened _).1, (hopened _).2]
    omega

/-- So are any number of them. -/
theorem balanced_flatMap {α : Type} {as : List α} {f : α → List Letter}
    (h : ∀ a ∈ as, Balanced (f a)) :
    Balanced (as.flatMap f) := by
  induction as with
  | nil => exact balanced_nil
  | cons a as ih =>
    rw [List.flatMap_cons]
    exact (h a List.mem_cons_self).append (ih fun b hb => h b (List.mem_cons_of_mem a hb))

def isBrace (l : Letter) : Bool := l == opening || l == closing

/-- The braces of a text in order. -/
def braces (t : Text) : List Letter := t.letters.filter isBrace

/-- A text is balanced when its braces are. -/
theorem balanced_of_braces {t : Text} (h : Balanced t.braces) : Balanced t.letters := by
  have hcount {l : Letter} (hl : isBrace l = true) (ls : List Letter) :
      (ls.filter isBrace).count l = ls.count l := List.count_filter hl
  have hopening : isBrace opening = true := by decide
  have hclosing : isBrace closing = true := by decide
  constructor
  · intro start hstart
    have hle := h.closing_le _ (hstart.filter isBrace)
    rwa [hcount hopening, hcount hclosing] at hle
  · have heq := h.count_eq
    unfold braces at heq
    rwa [hcount hopening, hcount hclosing] at heq

/-! ## braces stay -/

theorem braces_append (t t' : Text) : (t ++ t').braces = t.braces ++ t'.braces :=
  List.filter_append ..

/-- A text has no braces when it has neither of the two. -/
theorem braces_eq_nil_iff (t : Text) :
    t.braces = [] ↔ t.has opening = false ∧ t.has closing = false := by
  have hhas (l : Letter) : t.has l = false ↔ l ∉ t.letters := by simp [has]
  unfold braces
  rw [hhas, hhas, List.filter_eq_nil_iff]
  constructor
  · exact fun h => ⟨fun hl => h opening hl (by decide), fun hl => h closing hl (by decide)⟩
  · intro h l hl hbrace
    rw [isBrace, Bool.or_eq_true, beq_iff_eq, beq_iff_eq] at hbrace
    rcases hbrace with rfl | rfl
    · exact h.1 hl
    · exact h.2 hl

theorem opening_not_mem {t : Text} (h : t.braces = []) : opening ∉ t.letters :=
  fun hl => List.filter_eq_nil_iff.mp h opening hl (by decide)

/-- A separator without braces adds none. -/
theorem braces_intercalate {separator : Text} (h : separator.braces = []) (ts : List Text) :
    (intercalate separator ts).braces = ts.flatMap braces := by
  induction ts with
  | nil => rfl
  | cons t ts ih =>
    cases ts with
    | nil => simp [intercalate, braces]
    | cons t' ts =>
      have hcons : intercalate separator (t :: t' :: ts) =
          t ++ separator ++ intercalate separator (t' :: ts) :=
        congrArg Text.mk List.intercalate_cons_cons
      rw [hcons, braces_append, braces_append, h, List.append_nil, ih]
      rfl

/-- A letter of a class that holds no brace. -/
theorem isBrace_of_isIn {class_ : Char → Bool} (h : class_ '\x7b' = false)
    (h' : class_ '\x7d' = false) {l : Letter} (hl : l.isIn class_ = true) : isBrace l = false := by
  rw [isBrace, Bool.or_eq_false_iff, beq_eq_false_iff_ne, beq_eq_false_iff_ne]
  refine ⟨fun heq => ?_, fun heq => ?_⟩
  · rw [heq, opening, Letter.isIn, h] at hl
    exact Bool.false_ne_true hl
  · rw [heq, closing, Letter.isIn, h'] at hl
    exact Bool.false_ne_true hl

/-- The braces of a text are those of its lines. -/
theorem braces_lines (t : Text) : t.lines.flatMap braces = t.braces := by
  have hfrom (current rest : List Letter) :
      (linesFrom current rest).flatMap (List.filter isBrace) =
        (current.reverse ++ rest).filter isBrace := by
    fun_induction linesFrom current rest with
    | case1 current hempty =>
      rw [List.isEmpty_iff.mp hempty]
      rfl
    | case2 current hempty => simp
    | case3 current rest ih =>
      rw [List.flatMap_cons, ih, List.reverse_nil, List.nil_append, List.filter_append]
      rfl
    | case4 current l rest _ hend ih =>
      have hl := isBrace_of_isIn (by decide) (by decide) hend
      rw [List.flatMap_cons, ih, List.reverse_nil, List.nil_append, List.filter_append,
        List.filter_cons_of_neg (by simp [hl])]
    | case5 current l rest _ hend ih =>
      rw [ih, List.reverse_cons, List.append_assoc, List.singleton_append]
  unfold lines
  rw [List.flatMap_map]
  exact hfrom [] t.letters

/-- A line of a text is a part of it. -/
theorem infix_of_mem_lines {t line : Text} (h : line ∈ t.lines) : line.letters <:+: t.letters := by
  have hfrom (current rest : List Letter) :
      ∀ line ∈ linesFrom current rest, line <:+: current.reverse ++ rest := by
    fun_induction linesFrom current rest with
    | case1 current hempty => simp
    | case2 current hempty => simp
    | case3 current rest ih =>
      intro line hline
      rcases List.mem_cons.mp hline with rfl | hlater
      · exact (List.prefix_append _ _).isInfix
      · exact (ih line hlater).trans (List.IsSuffix.isInfix
          ⟨current.reverse ++ [.char '\r', .char '\n'], by simp⟩)
    | case4 current l rest _ hend ih =>
      intro line hline
      rcases List.mem_cons.mp hline with rfl | hlater
      · exact (List.prefix_append _ _).isInfix
      · exact (ih line hlater).trans (List.IsSuffix.isInfix ⟨current.reverse ++ [l], by simp⟩)
    | case5 current l rest _ hend ih =>
      intro line hline
      have hpart := ih line hline
      rwa [List.reverse_cons, List.append_assoc, List.singleton_append] at hpart
  obtain ⟨ls, hls, rfl⟩ := List.mem_map.mp h
  exact hfrom [] t.letters ls hls

/-- Indentation adds no braces. -/
theorem braces_indent (level : Nat) (t : Text) : (Sketch.indent level t).braces = t.braces := by
  have hline (line : Text) : (Sketch.indentLine level line).braces = line.braces := by
    have hblanks : (Sketch.indentation level).braces = [] :=
      List.filter_eq_nil_iff.mpr fun l hl => by
        rw [List.eq_of_mem_replicate hl]
        decide
    unfold Sketch.indentLine
    split
    · rfl
    · rw [braces_append, hblanks, List.nil_append]
  unfold Sketch.indent unlines
  rw [braces_intercalate (by decide), List.flatMap_map]
  simp only [hline, braces_lines]

/-- Trimming removes none. -/
theorem braces_trim (t : Text) : t.trim.braces = t.braces := by
  obtain ⟨lead, cut, hlead, hcut, ht, -⟩ := trim_spec t
  have hblank {u : Text} (hu : Blank u) : u.braces = [] :=
    List.filter_eq_nil_iff.mpr fun l hl => by simp [isBrace_of_isIn (by decide)
      (by decide) (hu l hl)]
  have hbraces := congrArg braces ht
  rw [braces_append, braces_append, hblank hlead, hblank hcut, List.nil_append,
    List.append_nil] at hbraces
  exact hbraces.symm

/-! ## what stands behind opening braces -/

/-- Behind an opening brace comes a letter that is none of some, or nothing. -/
def Guarded (start : Letter → Bool) (ls : List Letter) : Prop :=
  ls.IsChain fun l l' => l = opening → start l' = false

instance (start : Letter → Bool) (ls : List Letter) : Decidable (Guarded start ls) :=
  inferInstanceAs (Decidable (List.IsChain _ _))

section Guarding

variable {start : Letter → Bool} {ls ls' : List Letter}

/-- Without opening braces there is nothing to guard. -/
theorem guarded_of_not_mem (start : Letter → Bool) (h : opening ∉ ls) : Guarded start ls := by
  induction ls with
  | nil => exact List.isChain_nil
  | cons l ls ih =>
    rw [List.mem_cons, not_or] at h
    exact List.isChain_cons.mpr ⟨fun _ _ heq => absurd heq.symm h.1, ih h.2⟩

theorem Guarded.append_of_not_mem (h : opening ∉ ls) (h' : Guarded start ls') :
    Guarded start (ls ++ ls') := by
  refine List.isChain_append.mpr ⟨guarded_of_not_mem start h, h', fun l hl l' _ heq => ?_⟩
  exact absurd (heq ▸ List.mem_of_mem_getLast? hl) h

variable (hfeed : start (.char '\n') = false)

include hfeed

/-- Lines joined by a line feed. -/
theorem Guarded.append_feed (h : Guarded start ls) (h' : Guarded start ls') :
    Guarded start (ls ++ .char '\n' :: ls') := by
  have htail : Guarded start ([.char '\n'] ++ ls') := Guarded.append_of_not_mem (by decide) h'
  refine List.isChain_append.mpr ⟨h, htail, fun l _ l' hl' _ => ?_⟩
  rw [← Option.some.inj hl']
  exact hfeed

/-- Guarded lines make a guarded text, since a line feed begins no name. -/
theorem guarded_intercalate {ts : List Text} (h : ∀ t ∈ ts, Guarded start t.letters) :
    Guarded start (intercalate "\n" ts).letters := by
  induction ts with
  | nil => exact List.isChain_nil
  | cons t ts ih =>
    cases ts with
    | nil => simpa [intercalate] using h
    | cons t' ts =>
      have hcons : (intercalate "\n" (t :: t' :: ts)).letters =
          t.letters ++ .char '\n' :: (intercalate "\n" (t' :: ts)).letters := by
        refine List.intercalate_cons_cons.trans ?_
        rw [List.append_assoc]
        rfl
      rw [hcons]
      have hrest := ih fun u hu => h u (List.mem_cons_of_mem t hu)
      exact (h t List.mem_cons_self).append_feed hfeed hrest

/-- Indentation leaves a text guarded. -/
theorem guarded_indent (level : Nat) {t : Text} (h : Guarded start t.letters) :
    Guarded start (Sketch.indent level t).letters := by
  have hblanks : opening ∉ (Sketch.indentation level).letters := fun hl =>
    absurd (List.eq_of_mem_replicate hl) (by decide)
  refine guarded_intercalate hfeed fun u hu => ?_
  obtain ⟨line, hline, rfl⟩ := List.mem_map.mp hu
  have hpart : Guarded start line.letters := List.IsChain.infix h (infix_of_mem_lines hline)
  unfold Sketch.indentLine
  split
  · exact hpart
  · exact Guarded.append_of_not_mem hblanks hpart

end Guarding

/-! ## opening braces at the ends of lines -/

/-- Behind an opening brace comes a line feed, or nothing. -/
def Sealed (ls : List Letter) : Prop := ls.IsChain fun l l' => l = opening → l' = .char '\n'

/-- To be sealed is to be guarded against everything but line feeds. -/
theorem sealed_iff_guarded {ls : List Letter} : Sealed ls ↔ Guarded (· != .char '\n') ls := by
  unfold Sealed Guarded
  simp only [bne_eq_false_iff_eq]

theorem sealed_of_not_mem {ls : List Letter} (h : opening ∉ ls) : Sealed ls :=
  sealed_iff_guarded.mpr (guarded_of_not_mem _ h)

theorem Sealed.append_of_not_mem {ls ls' : List Letter} (h : opening ∉ ls) (h' : Sealed ls') :
    Sealed (ls ++ ls') :=
  sealed_iff_guarded.mpr ((sealed_iff_guarded.mp h').append_of_not_mem h)

/-- Lines joined by a line feed. -/
theorem Sealed.append_feed {ls ls' : List Letter} (h : Sealed ls) (h' : Sealed ls') :
    Sealed (ls ++ .char '\n' :: ls') :=
  sealed_iff_guarded.mpr ((sealed_iff_guarded.mp h).append_feed (by decide)
    (sealed_iff_guarded.mp h'))

/-- Sealed lines make a sealed text. -/
theorem sealed_intercalate {ts : List Text} (h : ∀ t ∈ ts, Sealed t.letters) :
    Sealed (intercalate "\n" ts).letters :=
  sealed_iff_guarded.mpr (guarded_intercalate (by decide) fun t ht =>
    sealed_iff_guarded.mp (h t ht))

/-- Indentation leaves a text sealed. -/
theorem sealed_indent (level : Nat) {t : Text} (h : Sealed t.letters) :
    Sealed (Sketch.indent level t).letters :=
  sealed_iff_guarded.mpr (guarded_indent (by decide) level (sealed_iff_guarded.mp h))

/-! ## code -/

/-- The braces of a text are balanced, and the opening ones end their lines. -/
structure WellBracketed (t : Text) : Prop where
  balanced : Balanced t.braces
  ends : Sealed t.letters

/-- A text without braces is well bracketed. -/
theorem wellBracketed_of_braces {t : Text} (h : t.braces = []) : WellBracketed t where
  balanced := h ▸ balanced_nil
  ends := sealed_of_not_mem (opening_not_mem h)

/-- Indentation leaves a text well bracketed. -/
theorem WellBracketed.indent (level : Nat) {t : Text} (h : WellBracketed t) :
    WellBracketed (Sketch.indent level t) where
  balanced := (braces_indent level t).symm ▸ h.balanced
  ends := sealed_indent level h.ends

/-- Well-bracketed lines make a well-bracketed text. -/
theorem wellBracketed_intercalate {ts : List Text} (h : ∀ t ∈ ts, WellBracketed t) :
    WellBracketed (intercalate "\n" ts) where
  balanced := by
    rw [braces_intercalate (by decide)]
    exact balanced_flatMap fun t ht => (h t ht).balanced
  ends := sealed_intercalate fun t ht => (h t ht).ends

/-! ## marks -/

/-- A name has a first letter, and that is no line feed. -/
def IsName (name : Text) : Prop := ∃ l rest, name.letters = l :: rest ∧ l ≠ .char '\n'

/-- In a sealed text no name stands behind an opening brace. -/
theorem occurs_of_sealed {l : Letter} (hl : l ≠ .char '\n') (pattern : List Letter)
    {ls : List Letter} (h : Sealed ls) : occurs (opening :: l :: pattern) ls = false := by
  induction ls with
  | nil => rfl
  | cons first ls ih =>
    obtain ⟨hfirst, hrest⟩ := List.isChain_cons.mp h
    rw [occurs, ih hrest, Bool.or_false, Bool.eq_false_iff]
    intro hpattern
    -- the letter behind the brace would have to be both `l` and a line feed
    obtain ⟨after, hafter⟩ := List.isPrefixOf_iff_prefix.mp hpattern
    rw [List.cons_append, List.cons.injEq] at hafter
    obtain ⟨rfl, rfl⟩ := hafter
    exact hl (hfirst l rfl rfl)

/-- In a text whose opening braces end their lines there is no mark. -/
theorem substitute_of_sealed {name t : Text} (hname : IsName name) (new : Text)
    (h : Sealed t.letters) :
    substitute (mark name) new t = t := by
  obtain ⟨l, rest, hletters, hl⟩ := hname
  have hmark : (mark name).letters = opening :: l :: (rest ++ [closing]) := by
    change opening :: name.letters ++ [closing] = _
    rw [hletters]
    rfl
  refine substitute_of_not_occurs _ _ _ ?_
  rw [contains, hmark]
  exact occurs_of_sealed hl _ h

/-- The letters of an occurrence in front are passed over. -/
theorem substituteFrom_skip (pattern new skipped rest : List Letter) :
    substituteFrom pattern new skipped.length (skipped ++ rest) =
      substituteFrom pattern new 0 rest := by
  induction skipped with
  | nil => rfl
  | cons l skipped ih => exact ih

/-- The first match of a pattern is the one behind letters with which no match begins. -/
theorem substituteFrom_append {l : Letter} {start : List Letter} (h : l ∉ start)
    (pattern new rest : List Letter) :
    substituteFrom (l :: pattern) new 0 (start ++ (l :: pattern ++ rest)) =
      start ++ (new ++ substituteFrom (l :: pattern) new 0 rest) := by
  induction start with
  | nil =>
    have hmatch : (l :: pattern).isPrefixOf (l :: (pattern ++ rest)) = true :=
      List.isPrefixOf_iff_prefix.mpr (List.prefix_append (l :: pattern) rest)
    rw [List.nil_append, List.nil_append, List.cons_append, substituteFrom, if_pos hmatch,
      List.length_cons, Nat.add_sub_cancel, substituteFrom_skip]
  | cons first start ih =>
    rw [List.mem_cons, not_or] at h
    have hnone :
        ¬ (l :: pattern).isPrefixOf (first :: (start ++ (l :: pattern ++ rest))) = true := by
      simp [h.1]
    rw [List.cons_append, substituteFrom, if_neg hnone, ih h.2, List.cons_append]

/-- The mark behind a text without an opening brace is replaced, and nothing behind it. -/
theorem substitute_mark {name start rest : Text} (hname : IsName name) (new : Text)
    (hstart : opening ∉ start.letters) (hrest : Sealed rest.letters) :
    substitute (mark name) new (start ++ mark name ++ rest) = start ++ new ++ rest := by
  have hsame : substituteFrom (opening :: (name.letters ++ [closing])) new.letters 0 rest.letters =
      rest.letters := congrArg letters (substitute_of_sealed hname new hrest)
  have hletters := substituteFrom_append hstart (name.letters ++ [closing]) new.letters rest.letters
  rw [hsame, ← List.append_assoc, ← List.append_assoc] at hletters
  exact congrArg Text.mk hletters

end BlockSketch.Text
