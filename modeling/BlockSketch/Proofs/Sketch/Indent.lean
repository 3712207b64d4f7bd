import BlockSketch.Proofs.Text.Lines
import BlockSketch.Sketch.Indent
import Mathlib.Algebra.GroupWithZero.Nat
import Mathlib.Data.List.DropRight

/-!
# BlockSketch.Proofs.Sketch.Indent

Code that is indented several times.  The code of a block inside others is indented once for
its own template and once more for every block around it, and each time the text is cut into
lines and the lines are joined again.  What is cut and joined is not changed by it, but a text
that ends in an empty line does not show that line any more once it was joined.

* `indentLine_indentLine` — levels of indentation add up;
* `Lined.indent` — a text that is indented once loses an empty line at its end;
* `lines_indentAll` — a text that is indented any number of times.
-/

namespace BlockSketch.Sketch

open Text (Unbroken)

/-! ## one line -/

/-- Indentation is two blanks for every level. -/
theorem indentation_eq (level : Nat) :
    indentation level = Text.concat (List.replicate level ("  " : Text)) := by
  induction level with
  | zero => rfl
  | succ level ih =>
    have hletters := congrArg Text.letters ih
    refine congrArg Text.mk ?_
    rw [List.replicate_succ, List.flatMap_cons]
    exact congrArg (fun ls : List Letter => .char ' ' :: .char ' ' :: ls) hletters

/-- A line that is not empty gets the indentation in front. -/
theorem indentLine_of_not_isEmpty {line : Text} (h : line.isEmpty = false) (level : Nat) :
    indentLine level line = indentation level ++ line := by
  unfold indentLine
  rw [h]
  rfl

@[simp] theorem isEmpty_indentLine (level : Nat) (line : Text) :
    (indentLine level line).isEmpty = line.isEmpty := by
  cases h : line.isEmpty with
  | true =>
    rw [Text.eq_empty_of_isEmpty h]
    rfl
  | false =>
    rw [indentLine_of_not_isEmpty h]
    simp [Text.isEmpty] at h ⊢
    simp [h]

theorem indentLine_zero (line : Text) : indentLine 0 line = line := by
  unfold indentLine
  split <;> rfl

/-- Levels of indentation add up. -/
theorem indentLine_indentLine (m n : Nat) (line : Text) :
    indentLine n (indentLine m line) = indentLine (m + n) line := by
  cases h : line.isEmpty with
  | true =>
    rw [Text.eq_empty_of_isEmpty h]
    rfl
  | false =>
    rw [indentLine_of_not_isEmpty (by rw [isEmpty_indentLine, h]), indentLine_of_not_isEmpty h,
      indentLine_of_not_isEmpty h]
    have hblanks : List.replicate (2 * (m + n)) (Letter.char ' ') =
        List.replicate (2 * n) (.char ' ') ++ List.replicate (2 * m) (.char ' ') := by
      rw [List.replicate_append_replicate, Nat.mul_add, Nat.add_comm]
    refine congrArg Text.mk ?_
    change List.replicate (2 * n) _ ++ (List.replicate (2 * m) _ ++ line.letters) =
      List.replicate (2 * (m + n)) _ ++ line.letters
    rw [hblanks, List.append_assoc]

/-- Indentation breaks no line. -/
theorem unbroken_indentLine (level : Nat) {line : Text} (h : line.Unbroken) :
    (indentLine level line).Unbroken := by
  have hblanks : (indentation level).Unbroken := fun l hl => by
    rw [List.eq_of_mem_replicate hl]
    decide
  unfold indentLine
  split
  · exact h
  · exact hblanks.append h

/-! ## all lines -/

/-- The lines of a text are some lines, of which the last is not empty, and then so many empty
ones. -/
structure Lined (t : Text) (body : List Text) (trailing : Nat) : Prop where
  lines : t.lines = body ++ List.replicate trailing ("" : Text)
  last : body.getLast?.any Text.isEmpty = false

/-- Every text has lines of which the last is not empty, and then empty ones. -/
theorem lined_of_text (t : Text) :
    Lined t (t.lines.rdropWhile Text.isEmpty) (t.lines.rtakeWhile Text.isEmpty).length where
  lines := by
    have hempty : t.lines.rtakeWhile Text.isEmpty =
        List.replicate (t.lines.rtakeWhile Text.isEmpty).length ("" : Text) :=
      List.eq_replicate_of_mem fun line hline => Text.eq_empty_of_isEmpty
        (List.mem_rtakeWhile_imp hline)
    rw [← hempty, List.rdropWhile_append_rtakeWhile]
  last := by
    cases h : (t.lines.rdropWhile Text.isEmpty).getLast? with
    | none => rfl
    | some line =>
      obtain ⟨hne, hlast⟩ := List.mem_getLast?_eq_getLast h
      have hnot := List.rdropWhile_last_not Text.isEmpty t.lines hne
      rw [← hlast] at hnot
      simpa using hnot

/-- Indenting a text indents its lines, and drops the last one if it is empty. -/
theorem Lined.indent {t : Text} {body : List Text} {trailing : Nat} (h : Lined t body trailing)
    (level : Nat) :
    Lined (indent level t) (body.map (indentLine level)) (trailing - 1) := by
  have hlast : (body.map (indentLine level)).getLast?.any Text.isEmpty = false := by
    rw [List.getLast?_map, Option.any_map, ← h.last]
    exact congrArg (Option.any · body.getLast?) (funext (isEmpty_indentLine level))
  have hunbroken : ∀ line ∈ t.lines.map (indentLine level), line.Unbroken := by
    intro line hline
    obtain ⟨plain, hplain, rfl⟩ := List.mem_map.mp hline
    exact unbroken_indentLine level (Text.unbroken_of_mem_lines hplain)
  refine ⟨?_, hlast⟩
  unfold Sketch.indent
  rw [Text.lines_unlines hunbroken, h.lines, List.map_append, List.map_replicate]
  change (if (body.map (indentLine level) ++ List.replicate trailing ("" : Text)).getLast?.any
    Text.isEmpty then
      (body.map (indentLine level) ++ List.replicate trailing ("" : Text)).dropLast
    else body.map (indentLine level) ++ List.replicate trailing ("" : Text)) = _
  cases trailing with
  | zero =>
    rw [List.replicate_zero, List.append_nil, hlast]
    simp
  | succ trailing =>
    rw [List.replicate_succ', ← List.append_assoc, List.getLast?_concat, List.dropLast_concat]
    rfl

/-- Indent a text several times, at one level after the other. -/
def indentAll (levels : List Nat) (t : Text) : Text :=
  levels.foldl (fun t level => indent level t) t

/-- Every time a text is indented, it loses an empty line at the end, as long as there is one. -/
theorem Lined.indentAll {t : Text} {body : List Text} {trailing : Nat} (h : Lined t body trailing)
    (levels : List Nat) :
    Lined (indentAll levels t) (body.map (indentLine levels.sum)) (trailing - levels.length) := by
  induction levels generalizing t body trailing with
  | nil =>
    have hsame : body.map (indentLine [].sum) = body :=
      (List.map_congr_left fun line _ => indentLine_zero line).trans (List.map_id' body)
    rw [hsame]
    exact h
  | cons level levels ih =>
    have hlevels : (body.map (indentLine level)).map (indentLine levels.sum) =
        body.map (indentLine (level :: levels).sum) := by
      rw [List.map_map, List.sum_cons]
      exact List.map_congr_left fun line _ => indentLine_indentLine level levels.sum line
    have hrest := ih (h.indent level)
    rw [hlevels, Nat.sub_sub, Nat.add_comm 1] at hrest
    exact hrest

/-- However often a text is indented, its lines stay what they are and where they are, and all that
is lost is an empty line at the end each time, as long as there is one.  So the lines that are not
empty are those of the text in order, each behind two blanks for every level of all the indentations
together. -/
theorem lines_indentAll (t : Text) (levels : List Nat) :
    (indentAll levels t).lines.filter (fun line => !line.isEmpty) =
      (t.lines.filter fun line => !line.isEmpty).map
        (Text.concat (List.replicate levels.sum ("  " : Text)) ++ ·) ∧
    (indentAll levels t).lines ++
        List.replicate (min levels.length (t.lines.rtakeWhile Text.isEmpty).length) ("" : Text) =
      t.lines.map (indentLine levels.sum) := by
  have hlined := lined_of_text t
  have hall : (indentAll levels t).lines ++
      List.replicate (min levels.length (t.lines.rtakeWhile Text.isEmpty).length) ("" : Text) =
        t.lines.map (indentLine levels.sum) := by
    have hindented : t.lines.map (indentLine levels.sum) =
        (t.lines.rdropWhile Text.isEmpty).map (indentLine levels.sum) ++
          List.replicate (t.lines.rtakeWhile Text.isEmpty).length ("" : Text) := by
      conv_lhs => rw [hlined.lines, List.map_append, List.map_replicate]
      rfl
    rw [(hlined.indentAll levels).lines, hindented, List.append_assoc,
      List.replicate_append_replicate]
    congr 2
    omega
  refine ⟨?_, hall⟩
  have hshown (line : Text) (h : line.isEmpty = false) : indentLine levels.sum line =
      Text.concat (List.replicate levels.sum ("  " : Text)) ++ line := by
    rw [indentLine_of_not_isEmpty h, indentation_eq]
  -- an empty line is none of those that are looked at, whether it is lost or not
  have hfilter := congrArg (List.filter fun line => !line.isEmpty) hall
  rw [List.filter_append, List.filter_replicate_of_neg (by decide), List.append_nil,
    List.filter_map] at hfilter
  have hsame :
      ((fun line => !line.isEmpty) ∘ indentLine levels.sum) = fun line : Text => !line.isEmpty :=
    funext fun line => congrArg not (isEmpty_indentLine levels.sum line)
  rw [hfilter, hsame]
  refine List.map_congr_left fun line hline => hshown line ?_
  simpa using (List.mem_filter.mp hline).2

end BlockSketch.Sketch
