import BlockSketch.Firmware.Diagnostics
import BlockSketch.Proofs.Outcome
import BlockSketch.Proofs.Text.Lines
import BlockSketch.Proofs.Text.Split
import BlockSketch.Proofs.Value.Number

/-!
# BlockSketch.Proofs.Firmware.Diagnostics

What is found in the output of a compiler.  Every line is looked at by itself, and no
line makes the reading fail, so the errors of an output are those of its parts.  On a
line the parts between colons are told apart by their number; the file must not hold a
colon, or its line and column are looked for in the wrong places.

* `diagnostics_eq` — the errors of an output are those of its lines;
* `diagnostics_append_feed` — the errors of outputs that are joined by a line feed;
* `diagnostics_report_iff` — the errors that are found as the compiler wrote them.
-/

namespace BlockSketch.Firmware

open Text (lines Unbroken)

/-! ## lines by themselves -/

/-- The error that is found on a line. -/
def found (line : Text) : Option Diagnostic := (diagnosticOfLine line).toOption.join

/-- Two texts spell a position or are malformed. -/
theorem position_error {line column : Text} {fault : Fault}
    (h : position line column = .error fault) :
    fault = .malformed := by
  unfold position at h
  obtain hline | ⟨_, _, hrest⟩ := Outcome.bind_eq_error_iff.mp h
  · exact Value.intOfText_error hline
  · obtain hcolumn | ⟨_, _, hpure⟩ := Outcome.bind_eq_error_iff.mp hrest
    · exact Value.intOfText_error hcolumn
    · exact absurd hpure (by simp [pure, Except.pure])

/-- No line makes the reading fail. -/
theorem diagnosticOfLine_eq (line : Text) : diagnosticOfLine line = .ok (found line) := by
  have htotal : ∃ d, diagnosticOfLine line = .ok d := by
    unfold diagnosticOfLine
    split
    · split
      · exact ⟨_, rfl⟩
      · exact ⟨none, rfl⟩
      · next fault hother hposition => exact absurd (position_error hposition) hother
    · exact ⟨none, rfl⟩
  obtain ⟨d, hd⟩ := htotal
  unfold found
  rw [hd]
  rfl

/-- An error is found on a line of at least four parts: a file, two numbers, and a message. -/
theorem found_eq_some_iff {line : Text} {d : Diagnostic} :
    found line = some d ↔ ∃ lineNo column first rest,
      line.split ':' = d.file :: lineNo :: column :: first :: rest ∧
        position lineNo column = .ok (d.line, d.column) ∧
        Text.trim (Text.intercalate ":" (first :: rest)) = d.message ∧
        (Text.lower d.message).contains "error" = true := by
  unfold found diagnosticOfLine
  constructor
  · intro h
    split at h
    · next file lineNo column first rest hparts =>
      split at h
      · next n c hposition =>
        dsimp only at h
        split at h
        · next herror =>
          cases h
          exact ⟨lineNo, column, first, rest, hparts, hposition, rfl, herror⟩
        · exact absurd h (by simp [Except.toOption])
      · exact absurd h (by simp [Except.toOption])
      · exact absurd h (by simp [Except.toOption])
    · exact absurd h (by simp [Except.toOption])
  · rintro ⟨lineNo, column, first, rest, hparts, hposition, hmessage, herror⟩
    rw [hparts]
    dsimp only
    rw [hposition]
    dsimp only
    rw [hmessage, if_pos herror]
    rfl

/-- The errors of an output are those of its lines, in order. -/
theorem diagnostics_eq (output : Text) :
    diagnostics output = .ok ((lines output).filterMap found) := by
  have hread : (lines output).mapM diagnosticOfLine = .ok ((lines output).map found) := by
    refine Outcome.mapM_eq_ok_iff.mpr (List.forall₂_map_right_iff.mpr ?_)
    exact List.forall₂_same.mpr fun line _ => diagnosticOfLine_eq line
  unfold diagnostics
  rw [hread]
  change Except.ok (((lines output).map found).filterMap id) = _
  rw [List.filterMap_map]
  rfl

/-- A line by itself has the error that is found on it. -/
theorem diagnostics_of_unbroken {line : Text} (h : line.Unbroken) :
    diagnostics line = .ok (found line).toList := by
  rw [diagnostics_eq]
  cases hempty : line.isEmpty with
  | true =>
    rw [Text.eq_empty_of_isEmpty hempty]
    rfl
  | false =>
    rw [Text.lines_of_unbroken h hempty]
    cases hfound : found line with
    | none => rw [List.filterMap_cons_none hfound]; rfl
    | some d => rw [List.filterMap_cons_some hfound]; rfl

/-- Of some lines, those with an error on them have one each. -/
theorem forall₂_reporting {ls : List Text} (h : ∀ line ∈ ls, line.Unbroken) :
    List.Forall₂ (fun line d => diagnostics line = .ok [d])
      (ls.filter fun line => (found line).isSome) (ls.filterMap found) := by
  induction ls with
  | nil => exact .nil
  | cons line ls ih =>
    obtain ⟨hline, hrest⟩ := List.forall_mem_cons.mp h
    cases hfound : found line with
    | none =>
      rw [List.filterMap_cons_none hfound, List.filter_cons_of_neg (by simp [hfound])]
      exact ih hrest
    | some d =>
      rw [List.filterMap_cons_some hfound, List.filter_cons_of_pos (by simp [hfound])]
      refine .cons ?_ (ih hrest)
      rw [diagnostics_of_unbroken hline, hfound]
      rfl

/-! ## outputs one behind the other -/

/-- An output is always read.  Joined by a line feed, two outputs have the errors of the first and
then those of the second, whatever line boundaries meet there; and the errors of an output are those
of some of its lines, in order, with one error on each of them and none on the others. -/
theorem diagnostics_append_feed (a b : Text) :
    ∃ ds es, diagnostics a = .ok ds ∧ diagnostics b = .ok es ∧
      diagnostics (a ++ "\n" ++ b) = .ok (ds ++ es) ∧
      ∃ reporting, reporting.Sublist (lines a) ∧
        List.Forall₂ (fun line d => diagnostics line = .ok [d]) reporting ds ∧
        ∀ line ∈ lines a, line ∉ reporting → diagnostics line = .ok [] := by
  obtain ⟨between, hbetween, hlines⟩ := Text.lines_append_feed a b
  have hnone : between.filterMap found = [] := by
    rcases hbetween with rfl | rfl <;> rfl
  refine ⟨_, _, diagnostics_eq a, diagnostics_eq b, ?_,
    (lines a).filter fun line => (found line).isSome, List.filter_sublist, ?_, ?_⟩
  · rw [diagnostics_eq, hlines, List.filterMap_append, List.filterMap_append, hnone,
      List.append_nil]
  · exact forall₂_reporting fun line hline => Text.unbroken_of_mem_lines hline
  · intro line hline hother
    have hfound : found line = none := by simpa [hline] using hother
    rw [diagnostics_of_unbroken (Text.unbroken_of_mem_lines hline), hfound]
    rfl

/-! ## lines as a compiler writes them -/

/-- The line on which a compiler reports a message. -/
def report (file : Text) (line column : Nat) (message : Text) : Text :=
  file ++ ":" ++ Value.intText line ++ ":" ++ Value.intText column ++ ": " ++ message

theorem isDigit_of_mem_intText {n : Nat} {l : Letter} (h : l ∈ (Value.intText n).letters) :
    ∃ c : Char, l = .char c ∧ c.isDigit = true := by
  obtain ⟨c, hc, rfl⟩ := List.mem_map.mp h
  exact ⟨c, rfl, Value.isDigit_of_mem_toDigits hc⟩

theorem unbroken_intText (n : Nat) : (Value.intText n).Unbroken := by
  intro l hl
  obtain ⟨c, rfl, hc⟩ := isDigit_of_mem_intText hl
  have hrange := Value.toNat_of_isDigit hc
  have hend : ¬ Text.isLineEnd c = true := by
    simp only [Text.isLineEnd, Bool.or_eq_true, decide_eq_true_eq, beq_iff_eq]
    omega
  exact Bool.eq_false_iff.mpr hend

/-- A message is one line when the file and what is said of it are. -/
theorem unbroken_report {file message : Text} (line column : Nat) (hfile : file.Unbroken)
    (hmessage : message.Unbroken) : (report file line column message).Unbroken := by
  have hcolon : Unbroken ":" := by decide
  have hblank : Unbroken ": " := by decide
  have hplace := ((hfile.append hcolon).append (unbroken_intText line)).append hcolon
  exact ((hplace.append (unbroken_intText column)).append hblank).append hmessage

/-- The parts of a report between its colons. -/
theorem split_report (file message : Text) (line column : Nat) :
    (report file line column message).split ':' = file.split ':' ++
      Value.intText line :: Value.intText column :: (" " ++ message : Text).split ':' := by
  have hletters : (report file line column message).letters = file.letters ++ .char ':' ::
      ((Value.intText line).letters ++ .char ':' ::
        ((Value.intText column).letters ++ .char ':' :: (" " ++ message : Text).letters)) := by
    simp only [report, Text.letters_append, List.append_assoc]
    rfl
  have hnumber (n : Nat) :
      Text.splitLetters ':' (Value.intText n).letters = [(Value.intText n).letters] := by
    refine Text.splitLetters_of_not_mem fun hcolon => ?_
    obtain ⟨c, hc, hdigit⟩ := isDigit_of_mem_intText hcolon
    exact absurd hdigit (by rw [← Letter.char.inj hc]; decide)
  unfold Text.split
  rw [hletters, Text.splitLetters_append, Text.splitLetters_append,
    Text.splitLetters_append, hnumber, hnumber, List.map_append]
  rfl

/-- The message of a report, put together from its parts. -/
theorem message_report {message : Text} (h : message.trim = message) :
    Text.trim (Text.intercalate ":" ((" " ++ message : Text).split ':')) = message := by
  have hjoined : Text.intercalate ":" ((" " ++ message : Text).split ':') = " " ++ message :=
    Text.intercalate_split ':' _
  have htrim : (" " ++ message : Text).trim = message.trim := rfl
  rw [hjoined, htrim, h]

/-- A report whose file has no colon is found as it was written. -/
theorem found_report {file message : Text} {line column : Nat} (hfile : file.has ':' = false)
    (hline : Decimal.digitCount line ≤ Value.maxDigits)
    (hcolumn : Decimal.digitCount column ≤ Value.maxDigits) (htrim : message.trim = message)
    (herror : (Text.lower message).contains "error" = true) :
    found (report file line column message) = some ⟨file, line, column, message⟩ := by
  have hposition : position (Value.intText line) (Value.intText column) = .ok (↑line, ↑column) := by
    unfold position
    rw [Value.intOfText_intText line hline, Value.intOfText_intText column hcolumn]
    rfl
  have hmessage := message_report htrim
  have hparts := split_report file message line column
  obtain ⟨first, rest, hrest⟩ : ∃ first rest, (" " ++ message : Text).split ':' = first :: rest :=
    List.exists_cons_of_ne_nil (Text.split_ne_nil ':' _)
  rw [Text.split_of_not_has hfile, hrest] at hparts
  rw [hrest] at hmessage
  exact found_eq_some_iff.mpr ⟨_, _, first, rest, hparts, hposition, hmessage, herror⟩

/-- A compiler's report is found as it was written exactly when its file has no colon.  Where the
part behind the first colon of the file spells no number, as behind the letter of a drive, nothing
is found at all. -/
theorem diagnostics_report_iff (file message : Text) (line column : Nat) (hfile : file.Unbroken)
    (hline : Decimal.digitCount line ≤ Value.maxDigits)
    (hcolumn : Decimal.digitCount column ≤ Value.maxDigits) (hmessage : message.Unbroken)
    (htrim : message.trim = message) (herror : (Text.lower message).contains "error" = true) :
    (diagnostics (report file line column message) = .ok [⟨file, line, column, message⟩] ↔
        file.has ':' = false) ∧
      ∀ drive part rest, file.split ':' = drive :: part :: rest →
        (∀ n, Value.intOfText part ≠ .ok n) →
        diagnostics (report file line column message) = .ok [] := by
  have hparts := split_report file message line column
  rw [diagnostics_of_unbroken (unbroken_report line column hfile hmessage)]
  refine ⟨⟨fun h => ?_, fun h => ?_⟩, fun drive part rest hdrive hpart => ?_⟩
  · have hfound : found (report file line column message) = some ⟨file, line, column, message⟩ := by
      simpa using h
    obtain ⟨_, _, _, _, hfirst, _⟩ := found_eq_some_iff.mp hfound
    have hhead := congrArg List.head? (hparts.symm.trans hfirst)
    rw [List.head?_append_of_ne_nil _ (Text.split_ne_nil ':' file)] at hhead
    exact Text.not_has_of_mem_split (List.mem_of_head? hhead)
  · rw [found_report h hline hcolumn htrim herror]
    rfl
  · have hfound : found (report file line column message) = none := by
      refine Option.eq_none_iff_forall_not_mem.mpr fun d hd => ?_
      obtain ⟨lineNo, _, _, _, hfirst, hposition, _⟩ := found_eq_some_iff.mp hd
      rw [hparts, hdrive] at hfirst
      obtain ⟨n, hn, _⟩ := Outcome.bind_eq_ok_iff.mp hposition
      have hlineNo : part = lineNo := (List.cons.inj (List.cons.inj hfirst).2).1
      exact hpart n (hlineNo ▸ hn)
    rw [hfound]
    rfl

/-- Colons in the message do no harm. -/
theorem diagnostics_report_sketch :
    diagnostics (report "src/пробный скетч.ino" 12 5 "Error: expected ':' before 'loop'") =
      .ok [⟨"src/пробный скетч.ino", 12, 5, "Error: expected ':' before 'loop'"⟩] :=
  (diagnostics_report_iff "src/пробный скетч.ino" "Error: expected ':' before 'loop'" 12 5
    (by decide +kernel) (by decide) (by decide) (by decide +kernel) (by decide +kernel)
    (by decide +kernel)).1.mpr (by decide +kernel)

/-- The file behind the letter of a drive is taken for the number of a line. -/
theorem diagnostics_report_drive :
    diagnostics (report "C:\\x\\y.ino" 12 5 "error: 'foo' was not declared in this scope") =
      .ok [] := by
  have hunbroken : (report "C:\\x\\y.ino" 12 5
      "error: 'foo' was not declared in this scope").Unbroken := by decide +kernel
  have hfound : found (report "C:\\x\\y.ino" 12 5
      "error: 'foo' was not declared in this scope") = none := by decide +kernel
  rw [diagnostics_of_unbroken hunbroken, hfound]
  rfl

end BlockSketch.Firmware
