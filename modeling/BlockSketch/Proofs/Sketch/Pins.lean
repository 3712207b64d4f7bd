import BlockSketch.Proofs.Firmware.Upload
import BlockSketch.Proofs.Sketch.Complaints
import BlockSketch.Proofs.Sketch.Overflow
import BlockSketch.Proofs.Value.Numeral
import BlockSketch.Sketch.Generator

/-!
# BlockSketch.Proofs.Sketch.Pins

Pins that were accepted, as they stand in the sketch.  The checks ask which number the value
of a pin stands for, and they take much for a number: blanks and underscores, truth values,
doubles with a fraction, and a letter of an analog pin wherever it stands.  The sketch shows
the value as it is.  So an accepted pin is a pin of the board in the sketch only where its
value is an integer, or the numeral of one.

* `valueObjections_infix_complaints` — what is said about a value is said about the program;
* `valueObjections_pin` — which values of pins are accepted;
* `get?_context` — the value that is shown for a parameter;
* `pin_shown_iff` — the accepted pins that the sketch shows as pins of the board.
-/

namespace BlockSketch

/-! ## the value of a parameter in the sketch -/

/-- The value that is shown for a parameter; parameters of the same name must not differ in it. -/
theorem Sketch.get?_context {d : Definition} {id : Option Text} {values : Fields} {q : Parameter}
    {value : Value} (hq : q ∈ d.parameters)
    (hsame : ∀ q' ∈ d.parameters, q'.name = q.name → values.get q'.name q'.default = value) :
    Assoc.get? (context d id values) q.name = some value := by
  let entries := d.parameters.map fun q => (q.name, values.get q.name q.default)
  have hlisted : Assoc.get? (Assoc.ofList entries) q.name = some value := by
    cases hget : Assoc.get? (Assoc.ofList entries) q.name with
    | none =>
      refine absurd ?_ ((Assoc.get?_eq_none_iff _ _).mp hget)
      refine (Assoc.mem_keys_putAll [] entries q.name).mpr (.inr ?_)
      exact List.mem_map_of_mem (List.mem_map_of_mem hq)
    | some shown =>
      -- the last parameter of the name decides, and it may be another one than `q`
      rcases Assoc.mem_putAll (Assoc.mem_of_get? hget) with hnone | hentry
      · exact absurd hnone List.not_mem_nil
      · obtain ⟨q', hq', heq⟩ := List.mem_map.mp hentry
        obtain ⟨hname, rfl⟩ := Prod.mk.inj heq
        rw [hsame q' hq' hname]
  unfold context
  rw [Assoc.get?_putNew, hlisted, Option.some_or]

namespace Validation

open Sketch (Visit visits programVisits)
open Value (intText)

/-! ## accepted pins -/

/-- What is said about the value of a parameter is said about the program. -/
theorem valueObjections_infix_complaints {r : Registry} {board : Board} {p : Program}
    {complaints : List Complaint} (h : validate r board p = .ok complaints) {v : Visit}
    (hv : v ∈ programVisits r p) {d : Definition} (hd : v.definition? r = some d) {q : Parameter}
    (hq : q ∈ d.parameters) :
    valueObjections board v q <:+: complaints := by
  obtain ⟨root, hroot, hv⟩ := List.mem_flatMap.mp hv
  obtain ⟨f, hf, hcomplaints⟩ := walk_of_validate h (Option.mem_toList.mp hroot)
  have hvalue : valueObjections board v q <:+: objections r board v := by
    rw [objections, hd]
    exact List.infix_of_mem_flatten (List.mem_map_of_mem hq)
  have hvisit : objections r board v <:+: (visits r root none).flatMap (objections r board) :=
    List.infix_of_mem_flatten (List.mem_map_of_mem hv)
  have hwalk : f.complaints = (visits r root none).flatMap (objections r board) :=
    complaints_walk r board root none hf
  rw [hcomplaints, hwalk]
  exact (hvalue.trans hvisit).trans (List.prefix_append _ _).isInfix

/-- Nothing is said about a finite value exactly when it is a pin of the board. -/
theorem said_checkPin (board : Board) (id : Option Text) {value : Value}
    (hfinite : value.isInfinite = false) :
    said (checkPin board id value) = [] ↔ ∃ n ∈ board.digital, pinNumber value = .ok n := by
  unfold said checkPin
  cases hnumber : pinNumber value with
  | error fault =>
    -- for a number that is too large nothing would be said, as the check is broken off
    have hform := isFormFault_of_pinNumber hfinite hnumber
    simp [hform, Findings.complain]
  | ok n =>
    by_cases hn : n ∈ board.digital
    · simp [hn]
    · simp [hn, Findings.complain]

/-- The value of a pin is accepted when it stands for the number of a digital pin. -/
theorem valueObjections_pin {board : Board} {v : Visit} {q : Parameter}
    (hpin : q.type = "digital_pin") (hfinite : ¬ Overflows v.block.values q) :
    valueObjections board v q = [] ↔
      ∃ n ∈ board.digital, pinNumber (v.block.values.get q.name q.default) = .ok n := by
  have hvalue : (v.block.values.get q.name q.default).isInfinite = false :=
    Bool.eq_false_iff.mpr fun hinfinite => hfinite ⟨.inl hpin, hinfinite⟩
  have hpinned := said_checkPin board v.block.id hvalue
  unfold valueObjections said checkParameter
  generalize v.block.values.get q.name q.default = value at hpinned
  cases value with
  | null =>
    have hnumber : pinNumber .null = .error .wrongKind := by decide
    simp [hnumber, Findings.complain]
  | _ =>
    simp only [if_pos hpin]
    exact hpinned

/-! ## pins that are shown -/

/-- A numeral does not begin like an analog pin. -/
theorem startsWith_intText (n : Int) : (intText n).startsWith "A" = false := by
  refine Bool.eq_false_iff.mpr fun hstarts => ?_
  obtain ⟨rest, hrest⟩ := List.isPrefixOf_iff_prefix.mp hstarts
  have hmem : .char 'A' ∈ (intText n).letters := hrest ▸ List.mem_cons_self
  have hletters := Value.not_hasNumeralLetters 'A' hmem (by decide)
  exact absurd (hletters.symm.trans (Value.hasNumeralLetters_intText n)) (by simp)

/-- A value that is shown as a numeral stands for its number. -/
theorem eq_of_pinNumber {value : Value} {n m : Int} (hshown : value.shown = intText n)
    (h : pinNumber value = .ok m) : m = n := by
  have htext : value.hasText = true := by
    refine (Bool.not_eq_false _).mp fun hnone => ?_
    rw [pinNumber_of_not_hasText hnone] at h
    cases h
  rw [pinNumber_of_hasText htext, hshown, startsWith_intText, if_neg Bool.false_ne_true] at h
  rcases (Value.shown_eq_intText_iff value n).mp hshown with rfl | rfl
  · exact (Except.ok.inj h).symm
  · rw [Value.toInt, Value.intOfText_eq] at h
    split at h
    · exact absurd h (by simp)
    · exact (Except.ok.inj h).symm

/-- Let a program be checked to the end, and let a visited block have a parameter for a digital pin.
Its value is accepted exactly when it stands for the number of a digital pin of the board, and among
the accepted values the sketch shows a digital pin of the board for the integers and for the texts
that are the numeral of an integer, and for no others. -/
theorem pin_shown_iff (r : Registry) (board : Board) (p : Program) (complaints : List Complaint)
    (hvalid : validate r board p = .ok complaints) (v : Visit) (hv : v ∈ programVisits r p)
    (d : Definition) (hd : v.definition? r = some d) (q : Parameter) (hq : q ∈ d.parameters)
    (hpin : q.type = "digital_pin") (value : Value)
    (hvalue : v.block.values.get q.name q.default = value) :
    valueObjections board v q <:+: complaints ∧
      (valueObjections board v q = [] ↔ ∃ n ∈ board.digital, pinNumber value = .ok n) ∧
      (valueObjections board v q = [] →
        ((∃ n ∈ board.digital, value.shown = intText n) ↔
          ∃ n, value = .int n ∨ value = .text (intText n))) ∧
      ((∀ q' ∈ d.parameters, q'.name = q.name → v.block.values.get q'.name q'.default = value) →
        Assoc.get? (v.context d) q.name = some value) := by
  have haccepted : valueObjections board v q = [] ↔ ∃ n ∈ board.digital, pinNumber value = .ok n :=
    hvalue ▸ valueObjections_pin hpin (not_overflows_of_validate hvalid hv hd hq)
  refine ⟨valueObjections_infix_complaints hvalid hv hd hq, haccepted, fun hnone => ⟨?_, ?_⟩,
    fun hsame => Sketch.get?_context hq hsame⟩
  · rintro ⟨n, -, hshown⟩
    exact ⟨n, (Value.shown_eq_intText_iff value n).mp hshown⟩
  · rintro ⟨n, hvalue⟩
    have hshown := (Value.shown_eq_intText_iff value n).mpr hvalue
    obtain ⟨m, hm, hnumber⟩ := haccepted.mp hnone
    exact ⟨n, eq_of_pinNumber hshown hnumber ▸ hm, hshown⟩

def lampPin : Parameter := { name := "pin", type := "digital_pin" }

def pinLamp : Definition where
  id := "lamp"
  target := some .loop
  template := .text "digitalWrite(\x7bpin\x7d, HIGH);"
  setup := ["pinMode(\x7bpin\x7d, OUTPUT);"]
  parameters := [lampPin]

def pinned : Registry where
  definitions := [
    ("start", { id := "start", containers := [{ name := "loop", target := .loop }] }),
    ("lamp", pinLamp)]

def lampAt (pin : Value) : Block := .mk (some "lamp") "lamp" [("pin", pin)] []

def lit (pin : Value) : Program where
  root := some (.mk (some "start") "start" [] [("loop", [lampAt pin])])

/-- The text of a number is accepted as a pin, and shown as that pin. -/
theorem pin_shown_lit :
    validate pinned Firmware.uno (lit (.text "13")) = .ok [] ∧
      ∃ n ∈ Firmware.uno.digital, (Value.text "13").shown = intText n := by
  have hvalid : (validate pinned Firmware.uno (lit (.text "13"))).toOption = some [] := by
    decide +kernel
  have hvalid := Outcome.eq_ok_of_toOption hvalid
  have hvisit : ⟨lampAt (.text "13"), some .loop⟩ ∈ programVisits pinned (lit (.text "13")) :=
    List.mem_cons_of_mem _ List.mem_cons_self
  obtain ⟨-, haccepted, hshown, -⟩ :=
    pin_shown_iff pinned Firmware.uno (lit (.text "13")) [] hvalid _
    hvisit pinLamp rfl lampPin List.mem_cons_self rfl (.text "13") rfl
  have hnumeral : ("13" : Text) = intText 13 := by decide
  have hnumber : (pinNumber (.text "13")).toOption = some 13 := by decide +kernel
  have hnone := haccepted.mpr ⟨13, by decide, Outcome.eq_ok_of_toOption hnumber⟩
  exact ⟨hvalid, (hshown hnone).mpr ⟨13, .inr (congrArg Value.text hnumeral)⟩⟩

/-- An analog pin that the board does not have is accepted for the digital pin with its digits, and
the sketch switches the analog one. -/
theorem not_pin_shown_lit :
    Board.ofEntry Board.bundledEntry = .ok Firmware.uno ∧
      validate pinned Firmware.uno (lit (.text "A13")) = .ok [] ∧
      (∃ sketch, Sketch.generate pinned (lit (.text "A13")) = .ok sketch ∧
        sketch.lines.get .loop =
          ([("  digitalWrite(A13, HIGH);", some "lamp")] : List Sketch.Line)) ∧
      ("A13" : Text) ∉ Firmware.uno.analog ∧
      ¬ ∃ n ∈ Firmware.uno.digital, (Value.text "A13").shown = intText n := by
  have hvalid : (validate pinned Firmware.uno (lit (.text "A13"))).toOption = some [] := by
    decide +kernel
  have hline : (Sketch.generate pinned (lit (.text "A13"))).toOption.any (fun sketch =>
      sketch.lines.get .loop ==
        ([("  digitalWrite(A13, HIGH);", some "lamp")] : List Sketch.Line)) = true := by
    decide +kernel
  obtain ⟨sketch, hsketch, htest⟩ := Outcome.exists_ok_of_any hline
  exact ⟨Firmware.ofEntry_bundledEntry, Outcome.eq_ok_of_toOption hvalid,
    ⟨sketch, hsketch, beq_iff_eq.mp htest⟩, by decide +kernel, by decide +kernel⟩

end Validation

end BlockSketch
