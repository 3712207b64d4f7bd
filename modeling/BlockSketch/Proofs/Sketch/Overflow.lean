import BlockSketch.Proofs.Sketch.Walk
import BlockSketch.Proofs.Value.Number

/-!
# BlockSketch.Proofs.Sketch.Overflow

Whether the checks of a program come to an end.  The values of pins and of integers are
turned into integers, and a value for which that fails is complained of.  Only a value that
is too large is not: no complaint is made then, and the checks are broken off.

* `runAll_settles` — steps one after the other are broken off by the first that is;
* `settles_checkParameter`, `settles_checkVisit`, `settles_walk` — what breaks off a check;
* `validate_completes_iff` — which programs are checked to the end.
-/

namespace BlockSketch.Validation

open Sketch (Visit visits programVisits)

/-! ## steps that are broken off -/

/-- Whatever was found before, a step is broken off for too large a number if `Broken`, and comes to
an end if not. -/
def Settles (w : Walk) (Broken : Prop) : Prop :=
  ∀ f, Broken ∧ w f = .error .tooLarge ∨ ¬ Broken ∧ ∃ f', w f = .ok f'

/-- A step that always comes to an end settles. -/
theorem settles_of_ok {w : Walk} {Broken : Prop} (h : ¬ Broken) (hw : ∀ f, ∃ f', w f = .ok f') :
    Settles w Broken := fun f => .inr ⟨h, hw f⟩

/-- Steps one after the other are broken off when one of them is. -/
theorem runAll_settles {α : Type} {as : List α} {step : α → Walk} {Broken : α → Prop}
    (hstep : ∀ a ∈ as, Settles (step a) (Broken a)) :
    Settles (runAll (as.map step)) (∃ a ∈ as, Broken a) := by
  induction as with
  | nil => exact settles_of_ok (by simp) fun f => ⟨f, rfl⟩
  | cons a as ih =>
    obtain ⟨ha, hrest⟩ := List.forall_mem_cons.mp hstep
    intro f
    rw [List.map_cons, runAll_cons, List.exists_mem_cons_iff]
    rcases ha f with ⟨hbroken, hf⟩ | ⟨hends, g, hg⟩
    · rw [hf]
      exact .inl ⟨.inl hbroken, rfl⟩
    · rw [hg, or_iff_right hends]
      exact ih hrest g

/-! ## the values of parameters -/

/-- The text of an infinite double does not begin like an analog pin. -/
theorem startsWith_of_isInfinite {v : Value} (h : v.isInfinite = true) :
    v.shown.startsWith "A" = false := by
  cases v with
  | float x =>
    obtain ⟨_, _, negative, hx⟩ | ⟨hinf, _⟩ | ⟨hinf, _⟩ := Decimal.ofFloat_cases x
    · have hshown : (Value.float x).shown = Decimal.Layout.plain.render x := rfl
      rw [hshown, Decimal.Layout.render, hx]
      cases negative <;> decide
    · exact absurd (hinf.symm.trans h) (by simp)
    · exact absurd (hinf.symm.trans h) (by simp)
  | _ => exact absurd h (by simp [Value.isInfinite])

/-- A pin is read from its text, behind an `A` or as an integer. -/
theorem pinNumber_of_hasText {v : Value} (h : v.hasText = true) : pinNumber v =
    if v.shown.startsWith "A" then Value.intOfText (Text.substitute "A" "" v.shown) else
      v.toInt := by
  rw [pinNumber, Value.spelled, if_pos h]
  rfl

/-- A value without a text is no pin. -/
theorem pinNumber_of_not_hasText {v : Value} (h : v.hasText = false) :
    pinNumber v = .error .malformed := by
  rw [pinNumber, Value.spelled, h]
  rfl

/-- An infinite value is too large for a pin. -/
theorem pinNumber_of_isInfinite {v : Value} (h : v.isInfinite = true) :
    pinNumber v = .error .tooLarge := by
  have htext : v.hasText = true := by
    cases v with
    | float x => rfl
    | _ => exact absurd h (by simp [Value.isInfinite])
  rw [pinNumber_of_hasText htext, startsWith_of_isInfinite h, if_neg (by simp),
    Value.toInt_of_isInfinite h]

/-- A finite value is refused as an integer for its form only. -/
theorem isFormFault_of_toInt {v : Value} {fault : Fault} (hv : v.isInfinite = false)
    (h : v.toInt = .error fault) : isFormFault fault = true := by
  rcases Value.toInt_error hv h with rfl | rfl <;> rfl

/-- A finite value is refused as a pin for its form only. -/
theorem isFormFault_of_pinNumber {v : Value} {fault : Fault} (hv : v.isInfinite = false)
    (h : pinNumber v = .error fault) : isFormFault fault = true := by
  cases htext : v.hasText with
  | false =>
    rw [pinNumber_of_not_hasText htext] at h
    cases h
    rfl
  | true =>
    rw [pinNumber_of_hasText htext] at h
    split at h
    · rw [Value.intOfText_error h]
      rfl
    · exact isFormFault_of_toInt hv h

/-- The check of a pin is broken off for an infinite value, and for no other. -/
theorem settles_checkPin (board : Board) (id : Option Text) (v : Value) :
    Settles (checkPin board id v) (v.isInfinite = true) := by
  intro f
  unfold checkPin
  cases hv : v.isInfinite with
  | true =>
    rw [pinNumber_of_isInfinite hv]
    exact .inl ⟨rfl, rfl⟩
  | false =>
    refine .inr ⟨by simp, ?_⟩
    cases hpin : pinNumber v with
    | error fault =>
      dsimp only
      rw [isFormFault_of_pinNumber hv hpin, if_pos rfl]
      exact ⟨_, rfl⟩
    | ok pin =>
      dsimp only
      split <;> exact ⟨_, rfl⟩

/-- So is the check of an integer. -/
theorem settles_checkInt (name : Text) (id : Option Text) (v : Value) :
    Settles (checkInt name id v) (v.isInfinite = true) := by
  intro f
  unfold checkInt
  cases hv : v.isInfinite with
  | true =>
    rw [Value.toInt_of_isInfinite hv]
    exact .inl ⟨rfl, rfl⟩
  | false =>
    refine .inr ⟨by simp, ?_⟩
    cases hint : v.toInt with
    | error fault =>
      dsimp only
      rw [isFormFault_of_toInt hv hint, if_pos rfl]
      exact ⟨_, rfl⟩
    | ok n => exact ⟨f, rfl⟩

/-- A parameter that stands for a pin or an integer has an infinite value. -/
structure Overflows (values : Fields) (p : Parameter) : Prop where
  counts : p.type = "digital_pin" ∨ p.type = "int"
  infinite : (values.get p.name p.default).isInfinite = true

/-- So is that of a parameter which stands for either. -/
theorem settles_checkParameter (board : Board) (id : Option Text) (values : Fields)
    (p : Parameter) :
    Settles (checkParameter board id values p) (Overflows values p) := by
  have hoverflows (hcounts : p.type = "digital_pin" ∨ p.type = "int") :
      Overflows values p ↔ (values.get p.name p.default).isInfinite = true :=
    ⟨Overflows.infinite, fun h => ⟨hcounts, h⟩⟩
  -- an absent value is complained of before the type is looked at
  have hgiven (v : Value) (hv : values.get p.name p.default = v) : Settles (fun f =>
      if p.type = "digital_pin" then checkPin board id v f
      else if p.type = "int" then checkInt p.name id v f
      else .ok f) (Overflows values p) := by
    by_cases hpin : p.type = "digital_pin"
    · simp only [if_pos hpin]
      rw [hoverflows (.inl hpin), hv]
      exact settles_checkPin board id v
    · by_cases hint : p.type = "int"
      · simp only [if_neg hpin, if_pos hint]
        rw [hoverflows (.inr hint), hv]
        exact settles_checkInt p.name id v
      · simp only [if_neg hpin, if_neg hint]
        exact settles_of_ok (fun h => h.counts.elim hpin hint) fun f => ⟨f, rfl⟩
  unfold checkParameter
  cases hv : values.get p.name p.default with
  | null =>
    refine settles_of_ok (fun h => ?_) fun f => ⟨_, rfl⟩
    have hinfinite := h.infinite
    rw [hv] at hinfinite
    exact absurd hinfinite (by decide)
  | _ => exact hgiven _ hv

/-! ## visits and programs -/

/-- The check of a block is broken off when one of its parameters overflows. -/
theorem settles_checkVisit (r : Registry) (board : Board) (v : Visit) :
    Settles (checkVisit r board v)
      (∃ d ∈ v.definition? r, ∃ q ∈ d.parameters, Overflows v.block.values q) := by
  unfold checkVisit
  cases v.definition? r with
  | none => exact settles_of_ok (by simp) fun f => ⟨_, rfl⟩
  | some d =>
    have hparameters := runAll_settles fun p (_ : p ∈ d.parameters) =>
      settles_checkParameter board v.block.id v.block.values p
    simp only [Option.mem_some_iff, exists_eq_left']
    exact fun f => hparameters ((usedBy d).foldl Findings.use f)

/-- A walk is broken off by the values of the blocks visited. -/
theorem settles_walk (r : Registry) (board : Board) (b : Block) (surrounding : Option Section) :
    Settles (walk r board b) (∃ v ∈ visits r b surrounding, ∃ d ∈ v.definition? r,
      ∃ q ∈ d.parameters, Overflows v.block.values q) := by
  rw [walk_eq_runAll r board b surrounding]
  exact runAll_settles fun v _ => settles_checkVisit r board v

/-- A program whose validation comes to an end has no parameter that overflows. -/
theorem not_overflows_of_validate {r : Registry} {board : Board} {p : Program}
    {complaints : List Complaint}
    (h : validate r board p = .ok complaints) {v : Visit} (hv : v ∈ programVisits r p)
    {d : Definition}
    (hd : d ∈ v.definition? r) {q : Parameter} (hq : q ∈ d.parameters) :
    ¬ Overflows v.block.values q := by
  obtain ⟨root, hroot, hv⟩ := List.mem_flatMap.mp hv
  obtain ⟨f, hf, -⟩ := walk_of_validate h (Option.mem_toList.mp hroot)
  rcases settles_walk r board root none {} with ⟨-, hbroken⟩ | ⟨hnone, -⟩
  · exact absurd (hf.symm.trans hbroken) (by simp)
  · exact fun hoverflows => hnone ⟨v, hv, d, hd, q, hq, hoverflows⟩

/-- A program is checked to the end exactly when no visited block has an infinite double for a pin
or an integer, and nothing else than such a number breaks the checks off. -/
theorem validate_completes_iff (r : Registry) (board : Board) (p : Program) :
    ((∃ complaints, validate r board p = .ok complaints) ↔
      ∀ v ∈ programVisits r p, ∀ d ∈ v.definition? r, ∀ q ∈ d.parameters,
        ¬ Overflows v.block.values q) ∧
      ∀ fault, validate r board p = .error fault → fault = .tooLarge := by
  obtain ⟨root⟩ := p
  cases root with
  | none =>
    refine ⟨iff_of_true ⟨_, rfl⟩ ?_, fun fault h => absurd h (by simp [validate])⟩
    exact fun v hv => absurd hv List.not_mem_nil
  | some root =>
    have hwalk :=
      runAll_settles (fun v (_ : v ∈ visits r root none) => settles_checkVisit r board v) {}
    rw [← walk_eq_runAll r board root none] at hwalk
    have hvisits : programVisits r ⟨some root⟩ = visits r root none := by simp [programVisits]
    unfold validate
    rw [hvisits]
    dsimp only
    rcases hwalk with ⟨⟨v, hv, d, hd, q, hq, hoverflows⟩, hwalk⟩ | ⟨hnone, f, hwalk⟩
    · rw [hwalk]
      refine ⟨iff_of_false ?_ ?_, ?_⟩
      · rintro ⟨complaints, hok⟩
        exact absurd hok (by simp [bind, Except.bind])
      · exact fun h => h v hv d hd q hq hoverflows
      · exact fun fault hfault => (Except.error.inj hfault).symm
    · rw [hwalk]
      refine ⟨iff_of_true ⟨_, rfl⟩ ?_, fun fault hfault => ?_⟩
      · exact fun v hv d hd q hq hoverflows => hnone ⟨v, hv, d, hd, q, hq, hoverflows⟩
      · exact absurd hfault (by simp [bind, Except.bind, pure, Except.pure])

/-- A light in the loop whose pin is infinite. -/
def endlessPin : Program where
  root := some (.mk (some "start") "EV_START" [] [("loop",
    [.mk (some "lamp") "LS_LED_ON" [("pin", .float Decimal.infinity)] []])])

/-- The pin is no integer, and nothing is said about it. -/
theorem not_validate_endlessPin :
    ∃ r, Registry.ofFields Library.fallback = .ok r ∧
      validate r default endlessPin = .error .tooLarge := by
  have hok : (Registry.ofFields Library.fallback).toOption.any (fun r =>
      decide (Sketch.faultOf (validate r default endlessPin) = [.tooLarge])) = true := by
    decide +kernel
  obtain ⟨r, hr, htest⟩ := Outcome.exists_ok_of_any hok
  exact ⟨r, hr, Sketch.eq_error_of_faultOf (of_decide_eq_true htest)⟩

end BlockSketch.Validation
