import BlockSketch.Proofs.Sketch.Walk

/-!
# BlockSketch.Proofs.Sketch.Validated

What the checks of a program promise for its sketch.  The checks visit the blocks that
the generator visits, and in the same order, and complain about each one that has no
definition.  That a text cannot be filled, that a value has no text, that a template has
no section or that it is no text they do not see.

* `reports_walk` — the blocks that a walk calls unknown;
* `definition_of_validate` — in a program without complaints all visited blocks have definitions;
* `generate_of_validate` — when a program without complaints has a sketch.
-/

namespace BlockSketch.Validation

open Sketch (Visit visits programVisits programSpots)

/-! ## blocks that are called unknown -/

/-- The blocks that complaints call unknown. -/
def unknowns (complaints : List Complaint) : List (Option Text) :=
  (complaints.filter fun c => c.message = unknownMessage).map Complaint.block

/-- The visits of blocks without a definition. -/
def lacking (r : Registry) (vs : List Visit) : List Visit :=
  vs.filter fun v => (v.definition? r).isNone

/-- Among the findings that a step adds, the blocks `ids` are called unknown. -/
def Reports (f f' : Findings) (ids : List (Option Text)) : Prop :=
  unknowns f'.complaints = unknowns f.complaints ++ ids

theorem Reports.refl (f : Findings) : Reports f f [] := (List.append_nil _).symm

/-- Two steps report what the first does and then what the second does. -/
theorem Reports.trans (f g f' : Findings) (ids ids' : List (Option Text)) (h : Reports f g ids)
    (h' : Reports g f' ids') : Reports f f' (ids ++ ids') := by
  unfold Reports at *
  rw [h', h, List.append_assoc]

/-- A complaint counts when it is that of an unknown block. -/
theorem unknowns_complain (f : Findings) (message : Text) (id : Option Text) :
    unknowns (f.complain message id).complaints =
      unknowns f.complaints ++ if message = unknownMessage then [id] else [] := by
  unfold Findings.complain unknowns
  by_cases h : message = unknownMessage <;> simp [h]

/-- A text with a beginning that the complaint about unknown blocks does not have. -/
theorem ne_unknownMessage {start message : Text} (hstart : start.letters <+: message.letters)
    (h : ¬ start.letters <+: unknownMessage.letters) : message ≠ unknownMessage :=
  fun heq => h (heq ▸ hstart)

/-- The check of a parameter calls no block unknown. -/
theorem reports_checkParameter (board : Board) (id : Option Text) (values : Fields) (p : Parameter)
    (f f' : Findings) (hok : checkParameter board id values p f = .ok f') : Reports f f' [] := by
  have hopenings : ∀ start ∈ valueOpenings, ¬ start.letters <+: unknownMessage.letters := by
    decide +kernel
  obtain rfl | ⟨message, ⟨start, hstart, hmessage⟩, rfl⟩ :=
    objects_checkParameter board id values p f f' hok
  · exact .refl f'
  · have hother := ne_unknownMessage hmessage (hopenings start hstart)
    unfold Reports
    rw [unknowns_complain, if_neg hother]

/-- The check of a visited block calls it unknown when it has no definition. -/
theorem reports_checkVisit (r : Registry) (board : Board) (v : Visit) (f f' : Findings)
    (hok : checkVisit r board v f = .ok f') :
    Reports f f' (if (v.definition? r).isNone then [v.block.id] else []) := by
  unfold checkVisit at hok
  cases hd : v.definition? r with
  | none =>
    rw [hd] at hok
    cases hok
    exact (unknowns_complain f unknownMessage v.block.id).trans (by simp)
  | some d =>
    rw [hd] at hok
    have hparameters := runAll_adds Reports.refl Reports.trans
      (fun p _ => reports_checkParameter board v.block.id v.block.values p) _ f' hok
    have hnone : d.parameters.flatMap (fun _ => ([] : List (Option Text))) = [] :=
      List.flatMap_eq_nil_iff.mpr fun _ _ => rfl
    unfold Reports at hparameters
    rwa [complaints_foldl_use, hnone] at hparameters

/-- A walk calls unknown the blocks without a definition, in the order in which they are visited. -/
theorem reports_walk (r : Registry) (board : Board) (b : Block) (surrounding : Option Section)
    (f f' : Findings) (hok : walk r board b f = .ok f') :
    unknowns f'.complaints = unknowns f.complaints ++
      (lacking r (visits r b surrounding)).map fun v => v.block.id := by
  have hlacking (vs : List Visit) : (lacking r vs).map (fun v => v.block.id) =
      vs.flatMap fun v => if (v.definition? r).isNone then [v.block.id] else [] := by
    induction vs with
    | nil => rfl
    | cons v vs ih =>
      rw [List.flatMap_cons, ← ih, lacking, List.filter_cons]
      split <;> rfl
  rw [walk_eq_runAll r board b surrounding] at hok
  rw [hlacking]
  exact runAll_adds Reports.refl Reports.trans (fun v _ => reports_checkVisit r board v) f f' hok

/-! ## programs without complaints -/

/-- A program without complaints has a root, and all blocks visited have definitions. -/
theorem definition_of_validate {r : Registry} {board : Board} {p : Program}
    (h : validate r board p = .ok []) : p.root.isSome = true ∧
      ∀ v ∈ programVisits r p, ∃ d, v.definition? r = some d := by
  obtain ⟨root⟩ := p
  cases root with
  | none => exact nomatch h
  | some root =>
    obtain ⟨f, hf, hnone⟩ := walk_of_validate h rfl
    have hsilent : f.complaints = [] := (List.append_eq_nil_iff.mp hnone.symm).1
    have hreports := reports_walk r board root none {} f hf
    rw [hsilent] at hreports
    have hlacking : lacking r (visits r root none) = [] := List.map_eq_nil_iff.mp hreports.symm
    refine ⟨rfl, fun v hv => ?_⟩
    have hvisited : v ∈ visits r root none := by simpa [programVisits] using hv
    have hfound := List.filter_eq_nil_iff.mp hlacking v hvisited
    exact Option.ne_none_iff_exists'.mp (by simpa using hfound)

/-- A program without complaints has a sketch exactly when its visited blocks can be rendered by
their definitions: every block has one, but the checks look neither at the texts that have to be
filled, nor at the texts of the values, nor at the section and the kind of a template. -/
theorem generate_of_validate (r : Registry) (board : Board) (p : Program)
    (h : validate r board p = .ok []) :
    (∃ sketch, Sketch.generate r p = .ok sketch) ↔
      ∀ v ∈ programSpots r p, ∀ d ∈ v.definition? r, v.Renders r d := by
  obtain ⟨hroot, hdefined⟩ := definition_of_validate h
  rw [Sketch.generate_eq_ok_iff]
  constructor
  · rintro ⟨-, hrenders⟩ v hv d hd
    obtain ⟨d', hd', hv'⟩ := hrenders v hv
    rwa [Option.mem_unique hd hd']
  · intro hrenders
    refine ⟨hroot, fun v hv => ?_⟩
    obtain ⟨d, hd⟩ := hdefined v.toVisit ((Sketch.mem_programVisits_iff r p _).mpr ⟨v, hv, rfl⟩)
    exact ⟨d, hd, hrenders v hv d hd⟩

/-- A document with a start and with a tone, which needs code in `setup` and the function `body`. -/
def tones (body : Text) : Fields := [("blocks", .list [
  .dict [("id", .text "start"), ("name", .text "Start"), ("category", .text "events"),
    ("kind", .text "event"),
    ("containers", .list [.dict [("name", .text "loop"), ("section", .text "loop")]])],
  .dict [("id", .text "beep"), ("name", .text "Beep"), ("category", .text "sound"),
    ("kind", .text "statement"), ("section", .text "loop"), ("template", .text "beep();"),
    ("setup", .list [.text "pinMode(8, OUTPUT);"]), ("functions", .list [.text body])]])]

def beeping : Program where
  root := some (.mk (some "start") "start" [] [("loop", [.mk (some "tone") "beep" [] []])])

/-- With doubled braces the function can be filled. -/
theorem generate_of_validate_beeping :
    ∃ r, Registry.ofFields (tones "void beep() \x7b\x7b tone(8, 440); \x7d\x7d") = .ok r ∧
      validate r default beeping = .ok [] ∧ ∃ sketch, Sketch.generate r beeping = .ok sketch := by
  have hok : (Registry.ofFields (tones "void beep() \x7b\x7b tone(8, 440); \x7d\x7d")).toOption.any
      (fun r => decide ((validate r default beeping).toOption = some []) &&
        decide (∀ v ∈ programSpots r beeping, ∀ d ∈ v.definition? r, v.Renders r d)) = true := by
    decide +kernel
  obtain ⟨r, hr, htest⟩ := Outcome.exists_ok_of_any hok
  rw [Bool.and_eq_true, decide_eq_true_eq, decide_eq_true_eq] at htest
  have hvalid := Outcome.eq_ok_of_toOption htest.1
  exact ⟨r, hr, hvalid, (generate_of_validate r default beeping hvalid).mpr htest.2⟩

/-- A pause in the loop whose length has too many digits to be written. -/
example :
    let pause : Definition := {
      id := "wait", target := some .loop, template := .text "delay(\x7bms\x7d);", setup := [""]
      parameters := [{ name := "ms", type := "int" }] }
    let start : Definition := { id := "start", containers := [{ name := "loop", target := .loop }] }
    let r : Registry := { definitions := [("start", start), ("wait", pause)] }
    let length : Value := .int (Int.ofNat (10 ^ 5000))
    let p : Program :=
      ⟨some (.mk none "start" [] [("loop", [.mk none "wait" [("ms", length)] []])])⟩
    (validate r default p).toOption = some [] ∧
      Sketch.faultOf (Sketch.generate r p) = [.malformed] := by
  decide +kernel

/-- The braces of a function are taken for a mark that has no value. -/
theorem not_generate_of_validate :
    ∃ r, Registry.ofFields (tones "void beep() \x7b tone(8, 440); \x7d") = .ok r ∧
      validate r default beeping = .ok [] ∧
      Sketch.generate r beeping = .error (.missingKey " tone(8, 440); ") := by
  have hok : (Registry.ofFields (tones "void beep() \x7b tone(8, 440); \x7d")).toOption.any
      (fun r => decide ((validate r default beeping).toOption = some []) &&
        decide (Sketch.faultOf (Sketch.generate r beeping) =
          [.missingKey " tone(8, 440); "])) = true := by decide +kernel
  obtain ⟨r, hr, htest⟩ := Outcome.exists_ok_of_any hok
  rw [Bool.and_eq_true, decide_eq_true_eq, decide_eq_true_eq] at htest
  refine ⟨r, hr, Outcome.eq_ok_of_toOption htest.1, ?_⟩
  cases hg : Sketch.generate r beeping with
  | ok sketch =>
    rw [hg] at htest
    exact nomatch htest.2
  | error fault =>
    rw [hg] at htest
    rw [List.singleton_inj.mp htest.2]

end BlockSketch.Validation
