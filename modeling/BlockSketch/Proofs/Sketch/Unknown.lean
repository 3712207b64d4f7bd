import BlockSketch.Proofs.Sketch.Emission
import BlockSketch.Proofs.Sketch.Validated
import BlockSketch.Proofs.Value.Quoted

/-!
# BlockSketch.Proofs.Sketch.Unknown

Blocks without a definition, as the checks and the generator meet them.  Both go through
the visits of a program in the same order, so the checks complain about all visited
blocks that have no definition, and the generator stops at the first of them unless some
other fault comes before.

* `unknowns_of_validate` — the complaints about unknown blocks;
* `filter_first` — an unknown block is met before the children of a block or not at all;
* `unknownFault_injective` — the fault names the definition that is missing;
* `unknown_generate` — what one of the two says of the other.
-/

namespace BlockSketch.Sketch

/-! ## the generator -/

def isUnknown : Fault → Bool
  | .generation (.unknownBlock _) => true
  | _ => false

/-- The fault names the definition that is missing. -/
theorem unknownFault_injective : Function.Injective unknownFault := by
  intro name name' h
  have hquoted : Value.quoted ("Неизвестный блок '" ++ name ++ "'") =
      Value.quoted ("Неизвестный блок '" ++ name' ++ "'") := by
    simpa [unknownFault, Fault.message?] using h
  have hletters := congrArg Text.letters (Value.quoted_injective hquoted)
  simp only [Text.letters_append, List.append_left_inj, List.append_right_inj] at hletters
  exact congrArg Text.mk hletters

theorem exists_cause_of_isUnknown {fault : Fault} (h : isUnknown fault = true) :
    ∃ cause, fault = .generation cause := by
  cases fault with
  | generation cause => exact ⟨cause, rfl⟩
  | _ => exact nomatch h

/-- Before its children a visited block meets the fault of an unknown block only if it is one. -/
theorem filter_first (r : Registry) (v : Visit) : (v.first r).filter isUnknown =
    if (v.definition? r).isNone then [unknownFault v.block.definition] else [] := by
  unfold Visit.first
  cases v.definition? r with
  | none => rfl
  | some d =>
    rw [List.filter_append, filter_needFaults fun _ => exists_cause_of_isUnknown]
    split <;> rfl

/-- Generation that stops at an unknown block stops at the first visited block without a
definition. -/
theorem lacking_of_generate {r : Registry} {p : Program} {quoted : Text}
    (h : generate r p = .error (.generation (.unknownBlock quoted))) :
    ∃ v rest, Validation.lacking r (programVisits r p) = v :: rest ∧
      unknownFault v.block.definition = .generation (.unknownBlock quoted) := by
  obtain ⟨root⟩ := p
  cases root with
  | none => exact nomatch h
  | some root =>
    have hvisits : programVisits r ⟨some root⟩ = visits r root none := by simp [programVisits]
    rw [hvisits]
    exact first_of_generate (filter_first r) (fun _ => exists_cause_of_isUnknown) rfl h

end BlockSketch.Sketch

namespace BlockSketch.Validation

open Sketch (Visit visits programVisits unknownFault generate)

/-! ## the checks -/

theorem unknowns_append (cs cs' : List Complaint) :
    unknowns (cs ++ cs') = unknowns cs ++ unknowns cs' := by
  simp [unknowns]

/-- The closing complaints are about sections. -/
theorem unknowns_closing (used : List Section) : unknowns (closing used) = [] := by
  have hbody : ¬ ("В" : Text).letters <+: unknownMessage.letters := by decide +kernel
  have hsection : ¬ ("Секция" : Text).letters <+: unknownMessage.letters := by decide +kernel
  have hother : ∀ c ∈ closing used, c.message ≠ unknownMessage := by
    intro c hc
    rcases List.mem_append.mp hc with hloop | hempty
    · split at hloop
      · exact absurd hloop List.not_mem_nil
      · rw [List.mem_singleton.mp hloop]
        exact ne_unknownMessage (by decide +kernel) hbody
    · obtain ⟨s, _, rfl⟩ := List.mem_map.mp hempty
      refine ne_unknownMessage ?_ hsection
      simp only [Text.letters_append, List.append_assoc]
      exact List.IsPrefix.trans (by decide +kernel) (List.prefix_append _ _)
  unfold unknowns
  rw [List.filter_eq_nil_iff.mpr fun c hc => by simpa using hother c hc]
  rfl

/-- The checks call unknown the visited blocks without a definition, in order. -/
theorem unknowns_of_validate {r : Registry} {board : Board} {p : Program}
    {complaints : List Complaint}
    (hroot : p.root.isSome = true) (h : validate r board p = .ok complaints) :
    unknowns complaints = (lacking r (programVisits r p)).map fun v => v.block.id := by
  obtain ⟨root, hsome⟩ := Option.isSome_iff_exists.mp hroot
  obtain ⟨f, hf, rfl⟩ := walk_of_validate h hsome
  have hreports := reports_walk r board root none {} f hf
  have hvisits : programVisits r p = visits r root none := by simp [programVisits, hsome]
  rw [unknowns_append, unknowns_closing, List.append_nil, hreports, hvisits]
  rfl

def firstUnknown? (complaints : List Complaint) : Option Complaint :=
  complaints.find? fun c => c.message = unknownMessage

/-- The first unknown block complained of is the first that is unknown. -/
theorem firstUnknown?_eq_some {complaints : List Complaint} {id : Option Text}
    {ids : List (Option Text)}
    (h : unknowns complaints = id :: ids) :
    firstUnknown? complaints = some ⟨unknownMessage, id⟩ := by
  obtain ⟨c, cs, hfilter, hid, _⟩ := List.map_eq_cons_iff.mp h
  have hfound : firstUnknown? complaints = some c := by
    rw [firstUnknown?, ← List.head?_filter, hfilter, List.head?_cons]
  have hmessage : c.message = unknownMessage := by simpa using List.find?_some hfound
  rw [hfound, ← hid, ← hmessage]

/-! ## the two together -/

/-- The checks and the generator go through the same blocks in the same order.  On a program with a
root whose checks end with a list of complaints:

* the blocks called unknown are the visited ones without a definition, in order;
* a program that has a sketch has none;
* if generation stops at an unknown block, then the first complaint about an unknown block is about
  the block at which it stops, and the fault names the definition of that block and no other;
* without such a complaint, generation does not stop at an unknown block. -/
theorem unknown_generate (r : Registry) (board : Board) (p : Program) (complaints : List Complaint)
    (hroot : p.root.isSome = true) (h : validate r board p = .ok complaints) :
    unknowns complaints = (lacking r (programVisits r p)).map (fun v => v.block.id) ∧
    ((∃ sketch, generate r p = .ok sketch) → unknowns complaints = []) ∧
    (∀ quoted, generate r p = .error (.generation (.unknownBlock quoted)) →
      ∃ v rest, lacking r (programVisits r p) = v :: rest ∧
        firstUnknown? complaints = some ⟨unknownMessage, v.block.id⟩ ∧
        ∀ name, unknownFault name = .generation (.unknownBlock quoted) ↔
          name = v.block.definition) ∧
    (unknowns complaints = [] →
      ∀ quoted, generate r p ≠ .error (.generation (.unknownBlock quoted))) := by
  have hunknowns := unknowns_of_validate hroot h
  refine ⟨hunknowns, fun hsketch => ?_, fun quoted hfault => ?_, fun hnone quoted hfault => ?_⟩
  · obtain ⟨_, hrenders⟩ := (Sketch.generate_eq_ok_iff r p).mp hsketch
    have hlacking : lacking r (programVisits r p) = [] := by
      refine List.filter_eq_nil_iff.mpr fun v hv => ?_
      obtain ⟨u, hu, rfl⟩ := (Sketch.mem_programVisits_iff r p v).mp hv
      obtain ⟨d, hd, _⟩ := hrenders u hu
      simp [Option.mem_def.mp hd]
    rw [hunknowns, hlacking]
    rfl
  · obtain ⟨v, rest, hlacking, hname⟩ := Sketch.lacking_of_generate hfault
    refine ⟨v, rest, hlacking, ?_, fun name => ?_⟩
    · rw [hlacking] at hunknowns
      exact firstUnknown?_eq_some hunknowns
    · rw [← hname]
      exact Sketch.unknownFault_injective.eq_iff
  · obtain ⟨v, rest, hlacking, _⟩ := Sketch.lacking_of_generate hfault
    rw [hnone, hlacking] at hunknowns
    exact nomatch hunknowns

/-- A statement and a block without a definition under a condition, and another such block
behind. -/
def unknownStatements : Program where
  root := some (.mk (some "start") "start" [] [("loop", [
    .mk (some "if") "if" [] [("then", [.mk (some "led") "led" [] [], .mk (some "a") "fan" [] []])],
    .mk (some "b") "horn" [] []])])

theorem unknown_generate_nested :
    ∃ complaints, validate Sketch.guarded default unknownStatements = .ok complaints ∧
      generate Sketch.guarded unknownStatements = .error (unknownFault "fan") ∧
      unknowns complaints = ([some "a", some "b"] : List (Option Text)) ∧
      firstUnknown? complaints = some ⟨unknownMessage, some "a"⟩ := by
  have hok : (validate Sketch.guarded default unknownStatements).toOption.any
      (fun complaints => decide (unknowns complaints =
        ([some "a", some "b"] : List (Option Text)))) = true := by
    decide +kernel
  have hfault :
      Sketch.faultOf (generate Sketch.guarded unknownStatements) = [unknownFault "fan"] := by
    decide +kernel
  obtain ⟨complaints, hvalid, hunknowns⟩ := Outcome.exists_ok_of_any hok
  have hunknowns := of_decide_eq_true hunknowns
  have hstopped := Sketch.eq_error_of_faultOf hfault
  obtain ⟨hids, -, hfirst, -⟩ :=
    unknown_generate Sketch.guarded default unknownStatements complaints rfl hvalid
  obtain ⟨v, rest, hlacking, hfound, -⟩ := hfirst _ hstopped
  rw [hunknowns, hlacking, List.map_cons, List.cons.injEq] at hids
  exact ⟨complaints, hvalid, hstopped, hunknowns, hids.1 ▸ hfound⟩

end BlockSketch.Validation
