import BlockSketch.Proofs.Sketch.Obstacles

/-!
# BlockSketch.Proofs.Sketch.Inheritance

The sections that blocks inherit.  A block whose definition names no section goes to the
section of its surroundings.  In a container without a place in a template that is the section
of the container.  In a container with a place it is the section that the definition of the
block around it names.  The section which that block inherited itself is not handed on: a
definition that names none leaves its children without one.

* `exists_standsIn` — every visited block but the root stands in a container of a visited block;
* `innerSection_eq_none_iff` — when there is no section around it;
* `sections_inherited` — for which blocks a section can be missing, and when one is.
-/

namespace BlockSketch.Sketch

variable {r : Registry} {b : Block} {surrounding : Option Section} {v : Visit}

/-! ## where a block stands -/

/-- The block of the visit `v` stands in the container `c` of the block of `u`, which is visited by
the definition `d`, and is visited in the section that belongs there. -/
structure Visit.StandsIn (r : Registry) (v u : Visit) (d : Definition) (c : Container) : Prop where
  definition : u.definition? r = some d
  container : c ∈ d.containers
  child : v.block ∈ Assoc.getD u.block.children c.name []
  surrounding : v.surrounding = innerSection d c

/-- A definition with a place for the container in its template, and without a section. -/
def Withholds (d : Definition) (c : Container) : Prop :=
  d.template.isSet = true ∧ c.placeholder.isSome = true ∧ d.target = none

instance (d : Definition) (c : Container) : Decidable (Withholds d c) :=
  inferInstanceAs (Decidable (_ ∧ _ ∧ _))

/-- The children of a container are without a section exactly where the definition withholds one. -/
theorem innerSection_eq_none_iff {d : Definition} {c : Container} :
    innerSection d c = none ↔ Withholds d c := by
  unfold innerSection Withholds
  split
  · next h =>
    rw [Bool.and_eq_true] at h
    simp [h.1, h.2]
  · next h =>
    rw [Bool.and_eq_true] at h
    refine iff_of_false (by simp) fun hw => h ⟨hw.1, hw.2.1⟩

/-- The visits of a tree have that of its root. -/
theorem mem_visits_self (r : Registry) (b : Block) (surrounding : Option Section) :
    ⟨b, surrounding⟩ ∈ visits r b surrounding := by
  rw [visits_eq]
  exact List.mem_cons_self

/-- What is visited in a child is visited in the block. -/
theorem mem_visits_of_child {d : Definition} {c : Container} {child : Block} {u : Visit}
    (hd : Assoc.get? r.definitions b.definition = some d) (hc : c ∈ d.containers)
    (hchild : child ∈ Assoc.getD b.children c.name [])
    (hu : u ∈ visits r child (innerSection d c)) :
    u ∈ visits r b surrounding := by
  rw [visits_eq, inside_of_some hd, within_map]
  refine List.mem_cons_of_mem _ (List.mem_flatMap.mpr ⟨c, hc, ?_⟩)
  exact List.mem_flatMap.mpr ⟨child, hchild, hu⟩

/-- Every visited block but the first one stands in a container of a visited block. -/
theorem exists_standsIn (r : Registry) (b : Block) (surrounding : Option Section) :
    ∀ v ∈ (visits r b surrounding).tail, ∃ u ∈ visits r b surrounding, ∃ d c,
      v.StandsIn r u d c := by
  induction b using children_induction generalizing surrounding with | step b ih
  have hinside : (visits r b surrounding).tail =
      inside r b.definition (Assoc.mapValues (List.map (visits r)) b.children) := by
    rw [visits_eq, List.tail_cons]
  rw [hinside]
  refine forall_mem_inside.mpr fun d hd c hc child hchild v hv => ?_
  rcases List.mem_cons.mp (visits_eq r child _ ▸ hv) with rfl | hlater
  · exact ⟨_, mem_visits_self r b surrounding, d, c, hd, hc, hchild, rfl⟩
  · have htail : v ∈ (visits r child (innerSection d c)).tail := by
      rw [visits_eq]
      exact hlater
    obtain ⟨u, hu, hstands⟩ := ih c.name child hchild _ v htail
    exact ⟨u, mem_visits_of_child hd hc hchild hu, hstands⟩

/-! ## blocks without a section -/

/-- The block has a template and no section to put it in. -/
def Visit.stranded (r : Registry) (v : Visit) : Bool :=
  (v.definition? r).any fun d => d.template.isSet && (d.target.or v.surrounding).isNone

/-- A stranded block has a template, and neither its definition nor its surroundings name a
section. -/
theorem exists_of_stranded (h : v.stranded r = true) :
    ∃ d, v.definition? r = some d ∧ d.template.isSet = true ∧ d.target = none ∧
      v.surrounding = none := by
  obtain ⟨d, hd, hboth⟩ := (Option.any_eq_true ..).mp h
  exact ⟨d, hd, by simpa using hboth⟩

def isStranded : Fault → Bool
  | .generation (.noSection _) => true
  | _ => false

theorem exists_cause_of_isStranded {fault : Fault} (h : isStranded fault = true) :
    ∃ cause, fault = .generation cause := by
  cases fault with
  | generation cause => exact ⟨cause, rfl⟩
  | _ => exact absurd h Bool.false_ne_true

/-- The fault of a block without a section, which names its definition. -/
def Visit.strandedFault (r : Registry) (v : Visit) : Fault :=
  .generation (.noSection (((v.definition? r).map Definition.id).getD default))

/-- Before its children are visited, a block is found without a section once, and only if it is
stranded. -/
theorem filter_isStranded_first (r : Registry) (v : Visit) :
    (v.first r).filter isStranded = if v.stranded r then [v.strandedFault r] else [] := by
  unfold Visit.first Visit.stranded Visit.strandedFault
  cases v.definition? r with
  | none => rfl
  | some d =>
    rw [List.filter_append, filter_needFaults fun _ => exists_cause_of_isStranded, List.nil_append,
      Option.any_some]
    split
    · rfl
    · rfl

/-- Generation that stops for want of a section stops at the first visited block without one. -/
theorem stranded_of_generate {root : Block} {name : Text}
    (h : generate r ⟨some root⟩ = .error (.generation (.noSection name))) :
    ∃ v rest d, (visits r root none).filter (Visit.stranded r) = v :: rest ∧
      v ∈ visits r root none ∧ v.definition? r = some d ∧ d.id = name ∧ d.target = none ∧
      v.surrounding = none := by
  obtain ⟨v, rest, hfirst, hfault⟩ :=
    first_of_generate (filter_isStranded_first r) (fun _ => exists_cause_of_isStranded) rfl h
  have hmem : v ∈ (visits r root none).filter (Visit.stranded r) := by
    rw [hfirst]
    exact List.mem_cons_self
  obtain ⟨hv, hstranded⟩ := List.mem_filter.mp hmem
  obtain ⟨d, hd, _, htarget, hsurrounding⟩ := exists_of_stranded hstranded
  have hid : d.id = name := by simpa [Visit.strandedFault, hd] using hfault
  exact ⟨v, rest, d, hfirst, hv, hd, hid, htarget, hsurrounding⟩

/-- A block without a section leaves the program without a sketch. -/
theorem not_generate_of_stranded {root : Block} (hv : v ∈ visits r root none)
    (hstranded : v.stranded r = true) (sketch : Sketch) : generate r ⟨some root⟩ ≠ .ok sketch := by
  intro hok
  have hvisits : programVisits r ⟨some root⟩ = visits r root none := by simp [programVisits]
  obtain ⟨_, hrenders⟩ := (generate_eq_ok_iff r ⟨some root⟩).mp ⟨sketch, hok⟩
  obtain ⟨u, hu, rfl⟩ := (mem_programVisits_iff r ⟨some root⟩ v).mp (hvisits ▸ hv)
  obtain ⟨d, hd, hplaced⟩ := hrenders u hu
  obtain ⟨d', hd', htemplate, htarget, hsurrounding⟩ := exists_of_stranded hstranded
  obtain rfl : d' = d := Option.some.inj (hd'.symm.trans hd)
  have hsome := hplaced.placed htemplate
  rw [htarget, hsurrounding] at hsome
  exact absurd hsome (by simp)

/-- Which section a block goes to that names none.  For every registry and every tree of blocks:

* a visited block other than the root stands in a container of a visited block, and there is a
  section around it unless that block's definition names none and has a place for the container;
* generation that stops for want of a section stops at the first visited block that lacks one, which
  the fault names, and that is the root or stands in such a container;
* with such a block there is no sketch;
* where the definitions of a registry that have a place for a container name a section, every block
  but the root has one, and only for the root can generation stop so. -/
theorem sections_inherited (r : Registry) (root : Block) :
    (∀ v ∈ (visits r root none).tail, ∃ u ∈ visits r root none, ∃ d c, v.StandsIn r u d c ∧
      (v.surrounding = none ↔ Withholds d c)) ∧
    (∀ name, generate r ⟨some root⟩ = .error (.generation (.noSection name)) →
      ∃ v rest, (visits r root none).filter (Visit.stranded r) = v :: rest ∧
        (∃ d ∈ v.definition? r, d.id = name) ∧
        (v = ⟨root, none⟩ ∨ ∃ u ∈ visits r root none, ∃ d c, v.StandsIn r u d c ∧ Withholds d c)) ∧
    (∀ v ∈ visits r root none, v.stranded r = true →
      ∀ sketch, generate r ⟨some root⟩ ≠ .ok sketch) ∧
    ((∀ e ∈ r.definitions, ∀ c ∈ e.2.containers, ¬ Withholds e.2 c) →
      (∀ v ∈ (visits r root none).tail, v.surrounding ≠ none) ∧
      ∀ name, generate r ⟨some root⟩ = .error (.generation (.noSection name)) →
        ∃ d ∈ Assoc.get? r.definitions root.definition, d.id = name ∧ d.target = none) := by
  have hstands : ∀ v ∈ (visits r root none).tail, ∃ u ∈ visits r root none, ∃ d c,
      v.StandsIn r u d c ∧ (v.surrounding = none ↔ Withholds d c) := by
    intro v hv
    obtain ⟨u, hu, d, c, h⟩ := exists_standsIn r root none v hv
    exact ⟨u, hu, d, c, h, by rw [h.surrounding, innerSection_eq_none_iff]⟩
  have hsplit : visits r root none = ⟨root, none⟩ :: (visits r root none).tail := by
    rw [visits_eq, List.tail_cons]
  refine ⟨hstands, fun name hname => ?_, fun v hv => not_generate_of_stranded hv, fun hnever => ?_⟩
  · obtain ⟨v, rest, d, hfirst, hv, hd, hid, _, hnone⟩ := stranded_of_generate hname
    refine ⟨v, rest, hfirst, ⟨d, hd, hid⟩, ?_⟩
    rw [hsplit] at hv
    rcases List.mem_cons.mp hv with hroot | hlater
    · exact .inl hroot
    · obtain ⟨u, hu, d, c, h, hiff⟩ := hstands v hlater
      exact .inr ⟨u, hu, d, c, h, hiff.mp hnone⟩
  · have hsome : ∀ v ∈ (visits r root none).tail, v.surrounding ≠ none := by
      intro v hv hnone
      obtain ⟨u, _, d, c, h, hiff⟩ := hstands v hv
      exact hnever _ (Assoc.mem_of_get? h.definition) c h.container (hiff.mp hnone)
    refine ⟨hsome, fun name hname => ?_⟩
    obtain ⟨v, rest, d, _, hv, hd, hid, htarget, hnone⟩ := stranded_of_generate hname
    rw [hsplit] at hv
    rcases List.mem_cons.mp hv with rfl | hlater
    · exact ⟨d, hd, hid, htarget⟩
    · exact absurd hnone (hsome v hlater)

/-- A start with a loop, a repetition that names no section and has a place for its children, and a
statement that names no section either. -/
def nameless : Registry where
  definitions := [
    ("start", { id := "start", containers := [{ name := "loop", target := .loop }] }),
    ("repeat", {
      id := "repeat"
      template := .text "for (;;) \x7b\n\x7bbody\x7d\n\x7d"
      containers := [{ name := "body", target := .loop, placeholder := some "body" }] }),
    ("say", { id := "say", template := .text "say();" })]

/-- The repetition takes the section of the loop it stands in, but the statement inside gets
none. -/
theorem stranded_statement_nameless :
    generate nameless ⟨some (.mk (some "start") "start" [] [("loop", [
      .mk (some "all") "repeat" [] [("body", [.mk (some "hello") "say" [] []])]])])⟩ =
      .error (.generation (.noSection "say")) :=
  eq_error_of_faultOf (by decide +kernel)

end BlockSketch.Sketch
