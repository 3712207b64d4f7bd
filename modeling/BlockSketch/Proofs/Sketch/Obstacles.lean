import BlockSketch.Proofs.Format.Faults
import BlockSketch.Proofs.Sketch.Script
import Mathlib.Data.List.Basic

/-!
# BlockSketch.Proofs.Sketch.Obstacles

For which programs a sketch is generated, and for which fault not.  `visits` lists
the blocks of a tree that are visited, each with the section of its surroundings,
`spots` the same with their levels of indentation, and `obstacles` the faults that
they meet, in the order of the visit.  The first obstacle ends the generation, so
that what comes behind it need not be left out of the list.

* `faults_script` — the faults of a script are the obstacles of its tree;
* `obstacles_eq_nil_iff` — there is none exactly when no visited block meets one;
* `generate_map_unit` — a program stops at its first obstacle;
* `filter_obstacles_of`, `first_of_generate` — the obstacles of one kind, and the first of them.
-/

namespace BlockSketch.Sketch

/-! ## visits -/

/-- A visit of a block, in the section of its surroundings. -/
structure Visit where
  block : Block
  surrounding : Option Section

def Visit.definition? (r : Registry) (v : Visit) : Option Definition :=
  Assoc.get? r.definitions v.block.definition

/-- The values that the marks of the block's templates stand for. -/
def Visit.context (v : Visit) (d : Definition) : Fields :=
  Sketch.context d v.block.id v.block.values

/-- The section in which the children of a container are visited.  Where the container has a place
in a template, that is the section of the definition, which may be none. -/
def innerSection (d : Definition) (c : Container) : Option Section :=
  if d.template.isSet && c.placeholder.isSome then d.target else some c.target

/-- What the children of a block with the definition `d` give, one after the other, each in its
section. -/
def within {α : Type} (d : Definition) (children : Assoc Text (List (Option Section → List α))) :
    List α :=
  d.containers.flatMap fun c =>
    (Assoc.getD children c.name []).flatMap fun child => child (innerSection d c)

/-- What the children of a visited block give; where the definition is not known, none is
visited. -/
def inside {α : Type} (r : Registry) (definition : Text)
    (children : Assoc Text (List (Option Section → List α))) : List α :=
  (Assoc.get? r.definitions definition).toList.flatMap fun d => within d children

def visits (r : Registry) : Block → Option Section → List Visit :=
  Block.fold fun b children surrounding => ⟨b, surrounding⟩ :: inside r b.definition children

/-- The visits of a program: its root is visited in no section. -/
def programVisits (r : Registry) (p : Program) : List Visit :=
  p.root.toList.flatMap fun root => visits r root none

/-- What children give, written out container by container. -/
theorem within_map {α : Type} (d : Definition) (children : Assoc Text (List Block))
    (f : Block → Option Section → List α) :
    within d (Assoc.mapValues (List.map f) children) = d.containers.flatMap fun c =>
      (Assoc.getD children c.name []).flatMap fun child => f child (innerSection d c) := by
  unfold within
  simp only [getD_children, List.flatMap_map]

theorem inside_of_some {α : Type} {r : Registry} {definition : Text} {d : Definition}
    (h : Assoc.get? r.definitions definition = some d)
    (children : Assoc Text (List (Option Section → List α))) :
    inside r definition children = within d children := by
  unfold inside
  rw [h, Option.toList_some, List.flatMap_singleton]

/-- A block is visited and then what is inside it. -/
theorem visits_eq (r : Registry) (b : Block) (surrounding : Option Section) :
    visits r b surrounding = ⟨b, surrounding⟩ ::
      inside r b.definition (Assoc.mapValues (List.map (visits r)) b.children) :=
  congrFun (Block.fold_eq _ b) surrounding

/-! ## spots -/

/-- A visit of a block, at a level of indentation. -/
structure Spot extends Visit where
  level : Nat

def innerLevel (d : Definition) (level : Nat) (c : Container) : Nat :=
  if d.template.isSet && c.placeholder.isSome then level + 1 else bodyLevel c.target

/-- What the children of a block at a level give, one after the other, each in its section and at
its level; where the definition is not known, none is visited. -/
def insideAt {α : Type} (r : Registry) (definition : Text) (level : Nat)
    (children : Assoc Text (List (Option Section → Nat → List α))) : List α :=
  (Assoc.get? r.definitions definition).toList.flatMap fun d => d.containers.flatMap fun c =>
    (Assoc.getD children c.name []).flatMap fun child =>
      child (innerSection d c) (innerLevel d level c)

/-- The visits of a tree of blocks with their levels, in order. -/
def spots (r : Registry) : Block → Option Section → Nat → List Spot :=
  Block.fold fun b children surrounding level =>
    ⟨⟨b, surrounding⟩, level⟩ :: insideAt r b.definition level children

/-- The spots of a program: its root is visited at the left margin, in no section. -/
def programSpots (r : Registry) (p : Program) : List Spot :=
  p.root.toList.flatMap fun root => spots r root none 0

theorem insideAt_map {α : Type} (r : Registry) (definition : Text) (level : Nat)
    (children : Assoc Text (List Block)) (f : Block → Option Section → Nat → List α) :
    insideAt r definition level (Assoc.mapValues (List.map f) children) =
      (Assoc.get? r.definitions definition).toList.flatMap fun d => d.containers.flatMap fun c =>
        (Assoc.getD children c.name []).flatMap fun child =>
          f child (innerSection d c) (innerLevel d level c) := by
  unfold insideAt
  simp only [getD_children, List.flatMap_map]

/-- A block is visited at its level, and then what is inside it. -/
theorem spots_eq (r : Registry) (b : Block) (surrounding : Option Section) (level : Nat) :
    spots r b surrounding level = ⟨⟨b, surrounding⟩, level⟩ ::
      insideAt r b.definition level (Assoc.mapValues (List.map (spots r)) b.children) :=
  (congrFun (congrFun (Block.fold_eq _ b) surrounding) level).trans rfl

/-- Without their levels the spots are the visits. -/
theorem map_spots (r : Registry) (b : Block) (surrounding : Option Section) (level : Nat) :
    (spots r b surrounding level).map Spot.toVisit = visits r b surrounding := by
  induction b using children_induction generalizing surrounding level with | step b ih
  rw [spots_eq, visits_eq, insideAt_map]
  unfold inside
  simp only [List.map_cons, List.map_flatMap, within_map]
  refine congrArg _ (List.flatMap_congr fun d _ => List.flatMap_congr fun c _ => ?_)
  exact List.flatMap_congr fun child hchild => ih c.name child hchild _ _

/-- A visit is a spot without its level. -/
theorem mem_programVisits_iff (r : Registry) (p : Program) (v : Visit) :
    v ∈ programVisits r p ↔ ∃ u ∈ programSpots r p, u.toVisit = v := by
  rw [← List.mem_map]
  unfold programSpots programVisits
  simp only [List.map_flatMap, map_spots]

/-- The script of a container is that of its children in turn. -/
theorem containerScript_map (r : Registry) (d : Definition) (level : Nat) (c : Container)
    (children : List Block) : containerScript d level c (children.map (script r)) =
      children.flatMap fun child => script r child (innerSection d c) (innerLevel d level c) := by
  unfold containerScript innerSection innerLevel
  rw [List.flatMap_map]
  refine List.flatMap_congr fun child _ => ?_
  split <;> rfl

/-! ## the faults of a visit -/

/-- The fault of a snippet that cannot be filled from a context. -/
def suitFaults (ctx : Fields) (text : Text) : List Fault :=
  if suits ctx text then [] else [.malformed]

/-- The faults that a block meets in what it needs. -/
def needFaults (d : Definition) (ctx : Fields) : List Fault :=
  d.includes.flatMap (fun text => faultOf (Format.render text ctx)) ++
    d.globals.flatMap (suitFaults ctx) ++
    d.functions.flatMap (fun text => faultOf (Format.render text ctx)) ++
    d.setup.flatMap (suitFaults ctx)

/-- The faults that a visited block meets before its children are visited. -/
def Visit.first (r : Registry) (v : Visit) : List Fault :=
  match v.definition? r with
  | none => [unknownFault v.block.definition]
  | some d => needFaults d (v.context d) ++
      if d.template.isSet && (d.target.or v.surrounding).isNone then [.generation (.noSection d.id)]
      else []

/-- The template of a block with its places filled, if it is to be filled and is a text. -/
def Spot.template? (r : Registry) (v : Spot) (d : Definition) : Option Text :=
  if d.template.isSet then
    d.template.asText?.map (fillMarks (fillings d v.level
      (Assoc.mapValues (List.map (rendered r)) v.block.children)))
  else none

/-- The faults that a visited block meets after its children were visited. -/
def Spot.last (r : Registry) (v : Spot) : List Fault :=
  match v.definition? r with
  | none => []
  | some d =>
    (if d.template.isSet && d.template.asText?.isNone then [.noMember] else []) ++
      (v.template? r d).toList.flatMap (suitFaults (v.context d))

/-- The faults that a tree of blocks meets, in order. -/
def obstacles (r : Registry) : Block → Option Section → Nat → List Fault :=
  Block.fold fun b children surrounding level =>
    Visit.first r ⟨b, surrounding⟩ ++ insideAt r b.definition level children ++
      Spot.last r ⟨⟨b, surrounding⟩, level⟩

/-- A block meets faults before its children do, and after. -/
theorem obstacles_eq (r : Registry) (b : Block) (surrounding : Option Section) (level : Nat) :
    obstacles r b surrounding level = Visit.first r ⟨b, surrounding⟩ ++
      insideAt r b.definition level (Assoc.mapValues (List.map (obstacles r)) b.children) ++
      Spot.last r ⟨⟨b, surrounding⟩, level⟩ :=
  (congrFun (congrFun (Block.fold_eq _ b) surrounding) level).trans rfl

/-! ## trees without an obstacle -/

section Inside

variable {α : Type} {r : Registry} {definition : Text} {children : Assoc Text (List Block)}

/-- What holds of all that is inside holds of it child by child. -/
theorem forall_mem_inside {f : Block → Option Section → List α} {p : α → Prop} :
    (∀ a ∈ inside r definition (Assoc.mapValues (List.map f) children), p a) ↔
      ∀ d, Assoc.get? r.definitions definition = some d → ∀ c ∈ d.containers,
        ∀ child ∈ Assoc.getD children c.name [], ∀ a ∈ f child (innerSection d c), p a := by
  unfold inside
  simp only [within_map, List.forall_mem_flatMap, Option.mem_toList]

/-- What holds of all that is inside at its levels holds of it child by child. -/
theorem forall_mem_insideAt {f : Block → Option Section → Nat → List α} {p : α → Prop}
    {level : Nat} :
    (∀ a ∈ insideAt r definition level (Assoc.mapValues (List.map f) children), p a) ↔
      ∀ d, Assoc.get? r.definitions definition = some d → ∀ c ∈ d.containers,
        ∀ child ∈ Assoc.getD children c.name [],
          ∀ a ∈ f child (innerSection d c) (innerLevel d level c), p a := by
  rw [insideAt_map]
  simp only [List.forall_mem_flatMap, Option.mem_toList]

end Inside

/-- A tree of blocks meets no obstacle exactly when none of the blocks visited meets one. -/
theorem obstacles_eq_nil_iff (r : Registry) (b : Block) (surrounding : Option Section)
    (level : Nat) :
    obstacles r b surrounding level = [] ↔
      ∀ v ∈ spots r b surrounding level, v.first r = [] ∧ v.last r = [] := by
  induction b using children_induction generalizing surrounding level with | step b ih
  have hinside :
      insideAt r b.definition level (Assoc.mapValues (List.map (obstacles r)) b.children) = [] ↔
        ∀ v ∈ insideAt r b.definition level (Assoc.mapValues (List.map (spots r)) b.children),
          v.first r = [] ∧ v.last r = [] := by
    rw [List.eq_nil_iff_forall_not_mem, forall_mem_insideAt, forall_mem_insideAt]
    refine forall₄_congr fun d _ c _ => forall₂_congr fun child hchild => ?_
    rw [← ih c.name child hchild, List.eq_nil_iff_forall_not_mem]
  rw [obstacles_eq, spots_eq, List.append_eq_nil_iff, List.append_eq_nil_iff, hinside,
    List.forall_mem_cons, and_right_comm]

/-! ## what the generator meets -/

theorem faults_lineOf (target : Section) (id : Option Text) (text : Text) :
    faults (lineOf target id text) = [] := by
  unfold lineOf
  split <;> rfl

/-- A snippet is a fault where it cannot be filled, and nothing else. -/
theorem faults_suitScript (ctx : Fields) (text : Text) :
    faults (suitScript ctx text) = suitFaults ctx text := by
  unfold suitScript suitFaults
  split <;> rfl

/-- The faults of what a block needs. -/
theorem faults_needsScript (d : Definition) (id : Option Text) (ctx : Fields) :
    faults (needsScript d id ctx) = needFaults d ctx := by
  have hfill (write : Text → List Event) (hwrite : ∀ text, faults (write text) = []) (text : Text) :
      faults (fillScript ctx write text) = faultOf (Format.render text ctx) := by
    unfold fillScript
    cases Format.render text ctx with
    | ok filled => exact hwrite filled
    | error fault => rfl
  have hheader := hfill (fun text => [.header (text, id)]) fun _ => rfl
  have hfunction := hfill (lineOf .functions id) (faults_lineOf .functions id)
  have hsnippet (target : Section) (level : Nat) (text : Text) :
      faults (snippetScript ctx target id level text) = suitFaults ctx text := by
    rw [snippetScript, faults_append, faults_lineOf, List.append_nil, faults_suitScript]
  unfold needsScript needFaults
  simp only [faults_append, faults_flatMap, hheader, hfunction, hsnippet]

/-- Writing the code that a block has meets no fault. -/
theorem faults_codeScript (d : Definition) (id : Option Text) (surrounding : Option Section)
    (code : Option Text) : faults (codeScript d id surrounding code) = [] := by
  unfold codeScript
  split
  · rw [faults_flatMap]
    exact List.flatMap_eq_nil_iff.mpr fun _ _ => faults_lineOf _ id _
  · rfl

/-- The faults of a template are met last. -/
theorem faults_templateScript (r : Registry) (v : Spot) {d : Definition}
    (hd : v.definition? r = some d) :
    faults (templateScript d (v.context d)
      (fillings d v.level (Assoc.mapValues (List.map (rendered r)) v.block.children))) =
        v.last r := by
  unfold templateScript Spot.last Spot.template?
  rw [hd]
  dsimp only
  cases d.template.isSet with
  | false => rfl
  | true =>
    cases d.template.asText? with
    | none => rfl
    | some template =>
      simp only [if_true, faults_suitScript, Option.map_some, Option.toList_some,
        List.flatMap_singleton]
      rfl

/-- The faults of a script are the obstacles of its tree. -/
theorem faults_script (r : Registry) (b : Block) (surrounding : Option Section) (level : Nat) :
    faults (script r b surrounding level) = obstacles r b surrounding level := by
  induction b using children_induction generalizing surrounding level with | step b ih
  rw [script_eq, obstacles_eq, insideAt_map]
  unfold blockScript
  cases hd : Assoc.get? r.definitions b.definition with
  | none =>
    unfold Visit.first Spot.last Visit.definition?
    rw [hd]
    rfl
  | some d =>
    have hfirst : Visit.first r ⟨b, surrounding⟩ = needFaults d (context d b.id b.values) ++
        faults (sectionScript d surrounding) := by
      unfold Visit.first Visit.definition? sectionScript
      rw [hd]
      dsimp only
      split <;> rfl
    have hlast := faults_templateScript r ⟨⟨b, surrounding⟩, level⟩ hd
    have hchildren : faults (d.containers.flatMap fun c => containerScript d level c
        (Assoc.getD (Assoc.mapValues (List.map (script r)) b.children) c.name [])) =
          d.containers.flatMap fun c => (Assoc.getD b.children c.name []).flatMap fun child =>
            obstacles r child (innerSection d c) (innerLevel d level c) := by
      simp only [getD_children, containerScript_map, faults_flatMap]
      exact List.flatMap_congr fun c _ => List.flatMap_congr fun child hchild =>
        ih c.name child hchild _ _
    simp only [faults_append, faults_needsScript, hchildren, faults_codeScript, List.append_nil,
      Option.toList_some, List.flatMap_singleton, hfirst, ← hlast]
    rfl

/-! ## programs -/

/-- A visited block can be rendered by its definition `d`: the headers and functions that it needs
can be filled, the values have texts where snippets and the template are filled from them, and a
template that it has is a text and has a section to go to. -/
structure Spot.Renders (r : Registry) (v : Spot) (d : Definition) : Prop where
  filled : ∀ text ∈ d.includes ++ d.functions, (Format.render text (v.context d)).isOk = true
  suited : ∀ text ∈ d.globals ++ d.setup ++ (v.template? r d).toList,
    suits (v.context d) text = true
  placed : d.template.isSet = true → (d.target.or v.surrounding).isSome = true
  readable : d.template.isSet = true → d.template.asText?.isSome = true

/-- A block can be rendered when all its texts can be filled, and its template is one and has a
section. -/
theorem Spot.renders_iff (r : Registry) (v : Spot) (d : Definition) : v.Renders r d ↔
    (∀ text ∈ d.includes ++ d.functions, (Format.render text (v.context d)).isOk = true) ∧
      (∀ text ∈ d.globals ++ d.setup ++ (v.template? r d).toList,
        suits (v.context d) text = true) ∧
      (d.template.isSet = true → (d.target.or v.surrounding).isSome = true) ∧
      (d.template.isSet = true → d.template.asText?.isSome = true) :=
  ⟨fun h => ⟨h.filled, h.suited, h.placed, h.readable⟩, fun h => ⟨h.1, h.2.1, h.2.2.1, h.2.2.2⟩⟩

instance (r : Registry) (v : Spot) (d : Definition) : Decidable (v.Renders r d) :=
  decidable_of_iff' _ (v.renders_iff r d)

/-- A snippet meets no fault exactly where it suits the context. -/
theorem suitFaults_eq_nil_iff (ctx : Fields) (text : Text) :
    suitFaults ctx text = [] ↔ suits ctx text = true := by
  unfold suitFaults
  cases suits ctx text <;> simp

/-- Where the values of its parameters have texts, a block can be filled into any snippet. -/
theorem suits_of_hasText {d : Definition} {id : Option Text} {values : Fields}
    (h : ∀ q ∈ d.parameters, (values.get q.name q.default).hasText = true) (text : Text) :
    suits (context d id values) text = true := by
  let entries := d.parameters.map fun q => (q.name, values.get q.name q.default)
  have hentries : ∀ e ∈ Assoc.ofList entries, e.2.hasText = true := fun e he => by
    rcases Assoc.mem_putAll he with hnone | hentry
    · exact absurd hnone List.not_mem_nil
    · obtain ⟨q, hq, rfl⟩ := List.mem_map.mp hentry
      exact h q hq
  have hall : (context d id values).all (fun e => e.2.hasText) = true := by
    refine List.all_eq_true.mpr fun e he => ?_
    unfold context Assoc.putNew at he
    split at he
    · exact hentries e he
    · rcases List.mem_append.mp he with hlisted | hid
      · exact hentries e hlisted
      · rw [List.mem_singleton.mp hid]
        cases id <;> rfl
  rw [suits, hall, Bool.or_true]

/-- A visit meets no fault exactly when the block has a definition that renders it. -/
theorem Spot.faultless_iff (r : Registry) (v : Spot) :
    v.first r = [] ∧ v.last r = [] ↔ ∃ d ∈ v.definition? r, v.Renders r d := by
  unfold Visit.first Spot.last needFaults
  cases v.definition? r with
  | none => simp
  | some d =>
    simp only [List.append_eq_nil_iff, List.flatMap_eq_nil_iff, faultOf_eq_nil_iff,
      suitFaults_eq_nil_iff, Option.mem_some, exists_eq_left', ite_eq_right_iff, List.cons_ne_nil,
      imp_false, Bool.and_eq_true, not_and, Option.isNone_iff_eq_none,
      ← Option.isSome_iff_ne_none, Spot.renders_iff, List.forall_mem_append]
    tauto

/-- The generation of a sketch stops at the first obstacle of the root. -/
theorem generate_map_unit (r : Registry) (root : Block) :
    (generate r ⟨some root⟩).map (fun _ => ()) = verdict (obstacles r root none 0) := by
  rw [generate_map_verdict, ← faults_script r root none 0]
  rfl

/-- A sketch is generated exactly when there is a root and all blocks visited are rendered. -/
theorem generate_eq_ok_iff (r : Registry) (p : Program) :
    (∃ sketch, generate r p = .ok sketch) ↔ p.root.isSome = true ∧
      ∀ v ∈ programSpots r p, ∃ d ∈ v.definition? r, v.Renders r d := by
  obtain ⟨root⟩ := p
  cases root with
  | none => exact ⟨nofun, fun h => nomatch h.1⟩
  | some root =>
    rw [← map_unit_eq_ok_iff, generate_map_unit, verdict_eq_ok_iff, obstacles_eq_nil_iff]
    simp only [Spot.faultless_iff, programSpots, Option.toList_some, List.flatMap_singleton,
      Option.isSome_some, true_and]

/-! ## obstacles of one kind -/

section Complaint

variable {kind : Fault → Bool}
  (hkind : ∀ fault, kind fault = true → ∃ cause, fault = .generation cause)

include hkind

/-- A snippet that does not suit is no complaint about a program. -/
theorem filter_suitFaults (ctx : Fields) (text : Text) :
    (suitFaults ctx text).filter kind = [] := by
  have hother : kind .malformed ≠ true := fun hk => by
    obtain ⟨cause, hcause⟩ := hkind .malformed hk
    cases hcause
  unfold suitFaults
  split
  · rfl
  · exact List.filter_cons_of_neg hother

/-- A text that cannot be filled is no complaint about a program. -/
theorem filter_needFaults (d : Definition) (ctx : Fields) :
    (needFaults d ctx).filter kind = [] := by
  have hfault (text : Text) : (faultOf (Format.render text ctx)).filter kind = [] := by
    have hforeign := Format.foreign_render text ctx
    cases hr : Format.render text ctx with
    | ok filled => rfl
    | error fault =>
      rw [hr] at hforeign
      have hother : kind fault ≠ true := fun hk => by
        obtain ⟨cause, rfl⟩ := hkind fault hk
        exact hforeign cause rfl
      exact List.filter_cons_of_neg hother
  have hsuit (text : Text) : (suitFaults ctx text).filter kind = [] :=
    filter_suitFaults hkind ctx text
  unfold needFaults
  simp only [List.filter_append, List.filter_flatMap, hfault, hsuit, List.append_eq_nil_iff,
    List.flatMap_eq_nil_iff, implies_true, and_self]

/-- Neither is a template that cannot be filled. -/
theorem filter_last (r : Registry) (v : Spot) : (v.last r).filter kind = [] := by
  have hother : kind .noMember ≠ true := fun hk => by
    obtain ⟨cause, hcause⟩ := hkind .noMember hk
    cases hcause
  unfold Spot.last
  cases v.definition? r with
  | none => rfl
  | some d =>
    simp only [List.filter_append, List.filter_flatMap, filter_suitFaults hkind,
      List.append_eq_nil_iff, List.flatMap_eq_nil_iff, implies_true, and_true]
    split
    · exact List.filter_cons_of_neg hother
    · rfl

end Complaint

section Kind

variable {r : Registry} {kind : Fault → Bool} {met : Visit → Bool} {faultAt : Visit → Fault}

/-- Where a block meets a complaint of a kind before its children or not at all, the obstacles of
that kind are those of the visits, in order. -/
theorem filter_obstacles_of
    (hfirst : ∀ v : Visit, (v.first r).filter kind = if met v then [faultAt v] else [])
    (hcause : ∀ fault, kind fault = true → ∃ cause, fault = .generation cause) (b : Block)
    (surrounding : Option Section) (level : Nat) :
    (obstacles r b surrounding level).filter kind =
      ((visits r b surrounding).filter met).map faultAt := by
  induction b using children_induction generalizing surrounding level with | step b ih
  have hinside :
      (insideAt r b.definition level (Assoc.mapValues (List.map (obstacles r))
        b.children)).filter kind =
        ((inside r b.definition (Assoc.mapValues (List.map (visits r)) b.children)).filter
          met).map faultAt := by
    rw [insideAt_map, inside]
    simp only [within_map, List.filter_flatMap, List.map_flatMap]
    refine List.flatMap_congr fun d _ => List.flatMap_congr fun c _ => ?_
    exact List.flatMap_congr fun child hchild => ih c.name child hchild _ _
  rw [obstacles_eq, visits_eq, List.filter_append, List.filter_append, filter_last hcause,
    hfirst, hinside, List.append_nil, List.filter_cons]
  split
  · rfl
  · rfl

/-- Generation that stops for a fault of such a kind stops at the first visit that meets one. -/
theorem first_of_generate
    (hfirst : ∀ v : Visit, (v.first r).filter kind = if met v then [faultAt v] else [])
    (hcause : ∀ fault, kind fault = true → ∃ cause, fault = .generation cause)
    {root : Block} {fault : Fault}
    (hkind : kind fault = true) (h : generate r ⟨some root⟩ = .error fault) :
    ∃ v rest, (visits r root none).filter met = v :: rest ∧ faultAt v = fault := by
  have hverdict := generate_map_unit r root
  rw [h] at hverdict
  have hfilter := filter_obstacles_of hfirst hcause root none 0
  cases hobstacles : obstacles r root none 0 with
  | nil =>
    rw [hobstacles] at hverdict
    exact nomatch hverdict
  | cons first rest =>
    rw [hobstacles] at hverdict hfilter
    obtain rfl : fault = first := Except.error.inj hverdict
    rw [List.filter_cons_of_pos hkind] at hfilter
    obtain ⟨v, vs, hmet, hfault, _⟩ := List.map_eq_cons_iff.mp hfilter.symm
    exact ⟨v, vs, hmet, hfault⟩

end Kind

end BlockSketch.Sketch
