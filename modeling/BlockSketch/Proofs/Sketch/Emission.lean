import BlockSketch.Proofs.Sketch.Obstacles

/-!
# BlockSketch.Proofs.Sketch.Emission

Which lines a program writes.  `entries` are the lines that a visit of a block writes, by
recursion on the tree alone: first what the block needs, then what its children write,
then the lines of its own code.  A child whose code takes a place in the code of the
block around it writes its lines all the same; such entries are called inner ones.

* `mem_script_iff` — every line of a script is written by one of the blocks visited;
* `lines_script` — the lines of a script are the entries;
* `lines_generate` — the sections of a sketch are the entries of the program, and the
  entries without the inner ones only when there are no inner ones.
-/

namespace BlockSketch.Sketch

/-! ## the lines of a block -/

/-- A line that a block writes.  It is `inner` when it is code that stands in the code of the block
around, too. -/
structure Entry where
  target : Section
  line : Line
  inner : Bool
deriving DecidableEq, Repr

/-- An entry as a line of its section. -/
def Entry.placed (e : Entry) : Section × Line := (e.target, e.line)

/-- A text as an entry; an empty text is none. -/
def entryOf (target : Section) (id : Option Text) (inner : Bool) (text : Text) : List Entry :=
  if text.isEmpty then [] else [⟨target, (text, id), inner⟩]

/-- The declarations and functions that a block needs, and its code for `setup`. -/
def needs (d : Definition) (id : Option Text) (ctx : Fields) : List Entry :=
  d.globals.flatMap (fun text => entryOf .globals id false (snippet ctx 0 text)) ++
    d.functions.flatMap (fun text =>
      match Format.render text ctx with
      | .ok text => entryOf .functions id false text
      | .error _ => []) ++
    d.setup.flatMap fun text => entryOf .setup id false (snippet ctx 1 text)

/-- What a visit of a block writes, given the section of its surroundings, its level and whether its
code takes a place in the code of the block around it. -/
abbrev Emission := Option Section → Nat → Bool → List Entry

/-- What the children of a container write.  Where the container has a place in a template, they
belong to the section and the level of that template, and their code is inner code. -/
def containerEntries (d : Definition) (level : Nat) (c : Container) (children : List Emission) :
    List Entry :=
  children.flatMap fun child =>
    if d.template.isSet && c.placeholder.isSome then child d.target (level + 1) true
    else child (some c.target) (bodyLevel c.target) false

/-- What a block writes, given its code and what its children write. -/
def blockEntries (r : Registry) (id : Option Text) (definition : Text) (values : Fields)
    (code : Rendering) (children : Assoc Text (List Emission)) : Emission :=
  fun surrounding level inner =>
    match Assoc.get? r.definitions definition with
    | none => []
    | some d =>
      needs d id (context d id values) ++
        d.containers.flatMap (fun c => containerEntries d level c
          (Assoc.getD children c.name [])) ++
        match code level, d.target.or surrounding with
        | some code, some target => (Text.lines code).flatMap (entryOf target id inner)
        | _, _ => []

def entries (r : Registry) : Block → Emission :=
  Block.fold fun b children => blockEntries r b.id b.definition b.values (rendered r b) children

/-- What a program writes: its root is visited at the left margin, in no section. -/
def programEntries (r : Registry) (p : Program) : List Entry :=
  p.root.toList.flatMap fun root => entries r root none 0 false

/-! ## what the generator writes -/

/-- A text is written to its section where it is not empty. -/
theorem lines_lineOf (target : Section) (id : Option Text) (inner : Bool) (text : Text) :
    (lineOf target id text).filterMap Event.line? =
      (entryOf target id inner text).map Entry.placed := by
  unfold entryOf lineOf
  split <;> rfl

/-- What a block needs is written in the order in which it is needed. -/
theorem lines_needsScript (d : Definition) (id : Option Text) (ctx : Fields) :
    (needsScript d id ctx).filterMap Event.line? = (needs d id ctx).map Entry.placed := by
  have hheader (text : Text) :
      (fillScript ctx (fun text => [.header (text, id)]) text).filterMap Event.line? = [] := by
    unfold fillScript
    split <;> rfl
  have hfunction (text : Text) :
      (fillScript ctx (lineOf .functions id) text).filterMap Event.line? =
      (match Format.render text ctx with
        | .ok text => entryOf .functions id false text
        | .error _ => []).map Entry.placed := by
    unfold fillScript
    cases Format.render text ctx with
    | ok filled => exact lines_lineOf .functions id false filled
    | error fault => rfl
  have hnone : d.includes.flatMap (fun _ => ([] : List (Section × Line))) = [] :=
    List.flatMap_eq_nil_iff.mpr fun _ _ => rfl
  have hsnippet (target : Section) (level : Nat) (text : Text) :
      (snippetScript ctx target id level text).filterMap Event.line? =
        (entryOf target id false (snippet ctx level text)).map Entry.placed :=
    (filterMap_snippetScript (fun _ => rfl) target id level text).trans (lines_lineOf _ _ _ _)
  unfold needsScript needs
  simp only [List.filterMap_append, List.filterMap_flatMap, List.map_append,
    List.map_flatMap, hheader, hnone, List.nil_append, hfunction, hsnippet]

/-- What a tree writes, in terms of what its children write. -/
theorem entries_eq (r : Registry) (b : Block) :
    entries r b = blockEntries r b.id b.definition b.values
    (rendered r b) (Assoc.mapValues (List.map (entries r)) b.children) := Block.fold_eq _ b

/-- The lines of a script are the entries of its tree. -/
theorem lines_script (r : Registry) (b : Block) (surrounding : Option Section) (level : Nat)
    (inner : Bool) : (script r b surrounding level).filterMap Event.line? =
      (entries r b surrounding level inner).map Entry.placed := by
  induction b using children_induction generalizing surrounding level inner with | step b ih
  rw [script_eq, entries_eq]
  unfold blockScript blockEntries
  rw [← rendered_eq]
  cases Assoc.get? r.definitions b.definition with
  | none => rfl
  | some d =>
    have hsection : (sectionScript d surrounding).filterMap Event.line? = [] :=
      filterMap_of_faults (fun _ => rfl) fun _ he => eq_fault_of_mem_sectionScript he
    have htemplate (filled : Assoc Text Text) :
        (templateScript d (context d b.id b.values) filled).filterMap Event.line? = [] :=
      filterMap_of_faults (fun _ => rfl) fun _ he => eq_fault_of_mem_templateScript he
    have hchildren : (d.containers.flatMap fun c => containerScript d level c
        (Assoc.getD (Assoc.mapValues (List.map (script r)) b.children) c.name [])).filterMap
          Event.line? =
      (d.containers.flatMap fun c => containerEntries d level c
        (Assoc.getD (Assoc.mapValues (List.map (entries r)) b.children) c.name [])).map
          Entry.placed := by
      simp only [List.filterMap_flatMap, List.map_flatMap, containerScript, containerEntries,
        getD_children, List.flatMap_map]
      refine List.flatMap_congr fun c _ => List.flatMap_congr fun child hchild => ?_
      split
      · exact ih c.name child hchild d.target (level + 1) true
      · exact ih c.name child hchild (some c.target) (bodyLevel c.target) false
    simp only [List.filterMap_append, List.map_append, lines_needsScript, hsection,
      htemplate, hchildren, List.append_nil, List.append_cancel_left_eq]
    unfold codeScript
    cases rendered r b level with
    | none => rfl
    | some code =>
      cases d.target.or surrounding with
      | none => rfl
      | some target => simp only [List.filterMap_flatMap, List.map_flatMap, lines_lineOf _ _ inner]

/-- The lines that a program writes are its entries, each in its section. -/
theorem lines_programScript (r : Registry) (p : Program) :
    (programScript r p).filterMap Event.line? = (programEntries r p).map Entry.placed := by
  obtain ⟨root⟩ := p
  cases root with
  | none => rfl
  | some root =>
    rw [programEntries, Option.toList_some, List.flatMap_singleton]
    exact lines_script r root none 0 false

/-! ## what is written at a spot -/

/-- The events of a block alone, without those of its children. -/
def Spot.events (r : Registry) (v : Spot) : List Event :=
  (v.definition? r).toList.flatMap fun d => needsScript d v.block.id (v.context d) ++
    codeScript d v.block.id v.surrounding (rendered r v.block v.level)

/-- Every line of a script is written at one of the spots of its tree. -/
theorem mem_script_iff (r : Registry) (b : Block) (surrounding : Option Section) (level : Nat)
    (target : Section) (l : Line) : Event.line target l ∈ script r b surrounding level ↔
      ∃ v ∈ spots r b surrounding level, Event.line target l ∈ v.events r := by
  induction b using children_induction generalizing surrounding level with | step b ih
  rw [script_eq, spots_eq, List.exists_mem_cons_iff, insideAt_map]
  unfold blockScript Spot.events Visit.definition?
  rw [← rendered_eq]
  cases Assoc.get? r.definitions b.definition with
  | none => simp
  | some d =>
    have hsection : Event.line target l ∉ sectionScript d surrounding := fun h => by
      obtain ⟨fault, hfault⟩ := eq_fault_of_mem_sectionScript h
      cases hfault
    have htemplate (filled : Assoc Text Text) :
        Event.line target l ∉ templateScript d (context d b.id b.values) filled := fun h => by
      obtain ⟨fault, hfault⟩ := eq_fault_of_mem_templateScript h
      cases hfault
    have hchildren : (Event.line target l ∈ d.containers.flatMap fun c => containerScript d level c
        (Assoc.getD (Assoc.mapValues (List.map (script r)) b.children) c.name [])) ↔
        ∃ v ∈ d.containers.flatMap fun c => (Assoc.getD b.children c.name []).flatMap fun child =>
          spots r child (innerSection d c) (innerLevel d level c),
            Event.line target l ∈ v.events r := by
      simp only [getD_children, containerScript_map, List.mem_flatMap]
      constructor
      · rintro ⟨c, hc, child, hchild, hl⟩
        obtain ⟨v, hv, hl⟩ := (ih c.name child hchild _ _).mp hl
        exact ⟨v, ⟨c, hc, child, hchild, hv⟩, hl⟩
      · rintro ⟨v, ⟨c, hc, child, hchild, hv⟩, hl⟩
        exact ⟨c, hc, child, hchild, (ih c.name child hchild _ _).mpr ⟨v, hv, hl⟩⟩
    simp only [List.mem_append, hsection, htemplate, hchildren, or_false, Option.toList_some,
      List.flatMap_singleton]
    exact or_right_comm

/-- The only line that comes of a text is the text itself. -/
theorem mem_lineOf_iff {target s : Section} {id : Option Text} {text : Text} {l : Line} :
    Event.line s l ∈ lineOf target id text ↔
      text.isEmpty = false ∧ target = s ∧ (text, id) = l := by
  unfold lineOf
  split
  · next h => simp [h]
  · next h => simp [h, eq_comm]

/-- The lines of a text that has to be filled go where they are written. -/
theorem section_of_mem_fillScript {ctx : Fields} {write : Text → List Event} {text : Text}
    {t s : Section} {l : Line} (hwrite : ∀ filled, ∀ s l, Event.line s l ∈ write filled → s = t)
    (h : Event.line s l ∈ fillScript ctx write text) : s = t := by
  unfold fillScript at h
  split at h
  · exact hwrite _ s l h
  · simp at h

/-- A snippet that a block needs has the line that it is filled to. -/
theorem mem_snippetScript_iff {ctx : Fields} {target s : Section} {id : Option Text} {level : Nat}
    {text : Text} {l : Line} : Event.line s l ∈ snippetScript ctx target id level text ↔
      Event.line s l ∈ lineOf target id (snippet ctx level text) := by
  unfold snippetScript
  rw [List.mem_append]
  refine or_iff_right fun h => ?_
  obtain ⟨fault, hfault⟩ := eq_fault_of_mem_suitScript h
  cases hfault

/-- What a block needs are declarations, functions and code for `setup`. -/
theorem mem_needsScript {d : Definition} {id : Option Text} {ctx : Fields} {s : Section} {l : Line}
    (h : Event.line s l ∈ needsScript d id ctx) : s = .globals ∨ s = .functions ∨
      s = .setup ∧ ∃ text ∈ d.setup, (snippet ctx 1 text).isEmpty = false := by
  unfold needsScript at h
  simp only [List.mem_append, List.mem_flatMap] at h
  rcases h with ((⟨text, -, hl⟩ | ⟨text, -, hl⟩) | ⟨text, -, hl⟩) | ⟨text, htext, hl⟩
  · -- a header is no line, so that it may be said to go anywhere
    exact .inl (section_of_mem_fillScript (fun _ _ _ hl => by simp at hl) hl)
  · exact .inl (mem_lineOf_iff.mp (mem_snippetScript_iff.mp hl)).2.1.symm
  · exact .inr (.inl (section_of_mem_fillScript
      (fun _ _ _ hl => (mem_lineOf_iff.mp hl).2.1.symm) hl))
  · obtain ⟨hfull, hsection, -⟩ := mem_lineOf_iff.mp (mem_snippetScript_iff.mp hl)
    exact .inr (.inr ⟨hsection.symm, text, htext, hfull⟩)

/-- The lines of a block's code that are not empty go to its section, its own or the one around. -/
theorem mem_codeScript_iff {d : Definition} {id : Option Text} {surrounding : Option Section}
    {code : Option Text} {s : Section} {l : Line} :
    Event.line s l ∈ codeScript d id surrounding code ↔
      d.target.or surrounding = some s ∧
        ∃ text ∈ code, l.1 ∈ Text.lines text ∧ l.1.isEmpty = false ∧ l.2 = id := by
  unfold codeScript
  split
  · next text target htarget =>
    simp only [List.mem_flatMap, mem_lineOf_iff, htarget, Option.some.injEq, Option.mem_def,
      exists_eq_left']
    constructor
    · rintro ⟨line, hline, hfull, hsection, rfl⟩
      exact ⟨hsection, hline, hfull, rfl⟩
    · rintro ⟨hsection, hline, hfull, rfl⟩
      exact ⟨l.1, hline, hfull, hsection, rfl⟩
  · next hnone =>
    refine iff_of_false List.not_mem_nil ?_
    rintro ⟨htarget, text, hcode, -⟩
    exact hnone text s hcode htarget

/-- A line of the code of a block, which goes to a section: that of its definition, or else the one
around the block. -/
def Spot.CodeLine (r : Registry) (v : Spot) (s : Section) (l : Line) : Prop :=
  ∃ d ∈ v.definition? r, d.target.or v.surrounding = some s ∧
    ∃ code ∈ rendered r v.block v.level, l.1 ∈ Text.lines code ∧ l.2 = v.block.id

/-- To the section of the headers blocks write nothing but code. -/
theorem codeLine_of_mem_script {r : Registry} {root : Block} {l : Line}
    (h : Event.line .includes l ∈ script r root none 0) :
    ∃ v ∈ programSpots r ⟨some root⟩, v.CodeLine r .includes l := by
  obtain ⟨v, hv, hl⟩ := (mem_script_iff r root none 0 .includes l).mp h
  refine ⟨v, by simpa [programSpots] using hv, ?_⟩
  obtain ⟨d, hd, hl⟩ := List.mem_flatMap.mp hl
  rcases List.mem_append.mp hl with hneed | hcode
  · rcases mem_needsScript hneed with hother | hother | ⟨hother, -⟩ <;> cases hother
  · obtain ⟨htarget, code, hcode, hline, -, hid⟩ := mem_codeScript_iff.mp hcode
    exact ⟨d, Option.mem_toList.mp hd, htarget, code, hcode, hline, hid⟩

/-! ## the sections of a sketch -/

/-- The lines of a section are the entries that go to it. -/
theorem linesIn_placed (s : Section) (es : List Entry) :
    linesIn s (es.map Entry.placed) = (es.filter fun e => e.target = s).map Entry.line := by
  unfold linesIn
  rw [List.filter_map, List.map_map]
  rfl

/-- The generator with which every program begins. -/
def fresh : Generator := Generator.addHeader {} (baseHeader, none)

/-- A sketch is assembled from the entries of its program and some headers. -/
theorem assembled_of_generate {r : Registry} {p : Program} {sketch : Sketch}
    (h : generate r p = .ok sketch) : ∃ out, sketch = (fresh.extend out).assemble.sketch ∧
      out.lines = (programEntries r p).map Entry.placed := by
  obtain ⟨root⟩ := p
  cases root with
  | none => exact nomatch h
  | some root =>
    have hfaults : faults (programScript r ⟨some root⟩) = [] := by
      rw [← verdict_eq_ok_iff, ← generate_map_verdict, h]
      rfl
    refine ⟨output (script r root none 0), ?_, ?_⟩
    · unfold generate at h
      rw [run_build, hfaults, performed_of_faults hfaults] at h
      exact (Except.ok.inj h).symm
    · exact lines_programScript r ⟨some root⟩

/-- The sections of a sketch hold the entries of its program in order; only headers come after
them. -/
theorem get_of_generate {r : Registry} {p : Program} {sketch : Sketch}
    (h : generate r p = .ok sketch) : ∃ headers, ∀ s, sketch.lines.get s =
      linesIn s ((programEntries r p).map Entry.placed) ++
        if .includes = s then headers else [] := by
  obtain ⟨out, rfl, hlines⟩ := assembled_of_generate h
  refine ⟨(fresh.extend out).headers, fun s => ?_⟩
  change ((fresh.extend out).lines.append .includes (fresh.extend out).headers).get s = _
  have hnone : fresh.lines.get s = [] := by cases s <;> rfl
  rw [get_append, get_extend, hlines, hnone, List.nil_append]

/-- Leaving the inner entries out changes a section exactly when there is one in it. -/
theorem linesIn_outer_iff (s : Section) (es : List Entry) :
    linesIn s (es.map Entry.placed) = linesIn s ((es.filter fun e => !e.inner).map Entry.placed) ↔
      ∀ e ∈ es, e.target = s → e.inner = false := by
  have hswap : (es.filter fun e => !e.inner).filter (fun e => decide (e.target = s)) =
      (es.filter fun e => e.target = s).filter fun e => !e.inner := by
    simp only [List.filter_filter, Bool.and_comm]
  have hall : (∀ e ∈ es, e.target = s → e.inner = false) ↔
      ∀ e ∈ es.filter (fun e => e.target = s), (!e.inner) = true := by
    simp [List.mem_filter]
  rw [linesIn_placed, linesIn_placed, hswap, hall]
  constructor
  · intro hsame
    have hlength := congrArg List.length hsame
    rw [List.length_map, List.length_map] at hlength
    exact List.length_filter_eq_length_iff.mp hlength.symm
  · intro houter
    rw [List.filter_eq_self.mpr houter]

/-- On every program for which a sketch is generated, the sections hold the entries of the program
in order, and headers after them.  A section holds the entries without the inner ones exactly when
no block whose code takes a place in the code around it writes a line to that section. -/
theorem lines_generate (r : Registry) (p : Program) (sketch : Sketch)
    (h : generate r p = .ok sketch) :
    ∃ headers : List Line, ∀ s,
      sketch.lines.get s = linesIn s ((programEntries r p).map Entry.placed) ++
        (if .includes = s then headers else []) ∧
      (sketch.lines.get s =
        linesIn s (((programEntries r p).filter fun e => !e.inner).map Entry.placed) ++
        (if .includes = s then headers else []) ↔
          ∀ e ∈ programEntries r p, e.target = s → e.inner = false) := by
  obtain ⟨headers, hget⟩ := get_of_generate h
  refine ⟨headers, fun s => ⟨hget s, ?_⟩⟩
  rw [hget, List.append_left_inj]
  exact linesIn_outer_iff s _

/-- A start with a loop, a condition with a place for its children, and a statement. -/
def guarded : Registry where
  definitions := [
    ("start", { id := "start", containers := [{ name := "loop", target := .loop }] }),
    ("if", {
      id := "if"
      target := some .loop
      template := .text "if (x) \x7b\n\x7bthen\x7d\n\x7d"
      containers := [{ name := "then", target := .loop, placeholder := some "then" }] }),
    ("led", { id := "led", target := some .loop, template := .text "on();" })]

def guardedStatement : Program where
  root := some (.mk (some "start") "start" [] [("loop", [
    .mk (some "if") "if" [] [("then", [.mk (some "led") "led" [] []])]])])

theorem lines_generate_guardedStatement :
    ∃ sketch, generate guarded guardedStatement = .ok sketch ∧ sketch.lines.get .loop =
      linesIn .loop ((programEntries guarded guardedStatement).map Entry.placed) := by
  have hok : (generate guarded guardedStatement).toBool = true := by decide +kernel
  cases hg : generate guarded guardedStatement with
  | error fault =>
    rw [hg] at hok
    exact nomatch hok
  | ok sketch =>
    obtain ⟨headers, hget⟩ := lines_generate guarded guardedStatement sketch hg
    exact ⟨sketch, rfl, by simpa using (hget .loop).1⟩

/-- The statement stands in the loop by itself, before the condition that is to guard it. -/
theorem unguarded_line_of_guardedStatement :
    (generate guarded guardedStatement).toOption.map (fun sketch => sketch.lines.get .loop) =
      some ([("    on();", some "led"), ("  if (x) \x7b", some "if"),
        ("          on();", some "if"),
        ("  \x7d", some "if")] : List Line) ∧
    linesIn .loop (((programEntries guarded guardedStatement).filter fun e => !e.inner).map
      Entry.placed) =
      ([("  if (x) \x7b", some "if"), ("          on();", some "if"), ("  \x7d", some "if")] :
        List Line) := by
  decide +kernel

end BlockSketch.Sketch
