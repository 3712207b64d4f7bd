import BlockSketch.Proofs.Sketch.Trace

/-!
# BlockSketch.Proofs.Sketch.Script

What the generator does with a tree of blocks.  `rendered` is the code of a block and
`script` are the events that a visit of it goes through, both by recursion on the tree
alone: what the block needs, then what its children do, then the lines of its own code,
with the faults of each.  A script does not end at its first fault, so that its lines,
its headers and its faults can be told apart from each other.

* `follows_action` — the generator goes through the script of a tree and yields its code;
* `run_collect`, `run_build` — the same of a program and any generator.
-/

namespace BlockSketch.Sketch

/-! ## the code of a block -/

/-- The code of a block at a level of indentation, if it has any. -/
abbrev Rendering := Nat → Option Text

/-- The text that takes the place of a container. -/
def placeText (level : Nat) (children : List Rendering) : Text :=
  containerText level ((children.filterMap fun child => child (level + 1)).filter fun text =>
    !text.isEmpty)

/-- What takes the places of a template. -/
def fillings (d : Definition) (level : Nat) (children : Assoc Text (List Rendering)) :
    Assoc Text Text :=
  d.containers.foldl (fun filled c =>
    match c.placeholder with
    | none => Assoc.put filled c.name ""
    | some place => Assoc.put filled place (placeText level (Assoc.getD children c.name []))) []

/-- The code of a block, given the code of its children. -/
def blockRendered (r : Registry) (id : Option Text) (definition : Text) (values : Fields)
    (children : Assoc Text (List Rendering)) : Rendering := fun level =>
  match Assoc.get? r.definitions definition with
  | none => none
  | some d =>
    match d.template with
    | .text template =>
      if template.isEmpty then none
      else some (snippet (context d id values) level
        (fillMarks (fillings d level children) template))
    | _ => none

def rendered (r : Registry) : Block → Rendering :=
  Block.fold fun b children => blockRendered r b.id b.definition b.values children

/-! ## the events of a block -/

/-- The events of a text that has to be filled. -/
def fillScript (ctx : Fields) (write : Text → List Event) (text : Text) : List Event :=
  match Format.render text ctx with
  | .ok filled => write filled
  | .error fault => [.fault fault]

/-- The fault of a snippet that cannot be filled. -/
def suitScript (ctx : Fields) (text : Text) : List Event :=
  if suits ctx text then [] else [.fault .malformed]

/-- The events of a snippet that a block needs in a section. -/
def snippetScript (ctx : Fields) (target : Section) (id : Option Text) (level : Nat) (text : Text) :
    List Event :=
  suitScript ctx text ++ lineOf target id (snippet ctx level text)

/-- The events of the headers, declarations and functions that a block needs, and of its code for
`setup`. -/
def needsScript (d : Definition) (id : Option Text) (ctx : Fields) : List Event :=
  d.includes.flatMap (fillScript ctx fun text => [.header (text, id)]) ++
    d.globals.flatMap (snippetScript ctx .globals id 0) ++
    d.functions.flatMap (fillScript ctx (lineOf .functions id)) ++
    d.setup.flatMap (snippetScript ctx .setup id 1)

/-- The fault of a template without a section. -/
def sectionScript (d : Definition) (surrounding : Option Section) : List Event :=
  if d.template.isSet && (d.target.or surrounding).isNone then
    [.fault (.generation (.noSection d.id))]
  else []

/-- The fault of a template that is no text, or that cannot be filled once its places are. -/
def templateScript (d : Definition) (ctx : Fields) (filled : Assoc Text Text) : List Event :=
  if d.template.isSet then
    match d.template.asText? with
    | some template => suitScript ctx (fillMarks filled template)
    | none => [.fault .noMember]
  else []

def unknownFault (definition : Text) : Fault :=
  .generation (.unknownBlock (Value.quoted ((Fault.unknownBlock definition).message?.getD "")))

/-- The events of a visit, given the section of the surroundings and the level. -/
abbrev Script := Option Section → Nat → List Event

/-- The events of the children of a container.  Where the container has a place in a template, they
belong to the section and the level of that template. -/
def containerScript (d : Definition) (level : Nat) (c : Container) (children : List Script) :
    List Event :=
  children.flatMap fun child =>
    if d.template.isSet && c.placeholder.isSome then child d.target (level + 1)
    else child (some c.target) (bodyLevel c.target)

/-- The events of the lines of a block's code. -/
def codeScript (d : Definition) (id : Option Text) (surrounding : Option Section)
    (code : Option Text) :
    List Event :=
  match code, d.target.or surrounding with
  | some code, some target => (Text.lines code).flatMap (lineOf target id)
  | _, _ => []

/-- The events of a block, given the code and the events of its children. -/
def blockScript (r : Registry) (id : Option Text) (definition : Text) (values : Fields)
    (texts : Assoc Text (List Rendering)) (children : Assoc Text (List Script)) : Script :=
  fun surrounding level =>
  match Assoc.get? r.definitions definition with
  | none => [.fault (unknownFault definition)]
  | some d =>
    needsScript d id (context d id values) ++ sectionScript d surrounding ++
      d.containers.flatMap (fun c => containerScript d level c (Assoc.getD children c.name [])) ++
      templateScript d (context d id values) (fillings d level texts) ++
      codeScript d id surrounding (blockRendered r id definition values texts level)

def script (r : Registry) : Block → Script :=
  Block.fold fun b children => blockScript r b.id b.definition b.values
    (Assoc.mapValues (List.map (rendered r)) b.children) children

/-- The events of a program: its root is visited at the left margin, in no section. -/
def programScript (r : Registry) (p : Program) : List Event :=
  match p.root with
  | none => [.fault (.generation .noRoot)]
  | some root => .header (baseHeader, none) :: script r root none 0

/-- The code of a tree, in terms of that of its children. -/
theorem rendered_eq (r : Registry) (b : Block) :
    rendered r b = blockRendered r b.id b.definition b.values
    (Assoc.mapValues (List.map (rendered r)) b.children) := Block.fold_eq _ b

/-- The script of a tree, in terms of that of its children. -/
theorem script_eq (r : Registry) (b : Block) : script r b = blockScript r b.id b.definition b.values
    (Assoc.mapValues (List.map (rendered r)) b.children)
    (Assoc.mapValues (List.map (script r)) b.children) := Block.fold_eq _ b

/-! ## events that are faults -/

section Faults

variable {d : Definition} {ctx : Fields} {e : Event}

/-- Nothing but a fault can come of finding out whether a snippet suits. -/
theorem eq_fault_of_mem_suitScript {text : Text} (h : e ∈ suitScript ctx text) :
    ∃ fault, e = .fault fault := by
  unfold suitScript at h
  split at h
  · exact absurd h List.not_mem_nil
  · exact ⟨_, List.mem_singleton.mp h⟩

theorem eq_fault_of_mem_sectionScript {surrounding : Option Section}
    (h : e ∈ sectionScript d surrounding) : ∃ fault, e = .fault fault := by
  unfold sectionScript at h
  split at h
  · exact ⟨_, List.mem_singleton.mp h⟩
  · exact absurd h List.not_mem_nil

theorem eq_fault_of_mem_templateScript {filled : Assoc Text Text}
    (h : e ∈ templateScript d ctx filled) : ∃ fault, e = .fault fault := by
  unfold templateScript at h
  split at h
  · split at h
    · exact eq_fault_of_mem_suitScript h
    · exact ⟨_, List.mem_singleton.mp h⟩
  · exact absurd h List.not_mem_nil

/-- Faults are neither lines nor headers. -/
theorem filterMap_of_faults {α : Type} {f : Event → Option α}
    (hf : ∀ fault, f (.fault fault) = none)
    {es : List Event} (h : ∀ e ∈ es, ∃ fault, e = .fault fault) : es.filterMap f = [] := by
  refine List.filterMap_eq_nil_iff.mpr fun e he => ?_
  obtain ⟨fault, rfl⟩ := h e he
  exact hf fault

/-- What comes of a snippet, faults apart, is its line. -/
theorem filterMap_snippetScript {α : Type} {f : Event → Option α}
    (hf : ∀ fault, f (.fault fault) = none) (target : Section) (id : Option Text) (level : Nat)
    (text : Text) : (snippetScript ctx target id level text).filterMap f =
      (lineOf target id (snippet ctx level text)).filterMap f := by
  rw [snippetScript, List.filterMap_append,
    filterMap_of_faults hf fun _ he => eq_fault_of_mem_suitScript he, List.nil_append]

end Faults

/-! ## the code of a block, once its definition is known -/

section Code

variable {r : Registry} {definition : Text} {d : Definition}
  (hd : Assoc.get? r.definitions definition = some d)

include hd

/-- A block without a template has no code. -/
theorem blockRendered_of_unset (hset : d.template.isSet = false) (id : Option Text)
    (values : Fields) (children : Assoc Text (List Rendering)) (level : Nat) :
    blockRendered r id definition values children level = none := by
  unfold blockRendered
  rw [hd]
  dsimp only
  split
  · next template htemplate =>
    have hempty : template.isEmpty = true := by simpa [htemplate, Value.isSet] using hset
    rw [if_pos hempty]
  · rfl

/-- The code of a block is its template with the places filled and then the values, indented. -/
theorem blockRendered_of_text {template : Text} (htemplate : d.template = .text template)
    (hfull : template.isEmpty = false) (id : Option Text) (values : Fields)
    (children : Assoc Text (List Rendering)) (level : Nat) :
    blockRendered r id definition values children level =
      some (snippet (context d id values) level
        (fillMarks (fillings d level children) template)) := by
  unfold blockRendered
  rw [hd]
  simp [htemplate, hfull]

end Code

/-! ## the generator -/

/-- What a block needs is added as the script says. -/
theorem follows_addNeeds (d : Definition) (id : Option Text) (ctx : Fields) :
    Follows (addNeeds d id ctx) (needsScript d id ctx) fun _ => True := by
  have hfill {write : Text → Step PUnit} {es : Text → List Event}
      (hwrite : ∀ text, Follows (write text) (es text) fun _ => True) (texts : List Text) :
      Follows (forIn texts PUnit.unit fun text _ => do
        let filled ← liftM (Format.render text ctx)
        write filled
        pure (ForInStep.yield PUnit.unit)) (texts.flatMap (fillScript ctx es)) fun _ => True := by
    refine follows_forIn texts fun text _ => ?_
    unfold fillScript
    cases Format.render text ctx with
    | error fault => exact follows_throw fault []
    | ok filled => exact (hwrite filled).bind_pure fun _ _ => rfl
  have hsnippet (target : Section) (level : Nat) (texts : List Text) :
      Follows (forIn texts PUnit.unit fun text _ => do
        let filled ← liftM (fill ctx level text)
        addLine target (filled, id)
        pure (ForInStep.yield PUnit.unit)) (texts.flatMap (snippetScript ctx target id level))
          fun _ => True := by
    refine follows_forIn texts fun text _ => ?_
    unfold fill snippetScript suitScript
    cases suits ctx text with
    | false => exact follows_throw _ _
    | true => exact (follows_addLine target id (snippet ctx level text)).bind_pure fun _ _ => rfl
  unfold addNeeds needsScript
  simp only [List.append_assoc]
  refine (hfill (fun text => follows_addHeader (text, id)) d.includes).bind fun _ _ => ?_
  refine (hsnippet .globals 0 d.globals).bind fun _ _ => ?_
  refine (hfill (follows_addLine .functions id) d.functions).bind fun _ _ => ?_
  exact (hsnippet .setup 1 d.setup).bind_pure fun _ _ => trivial

section Children

variable {r : Registry} {children : List Block}

/-- The action of a block goes through its script and yields its code. -/
def Acts (r : Registry) (b : Block) : Prop :=
  ∀ surrounding level, Follows (action r b surrounding level) (script r b surrounding level)
    fun code => code = rendered r b level

/-- A container without a place runs its children in its own section. -/
theorem follows_runContainer (c : Container) (h : ∀ child ∈ children, Acts r child) :
    Follows (runContainer c (children.map (action r)))
      (children.flatMap fun child => script r child (some c.target) (bodyLevel c.target))
      fun _ => True := by
  have hbody : ∀ child ∈ children, Follows (do
      let _ ← action r child (some c.target) (bodyLevel c.target)
      pure (ForInStep.yield PUnit.unit)) (script r child (some c.target) (bodyLevel c.target))
        fun s => s = ForInStep.yield PUnit.unit :=
    fun child hchild => (h child hchild (some c.target) (bodyLevel c.target)).bind_pure
      fun _ _ => rfl
  unfold runContainer
  rw [List.forIn_map]
  exact (follows_forIn children hbody).bind_pure fun _ _ => trivial

/-- A container with a place collects the code of its children, leaving out what is empty. -/
theorem follows_childTexts (target : Option Section) (level : Nat)
    (h : ∀ child ∈ children, Acts r child) :
    Follows (childTexts target level (children.map (action r)))
      (children.flatMap fun child => script r child target (level + 1)) fun texts =>
        texts = (children.filterMap fun child => rendered r child (level + 1)).filter
          fun text => !text.isEmpty := by
  unfold childTexts
  rw [List.mapM_map]
  refine (follows_mapM children fun child hchild => h child hchild target (level + 1)).bind_pure ?_
  rintro _ rfl
  rw [List.filterMap_map]
  rfl

end Children

section Blocks

variable {r : Registry} {children : Assoc Text (List Block)}

theorem getD_children {α : Type} (f : Block → α) (name : Text) :
    Assoc.getD (Assoc.mapValues (List.map f) children) name [] =
      (Assoc.getD children name []).map f := Assoc.getD_mapValues (List.map f) children name []

/-- All containers are run in turn, and those with a place give the texts for it. -/
theorem follows_places (d : Definition) (level : Nat) (hset : d.template.isSet = true)
    (h : ∀ name, ∀ child ∈ Assoc.getD children name [], Acts r child) :
    Follows (places d level (Assoc.mapValues (List.map (action r)) children))
      (d.containers.flatMap fun c => containerScript d level c
        (Assoc.getD (Assoc.mapValues (List.map (script r)) children) c.name [])) fun filled =>
          filled = fillings d level (Assoc.mapValues (List.map (rendered r)) children) := by
  unfold places fillings
  simp only [getD_children]
  refine follows_foldlM d.containers [] fun filled c _ => ?_
  unfold containerScript placeText
  rw [List.flatMap_map, hset]
  cases c.placeholder with
  | none => exact (follows_runContainer c (h c.name)).bind_pure fun _ _ => rfl
  | some place =>
    refine (follows_childTexts d.target level (h c.name)).bind_pure ?_
    rintro _ rfl
    rw [List.filterMap_map]
    rfl

/-- A template that is filled is a text that can be filled. -/
theorem follows_renderTemplate (d : Definition) (level : Nat) (ctx : Fields)
    (hset : d.template.isSet = true)
    (h : ∀ name, ∀ child ∈ Assoc.getD children name [], Acts r child) :
    Follows (renderTemplate d level ctx (Assoc.mapValues (List.map (action r)) children))
      (d.containers.flatMap (fun c => containerScript d level c
        (Assoc.getD (Assoc.mapValues (List.map (script r)) children) c.name [])) ++
        templateScript d ctx (fillings d level (Assoc.mapValues (List.map (rendered r)) children)))
      fun code => ∃ template, d.template = .text template ∧ template.isEmpty = false ∧
        code = snippet ctx level
          (fillMarks (fillings d level (Assoc.mapValues (List.map (rendered r)) children))
            template) := by
  refine (follows_places d level hset h).bind ?_
  rintro _ rfl
  unfold templateScript
  rw [hset]
  cases htemplate : d.template with
  | text template =>
    rw [htemplate] at hset
    unfold fill suitScript Value.asText?
    dsimp only
    cases suits ctx _ with
    | false => exact follows_throw _ []
    | true => exact follows_pure ⟨template, rfl, by simpa [Value.isSet] using hset, rfl⟩
  | _ => exact follows_throw _ []

/-- The children of a block without a template are visited container by container. -/
theorem follows_containers (d : Definition) (level : Nat) (hset : d.template.isSet = false)
    (h : ∀ name, ∀ child ∈ Assoc.getD children name [], Acts r child) :
    Follows (forIn d.containers PUnit.unit fun c _ => do
      runContainer c (Assoc.getD (Assoc.mapValues (List.map (action r)) children) c.name [])
      pure (ForInStep.yield PUnit.unit))
      (d.containers.flatMap fun c => containerScript d level c
        (Assoc.getD (Assoc.mapValues (List.map (script r)) children) c.name [])) fun _ => True := by
  refine follows_forIn d.containers fun c _ => ?_
  unfold containerScript
  rw [getD_children, getD_children, List.flatMap_map, hset]
  exact (follows_runContainer c (h c.name)).bind_pure fun _ _ => rfl

/-- A block whose children follow their scripts follows its own. -/
theorem follows_blockAction (id : Option Text) (definition : Text) (values : Fields)
    (h : ∀ name, ∀ child ∈ Assoc.getD children name [], Acts r child)
    (surrounding : Option Section) (level : Nat) :
    let texts := Assoc.mapValues (List.map (rendered r)) children
    Follows (blockAction r id definition values (Assoc.mapValues (List.map (action r)) children)
        surrounding level)
      (blockScript r id definition values texts (Assoc.mapValues (List.map (script r)) children)
        surrounding level)
      fun result => result = blockRendered r id definition values texts level := by
  intro texts
  unfold blockAction findDefinition blockScript
  cases hd : Assoc.get? r.definitions definition with
  | none => exact (follows_throw (P := fun _ => False) _ []).bind nofun
  | some d =>
    simp only [pure_bind, List.append_assoc]
    refine (follows_addNeeds d id (context d id values)).bind fun _ _ => ?_
    cases hset : d.template.isSet with
    | false =>
      have hcode := blockRendered_of_unset hd hset id values texts level
      simp only [sectionScript, templateScript, codeScript, hset, hcode, Bool.false_and,
        Bool.false_eq_true, if_false, List.nil_append, List.append_nil]
      exact (follows_containers d level hset h).bind_pure fun _ _ => rfl
    | true =>
      rw [sectionScript, hset]
      cases htarget : d.target.or surrounding with
      | none => exact follows_throw _ _
      | some target =>
        rw [← List.append_assoc (List.flatMap _ _)]
        refine (follows_renderTemplate d level (context d id values) hset h).bind ?_
        rintro text ⟨template, htemplate, hfull, htext⟩
        have hcode : blockRendered r id definition values texts level = some text :=
          (blockRendered_of_text hd htemplate hfull id values _ level).trans
            (congrArg some htext.symm)
        simp only [codeScript, hcode, htarget]
        exact (follows_addLines target id (fun line => line) (Text.lines text)).bind_pure
          fun _ _ => rfl

end Blocks

/-- What holds of a block when it holds of the children in each of its containers holds of every
block. -/
theorem children_induction {P : Block → Prop}
    (step : ∀ b, (∀ name, ∀ child ∈ Assoc.getD b.children name [], P child) → P b) (b : Block) :
    P b := by
  induction b using Block.directChildren_induction with | step b ih
  refine step b fun name child hchild => ih child ?_
  cases hg : Assoc.get? b.children name with
  | none => simp [Assoc.getD, hg] at hchild
  | some bs =>
    have hmem : child ∈ bs := by simpa [Assoc.getD, hg] using hchild
    exact List.mem_flatMap.mpr ⟨(name, bs), Assoc.mem_of_get? hg, hmem⟩

/-- Whatever a generator has collected, a tree of blocks goes through its script and yields its
code. -/
theorem follows_action (r : Registry) (b : Block) : Acts r b := by
  induction b using children_induction with | step b ih
  intro surrounding level
  have haction : action r b = blockAction r b.id b.definition b.values
      (Assoc.mapValues (List.map (action r)) b.children) := Block.fold_eq _ b
  rw [haction, script_eq, rendered_eq]
  exact follows_blockAction b.id b.definition b.values ih surrounding level

/-! ## programs -/

/-- Whatever a generator has collected, it adds what a program performs. -/
theorem run_collect (r : Registry) (p : Program) (g : Generator) :
    (collect r p).run.run g =
      (verdict (faults (programScript r p)),
        g.extend (output (performed (programScript r p)))) := by
  obtain ⟨root⟩ := p
  cases root with
  | none => rfl
  | some root =>
    obtain ⟨o, hemits, hverdict, -⟩ := follows_action r root none 0
    change (ExceptT.bindCont (fun _ => (pure () : Step Unit))
      ((action r root none 0).run (g.addHeader (baseHeader, none))).1).run
      ((action r root none 0).run (g.addHeader (baseHeader, none))).2 =
        (verdict (faults (script r root none 0)), _)
    rw [hemits, ← hverdict]
    cases o <;> rfl

/-- A build collects what its program performs; without a fault the rows are assembled then, and
otherwise all stays as it is at the fault. -/
theorem run_build (r : Registry) (p : Program) (g : Generator) :
    let g' := g.extend (output (performed (programScript r p)))
    (build r p).run.run g = match verdict (faults (programScript r p)) with
      | .ok _ => (.ok g'.assemble.sketch, g'.assemble)
      | .error fault => (.error fault, g') := by
  intro g'
  let rest : Step Sketch := do
    modify Generator.assemble
    return (← get).sketch
  change (ExceptT.bindCont (fun _ => rest) ((collect r p).run.run g).1).run
    ((collect r p).run.run g).2 = _
  rw [run_collect]
  cases verdict (faults (programScript r p)) <;> rfl

/-- The outcome of a program is that of the first fault in its script. -/
theorem generate_map_verdict (r : Registry) (p : Program) :
    (generate r p).map (fun _ => ()) = verdict (faults (programScript r p)) := by
  unfold generate
  rw [run_build]
  cases verdict (faults (programScript r p)) <;> rfl

end BlockSketch.Sketch
