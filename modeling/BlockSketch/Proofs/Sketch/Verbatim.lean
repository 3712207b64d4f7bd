import BlockSketch.Proofs.Sketch.Brackets
import BlockSketch.Proofs.Sketch.Inheritance
import BlockSketch.Proofs.Text.Marks
import Mathlib.Data.List.Basic

/-!
# BlockSketch.Proofs.Sketch.Verbatim

The values of blocks in the texts of their definitions.  A text is filled by replacing one
mark after the other, those of the containers first and those of the parameters then, each
in all that was put in before.  So every mark of the text is replaced, but what looks like
a mark in a value or in the code of a child is replaced as well, and then the order of the
parameters shows.  Where no opening brace stands before a letter with which a name begins,
nothing looks like a mark, and nothing arises that does.

* `Fills.eq` — what is filled, with which entries, and what comes of it;
* `guarded_rendered` — in the code of a block nothing looks like a mark;
* `rendered_reordered` — the order of the parameters does not show there;
* `values_verbatim` — when values are put in as they are.
-/

namespace BlockSketch.Sketch

open Text (Guarded BeginsIn Fillable marks pieces replacements fillAll)

/-! ## names and entries -/

def placeName (c : Container) : Text := c.placeholder.getD c.name

def valueNames (d : Definition) : List Text := d.parameters.map Parameter.name ++ [("id" : Text)]

/-- The names that are replaced in a template. -/
def markNames (d : Definition) : List Text := d.containers.map placeName ++ valueNames d

/-- The texts that stand for the values of a block. -/
def shownValues (d : Definition) (b : Block) : Assoc Text Text :=
  Assoc.mapValues Value.shown (context d b.id b.values)

/-- The texts that are put in a template: the code of the children, and the values of the block. -/
def templateEntries (r : Registry) (d : Definition) (b : Block) (level : Nat) : Assoc Text Text :=
  fillings d level (Assoc.mapValues (List.map (rendered r)) b.children) ++ shownValues d b

/-- What takes the place of a container. -/
def filling (level : Nat) (children : Assoc Text (List Rendering)) (c : Container) : Text :=
  match c.placeholder with
  | none => ""
  | some _ => placeText level (Assoc.getD children c.name [])

section Entries

variable {d : Definition} {b : Block} {level : Nat} {n : Text}

/-- Every place is filled with the code of its container. -/
theorem fillings_eq (d : Definition) (level : Nat) (children : Assoc Text (List Rendering)) :
    fillings d level children =
      Assoc.ofList (d.containers.map fun c => (placeName c, filling level children c)) := by
  unfold fillings Assoc.ofList Assoc.putAll
  rw [List.foldl_map]
  refine List.foldl_ext _ _ _ fun filled c _ => ?_
  unfold placeName filling
  cases c.placeholder <;> rfl

/-- The values shown are those of the parameters and the identifier. -/
theorem mem_keys_shownValues : n ∈ Assoc.keys (shownValues d b) ↔ n ∈ valueNames d := by
  rw [shownValues, Assoc.keys_mapValues, context, Assoc.mem_keys_putNew, Assoc.ofList,
    Assoc.mem_keys_putAll, List.map_map, valueNames, List.mem_append, List.mem_singleton]
  simp [Assoc.keys]

theorem nodup_keys_shownValues : (Assoc.keys (shownValues d b)).Nodup := by
  rw [shownValues, Assoc.keys_mapValues]
  refine Assoc.nodup_keys_putNew (Assoc.nodup_keys_putAll ?_ _) _ _
  exact List.nodup_nil

/-- A template is filled with values and places. -/
theorem mem_keys_templateEntries {r : Registry} :
    n ∈ Assoc.keys (templateEntries r d b level) ↔ n ∈ markNames d := by
  rw [templateEntries, Assoc.keys, List.map_append, List.mem_append, markNames, List.mem_append]
  refine or_congr ?_ mem_keys_shownValues
  rw [fillings_eq, ← Assoc.keys, Assoc.ofList, Assoc.mem_keys_putAll, List.map_map]
  simp [Assoc.keys]

/-- Entries that come later are filled into what the earlier ones left. -/
theorem fillMarks_append (entries entries' : Assoc Text Text) (t : Text) :
    fillMarks (entries ++ entries') t = fillMarks entries' (fillMarks entries t) :=
  List.foldl_append

/-- A snippet is filled and indented; when it is empty, there is nothing to do. -/
theorem snippet_eq (ctx : Fields) (level : Nat) (t : Text) :
    snippet ctx level t = indent level (fillMarks (Assoc.mapValues Value.shown ctx) t) := by
  have hempty (entries : Assoc Text Text) : fillMarks entries ⟨[]⟩ = ⟨[]⟩ := by
    induction entries with
    | nil => rfl
    | cons e rest ih => exact ih
  unfold snippet
  split
  · next h =>
    obtain ⟨ls⟩ := t
    obtain rfl : ls = [] := List.isEmpty_iff.mp h
    rw [hempty]
    rfl
  · rfl

end Entries

/-! ## what is filled -/

/-- The texts of a definition that are filled by replacing marks. -/
inductive Part where
  | globals
  | setup
  | code

/-- A text of the definition of `b` is filled with `entries` at `level`, and `out` comes of it: as a
declaration, as code for `setup`, or as the code of the block in a run of the generator. -/
inductive Fills (r : Registry) (b : Block) : Part → Text → Assoc Text Text → Nat → Text → Prop where
  | globals {d : Definition} {text out : Text} (hd : Assoc.get? r.definitions b.definition = some d)
      (htext : text ∈ d.globals) (hout : fill (context d b.id b.values) 0 text = .ok out) :
      Fills r b .globals text (shownValues d b) 0 out
  | setup {d : Definition} {text out : Text} (hd : Assoc.get? r.definitions b.definition = some d)
      (htext : text ∈ d.setup) (hout : fill (context d b.id b.values) 1 text = .ok out) :
      Fills r b .setup text (shownValues d b) 1 out
  | code {d : Definition} {text : Text} {surrounding : Option Section} {level : Nat}
    {g g' : Generator}
      {code : Text} (hd : Assoc.get? r.definitions b.definition = some d)
      (htext : d.template = .text text)
      (hrun : (action r b surrounding level).run.run g = (.ok (some code), g')) :
      Fills r b .code text (templateEntries r d b level) level code

section Filling

variable {r : Registry} {b : Block} {part : Part} {text out : Text} {entries : Assoc Text Text}
    {level : Nat}

/-- What a run yields is the code of the block. -/
theorem rendered_of_run {surrounding : Option Section} {g g' : Generator}
    (h : (action r b surrounding level).run.run g = (.ok (some out), g')) :
    rendered r b level = some out := by
  obtain ⟨o, hemits, -, hcode⟩ := follows_action r b surrounding level
  have ho : o = .ok (some out) := congrArg Prod.fst ((hemits g).symm.trans h)
  exact (hcode _ ho).symm

/-- A block without a definition has no code. -/
theorem rendered_of_none (hd : Assoc.get? r.definitions b.definition = none) (level : Nat) :
    rendered r b level = none := by
  rw [rendered_eq, blockRendered, hd]

/-- The code of a block comes from the template of its definition, if that has one. -/
theorem rendered_of_some {d : Definition} (hd : Assoc.get? r.definitions b.definition = some d)
    (level : Nat) :
    rendered r b level = (d.template.asText?.filter fun text => !text.isEmpty).map fun text =>
      indent level (fillMarks (templateEntries r d b level) text) := by
  rw [rendered_eq, blockRendered, hd]
  dsimp only
  cases d.template with
  | text template =>
    cases hfull : template.isEmpty with
    | true => simp [Value.asText?, hfull, Option.filter_some]
    | false =>
      simp only [Value.asText?, hfull, Bool.not_false, Option.filter_some, if_true, Option.map_some]
      rw [snippet_eq, templateEntries, fillMarks_append]
      rfl
  | _ => rfl

/-- What is filled is the snippet. -/
theorem eq_of_fill {ctx : Fields} (h : fill ctx level text = .ok out) :
    out = snippet ctx level text := by
  unfold fill at h
  split at h
  · exact (Except.ok.inj h).symm
  · cases h

/-- A part that is filled is its text with the marks filled, indented. -/
theorem Fills.eq (h : Fills r b part text entries level out) :
    out = indent level (fillMarks entries text) := by
  cases h with
  | globals hd htext hout => exact (eq_of_fill hout).trans (snippet_eq _ 0 text)
  | setup hd htext hout => exact (eq_of_fill hout).trans (snippet_eq _ 1 text)
  | code hd htext hrun =>
    have hcode := (rendered_of_some hd level).symm.trans (rendered_of_run hrun)
    obtain ⟨template, htemplate, hout⟩ := Option.map_eq_some_iff.mp hcode
    have hsame := (Option.filter_eq_some_iff.mp htemplate).1
    rw [htext] at hsame
    rw [← hout, Option.some.inj hsame]

end Filling

/-! ## where no mark arises -/

/-- The names of the marks have no brace in them. -/
def Plain (d : Definition) : Prop := ∀ n ∈ markNames d, n.braces = []

/-- The names of the marks begin with letters that do not stand behind a brace or a mark in the
texts, but for the marks themselves. -/
structure Tidy (start : Letter → Bool) (d : Definition) : Prop where
  begins : ∀ n ∈ markNames d, BeginsIn start n
  snippets : ∀ text ∈ d.globals ++ d.setup, Text.Clear start (pieces (valueNames d) text)
  template : ∀ text ∈ d.template.asText?, Text.Clear start (pieces (markNames d) text)

/-- In the values of the block nothing looks like a mark. -/
def Visit.Tame (start : Letter → Bool) (r : Registry) (v : Visit) : Prop :=
  ∀ d ∈ v.definition? r, ∀ e ∈ v.context d, Guarded start e.2.shown.letters

instance (d : Definition) : Decidable (Plain d) :=
  inferInstanceAs (Decidable (∀ n ∈ markNames d, _))

instance (start : Letter → Bool) (d : Definition) : Decidable (Tidy start d) :=
  decidable_of_iff ((∀ n ∈ markNames d, BeginsIn start n) ∧
    (∀ text ∈ d.globals ++ d.setup, Text.Clear start (pieces (valueNames d) text)) ∧
    ∀ text ∈ d.template.asText?, Text.Clear start (pieces (markNames d) text))
    ⟨fun h => ⟨h.1, h.2.1, h.2.2⟩, fun h => ⟨h.begins, h.snippets, h.template⟩⟩

instance (start : Letter → Bool) (r : Registry) (v : Visit) : Decidable (v.Tame start r) :=
  inferInstanceAs (Decidable (∀ d ∈ v.definition? r, ∀ e ∈ v.context d, _))

section Tidying

variable {start : Letter → Bool} {r : Registry} {b : Block} {d : Definition} {level : Nat}

/-- Entries with names that are marks have names without braces. -/
theorem plain_entries {entries : Assoc Text Text} (hd : Plain d)
    (hkeys : ∀ n ∈ Assoc.keys entries, n ∈ markNames d) : ∀ e ∈ entries, e.1.braces = [] :=
  fun _ he => hd _ (hkeys _ (List.mem_map_of_mem he))

/-- Values are guarded as soon as the context is. -/
theorem guarded_shownValues (h : ∀ e ∈ context d b.id b.values, Guarded start e.2.shown.letters) :
    ∀ e ∈ shownValues d b, Guarded start e.2.letters := by
  intro e he
  obtain ⟨entry, hentry, rfl⟩ := List.mem_map.mp he
  exact h entry hentry

/-- Guarded values of marks of a tidy definition can be filled into a clear text. -/
theorem fillable_of_names {entries : Assoc Text Text} {names : List Text} {text : Text}
    (hd : Plain d) (ht : Tidy start d) (hnames : ∀ n ∈ names, n ∈ markNames d)
    (hkeys : ∀ n, n ∈ Assoc.keys entries ↔ n ∈ names)
    (hvalues : ∀ e ∈ entries, Guarded start e.2.letters)
    (hclear : Text.Clear start (pieces names text)) :
    Fillable start entries text := by
  have hmarks : ∀ n ∈ Assoc.keys entries, n ∈ markNames d := fun n hn => hnames n ((hkeys n).mp hn)
  have hpieces : pieces (Assoc.keys entries) text = pieces names text :=
    Text.piecesFrom_congr (fun n hn => hd n (hmarks n hn)) hkeys 0 text.letters
  exact ⟨plain_entries hd hmarks,
    fun e he => ht.begins _ (hmarks _ (List.mem_map_of_mem he)), hvalues, hpieces ▸ hclear⟩

/-- So the declarations and the code for `setup` can be filled. -/
theorem fillable_snippet (hd : Plain d) (ht : Tidy start d)
    (hvalues : ∀ e ∈ context d b.id b.values, Guarded start e.2.shown.letters) {text : Text}
    (htext : text ∈ d.globals ++ d.setup) : Fillable start (shownValues d b) text :=
  fillable_of_names hd ht (fun _ hn => List.mem_append_right _ hn) (fun _ => mem_keys_shownValues)
    (guarded_shownValues hvalues) (ht.snippets text htext)

variable (hfeed : start (.char '\n') = false)

include hfeed

/-- The code of children is joined and indented. -/
theorem guarded_placeText {children : List Rendering}
    (h : ∀ child ∈ children, ∀ code ∈ child (level + 1), Guarded start code.letters) :
    Guarded start (placeText level children).letters := by
  have hjoined : Guarded start (Text.intercalate "\n"
      ((children.filterMap fun child => child (level + 1)).filter fun text =>
        !text.isEmpty)).letters := by
    refine Text.guarded_intercalate hfeed fun text htext => ?_
    obtain ⟨child, hchild, hcode⟩ := List.mem_filterMap.mp (List.mem_of_mem_filter htext)
    exact h child hchild text hcode
  unfold placeText containerText
  dsimp only
  split
  · exact hjoined
  · exact Text.guarded_indent hfeed (level + 1) hjoined

/-- Places are guarded as soon as the code of the children is. -/
theorem guarded_templateEntries
    (hvalues : ∀ e ∈ context d b.id b.values, Guarded start e.2.shown.letters)
    (hchildren : ∀ c ∈ d.containers, ∀ child ∈ Assoc.getD b.children c.name [],
      ∀ code ∈ rendered r child (level + 1), Guarded start code.letters) :
    ∀ e ∈ templateEntries r d b level, Guarded start e.2.letters := by
  intro e he
  rcases List.mem_append.mp he with hplace | hvalue
  · rw [fillings_eq] at hplace
    obtain ⟨c, hc, rfl⟩ := List.mem_map.mp ((Assoc.mem_putAll hplace).resolve_left List.not_mem_nil)
    dsimp only [filling]
    split
    · exact List.isChain_nil
    · refine guarded_placeText hfeed fun rendering hrendering => ?_
      rw [getD_children] at hrendering
      obtain ⟨child, hchild, rfl⟩ := List.mem_map.mp hrendering
      exact hchildren c hc child hchild
  · exact guarded_shownValues hvalues e hvalue

variable (hplain : ∀ e ∈ r.definitions, Plain e.2) (htidy : ∀ e ∈ r.definitions, Tidy start e.2)

include hplain htidy

/-- So a template can be filled. -/
theorem fillable_template (hd : Assoc.get? r.definitions b.definition = some d)
    (hvalues : ∀ e ∈ context d b.id b.values, Guarded start e.2.shown.letters)
    (hchildren : ∀ c ∈ d.containers, ∀ child ∈ Assoc.getD b.children c.name [],
      ∀ code ∈ rendered r child (level + 1), Guarded start code.letters) {text : Text}
    (htext : text ∈ d.template.asText?) : Fillable start (templateEntries r d b level) text := by
  have hmem := Assoc.mem_of_get? hd
  exact fillable_of_names (hplain _ hmem) (htidy _ hmem) (fun _ hn => hn)
    (fun _ => mem_keys_templateEntries) (guarded_templateEntries hfeed hvalues hchildren)
    ((htidy _ hmem).template text htext)

/-- In the code of a block nothing looks like a mark, when nothing does in the values that are
visited. -/
theorem guarded_rendered (b : Block) (surrounding : Option Section)
    (h : ∀ v ∈ visits r b surrounding, v.Tame start r) (level : Nat) :
    ∀ code ∈ rendered r b level, Guarded start code.letters := by
  induction b using children_induction generalizing surrounding level with | step b ih
  intro code hcode
  cases hd : Assoc.get? r.definitions b.definition with
  | none =>
    rw [rendered_of_none hd] at hcode
    exact absurd hcode (by simp)
  | some d =>
    rw [rendered_of_some hd] at hcode
    obtain ⟨text, htext, rfl⟩ := Option.map_eq_some_iff.mp hcode
    have hfill :=
      fillable_template hfeed hplain htidy hd (h _ (mem_visits_self r b surrounding) d hd)
      (fun c hc child hchild => ih c.name child hchild _
        (fun v hv => h v (mem_visits_of_child hd hc hchild hv)) (level + 1))
      (Option.filter_eq_some_iff.mp htext).1
    exact Text.guarded_indent hfeed level hfill.replacements_eq.2

/-- In a tame tree every template can be filled. -/
theorem fillable_of_tame {surrounding : Option Section}
    (hd : Assoc.get? r.definitions b.definition = some d)
    (h : ∀ v ∈ visits r b surrounding, v.Tame start r) (level : Nat) {text : Text}
    (htext : text ∈ d.template.asText?) : Fillable start (templateEntries r d b level) text := by
  refine fillable_template hfeed hplain htidy hd
    (h _ (mem_visits_self r b surrounding) d hd) ?_ htext
  intro c hc child hchild
  exact guarded_rendered hfeed hplain htidy child _
    (fun v hv => h v (mem_visits_of_child hd hc hchild hv)) (level + 1)

end Tidying

section Filled

variable {start : Letter → Bool} {r : Registry} {b : Block} {part : Part} {text out : Text}
  {entries : Assoc Text Text} {level : Nat} (hplain : ∀ e ∈ r.definitions, Plain e.2)
  (h : Fills r b part text entries level out)

include hplain h

theorem Fills.plain : ∀ e ∈ entries, e.1.braces = [] := by
  have hvalues {d : Definition} (hd : Assoc.get? r.definitions b.definition = some d) :
      ∀ e ∈ shownValues d b, e.1.braces = [] :=
    plain_entries (hplain _ (Assoc.mem_of_get? hd)) fun _ hn =>
      List.mem_append_right _ (mem_keys_shownValues.mp hn)
  cases h with
  | globals hd _ _ => exact hvalues hd
  | setup hd _ _ => exact hvalues hd
  | code hd htext hrun =>
    exact plain_entries (hplain _ (Assoc.mem_of_get? hd)) fun _ => mem_keys_templateEntries.mp

/-- Whatever part of a block is filled, its entries can be filled in one after the other. -/
theorem Fills.fillable (hfeed : start (.char '\n') = false)
    (htidy : ∀ e ∈ r.definitions, Tidy start e.2)
    {surrounding : Option Section} (htame : ∀ v ∈ visits r b surrounding, v.Tame start r) :
    Fillable start entries text := by
  have hsnippet {d : Definition} (hd : Assoc.get? r.definitions b.definition = some d)
      (htext : text ∈ d.globals ++ d.setup) : Fillable start (shownValues d b) text :=
    fillable_snippet (hplain _ (Assoc.mem_of_get? hd)) (htidy _ (Assoc.mem_of_get? hd))
      (htame _ (mem_visits_self r b surrounding) d hd) htext
  cases h with
  | globals hd htext _ => exact hsnippet hd (List.mem_append_left _ htext)
  | setup hd htext _ => exact hsnippet hd (List.mem_append_right _ htext)
  | code hd htext hrun =>
    exact fillable_of_tame hfeed hplain htidy hd htame level (by rw [htext]; rfl)

end Filled

/-! ## parameters in another order -/

/-- The definitions differ in the order of their parameters only, and no two have one name. -/
structure Reordered (d d' : Definition) : Prop where
  perm : d.parameters.Perm d'.parameters
  nodup : (d.parameters.map Parameter.name).Nodup
  same : d' = { d with parameters := d'.parameters }

/-- The definitions of two registries differ in the order of their parameters only. -/
def SameButOrder (r r' : Registry) : Prop :=
  ∀ name, Option.Rel Reordered (Assoc.get? r.definitions name) (Assoc.get? r'.definitions name)

section Order

variable {d d' : Definition}

theorem Reordered.containers (h : Reordered d d') : d'.containers = d.containers := by rw [h.same]

theorem Reordered.template (h : Reordered d d') : d'.template = d.template := by rw [h.same]

/-- The values of a block are the same, in another order. -/
theorem Reordered.perm_shownValues (h : Reordered d d') (b : Block) :
    (shownValues d b).Perm (shownValues d' b) := by
  let entry (p : Parameter) : Text × Value := (p.name, b.values.get p.name p.default)
  have hlist {ps : List Parameter} (hps : (ps.map Parameter.name).Nodup) :
      Assoc.ofList (ps.map entry) = ps.map entry := by
    refine Assoc.putAll_of_nodup [] _ ?_
    change ((ps.map entry).map Prod.fst).Nodup
    rw [List.map_map]
    exact hps
  have hentries : (d.parameters.map entry).Perm (d'.parameters.map entry) := h.perm.map entry
  have hhas :
      Assoc.has (d'.parameters.map entry) "id" = Assoc.has (d.parameters.map entry) "id" := by
    rw [Bool.eq_iff_iff, Assoc.has_iff_mem_keys, Assoc.has_iff_mem_keys]
    exact (hentries.map Prod.fst).mem_iff.symm
  refine List.Perm.map _ ?_
  change (Assoc.putNew (Assoc.ofList (d.parameters.map entry)) "id" _).Perm
    (Assoc.putNew (Assoc.ofList (d'.parameters.map entry)) "id" _)
  rw [hlist h.nodup, hlist ((h.perm.map Parameter.name).nodup h.nodup), Assoc.putNew,
    Assoc.putNew, hhas]
  split
  · exact hentries
  · exact hentries.append_right _

/-- Parameters in another order have the same values. -/
theorem Reordered.get?_shownValues (h : Reordered d d') (b : Block) (n : Text) :
    Assoc.get? (shownValues d b) n = Assoc.get? (shownValues d' b) n :=
  Assoc.get?_of_perm nodup_keys_shownValues (h.perm_shownValues b) n

/-- The code of the children takes the same places. -/
theorem Reordered.templateEntries_eq (h : Reordered d d') {r r' : Registry} {b : Block}
    (level : Nat) (hchildren : ∀ c ∈ d.containers, ∀ child ∈ Assoc.getD b.children c.name [],
      rendered r' child = rendered r child) :
    templateEntries r' d' b level =
      fillings d level (Assoc.mapValues (List.map (rendered r)) b.children) ++
        shownValues d' b := by
  rw [templateEntries, fillings_eq, fillings_eq, h.containers]
  refine congrArg (fun entries => Assoc.ofList entries ++ shownValues d' b) (List.map_congr_left ?_)
  intro c hc
  rw [filling, filling, getD_children, getD_children, List.map_congr_left (hchildren c hc)]

variable {start : Letter → Bool} {r r' : Registry} (hfeed : start (.char '\n') = false)
  (hplain : ∀ e ∈ r.definitions, Plain e.2) (htidy : ∀ e ∈ r.definitions, Tidy start e.2)
  (horder : SameButOrder r r')

include hfeed hplain htidy horder

/-- The order of the parameters does not show in the code of a block. -/
theorem rendered_reordered (b : Block) (surrounding : Option Section)
    (h : ∀ v ∈ visits r b surrounding, v.Tame start r) : rendered r' b = rendered r b := by
  induction b using children_induction generalizing surrounding with | step b ih
  funext level
  have hdefinitions := horder b.definition
  generalize hd : Assoc.get? r.definitions b.definition = found,
    hd' : Assoc.get? r'.definitions b.definition = found' at hdefinitions
  cases hdefinitions with
  | none => rw [rendered_of_none hd, rendered_of_none hd']
  | @some d d' hreorder =>
    have hentries := hreorder.templateEntries_eq level fun c hc child hchild =>
      ih c.name child hchild _ fun v hv => h v (mem_visits_of_child hd hc hchild hv)
    rw [rendered_of_some hd, rendered_of_some hd', hreorder.template]
    refine Option.map_congr fun text htext => congrArg (indent level) ?_
    have hfill :=
      fillable_of_tame hfeed hplain htidy hd h level (Option.filter_eq_some_iff.mp htext).1
    rw [hentries]
    refine hfill.fillMarks_perm ((hreorder.perm_shownValues b).append_left _) fun n => ?_
    rw [templateEntries, Assoc.get?_append, Assoc.get?_append, hreorder.get?_shownValues]

/-- Nor does it show in what comes of any text. -/
theorem Fills.reordered {b : Block} {surrounding : Option Section}
    (h : ∀ v ∈ visits r b surrounding, v.Tame start r) {part : Part} {text out out' : Text}
    {entries entries' : Assoc Text Text} {level : Nat}
    (hout : Fills r b part text entries level out)
    (hout' : Fills r' b part text entries' level out') : out' = out := by
  have hsnippet {d d' : Definition} (hd : Assoc.get? r.definitions b.definition = some d)
      (hd' : Assoc.get? r'.definitions b.definition = some d')
        (hfill : Fillable start (shownValues d b) text) :
      fillMarks (shownValues d' b) text = fillMarks (shownValues d b) text := by
    have hdefinitions := horder b.definition
    rw [hd, hd'] at hdefinitions
    cases hdefinitions with | some hreorder =>
    exact hfill.fillMarks_perm (hreorder.perm_shownValues b) (hreorder.get?_shownValues b)
  have hfill := hout.fillable hplain hfeed htidy h
  have heq := hout.eq
  have heq' := hout'.eq
  cases hout with
  | globals hd _ _ =>
    cases hout' with | globals hd' _ _ =>
    rw [heq', heq, hsnippet hd hd' hfill]
  | setup hd _ _ =>
    cases hout' with | setup hd' _ _ =>
    rw [heq', heq, hsnippet hd hd' hfill]
  | code hd htext hrun =>
    cases hout' with | code hd' htext' hrun' =>
    have hcode := rendered_of_run hrun'
    rw [rendered_reordered hfeed hplain htidy horder b surrounding h, rendered_of_run hrun] at hcode
    exact (Option.some.inj hcode).symm

end Order

/-! ## values as they are -/

/-- The values of a block in the texts of its definition, and the code of its children in its
template.  For every registry whose marks have no brace in their names, and every block:

* every mark of a text is replaced, and if nothing else is, then what comes of the text is the text
  with all its marks replaced at once, indented;
* nothing else is replaced when nothing in the visited values looks like a mark, that is has a brace
  before a letter with which a name begins, and the texts of the definitions are tidy;
* then the order in which the definitions list their parameters does not show. -/
theorem values_verbatim (r : Registry) (hplain : ∀ e ∈ r.definitions, Plain e.2) (b : Block) :
    (∀ part text entries level out, Fills r b part text entries level out →
      marks (Assoc.keys entries) text ≤ replacements entries text ∧
      (replacements entries text = marks (Assoc.keys entries) text →
        out = indent level (fillAll entries text))) ∧
    ∀ start surrounding, start (.char '\n') = false → (∀ e ∈ r.definitions, Tidy start e.2) →
      (∀ v ∈ visits r b surrounding, v.Tame start r) →
      ∀ part text entries level out, Fills r b part text entries level out →
        replacements entries text = marks (Assoc.keys entries) text ∧
        out = indent level (fillAll entries text) ∧
        ∀ r' entries' out', SameButOrder r r' → Fills r' b part text entries' level out' →
          out' = out := by
  refine ⟨fun part text entries level out h => ?_,
    fun start surrounding hfeed htidy htame part text entries level out h => ?_⟩
  · obtain ⟨hle, heq⟩ := Text.fillMarks_eq_fillAll (Fills.plain hplain h) text
    refine ⟨hle, fun hcount => ?_⟩
    rw [h.eq, heq hcount]
  · have hfill := h.fillable hplain hfeed htidy htame
    refine ⟨hfill.replacements_eq.1, ?_, fun r' entries' out' horder h' => ?_⟩
    · rw [h.eq, hfill.fillMarks_eq]
    · exact Fills.reordered hfeed hplain htidy horder htame h h'

example : ∀ e ∈ shipped.definitions, Plain e.2 ∧ Tidy (fun l => l.isIn Char.isAlpha) e.2 := by
  decide +kernel

/-- A run that yields code has filled the template. -/
theorem exists_fills {r : Registry} {b : Block} {d : Definition} {text : Text}
    (hd : Assoc.get? r.definitions b.definition = some d) (htext : d.template = .text text)
    {surrounding : Option Section} {level : Nat} {g : Generator}
    (h : ((action r b surrounding level).run.run g).1.toOption.any Option.isSome = true) :
    ∃ code, Fills r b .code text (templateEntries r d b level) level code := by
  obtain ⟨result, hresult, hsome⟩ := Outcome.exists_ok_of_any h
  obtain ⟨code, rfl⟩ := Option.isSome_iff_exists.mp hsome
  exact ⟨code, .code hd htext (Prod.ext hresult rfl)⟩

/-- A condition with a place for its children. -/
def condition : Definition where
  id := "if"
  target := some .loop
  template := .text "if (\x7btest\x7d) \x7b\n\x7bbody\x7d\n\x7d"
  parameters := [{ name := "test", type := "string" }]
  containers := [{ name := "body", target := .loop, placeholder := some "body" }]

/-- A statement with two parameters, in this order or the other. -/
def statement (swapped : Bool) : Definition where
  id := "say"
  target := some .loop
  template := .text "say(\x7bfirst\x7d, \x7bsecond\x7d);"
  setup := ["open(\x7bfirst\x7d);"]
  parameters :=
    let first : Parameter := { name := "first", type := "string" }
    let second : Parameter := { name := "second", type := "string" }
    if swapped then [second, first] else [first, second]

def spoken (swapped : Bool) : Registry where
  definitions := [("if", condition), ("say", statement swapped)]

/-- A condition with a statement inside, which says two things. -/
def spokenBlock (first second : Text) : Block :=
  .mk (some "c") "if" [("test", .text "n > \x7b 1 \x7d")] [("body", [
    .mk (some "s") "say" [("first", .text first), ("second", .text second)] []])]

/-- A brace in a value does no harm before a blank. -/
theorem values_verbatim_spoken :
    ∃ text code code',
      Fills (spoken false) (spokenBlock "a" "b") .code text
        (templateEntries (spoken false) condition (spokenBlock "a" "b") 0) 0 code ∧
      Fills (spoken true) (spokenBlock "a" "b") .code text
        (templateEntries (spoken true) condition (spokenBlock "a" "b") 0) 0 code' ∧
      code = indent 0 (fillAll (templateEntries (spoken false) condition
        (spokenBlock "a" "b") 0) text) ∧
      code' = code := by
  let start (l : Letter) : Bool := l.isIn Char.isAlpha
  have hruns (swapped : Bool) :
      ((action (spoken swapped) (spokenBlock "a" "b") none 0).run.run {}).1.toOption.any
      Option.isSome = true := by
    cases swapped <;> decide +kernel
  have horder : SameButOrder (spoken false) (spoken true) := by
    intro name
    simp only [spoken, Assoc.get?]
    split
    · exact .some ⟨.refl _, by decide, rfl⟩
    · split
      · exact .some ⟨.swap .., by decide, rfl⟩
      · exact .none
  have hplain : ∀ e ∈ (spoken false).definitions, Plain e.2 := by decide +kernel
  have htidy : ∀ e ∈ (spoken false).definitions, Tidy start e.2 := by decide +kernel
  have htame :
      ∀ v ∈ visits (spoken false) (spokenBlock "a" "b") none, v.Tame start (spoken false) := by
    decide +kernel
  obtain ⟨code, hcode⟩ := exists_fills (d := condition) rfl rfl (hruns false)
  obtain ⟨code', hcode'⟩ := exists_fills (d := condition) rfl rfl (hruns true)
  obtain ⟨-, hall⟩ := values_verbatim (spoken false) hplain (spokenBlock "a" "b")
  obtain ⟨-, hfilled, hsame⟩ := hall start none (by decide) htidy htame _ _ _ _ _ hcode
  exact ⟨_, code, code', hcode, hcode', hfilled, hsame _ _ _ horder hcode'⟩

/-- A text that looks like the mark of the second parameter is replaced when that comes later. -/
theorem captured_spoken :
    ∃ sketch sketch', generate (spoken false) ⟨some (spokenBlock "\x7bsecond\x7d" "b")⟩ =
      .ok sketch ∧
      generate (spoken true) ⟨some (spokenBlock "\x7bsecond\x7d" "b")⟩ = .ok sketch' ∧
      (("  say(b, b);", some "s") : Line) ∈ sketch.lines.get .loop ∧
      (("  say(\x7bsecond\x7d, b);", some "s") : Line) ∈ sketch'.lines.get .loop ∧
      fillAll [("first", "\x7bsecond\x7d"), ("second", "b"), ("id", "s")]
        "say(\x7bfirst\x7d, \x7bsecond\x7d);" = "say(\x7bsecond\x7d, b);" := by
  let said (swapped : Bool) : Line :=
    (if swapped then "  say(\x7bsecond\x7d, b);" else "  say(b, b);", some "s")
  have hsaid (swapped : Bool) : (generate (spoken swapped)
      ⟨some (spokenBlock "\x7bsecond\x7d" "b")⟩).toOption.any (fun sketch =>
        decide (said swapped ∈ sketch.lines.get .loop)) = true := by
    cases swapped <;> decide +kernel
  obtain ⟨sketch, hsketch, hmem⟩ := Outcome.exists_ok_of_any (hsaid false)
  obtain ⟨sketch', hsketch', hmem'⟩ := Outcome.exists_ok_of_any (hsaid true)
  exact ⟨sketch, sketch', hsketch, hsketch', of_decide_eq_true hmem, of_decide_eq_true hmem',
    by decide +kernel⟩

end BlockSketch.Sketch
