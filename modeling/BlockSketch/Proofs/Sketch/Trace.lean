import BlockSketch.Sketch.Basic
import Mathlib.Data.List.TakeWhile

/-!
# BlockSketch.Proofs.Sketch.Trace

What a step of generation adds.  A generator only ever adds to what it has collected
and never looks at it, so that a step goes through the same events whatever was
collected before: it asks for headers, writes lines, and stops at a fault.
`Follows e es P` says that the step `e` goes through the events `es` up to the first
fault, and that a result has the property `P`.

* `Follows.bind`, `follows_forIn`, `follows_mapM`, `follows_foldlM` — steps one after the other;
* `get_extend` — the lines of a section after an output was added.
-/

namespace BlockSketch.Sketch

/-! ## outputs -/

/-- What a step adds: lines with the sections they go to, and headers. -/
structure Output where
  lines : List (Section × Line) := []
  headers : List Line := []

/-- The lines that go to a section. -/
def linesIn (s : Section) (ls : List (Section × Line)) : List Line :=
  (ls.filter fun l => l.1 = s).map Prod.snd

/-- The generator with an output added. -/
def Generator.extend (g : Generator) (out : Output) : Generator :=
  { g with
    lines := out.lines.foldl (fun lines l => lines.append l.1 [l.2]) g.lines
    headers := out.headers.foldl (fun hs h => Assoc.putNew hs (Text.trim h.1) h.2) g.headers }

/-- Lines are put in one section, and the others stay. -/
theorem get_append (lines : SectionLines) (target s : Section) (ls : List Line) :
    (lines.append target ls).get s = lines.get s ++ if target = s then ls else [] := by
  cases target <;> cases s <;> simp [SectionLines.append, SectionLines.get]

/-- What was put out goes behind what a section has. -/
theorem get_extend (g : Generator) (out : Output) (s : Section) :
    (g.extend out).lines.get s = g.lines.get s ++ linesIn s out.lines := by
  have hfold (ls : List (Section × Line)) (lines : SectionLines) :
      (ls.foldl (fun lines l => lines.append l.1 [l.2]) lines).get s =
        lines.get s ++ linesIn s ls := by
    induction ls generalizing lines with
    | nil => simp [linesIn]
    | cons l ls ih =>
      rw [List.foldl_cons, ih, get_append]
      by_cases hl : l.1 = s <;> simp [linesIn, hl]
  exact hfold out.lines g.lines

/-! ## steps -/

/-- The step `e` has the outcome `o` and adds `out`, whatever was collected before. -/
def Emits {α : Type} (e : Step α) (o : Outcome α) (out : Output) : Prop :=
  ∀ g, e.run g = (o, g.extend out)

section Binds

variable {α β : Type} {e : Step α} {f : α → Step β} {out out' : Output}

/-- A step goes on from a generator that has what was put out before. -/
theorem Emits.run_bind {o : Outcome α} (h : Emits e o out) (g : Generator) :
    (e >>= f).run g = (ExceptT.bindCont f o).run (g.extend out) := by
  change (ExceptT.bindCont f (e.run g).1).run (e.run g).2 = _
  rw [h g]

/-- Two steps put out what the first does and then what the second does. -/
theorem Emits.bind {a : α} {o : Outcome β} (h : Emits e (.ok a) out) (h' : Emits (f a) o out') :
    Emits (e >>= f) o ⟨out.lines ++ out'.lines, out.headers ++ out'.headers⟩ := by
  intro g
  rw [h.run_bind]
  refine (h' _).trans ?_
  simp [Generator.extend]

/-- A step that stopped puts out nothing more. -/
theorem Emits.bind_error {fault : Fault} (h : Emits e (.error fault) out) :
    Emits (e >>= f) (.error fault) out := h.run_bind

end Binds

/-! ## events -/

/-- What a step does: it asks for a header, writes a line to a section, or stops at a fault. -/
inductive Event where
  | header (l : Line)
  | line (target : Section) (l : Line)
  | fault (cause : Fault)

def Event.header? : Event → Option Line
  | .header l => some l
  | _ => none

def Event.line? : Event → Option (Section × Line)
  | .line target l => some (target, l)
  | _ => none

def Event.fault? : Event → Option Fault
  | .fault cause => some cause
  | _ => none

def faults (es : List Event) : List Fault := es.filterMap Event.fault?

/-- The events before the first fault. -/
def performed (es : List Event) : List Event := es.takeWhile fun e => e.fault?.isNone

def output (es : List Event) : Output := ⟨es.filterMap Event.line?, es.filterMap Event.header?⟩

/-- The outcome that the first of some faults leaves. -/
def verdict : List Fault → Outcome Unit
  | [] => .ok ()
  | fault :: _ => .error fault

def faultOf {α : Type} : Outcome α → List Fault
  | .ok _ => []
  | .error fault => [fault]

/-- The lines of a section are the lines that are written there. -/
theorem mem_linesIn_iff {s : Section} {es : List Event} {l : Line} :
    l ∈ linesIn s (es.filterMap Event.line?) ↔ Event.line s l ∈ es := by
  have hline (e : Event) : e.line? = some (s, l) ↔ e = .line s l := by
    cases e <;> simp [Event.line?]
  unfold linesIn
  simp only [List.mem_map, List.mem_filter, List.mem_filterMap, decide_eq_true_eq]
  constructor
  · rintro ⟨⟨target, l'⟩, ⟨⟨e, he, hel⟩, rfl⟩, rfl⟩
    rwa [(hline e).mp hel] at he
  · intro h
    exact ⟨(s, l), ⟨⟨_, h, rfl⟩, rfl⟩, rfl⟩

theorem faults_append (es es' : List Event) : faults (es ++ es') = faults es ++ faults es' :=
  List.filterMap_append

theorem faults_flatMap {α : Type} (as : List α) (es : α → List Event) :
    faults (as.flatMap es) = as.flatMap fun a => faults (es a) := List.filterMap_flatMap

/-- A script is free of faults when none of its events is one. -/
theorem faults_eq_nil_iff {es : List Event} :
    faults es = [] ↔ ∀ e ∈ es, e.fault?.isNone = true := by
  simp [faults, List.filterMap_eq_nil_iff]

/-- Events without a fault are performed to the end. -/
theorem performed_of_faults {es : List Event} (h : faults es = []) : performed es = es :=
  List.takeWhile_eq_self_iff.mpr (faults_eq_nil_iff.mp h)

/-- A script without faults is performed before what comes behind it. -/
theorem performed_append {es : List Event} (h : faults es = []) (es' : List Event) :
    performed (es ++ es') = es ++ performed es' :=
  List.takeWhile_append_of_pos (faults_eq_nil_iff.mp h)

/-- Behind a fault no event is performed. -/
theorem performed_append_of_fault {es : List Event} (h : faults es ≠ []) (es' : List Event) :
    performed (es ++ es') = performed es := by
  unfold performed
  rw [List.takeWhile_append, if_neg]
  intro hlength
  have hall := (List.takeWhile_prefix _).eq_of_length hlength
  exact h (faults_eq_nil_iff.mpr (List.takeWhile_eq_self_iff.mp hall))

theorem output_append (es es' : List Event) : output (es ++ es') =
    ⟨(output es).lines ++ (output es').lines, (output es).headers ++ (output es').headers⟩ := by
  simp [output]

/-- The verdict is good exactly when there are no faults. -/
theorem verdict_eq_ok_iff (fs : List Fault) : verdict fs = .ok () ↔ fs = [] := by
  cases fs <;> simp [verdict]

theorem map_unit_eq_ok_iff {α : Type} (o : Outcome α) :
    o.map (fun _ => ()) = .ok () ↔ ∃ a, o = .ok a := by
  cases o <;> simp [Except.map]

/-- An outcome has no fault exactly when it is a value. -/
theorem faultOf_eq_nil_iff {α : Type} (o : Outcome α) : faultOf o = [] ↔ o.isOk = true := by
  cases o <;> simp [faultOf, Except.isOk, Except.toBool]

theorem eq_error_of_faultOf {α : Type} {o : Outcome α} {fault : Fault} (h : faultOf o = [fault]) :
    o = .error fault := by
  cases o with
  | ok a => exact nomatch h
  | error fault' => rw [List.singleton_inj.mp h]

/-! ## steps that follow events -/

/-- The step `e` goes through the events `es` up to the first fault, whatever was collected before;
when there is no fault it has a result with the property `P`. -/
def Follows {α : Type} (e : Step α) (es : List Event) (P : α → Prop) : Prop :=
  ∃ o, Emits e o (output (performed es)) ∧ o.map (fun _ => ()) = verdict (faults es) ∧
    ∀ a, o = .ok a → P a

section Rules

variable {α β : Type} {e : Step α} {f : α → Step β} {es es' : List Event} {P : α → Prop}
    {Q : β → Prop}

theorem follows_pure {a : α} (h : P a) : Follows (pure a) [] P :=
  ⟨.ok a, fun _ => rfl, rfl, fun _ ho => Except.ok.inj ho ▸ h⟩

/-- Stopping for a fault leaves out what the script has behind it. -/
theorem follows_throw (fault : Fault) (es : List Event) :
    Follows (throw fault : Step α) (.fault fault :: es) P :=
  ⟨.error fault, fun _ => rfl, rfl, nofun⟩

theorem follows_addHeader (l : Line) :
    Follows (modify fun g => g.addHeader l) [.header l] fun _ => True :=
  ⟨.ok (), fun _ => rfl, rfl, fun _ _ => trivial⟩

/-- A text as a line of a section; an empty text is none. -/
def lineOf (target : Section) (id : Option Text) (text : Text) : List Event :=
  if text.isEmpty then [] else [.line target (text, id)]

/-- Adding a line is the event of the line, unless it is empty. -/
theorem follows_addLine (target : Section) (id : Option Text) (text : Text) :
    Follows (addLine target (text, id)) (lineOf target id text) fun _ => True := by
  refine ⟨.ok (), fun g => ?_, ?_, fun _ _ => trivial⟩
  · have hline : g.addLine target (text, id) =
        g.extend (output (performed (lineOf target id text))) := by
      unfold Generator.addLine lineOf
      by_cases ht : text.isEmpty = true <;> simp [ht] <;> rfl
    exact congrArg (Prod.mk (Except.ok ())) hline
  · unfold lineOf
    split <;> rfl

/-- The events of a step come before those of the step behind it. -/
theorem Follows.bind (he : Follows e es P) (hf : ∀ a, P a → Follows (f a) es' Q) :
    Follows (e >>= f) (es ++ es') Q := by
  obtain ⟨o, hemits, hverdict, hP⟩ := he
  unfold Follows
  cases o with
  | error fault =>
    have hfault : faults es ≠ [] := fun hnone => by
      rw [hnone] at hverdict
      exact nomatch hverdict
    rw [performed_append_of_fault hfault, faults_append]
    refine ⟨.error fault, hemits.bind_error, hverdict.trans ?_, nofun⟩
    cases hes : faults es with
    | nil => exact absurd hes hfault
    | cons fault' fs => rfl
  | ok a =>
    have hnone : faults es = [] := (verdict_eq_ok_iff _).mp hverdict.symm
    obtain ⟨o', hemits', hverdict', hQ⟩ := hf a (hP a rfl)
    rw [performed_append hnone, faults_append, hnone, List.nil_append, output_append]
    rw [performed_of_faults hnone] at hemits
    exact ⟨o', hemits.bind hemits', hverdict', hQ⟩

/-- A last step that only hands out a value adds no event. -/
theorem Follows.bind_pure {g : α → β} (he : Follows e es P) (hg : ∀ a, P a → Q (g a)) :
    Follows (do let a ← e; pure (g a)) es Q := by
  have hbind : Follows (e >>= fun a => pure (g a)) (es ++ []) Q :=
    he.bind fun a ha => follows_pure (hg a ha)
  rwa [List.append_nil] at hbind

end Rules

/-! ## loops -/

section Loops

variable {α β : Type} {es : α → List Event}

/-- A loop follows the scripts of its rounds in turn. -/
theorem follows_forIn {body : α → PUnit → Step (ForInStep PUnit)} (as : List α)
    (h : ∀ a ∈ as, Follows (body a ⟨⟩) (es a) fun s => s = .yield ⟨⟩) :
    Follows (forIn as PUnit.unit body) (as.flatMap es) fun _ => True := by
  induction as with
  | nil => exact follows_pure trivial
  | cons a as ih =>
    rw [List.forIn_cons, List.flatMap_cons]
    refine (h a List.mem_cons_self).bind ?_
    rintro _ rfl
    exact ih fun b hb => h b (List.mem_cons_of_mem _ hb)

/-- So does a loop that collects values. -/
theorem follows_mapM {f : α → Step β} {value : α → β} (as : List α)
    (h : ∀ a ∈ as, Follows (f a) (es a) fun b => b = value a) :
    Follows (as.mapM f) (as.flatMap es) fun bs => bs = as.map value := by
  induction as with
  | nil =>
    rw [List.mapM_nil]
    exact follows_pure rfl
  | cons a as ih =>
    rw [List.mapM_cons, List.flatMap_cons]
    refine (h a List.mem_cons_self).bind ?_
    rintro _ rfl
    refine (ih fun a' ha' => h a' (List.mem_cons_of_mem _ ha')).bind_pure ?_
    rintro _ rfl
    rfl

/-- So does one that hands a value on. -/
theorem follows_foldlM {f : β → α → Step β} {next : β → α → β} (as : List α) (b : β)
    (h : ∀ b, ∀ a ∈ as, Follows (f b a) (es a) fun b' => b' = next b a) :
    Follows (as.foldlM f b) (as.flatMap es) fun b' => b' = as.foldl next b := by
  induction as generalizing b with
  | nil => exact follows_pure rfl
  | cons a as ih =>
    rw [List.foldlM_cons, List.flatMap_cons]
    refine (h b a List.mem_cons_self).bind ?_
    rintro _ rfl
    exact ih (next b a) fun b' a' ha' => h b' a' (List.mem_cons_of_mem _ ha')

/-- Texts made from the items of a list are written in order. -/
theorem follows_addLines (target : Section) (id : Option Text) (text : α → Text) (as : List α) :
    Follows (forIn as PUnit.unit fun a _ => do
      addLine target (text a, id)
      pure (ForInStep.yield PUnit.unit)) (as.flatMap fun a => lineOf target id (text a))
        fun _ => True :=
  follows_forIn as fun a _ => (follows_addLine target id (text a)).bind_pure fun _ _ => rfl

end Loops

end BlockSketch.Sketch
