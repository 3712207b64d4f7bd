import BlockSketch.Proofs.Canvas.Effect

/-!
# BlockSketch.Proofs.Canvas.Run

Runs of editing steps.  An `Operation` is one call from outside: selecting, adding,
drawing a wire, deleting, opening a diagram.  A step that stops for a fault keeps
what it did before, and the run goes on from there.

* `scene_perform` — the scene after an operation, as a function of the scene before;
* `run_keeps` — what every step keeps, every run keeps;
* `run_keeps_iff` — a property that a step keeps exactly when it is a good one holds
  all along a run exactly when all steps of the run are good.
-/

namespace BlockSketch.Canvas

/-- An editing step.  To take the diagram of a scene is no step: it changes nothing. -/
inductive Operation where
  | select (item : Item) (on : Bool)
  -- an empty identifier asks for a new one
  | add (type : Value) (p : Point) (uid : Text) (given : Fields)
  | beginWire (r : PortRef)
  | completeWire (r : PortRef)
  | releaseAt (left : Bool) (p : Point)
  | cancelPreview
  | deleteSelected
  | load (d : Diagram)
  | announceParams (card : Nat)

def Operation.edit : Operation → Edit Unit
  | .select item on => Edit.select item on
  | .add type p uid given => do let _ ← Edit.add type p uid given
  | .beginWire r => Edit.beginWire r
  | .completeWire r => Edit.completeWire r
  | .releaseAt left p => do let _ ← Edit.releaseAt left p
  | .cancelPreview => Edit.cancelPreview
  | .deleteSelected => do let _ ← Edit.deleteSelected
  | .load d => Edit.load d
  | .announceParams card => Edit.announceParams card

def Operation.Stops (op : Operation) (t : Session) : Prop :=
  ∃ fault, (op.edit.run t).1 = .error fault

namespace Session

/-- A session on a scene with nothing in it. -/
def blank (catalog : Catalog) (listener : Option Listener) (order : Arrangement := .asAdded) :
    Session :=
  { scene := { catalog, listener, arrangement := order } }

def perform (t : Session) (op : Operation) : Session := (op.edit.run t).2

def run (t : Session) (ops : List Operation) : Session := ops.foldl perform t

/-- Whether every operation of a run has a property where it is performed. -/
def Always (P : Session → Operation → Prop) : Session → List Operation → Prop
  | _, [] => True
  | t, op :: rest => P t op ∧ Always P (t.perform op) rest

instance {P : Session → Operation → Prop} [∀ t op, Decidable (P t op)] :
    (t : Session) → (ops : List Operation) → Decidable (Always P t ops)
  | _, [] => .isTrue trivial
  | t, op :: rest =>
    have : Decidable (Always P (t.perform op) rest) := instDecidableAlways _ _
    inferInstanceAs (Decidable (P t op ∧ Always P (t.perform op) rest))

theorem run_cons (t : Session) (op : Operation) (ops : List Operation) :
    t.run (op :: ops) = (t.perform op).run ops := rfl

theorem always_of_forall {P : Session → Operation → Prop} (h : ∀ t op, P t op) (t : Session)
    (ops : List Operation) : Always P t ops := by
  induction ops generalizing t with
  | nil => trivial
  | cons op ops ih => exact ⟨h t op, ih _⟩

end Session

/-! ## the scene after an operation -/

def Scene.after (s : Scene) : Operation → Scene
  | .select item on => s.chosen item on
  | .add type p uid given => s.added type p uid given
  | .beginWire r => s.begun r
  | .completeWire r => s.completed r
  | .releaseAt left p => s.released left p
  | .cancelPreview => s.withoutPreview
  | .deleteSelected => s.withoutSelected
  | .load d => s.loaded d
  | .announceParams _ => s

namespace Edit

variable {α : Type} {e : Edit α} {s s' : Scene}

/-- To throw the result of an edit away does not change the scene. -/
theorem LeadsTo.discard (he : LeadsTo e s s') : LeadsTo (do let _ ← e) s s' := by
  obtain ⟨o, ho⟩ := he
  cases o with
  | error fault => exact ho.bind_error.leadsTo
  | ok a => exact ho.bind_leadsTo (ends_pure PUnit.unit s').leadsTo

theorem leadsTo_edit (op : Operation) (s : Scene) : LeadsTo op.edit s (s.after op) := by
  cases op with
  | select item on => exact (ends_select item on s).leadsTo
  | add type p uid given => exact (leadsTo_add type p uid given s).discard
  | beginWire r => exact (ends_beginWire r s).leadsTo
  | completeWire r => exact leadsTo_completeWire r s
  | releaseAt left p => exact (leadsTo_releaseAt left p s).discard
  | cancelPreview => exact (ends_cancelPreview s).leadsTo
  | deleteSelected =>
    obtain ⟨removed, hr⟩ := ends_deleteSelected s
    exact hr.leadsTo.discard
  | load d =>
    cases h : s.showsAll d with
    | true => exact ((ends_load d s).1 h).leadsTo
    | false =>
      obtain ⟨fault, hf⟩ := (ends_load d s).2 h
      exact hf.leadsTo
  | announceParams card => exact leadsTo_announceParams card s

end Edit

theorem scene_perform (t : Session) (op : Operation) :
    (t.perform op).scene = t.scene.after op := by
  obtain ⟨o, ho⟩ := Edit.leadsTo_edit op t.scene
  obtain ⟨log, hl⟩ := ho t.log
  unfold Session.perform
  rw [hl]

/-- Opening a diagram stops exactly when a block of it has no card. -/
theorem stops_load_iff (d : Diagram) (t : Session) :
    (Operation.load d).Stops t ↔ t.scene.showsAll d = false := by
  cases h : t.scene.showsAll d with
  | true =>
    obtain ⟨log, hl⟩ := (Edit.ends_load d t.scene).1 h t.log
    refine iff_of_false ?_ (by simp)
    rintro ⟨fault, hf⟩
    change ((Edit.load d).run t).1 = _ at hf
    rw [hl] at hf
    exact nomatch hf
  | false =>
    obtain ⟨fault, hf⟩ := (Edit.ends_load d t.scene).2 h
    obtain ⟨log, hl⟩ := hf t.log
    refine iff_of_true ⟨fault, ?_⟩ rfl
    change ((Edit.load d).run t).1 = _
    rw [hl]

/-! ## runs -/

namespace Session

variable {Inv : Session → Prop} {Fair Good : Session → Operation → Prop}

/-- What every fair step keeps holds all along a fair run. -/
theorem run_keeps (step : ∀ t op, Inv t → Fair t op → Inv (t.perform op)) {t : Session}
    {ops : List Operation} (ht : Inv t) (hops : Always Fair t ops) {done : List Operation}
    (hdone : done <+: ops) : Inv (t.run done) := by
  induction ops generalizing t done with
  | nil =>
    rw [List.prefix_nil.mp hdone]
    exact ht
  | cons op ops ih =>
    rcases List.prefix_cons_iff.mp hdone with rfl | ⟨rest, rfl, hrest⟩
    · exact ht
    · exact ih (step t op ht hops.1) hops.2 hrest

/-- What a fair step keeps exactly when it is good holds all along a fair run exactly when every
step of the run is good. -/
theorem run_keeps_iff (step : ∀ t op, Inv t → Fair t op → (Inv (t.perform op) ↔ Good t op))
    {t : Session} {ops : List Operation} (ht : Inv t) (hops : Always Fair t ops) :
    (∀ done, done <+: ops → Inv (t.run done)) ↔ Always Good t ops := by
  induction ops generalizing t with
  | nil =>
    refine iff_of_true (fun done hdone => ?_) trivial
    rw [List.prefix_nil.mp hdone]
    exact ht
  | cons op ops ih =>
    have hstep := step t op ht hops.1
    constructor
    · intro hall
      have hnext : Inv (t.perform op) := hall [op] (by simp)
      refine ⟨hstep.mp hnext, (ih hnext hops.2).mp fun done hdone => ?_⟩
      exact hall (op :: done) (List.cons_prefix_cons.mpr ⟨rfl, hdone⟩)
    · rintro ⟨hgood, hrest⟩ done hdone
      rcases List.prefix_cons_iff.mp hdone with rfl | ⟨rest, rfl, hpre⟩
      · exact ht
      · exact (ih (hstep.mpr hgood) hops.2).mpr hrest rest hpre

end Session

/-- A catalog of one type, which has an input, and so an output too. -/
def relay : Catalog := [("relay", .dict [("inputs", .list [.dict [("name", .text "in")]])])]

end BlockSketch.Canvas
