import BlockSketch.Proofs.Canvas.Presets
import BlockSketch.Proofs.Sheet.Editor
import BlockSketch.Proofs.Step
import BlockSketch.Sheet.Basic

/-!
# BlockSketch.Proofs.Sheet.Effect

What the steps at a property sheet do.  A block is shown by making a field for each of its
parameters that has a name and writing what the fields hold back into the block; its rows and
headings are of no matter for that.  A parameter that cannot be shown stops this before anything
is written.

* `run_addNamed`, `run_writeBack` — the fields that are made, and the values that are written;
* `run_bind_of_entry_error`, `run_bind_of_fields_error`, `run_bind_of_values` — showing a block.
-/

namespace BlockSketch

namespace Canvas.Scene

/-- The scene in which parameter values of a card's block are set. -/
def withParams (s : Scene) (h : Nat) (values : Fields) : Scene :=
  s.setCard h fun c =>
    { c with node := { c.node with params := Assoc.putAll c.node.params values } }

theorem withParams_nil (s : Scene) (h : Nat) : s.withParams h [] = s := by
  have hcards : s.cards.modify h id = s.cards := List.modify_id h s.cards
  unfold withParams setCard
  rw [show (fun c : Card =>
      { c with node := { c.node with params := Assoc.putAll c.node.params [] } }) = id
    from rfl, hcards]

/-- Values that are set later come behind those set before. -/
theorem withParams_withParams (s : Scene) (h : Nat) (values more : Fields) :
    (s.withParams h values).withParams h more = s.withParams h (values ++ more) := by
  have hcards (f g : Card → Card) : (s.cards.modify h f).modify h g = s.cards.modify h (g ∘ f) :=
    List.modify_modify_eq f g h s.cards
  unfold withParams setCard
  rw [hcards]
  congr
  funext c
  simp [Assoc.putAll]

/-- Changes that agree on the card give the same scene. -/
theorem setCard_congr {s : Scene} {h : Nat} {f g : Card → Card}
    (hfg : f (s.card h) = g (s.card h)) :
    s.setCard h f = s.setCard h g := by
  have hcards : s.cards.modify h f = s.cards.modify h g := by
    refine List.ext_getElem? fun k => ?_
    rw [List.getElem?_modify, List.getElem?_modify]
    by_cases hk : h = k
    · subst hk
      cases hfound : s.cards[h]? with
      | none => rfl
      | some c =>
        have hcard : s.card h = c := by simp [card, List.getD_eq_getElem?_getD, hfound]
        rw [hcard] at hfg
        simp [hfg]
    · simp [hk]
  unfold setCard
  rw [hcards]

theorem withParams_eq (s : Scene) (h : Nat) (values : Fields) :
    s.withParams h values = s.setCard h fun c =>
      { c with node := { c.node with params := Assoc.putAll (s.card h).node.params values } } :=
  setCard_congr rfl

theorem length_cards_withParams (s : Scene) (h : Nat) (values : Fields) :
    (s.withParams h values).cards.length = s.cards.length :=
  List.length_modify ..

/-- Setting values of one block leaves those of the others. -/
theorem card_withParams_of_ne (s : Scene) {h h' : Nat} (values : Fields) (hne : h ≠ h') :
    (s.withParams h values).card h' = s.card h' := by
  simp [card, withParams, setCard, List.getD_eq_getElem?_getD, hne]

/-- The block has the values that are set, over those it had. -/
theorem params_withParams {s : Scene} {h : Nat} (values : Fields) (hh : h < s.cards.length) :
    ((s.withParams h values).card h).node.params = Assoc.putAll (s.card h).node.params values := by
  simp [card, withParams, setCard, List.getD_eq_getElem?_getD, hh]

end Canvas.Scene

namespace Inspect

open Catalog

variable [Platform]

/-- Announcing that parameter values changed does not change them. -/
theorem run_announceParams (h : Nat) (i : Inspector) :
    ∃ o log, (onCanvas (Canvas.Edit.announceParams h)).run i =
      (o, { i with session.log := log }) := by
  obtain ⟨o, ho⟩ := Canvas.Edit.leadsTo_announceParams h i.session.scene
  obtain ⟨log, hlog⟩ := ho i.session.log
  refine ⟨o, log, ?_⟩
  have hrun : (onCanvas (Canvas.Edit.announceParams h)).run i =
      (MonadExcept.ofExcept ((Canvas.Edit.announceParams h).run i.session).1 : Inspect Unit).run
        { i with session := ((Canvas.Edit.announceParams h).run i.session).2 } := rfl
  rw [hrun, hlog, run_ofExcept]

theorem run_setParam (h : Nat) (name : Text) (v : Value) (i : Inspector) :
    (setParam h name v).run i =
      (.ok (), { i with session.scene := i.session.scene.withParams h [(name, v)] }) := rfl

/-! ## showing a block -/

/-- The field that a parameter gets on the sheet of a block, if it can be labelled. -/
def fieldOf (params presets : Fields) (e : Text × Fields) : Outcome (Text × SheetField) := do
  let fresh ← Editor.ofDescriptor e.2
  let editor ← fresh.display e.2 (startValue params presets e.2 e.1)
  let _ ← (labelOf e.2 e.1).spelled
  return (e.1, ⟨e.2, editor⟩)

def putField (f : Text × SheetField) : Inspect Unit :=
  change fun s => { s with
    rows := s.rows ++ [(some f.2.editor.kind, (labelOf f.2.descriptor f.1).shown)]
    fields := Assoc.put s.fields f.1 f.2 }

/-- Put a parameter with a name on the sheet. -/
def addNamed (params presets : Fields) (e : Text × Fields) : Inspect Unit := do
  putField (← MonadExcept.ofExcept (fieldOf params presets e))

/-- What is done with the text of a value is done with the one text that it can have. -/
theorem spelled_bind {α : Type} (v : Value) (f : Text → Inspect α) :
    (do f (← MonadExcept.ofExcept v.spelled)) =
      (do let _ ← MonadExcept.ofExcept v.spelled; f v.shown : Inspect α) := by
  unfold Value.spelled
  cases v.hasText <;> rfl

theorem addField_eq (params presets : Fields) (item : Value) :
    addField params presets item =
      (namedDescriptor? item).elim (pure ()) (addNamed params presets) := by
  cases item with
  | dict d =>
    simp only [addField, namedDescriptor?]
    cases Fields.opt d "name" with
    | text name =>
      cases hempty : name.isEmpty with
      | true => simp [hempty]
      | false =>
        simp only [hempty, Bool.not_false, Bool.false_eq_true, if_true, if_false, Option.elim,
          addNamed, fieldOf, ofExcept_bind, bind_assoc, spelled_bind]
        rfl
    | _ => rfl
  | _ => rfl

/-- Only parameters with a name get a field. -/
theorem forM_addField (params presets : Fields) (items : List Value) :
    items.forM (addField params presets) =
      (items.filterMap namedDescriptor?).forM (addNamed params presets) := by
  induction items with
  | nil => rfl
  | cons item items ih =>
    have hcons : (item :: items).forM (addField params presets) =
        (do addField params presets item; items.forM (addField params presets)) := rfl
    rw [hcons, ih, addField_eq, List.filterMap_cons]
    cases namedDescriptor? item with
    | none => rfl
    | some e => rfl

section Showing

variable {params presets : Fields} {named : List (Text × Fields)}

theorem run_addNamed_of_field {e : Text × Fields} {f : Text × SheetField}
    (h : fieldOf params presets e = .ok f) (i : Inspector) :
    (addNamed params presets e).run i = (putField f).run i := by
  unfold addNamed
  rw [h]
  rfl

/-- The parameters are put on the sheet in turn. -/
theorem run_addNamed {entries : List (Text × SheetField)}
    (h : named.mapM (fieldOf params presets) = .ok entries) (i : Inspector) :
    ∃ rows, (named.forM (addNamed params presets)).run i =
      (.ok (), { i with
        sheet := { i.sheet with rows, fields := Assoc.putAll i.sheet.fields entries } }) := by
  induction named generalizing entries i with
  | nil =>
    cases h
    exact ⟨i.sheet.rows, rfl⟩
  | cons e named ih =>
    rw [List.mapM_cons] at h
    obtain ⟨f, hf, h⟩ := Outcome.bind_eq_ok_iff.mp h
    obtain ⟨rest, hrest, h⟩ := Outcome.bind_eq_ok_iff.mp h
    cases h
    obtain ⟨rows, hrows⟩ := ih hrest _
    exact ⟨rows, (run_of_ok (run_addNamed_of_field hf i)).trans hrows⟩

/-- The first one that cannot be shown stops this. -/
theorem run_addNamed_of_error {fault : Fault}
    (h : named.mapM (fieldOf params presets) = .error fault) (i : Inspector) :
    ∃ sheet, (named.forM (addNamed params presets)).run i = (.error fault, { i with sheet }) := by
  induction named generalizing i with
  | nil => cases h
  | cons e named ih =>
    rw [List.mapM_cons] at h
    rcases Outcome.bind_eq_error_iff.mp h with hf | ⟨f, hf, h⟩
    · have hadd : (addNamed params presets e).run i = (.error fault, i) := by
        unfold addNamed
        rw [hf]
        rfl
      exact ⟨_, run_of_error hadd⟩
    · rcases Outcome.bind_eq_error_iff.mp h with h | ⟨rest, -, h⟩
      · obtain ⟨sheet, hsheet⟩ := ih h _
        exact ⟨sheet, (run_of_ok (run_addNamed_of_field hf i)).trans hsheet⟩
      · cases h

end Showing

/-- The value that a field holds, under its name. -/
def readField (e : Text × SheetField) : Outcome (Text × Value) := do
  return (e.1, ← e.2.editor.value)

def writeBack (h : Nat) (fields : Assoc Text SheetField) : Inspect Unit :=
  fields.forM fun e => do setParam h e.1 (← MonadExcept.ofExcept e.2.editor.value)

/-- What the fields hold is set in the block, once all of them can be read. -/
theorem run_writeBack {h : Nat} {fields : Assoc Text SheetField} {values : Fields}
    (hread : fields.mapM readField = .ok values) (i : Inspector) :
    (writeBack h fields).run i =
      (.ok (), { i with session.scene := i.session.scene.withParams h values }) := by
  induction fields generalizing values i with
  | nil =>
    rw [List.mapM_nil] at hread
    cases hread
    rw [Canvas.Scene.withParams_nil]
    rfl
  | cons e fields ih =>
    rw [List.mapM_cons] at hread
    obtain ⟨value, hvalue, hread⟩ := Outcome.bind_eq_ok_iff.mp hread
    obtain ⟨rest, hrest, hread⟩ := Outcome.bind_eq_ok_iff.mp hread
    cases hread
    have hset : (do setParam h e.1 (← MonadExcept.ofExcept e.2.editor.value) : Inspect Unit).run i =
        (.ok (), { i with session.scene := i.session.scene.withParams h [value] }) := by
      obtain ⟨v, hv, hpure⟩ := Outcome.bind_eq_ok_iff.mp hvalue
      cases hpure
      rw [hv]
      rfl
    refine (run_of_ok hset).trans ((ih hrest _).trans ?_)
    rw [Canvas.Scene.withParams_withParams]
    rfl

/-- What a block is called on its sheet. -/
def titleOf (n : Node) (entry : Fields) : Value := Fields.get entry "title" n.type

/-- The entry for a block, if the block can be called something. -/
def entryOf (c : Catalog) (n : Node) : Outcome Fields := do
  let entry ← c.entry n.type
  let _ ← (titleOf n entry).spelled
  return entry

/-- The sheet without fields, under the title of a block. -/
def headed (n : Node) (entry : Fields) (s : Sheet) : Sheet :=
  { s with
    heading := "<b>" ++ (titleOf n entry).shown ++ "</b><br/>UID: " ++ n.uid
    title := "Свойства — " ++ (titleOf n entry).shown ++ " (" ++ n.uid ++ ")"
    rows := if (descriptors entry).isEmpty
      then [(none, "Этот блок не имеет настраиваемых параметров.")] else []
    fields := []
    canReset := !(descriptors entry).isEmpty }

/-- What showing a block does, in terms of its entry, its fields and their values. -/
theorem run_bind (h : Nat) (i : Inspector) :
    let n := (i.session.scene.card h).node
    (bind h).run i = (do
      let entry ← MonadExcept.ofExcept (entryOf i.sheet.catalog n)
      change (headed n entry)
      (namedDescriptors entry).forM (addNamed n.params (ownPresets entry))
      writeBack h (← sheet).fields : Inspect Unit).run { i with sheet.card := some h } := by
  have hrun : (bind h).run i = (do
      let n := (i.session.scene.card h).node
      let entry ← MonadExcept.ofExcept (i.sheet.catalog.entry n.type)
      let title ← MonadExcept.ofExcept (titleOf n entry).spelled
      change fun s => { s with
        heading := "<b>" ++ title ++ "</b><br/>UID: " ++ n.uid
        title := "Свойства — " ++ title ++ " (" ++ n.uid ++ ")"
        rows := if (descriptors entry).isEmpty
          then [(none, "Этот блок не имеет настраиваемых параметров.")] else []
        fields := []
        canReset := !(descriptors entry).isEmpty }
      (descriptors entry).forM (addField n.params (ownPresets entry))
      writeBack h (← sheet).fields : Inspect Unit).run { i with sheet.card := some h } := rfl
  simp only [hrun, forM_addField, spelled_bind, entryOf, ofExcept_bind, bind_assoc]
  rfl

/-- The sheet of a block is filled, and what it holds is written back. -/
theorem run_bind_of_entry {h : Nat} {i : Inspector} {entry : Fields}
    (hentry : entryOf i.sheet.catalog (i.session.scene.card h).node = .ok entry) :
    let n := (i.session.scene.card h).node
    (bind h).run i = (do
      (namedDescriptors entry).forM (addNamed n.params (ownPresets entry))
      writeBack h (← sheet).fields : Inspect Unit).run
        { i with sheet := headed n entry { i.sheet with card := some h } } := by
  rw [run_bind, hentry]
  rfl

/-- The fields on the sheet of a block: of the parameters of a name, the last one counts. -/
def fieldsOf (entry params : Fields) : Outcome (Assoc Text SheetField) := do
  return Assoc.ofList (← (namedDescriptors entry).mapM (fieldOf params (ownPresets entry)))

section Binding

variable {h : Nat} {i : Inspector} {entry : Fields} {fault : Fault}

/-- A block is not shown when there is no entry for it. -/
theorem run_bind_of_entry_error
    (hentry : entryOf i.sheet.catalog (i.session.scene.card h).node = .error fault) :
    ∃ sheet, (bind h).run i = (.error fault, { i with sheet }) := by
  rw [run_bind, hentry]
  exact ⟨_, rfl⟩

/-- Nor when one of its parameters cannot be shown. -/
theorem run_bind_of_fields_error
    (hentry : entryOf i.sheet.catalog (i.session.scene.card h).node = .ok entry)
    (hfields : fieldsOf entry (i.session.scene.card h).node.params = .error fault) :
    ∃ sheet, (bind h).run i = (.error fault, { i with sheet }) := by
  rcases Outcome.bind_eq_error_iff.mp hfields with hnamed | ⟨entries, -, hpure⟩
  · obtain ⟨sheet, hsheet⟩ := run_addNamed_of_error hnamed
      { i with sheet := headed (i.session.scene.card h).node entry { i.sheet with card := some h } }
    exact ⟨sheet, (run_bind_of_entry hentry).trans (run_of_error hsheet)⟩
  · cases hpure

/-- Else what its fields hold is written into it. -/
theorem run_bind_of_values {fields : Assoc Text SheetField} {values : Fields}
    (hentry : entryOf i.sheet.catalog (i.session.scene.card h).node = .ok entry)
    (hfields : fieldsOf entry (i.session.scene.card h).node.params = .ok fields)
    (hvalues : fields.mapM readField = .ok values) :
    ∃ sheet : Sheet, sheet.catalog = i.sheet.catalog ∧ sheet.card = some h ∧ sheet.fields = fields ∧
      (bind h).run i =
        (.ok (), ⟨{ i.session with scene := i.session.scene.withParams h values }, sheet⟩) := by
  obtain ⟨entries, hnamed, hpure⟩ := Outcome.bind_eq_ok_iff.mp hfields
  cases hpure
  obtain ⟨rows, hrows⟩ := run_addNamed hnamed
    { i with sheet := headed (i.session.scene.card h).node entry { i.sheet with card := some h } }
  refine ⟨{ headed (i.session.scene.card h).node entry { i.sheet with card := some h } with
    rows, fields := Assoc.ofList entries }, rfl, rfl, rfl, ?_⟩
  exact ((run_bind_of_entry hentry).trans (run_of_ok hrows)).trans (run_writeBack hvalues _)

end Binding

end Inspect

end BlockSketch
