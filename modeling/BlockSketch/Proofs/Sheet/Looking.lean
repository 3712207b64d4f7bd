import BlockSketch.Proofs.Sheet.Effect
import BlockSketch.Platform.Plain

/-!
# BlockSketch.Proofs.Sheet.Looking

What looking at a block does to it, whatever the widgets of the editors are.  Showing a block on
the sheet writes back what the editors hold, so a value stays what it was exactly when it is of
the kind of its editor and the widget gives it back.

* `get?_fieldsOf` — the field of a name is that of the last parameter of the name;
* `looked_bind` — the block that is shown, before and after.
-/

namespace BlockSketch

namespace Inspect

open Catalog

/-- A value that is there is what its parameter starts from. -/
theorem startValue_of_present {params presets d : Fields} {name : Text} {v : Value}
    (h : Assoc.get? params name = some v) (hv : v ≠ .null) :
    startValue params presets d name = v := by
  have hopt : Fields.opt params name = v := by simp [Fields.opt, Fields.get, Assoc.getD, h]
  unfold startValue
  rw [hopt]
  cases v with
  | null => exact absurd rfl hv
  | _ => rfl

section Looking

variable [Platform]

/-- The value that an editor for a descriptor holds once it shows a value. -/
def held (d : Fields) (v : Value) : Outcome Value := do
  (← (← Editor.ofDescriptor d).display d v).value

/-- The values that an editor for a descriptor holds as they are. -/
def Kept (d : Fields) (v : Value) : Prop := ∃ e, Editor.ofDescriptor d = .ok e ∧ e.Keeps d v

/-- The descriptor of a parameter of an entry, which is the last one of its name. -/
def descriptor? (entry : Fields) (name : Text) : Option Fields :=
  Assoc.get? (namedDescriptors entry).reverse name

/-! ## the fields of a block -/

/-- What the field of a parameter holds when it is put on the sheet of a block: what an editor
makes of the value that it starts from, and that value itself when the editor keeps it. -/
structure ShownAs (start : Value) (d : Fields) (w : Value) : Prop where
  held : held d start = .ok w
  kept : w = start ↔ Kept d start

/-- A field that is put on the sheet holds what its editor makes of the value it starts from. -/
theorem shownAs_of_fieldOf {params presets : Fields} {e : Text × Fields} {f : Text × SheetField}
    (h : fieldOf params presets e = .ok f) :
    f.1 = e.1 ∧ ∃ w, f.2.editor.value = .ok w ∧
      ShownAs (startValue params presets e.2 e.1) e.2 w := by
  obtain ⟨fresh, hfresh, h⟩ := Outcome.bind_eq_ok_iff.mp h
  obtain ⟨editor, heditor, h⟩ := Outcome.bind_eq_ok_iff.mp h
  obtain ⟨label, -, h⟩ := Outcome.bind_eq_ok_iff.mp h
  cases h
  obtain ⟨w, hw, hkeeps⟩ := Editor.value_of_display (Editor.ofDescriptor_cases hfresh).1 heditor
  refine ⟨rfl, w, hw, ?_, ?_⟩
  · exact Outcome.bind_eq_ok_iff.mpr
      ⟨fresh, hfresh, Outcome.bind_eq_ok_iff.mpr ⟨editor, heditor, hw⟩⟩
  · rw [hkeeps]
    constructor
    · exact fun h => ⟨fresh, hfresh, h⟩
    · rintro ⟨e, he, h⟩
      rw [hfresh] at he
      cases he
      exact h

/-- A parameter gets a field when its label has a text and its editor can show its value. -/
theorem exists_fieldOf_iff {params presets : Fields} {e : Text × Fields} :
    (∃ f, fieldOf params presets e = .ok f) ↔ (labelOf e.2 e.1).hasText = true ∧
      ∃ w, held e.2 (startValue params presets e.2 e.1) = .ok w := by
  constructor
  · rintro ⟨f, hf⟩
    obtain ⟨-, w, -, hw⟩ := shownAs_of_fieldOf hf
    obtain ⟨fresh, -, hf⟩ := Outcome.bind_eq_ok_iff.mp hf
    obtain ⟨editor, -, hf⟩ := Outcome.bind_eq_ok_iff.mp hf
    obtain ⟨label, hlabel, -⟩ := Outcome.bind_eq_ok_iff.mp hf
    exact ⟨(Value.spelled_eq_ok_iff.mp hlabel).1, w, hw.held⟩
  · rintro ⟨hlabel, w, hw⟩
    obtain ⟨fresh, hfresh, hw⟩ := Outcome.bind_eq_ok_iff.mp hw
    obtain ⟨editor, heditor, -⟩ := Outcome.bind_eq_ok_iff.mp hw
    exact ⟨_, Outcome.bind_eq_ok_iff.mpr ⟨fresh, hfresh, Outcome.bind_eq_ok_iff.mpr
      ⟨editor, heditor, Outcome.bind_eq_ok_iff.mpr
        ⟨_, Value.spelled_eq_ok_iff.mpr ⟨hlabel, rfl⟩, rfl⟩⟩⟩⟩

variable {entry params : Fields} {fields : Assoc Text SheetField} {values : Fields}

/-- A name with a parameter has a field, and the last parameter of the name counts. -/
theorem get?_fieldsOf (h : fieldsOf entry params = .ok fields) (name : Text) :
    (descriptor? entry name = none ∧ Assoc.get? fields name = none) ∨
      ∃ d f, descriptor? entry name = some d ∧ Assoc.get? fields name = some f ∧
        ∃ w, f.editor.value = .ok w ∧
          ShownAs (startValue params (ownPresets entry) d name) d w := by
  obtain ⟨entries, hnamed, hpure⟩ := Outcome.bind_eq_ok_iff.mp h
  cases hpure
  have hget : Assoc.get? (Assoc.ofList entries) name = Assoc.get? entries.reverse name := by
    unfold Assoc.ofList
    rw [Assoc.get?_putAll]
    simp [Assoc.get?]
  rw [hget]
  refine Assoc.get?_of_forall₂ (R := fun name d (f : SheetField) => ∃ w, f.editor.value = .ok w ∧
    ShownAs (startValue params (ownPresets entry) d name) d w) ?_ name
  exact List.rel_reverse ((Outcome.mapM_eq_ok_iff.mp hnamed).imp fun _ _ => shownAs_of_fieldOf)

theorem nodup_keys_fieldsOf (h : fieldsOf entry params = .ok fields) :
    (Assoc.keys fields).Nodup := by
  obtain ⟨entries, -, hpure⟩ := Outcome.bind_eq_ok_iff.mp h
  cases hpure
  exact Assoc.nodup_keys_putAll (m := []) List.nodup_nil entries

/-- Every field of a block can be read. -/
theorem exists_readField (h : fieldsOf entry params = .ok fields) :
    ∃ values, fields.mapM readField = .ok values := by
  refine Outcome.exists_mapM_eq_ok_iff.mpr fun e he => ?_
  have hget := Assoc.get?_of_mem (nodup_keys_fieldsOf h) he
  rcases get?_fieldsOf h e.1 with ⟨-, hnone⟩ | ⟨d, f, -, hf, w, hw, -⟩
  · rw [hget] at hnone
    cases hnone
  · rw [hget] at hf
    cases hf
    exact ⟨_, Outcome.bind_eq_ok_iff.mpr ⟨w, hw, rfl⟩⟩

/-- What is read from the fields goes together with them. -/
theorem forall₂_readField (h : fields.mapM readField = .ok values) :
    List.Forall₂ (fun e v => v.1 = e.1 ∧ e.2.editor.value = .ok v.2) fields values := by
  refine (Outcome.mapM_eq_ok_iff.mp h).imp fun e v hv => ?_
  obtain ⟨w, hw, hpure⟩ := Outcome.bind_eq_ok_iff.mp hv
  cases hpure
  exact ⟨rfl, hw⟩

/-- What is read under a name is what the field of the name holds. -/
theorem get?_readField (h : fields.mapM readField = .ok values) (name : Text) :
    (Assoc.get? fields name = none ∧ Assoc.get? values name = none) ∨
      ∃ f v, Assoc.get? fields name = some f ∧ Assoc.get? values name = some v ∧
        f.editor.value = .ok v :=
  Assoc.get?_of_forall₂ (R := fun _ (f : SheetField) v => f.editor.value = .ok v)
    (forall₂_readField h) name

/-- What is read from the fields is found in the block that it is written into. -/
theorem get?_written (hfields : fieldsOf entry params = .ok fields)
    (hvalues : fields.mapM readField = .ok values) (name : Text) :
    Assoc.get? (Assoc.putAll params values) name =
      (Assoc.get? values name).or (Assoc.get? params name) := by
  have hkeys : Assoc.keys values = Assoc.keys fields :=
    Assoc.keys_of_forall₂ ((forall₂_readField hvalues).imp fun _ _ hv => hv.1)
  have hnodup : (Assoc.keys values).Nodup := by
    rw [hkeys]
    exact nodup_keys_fieldsOf hfields
  exact Assoc.get?_putAll_of_nodup params hnodup name

/-- A block is shown, and what its fields hold is written into it, unless it has no fields. -/
theorem bind_cases (i : Inspector) (h : Nat) :
    ((∀ entry, entryOf i.sheet.catalog (i.session.scene.card h).node = .ok entry →
        ∀ fields, fieldsOf entry (i.session.scene.card h).node.params ≠ .ok fields) ∧
      ∃ fault sheet, (bind h).run i = (.error fault, { i with sheet })) ∨
    ∃ entry fields values sheet,
      entryOf i.sheet.catalog (i.session.scene.card h).node = .ok entry ∧
      fieldsOf entry (i.session.scene.card h).node.params = .ok fields ∧
      fields.mapM readField = .ok values ∧ sheet.card = some h ∧ sheet.fields = fields ∧
      (bind h).run i =
        (.ok (), ⟨{ i.session with scene := i.session.scene.withParams h values }, sheet⟩) := by
  cases hentry : entryOf i.sheet.catalog (i.session.scene.card h).node with
  | error fault => exact .inl ⟨by simp, fault, run_bind_of_entry_error hentry⟩
  | ok entry =>
    cases hfields : fieldsOf entry (i.session.scene.card h).node.params with
    | error fault =>
      refine .inl ⟨?_, fault, run_bind_of_fields_error hentry hfields⟩
      rintro entry' hentry' fields hok
      cases hentry'
      rw [hfields] at hok
      cases hok
    | ok fields =>
      obtain ⟨values, hvalues⟩ := exists_readField hfields
      obtain ⟨sheet, -, hcard, hsheet, hrun⟩ := run_bind_of_values hentry hfields hvalues
      exact .inr ⟨entry, fields, values, sheet, rfl, hfields, hvalues, hcard, hsheet, hrun⟩

/-! ## looking at a block -/

/-- What looking at a block makes of its parameter values.  A value for which there is no parameter
is left alone, and a parameter gets what its editor makes of its value, or of its preset or default
where it has none.  A value that was there stays exactly when the editor holds it as it is. -/
structure Looked (entry old new : Fields) : Prop where
  other : ∀ name, descriptor? entry name = none → Assoc.get? new name = Assoc.get? old name
  shown : ∀ name d, descriptor? entry name = some d →
    ∃ w, held d (startValue old (ownPresets entry) d name) = .ok w ∧ Assoc.get? new name = some w
  kept : ∀ name d v, descriptor? entry name = some d → Assoc.get? old name = some v → v ≠ .null →
    (Assoc.get? new name = some v ↔ Kept d v)

/-- Looking at a block sets in it what its fields hold. -/
theorem looked_of_values (hfields : fieldsOf entry params = .ok fields)
    (hvalues : fields.mapM readField = .ok values) :
    Looked entry params (Assoc.putAll params values) := by
  have hshown {name : Text} {d : Fields} (hd : descriptor? entry name = some d) :
      ∃ w, ShownAs (startValue params (ownPresets entry) d name) d w ∧
        Assoc.get? (Assoc.putAll params values) name = some w := by
    rcases get?_fieldsOf hfields name with ⟨hnone, -⟩ | ⟨d', f, hd', hf, w, hw, hshown⟩
    · rw [hd] at hnone
      cases hnone
    · rcases get?_readField hvalues name with ⟨hnone, -⟩ | ⟨f', v, hf', hv, hvalue⟩
      · rw [hf] at hnone
        cases hnone
      · rw [hd] at hd'
        rw [hf] at hf'
        cases hd'
        cases hf'
        rw [hw] at hvalue
        cases hvalue
        exact ⟨w, hshown, by rw [get?_written hfields hvalues, hv, Option.some_or]⟩
  constructor
  · intro name hnone
    rcases get?_fieldsOf hfields name with ⟨-, hfield⟩ | ⟨d, -, hd, -⟩
    · rcases get?_readField hvalues name with ⟨-, hvalue⟩ | ⟨f, -, hf, -⟩
      · rw [get?_written hfields hvalues, hvalue, Option.none_or]
      · rw [hfield] at hf
        cases hf
    · rw [hnone] at hd
      cases hd
  · intro name d hd
    obtain ⟨w, hw, hnew⟩ := hshown hd
    exact ⟨w, hw.held, hnew⟩
  · intro name d v hd hv hnull
    obtain ⟨w, hw, hnew⟩ := hshown hd
    have hkept := hw.kept
    rw [startValue_of_present hv hnull] at hkept
    rw [hnew, ← hkept, Option.some.injEq]

/-- A block can be called something, and each of its parameters can be labelled and shown in its
editor. -/
def Presentable (i : Inspector) (h : Nat) : Prop :=
  ∃ entry, entryOf i.sheet.catalog (i.session.scene.card h).node = .ok entry ∧
    ∀ e ∈ namedDescriptors entry, (labelOf e.2 e.1).hasText = true ∧ ∃ w,
      held e.2 (startValue (i.session.scene.card h).node.params (ownPresets entry) e.2 e.1) = .ok w

/-- A block can be presented exactly when all its fields can be made. -/
theorem presentable_iff {i : Inspector} {h : Nat}
    (hentry : entryOf i.sheet.catalog (i.session.scene.card h).node = .ok entry) :
    Presentable i h ↔
      ∃ fields, fieldsOf entry (i.session.scene.card h).node.params = .ok fields := by
  have hall : (∃ fields, fieldsOf entry (i.session.scene.card h).node.params = .ok fields) ↔
      ∀ e ∈ namedDescriptors entry, (labelOf e.2 e.1).hasText = true ∧ ∃ w,
        held e.2 (startValue (i.session.scene.card h).node.params (ownPresets entry) e.2 e.1) =
          .ok w := by
    simp only [← exists_fieldOf_iff, ← Outcome.exists_mapM_eq_ok_iff, fieldsOf]
    constructor
    · rintro ⟨fields, hfields⟩
      obtain ⟨entries, hentries, -⟩ := Outcome.bind_eq_ok_iff.mp hfields
      exact ⟨entries, hentries⟩
    · rintro ⟨entries, hentries⟩
      exact ⟨_, Outcome.bind_eq_ok_iff.mpr ⟨entries, hentries, rfl⟩⟩
  rw [hall]
  constructor
  · rintro ⟨entry', hentry', hshown⟩
    rw [hentry] at hentry'
    cases hentry'
    exact hshown
  · exact fun hshown => ⟨entry, hentry, hshown⟩

/-- Looking at a block does nothing to it when it cannot be called something or one of its
parameters cannot be shown.  Otherwise it changes only the values of the parameters: those of the
block stay exactly when their editors hold them as they are, and missing ones are filled in. -/
theorem looked_bind (i : Inspector) (h : Nat) :
    (¬ Presentable i h ∧ ∃ fault sheet, (bind h).run i = (.error fault, { i with sheet })) ∨
    Presentable i h ∧ ∃ entry new sheet,
      i.sheet.catalog.entry (i.session.scene.card h).node.type = .ok entry ∧
      Looked entry (i.session.scene.card h).node.params new ∧
      (bind h).run i = (.ok (), { i with
        session.scene := i.session.scene.setCard h fun c =>
          { c with node := { c.node with params := new } }
        sheet }) := by
  rcases bind_cases i h with ⟨hnone, hrun⟩ |
    ⟨entry, fields, values, sheet, hentry, hfields, hvalues, -, -, hrun⟩
  · refine .inl ⟨fun hpresentable => ?_, hrun⟩
    have ⟨entry, hentry, _⟩ := hpresentable
    obtain ⟨fields, hfields⟩ := (presentable_iff hentry).mp hpresentable
    exact hnone entry hentry fields hfields
  · obtain ⟨entry', hentry', htitle⟩ := Outcome.bind_eq_ok_iff.mp hentry
    obtain ⟨title, -, hpure⟩ := Outcome.bind_eq_ok_iff.mp htitle
    cases hpure
    refine .inr ⟨(presentable_iff hentry).mpr ⟨fields, hfields⟩, entry, _, sheet, hentry',
      looked_of_values hfields hvalues, ?_⟩
    rw [hrun, Canvas.Scene.withParams_eq]

/-- An integer does not stay in a parameter for doubles. -/
theorem not_kept_of_decimal {d : Fields} (hd : Editor.kindOf d = .ok .decimal) (n : Int) :
    ¬ Kept d (.int n) := by
  rintro ⟨e, he, hkeeps⟩
  have hkind := (Editor.ofDescriptor_cases he).2
  rw [hd] at hkind
  cases e with
  | decimal s =>
    obtain ⟨x, hx, -⟩ := hkeeps
    cases hx
  | _ => cases hkind

end Looking

section Cut

open scoped Plain

/-- The upper bound of a range that numbers are mapped from. -/
def upperBound : Fields :=
  [("name", .text "in_max"), ("type", .text "number"), ("default", .int 1023)]

/-- A block that maps numbers from a wide range, and the sheet beside it. -/
def wideMapping : Inspector where
  session.scene.cards := [{
    node := { uid := "a", type := .text "math_map", params := [("in_max", .int 1023)] }
    title := "math_map" }]
  sheet.catalog := [("math_map", .dict [("params", .list [.dict upperBound])])]

/-- Looking at it cuts the bound down to the range of the plain editor; and there are no widgets
with which the integer would stay. -/
theorem bound_cut_by_looking :
    Assoc.get? (wideMapping.session.scene.card 0).node.params "in_max" = some (.int 1023) ∧
      ((bind 0).run wideMapping).1 = .ok () ∧
      Assoc.get? (((bind 0).run wideMapping).2.session.scene.card 0).node.params "in_max" =
        some (.float 99.99) ∧
      ∀ T : Platform, ¬ @Kept T upperBound (.int 1023) := by
  refine ⟨by decide +kernel, by decide +kernel, by decide +kernel, fun T => ?_⟩
  exact not_kept_of_decimal (by decide +kernel) 1023

end Cut

end Inspect

end BlockSketch
