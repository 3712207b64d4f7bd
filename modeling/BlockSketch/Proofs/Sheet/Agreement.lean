import BlockSketch.Proofs.Sheet.Looking

/-!
# BlockSketch.Proofs.Sheet.Agreement

The editors of a sheet and the block that it shows.  Whatever the widgets are and whatever is done
at the sheet, as long as nothing stops it and the signal of a widget carries the value that is then
held, the block has in each of its parameters just what the editor for it holds, and nothing else
of the scene is changed.

* `Settles.agrees`, `Settles.confined` — one field and one value that change together;
* `agrees_bind`, `agrees_edit`, `agrees_reset` — the steps at a sheet;
* `agrees_of_passesAll` — any number of them.
-/

namespace BlockSketch

open Inspect

section Sheets

variable [Platform]

namespace Inspector

/-- The block on the sheet is one of the scene, and every editor holds the value that it has. -/
structure Agrees (i : Inspector) : Prop where
  shown : ∀ h, i.sheet.card = some h → h < i.session.scene.cards.length
  value : ∀ h, i.sheet.card = some h → ∀ name f, Assoc.get? i.sheet.fields name = some f →
    ∃ v, f.editor.value = .ok v ∧ Assoc.get? (i.session.scene.card h).node.params name = some v

/-- Nothing changed but values of the block on the sheet for which there are editors: no other
block, and no value without an editor. -/
structure Confined (i i' : Inspector) : Prop where
  others : ∀ h, i'.sheet.card ≠ some h → i'.session.scene.card h = i.session.scene.card h
  bound : ∀ h, i'.sheet.card = some h → ∀ name, Assoc.get? i'.sheet.fields name = none →
    Assoc.get? (i'.session.scene.card h).node.params name =
      Assoc.get? (i.session.scene.card h).node.params name

/-- A sheet that shows no block disagrees with none. -/
theorem Agrees.of_not_shown {i : Inspector} (h : i.sheet.card = none) : i.Agrees where
  shown c hc := by
    rw [h] at hc
    cases hc
  value c hc := by
    rw [h] at hc
    cases hc

/-- The sheet shows the block that it showed, with no field less. -/
structure Within (i i' : Inspector) : Prop extends Confined i i' where
  card : i'.sheet.card = i.sheet.card
  names : ∀ name, Assoc.get? i'.sheet.fields name = none → Assoc.get? i.sheet.fields name = none

theorem Within.of_scene {i i' : Inspector} (hscene : i'.session.scene = i.session.scene)
    (hcard : i'.sheet.card = i.sheet.card)
    (hnames : ∀ name, Assoc.get? i'.sheet.fields name = none →
      Assoc.get? i.sheet.fields name = none) :
    Within i i' where
  others h _ := by rw [hscene]
  bound h _ name _ := by rw [hscene]
  card := hcard
  names := hnames

/-- Changes that stay within a sheet may follow each other. -/
theorem Within.trans {i i' i'' : Inspector} (h : Within i i') (h' : Within i' i'') :
    Within i i'' where
  others c hc := (h'.others c hc).trans (h.others c (h'.card ▸ hc))
  bound c hc name hname :=
    (h'.bound c hc name hname).trans (h.bound c (h'.card ▸ hc) name (h'.names name hname))
  card := h'.card.trans h.card
  names name hname := h.names name (h'.names name hname)

/-! ## one field -/

/-- A field of the sheet is replaced, and its value is set in the block. -/
structure Settles (h : Nat) (name : Text) (f : SheetField) (i i' : Inspector) : Prop where
  sheet : i'.sheet = { i.sheet with fields := Assoc.put i.sheet.fields name f }
  scene : ∃ w, f.editor.value = .ok w ∧ i'.session.scene = i.session.scene.withParams h [(name, w)]

section Settling

variable {h : Nat} {name : Text} {f : SheetField} {i i' : Inspector}

/-- A field that is settled agrees with the block, and so do the others as before. -/
theorem Settles.agrees (hs : Settles h name f i i') (hi : i.Agrees)
    (hcard : i.sheet.card = some h) :
    i'.Agrees := by
  obtain ⟨w, hw, hscene⟩ := hs.scene
  have hh := hi.shown h hcard
  constructor
  · intro h' hcard'
    rw [hs.sheet] at hcard'
    rw [hscene, Canvas.Scene.length_cards_withParams]
    exact hi.shown h' hcard'
  · intro h' hcard' other g hg
    rw [hs.sheet] at hcard' hg
    obtain rfl : h = h' := Option.some.inj (hcard.symm.trans hcard')
    rw [hscene, Canvas.Scene.params_withParams _ hh]
    by_cases hname : name = other
    · subst hname
      rw [Assoc.get?_put_self] at hg
      cases hg
      exact ⟨w, hw, Assoc.get?_put_self ..⟩
    · rw [Assoc.get?_put_of_ne _ _ hname] at hg
      obtain ⟨v, hv, hget⟩ := hi.value h hcard other g hg
      exact ⟨v, hv, (Assoc.get?_put_of_ne _ _ hname).trans hget⟩

/-- A field that is settled changes its own value only. -/
theorem Settles.within (hs : Settles h name f i i') (hi : i.Agrees)
    (hcard : i.sheet.card = some h) :
    Within i i' := by
  obtain ⟨w, -, hscene⟩ := hs.scene
  have hcard' : i'.sheet.card = some h := by
    rw [hs.sheet]
    exact hcard
  have hnames {other : Text} (hother : Assoc.get? i'.sheet.fields other = none) :
      name ≠ other ∧ Assoc.get? i.sheet.fields other = none := by
    rw [hs.sheet] at hother
    exact (Assoc.get?_put_eq_none_iff ..).mp hother
  refine ⟨⟨?_, ?_⟩, hcard'.trans hcard.symm, fun other hother => (hnames hother).2⟩
  · intro h' hne
    rw [hscene]
    refine Canvas.Scene.card_withParams_of_ne _ _ ?_
    rintro rfl
    exact hne hcard'
  · intro h' hbound other hother
    obtain rfl : h = h' := Option.some.inj (hcard'.symm.trans hbound)
    rw [hscene, Canvas.Scene.params_withParams _ (hi.shown h hcard)]
    exact Assoc.get?_put_of_ne _ _ (hnames hother).1

/-- A field that is replaced by one which holds the same value goes on agreeing with the block. -/
theorem Agrees.replace {e : Editor} (hi : i.Agrees) (hf : Assoc.get? i.sheet.fields name = some f)
    (hsame : e.value = f.editor.value) (hcard : i'.sheet.card = i.sheet.card)
    (hfields : i'.sheet.fields = Assoc.put i.sheet.fields name { f with editor := e })
    (hscene : i'.session.scene = i.session.scene) : i'.Agrees := by
  refine ⟨?_, fun h hh other g hg => ?_⟩
  · rw [hcard, hscene]
    exact hi.shown
  · rw [hcard] at hh
    rw [hfields] at hg
    rw [hscene]
    by_cases hname : name = other
    · subst hname
      rw [Assoc.get?_put_self] at hg
      cases hg
      obtain ⟨v, hv, hget⟩ := hi.value h hh name f hf
      exact ⟨v, hsame.trans hv, hget⟩
    · rw [Assoc.get?_put_of_ne _ _ hname] at hg
      exact hi.value h hh other g hg

end Settling

end Inspector

namespace Inspect

open Inspector

variable {h : Nat} {name : Text} {i i' : Inspector}

/-! ## showing a block -/

/-- A block that is shown has in every editor the value written back to it. -/
theorem agrees_bind (hh : h < i.session.scene.cards.length) (hrun : (bind h).run i = (.ok (), i')) :
    i'.Agrees ∧ Confined i i' := by
  rcases bind_cases i h with ⟨-, fault, sheet, herror⟩ |
    ⟨entry, fields, values, sheet, -, hfields, hvalues, hcard, hsheet, hok⟩
  · rw [hrun] at herror
    cases herror
  · rw [hrun] at hok
    cases hok
    have hparams (name : Text) :
        Assoc.get? ((i.session.scene.withParams h values).card h).node.params name =
        (Assoc.get? values name).or (Assoc.get? (i.session.scene.card h).node.params name) := by
      rw [Canvas.Scene.params_withParams _ hh]
      exact get?_written hfields hvalues name
    have hshown {h' : Nat} (hh' : sheet.card = some h') : h = h' :=
      Option.some.inj (hcard.symm.trans hh')
    subst hsheet
    refine ⟨⟨?_, ?_⟩, ?_, ?_⟩
    · intro h' hh'
      rw [Canvas.Scene.length_cards_withParams, ← hshown hh']
      exact hh
    · intro h' hh' name f hf
      obtain rfl := hshown hh'
      rcases get?_readField hvalues name with ⟨hnone, -⟩ | ⟨f', v, hf', hv, hvalue⟩
      · rw [hf] at hnone
        cases hnone
      · rw [hf] at hf'
        cases hf'
        exact ⟨v, hvalue, by rw [hparams, hv, Option.some_or]⟩
    · intro h' hne
      refine Canvas.Scene.card_withParams_of_ne _ _ ?_
      rintro rfl
      exact hne hcard
    · intro h' hh' name hnone
      obtain rfl := hshown hh'
      rcases get?_readField hvalues name with ⟨-, hvalue⟩ | ⟨f, -, hf, -⟩
      · rw [hparams, hvalue, Option.none_or]
      · rw [hnone] at hf
        cases hf

/-! ## inputs -/

/-- The value that an editor announced is set in the block on the sheet, if there is one. -/
theorem takeOver_cases {w : Value} (hrun : (takeOver name w).run i = (.ok (), i')) :
    i'.sheet = i.sheet ∧
      i'.session.scene =
        i.sheet.card.elim i.session.scene fun h => i.session.scene.withParams h [(name, w)] := by
  cases hcard : i.sheet.card with
  | none =>
    have hnone : (takeOver name w).run i = (.ok (), i) := by
      unfold takeOver
      rw [run_of_ok (show sheet.run i = (.ok i.sheet, i) from rfl), hcard]
      rfl
    rw [hrun] at hnone
    cases hnone
    exact ⟨rfl, rfl⟩
  | some h =>
    obtain ⟨o, log, hannounce⟩ := run_announceParams h
      { i with session.scene := i.session.scene.withParams h [(name, w)] }
    have hsome : (takeOver name w).run i = (onCanvas (Canvas.Edit.announceParams h)).run
        { i with session.scene := i.session.scene.withParams h [(name, w)] } := by
      unfold takeOver
      rw [run_of_ok (show sheet.run i = (.ok i.sheet, i) from rfl), hcard]
      exact run_of_ok (run_setParam h name w i)
    rw [hrun, hannounce] at hsome
    cases hsome
    exact ⟨rfl, rfl⟩

theorem field_cases {f : SheetField} (hrun : (field name).run i = (.ok f, i')) :
    Assoc.get? i.sheet.fields name = some f ∧ i' = i := by
  unfold field at hrun
  rw [run_of_ok (show sheet.run i = (.ok i.sheet, i) from rfl)] at hrun
  split at hrun
  · next found hfound =>
    cases hrun
    exact ⟨hfound, rfl⟩
  · cases hrun

/-- An input changes the field of its editor, and the value that is announced, if any, is taken
over. -/
theorem edit_cases {input : Editor → Outcome (Editor × Option (Outcome Value))}
    (hrun : (edit name input).run i = (.ok (), i')) :
    ∃ f e announced, Assoc.get? i.sheet.fields name = some f ∧ input f.editor = .ok (e, announced) ∧
      i'.sheet = { i.sheet with fields := Assoc.put i.sheet.fields name { f with editor := e } } ∧
      match announced with
      | none => i'.session.scene = i.session.scene
      | some v => ∃ w, v = .ok w ∧ i'.session.scene =
          i.sheet.card.elim i.session.scene fun h => i.session.scene.withParams h [(name, w)] := by
  obtain ⟨f, j, hfield, hrest⟩ := exists_of_run_ok hrun
  obtain ⟨hf, hj⟩ := field_cases hfield
  rw [hj] at hrest
  obtain ⟨⟨e, announced⟩, hinput, hrest⟩ := exists_of_ofExcept_ok hrest
  refine ⟨f, e, announced, hf, hinput, ?_⟩
  cases announced with
  | none =>
    cases hrest
    exact ⟨rfl, rfl⟩
  | some v =>
    obtain ⟨w, hw, htake⟩ :=
      exists_of_ofExcept_ok (i := { i with sheet := { i.sheet with fields := _ } }) hrest
    obtain ⟨hsheet, hscene⟩ := takeOver_cases htake
    exact ⟨hsheet, w, hw, hscene⟩

/-- Whether an editor announces the value that it holds after an input; without an announcement this
has to be the value that it held before. -/
def carries (e : Editor) : Outcome (Editor × Option (Outcome Value)) → Bool
  | .ok (e', some v) => decide (v = e'.value)
  | .ok (e', none) => decide (e'.value = e.value)
  | .error _ => true

/-- An input keeps the agreement when the editor announces the value that it holds after it. -/
theorem agrees_edit (input : Editor → Outcome (Editor × Option (Outcome Value))) (hi : i.Agrees)
    (hcarries : ∀ f ∈ Assoc.get? i.sheet.fields name, carries f.editor (input f.editor) = true)
    (hrun : (edit name input).run i = (.ok (), i')) : i'.Agrees ∧ Confined i i' := by
  obtain ⟨f, e, announced, hf, hinput, hsheet, hscene⟩ := edit_cases hrun
  have hnames (other : Text) (hother : Assoc.get? i'.sheet.fields other = none) :
      Assoc.get? i.sheet.fields other = none := by
    rw [hsheet] at hother
    exact ((Assoc.get?_put_eq_none_iff ..).mp hother).2
  have hcard : i'.sheet.card = i.sheet.card := by rw [hsheet]
  have hcarried := hcarries f hf
  rw [hinput] at hcarried
  cases announced with
  | none =>
    have hsame : e.value = f.editor.value := of_decide_eq_true hcarried
    have hfields : i'.sheet.fields = Assoc.put i.sheet.fields name { f with editor := e } := by
      rw [hsheet]
    exact ⟨hi.replace hf hsame hcard hfields hscene,
      (Within.of_scene hscene hcard hnames).toConfined⟩
  | some v =>
    obtain ⟨w, rfl, hscene⟩ := hscene
    cases hshown : i.sheet.card with
    | none =>
      rw [hshown] at hcard hscene
      exact ⟨.of_not_shown hcard, (Within.of_scene hscene (hcard.trans hshown.symm)
        hnames).toConfined⟩
    | some h =>
      rw [hshown] at hscene
      have hheld : e.value = .ok w := (of_decide_eq_true hcarried).symm
      have hsettles : Settles h name { f with editor := e } i i' := ⟨hsheet, w, hheld, hscene⟩
      exact ⟨hsettles.agrees hi hshown, (hsettles.within hi hshown).toConfined⟩

/-! ## resetting -/

/-- Set a field back to the preset or the default of its parameter. -/
def resetField (h : Nat) (presets : Fields) (e : Text × SheetField) : Inspect Unit := do
  let value := match Fields.opt presets e.1 with
    | .null => Fields.opt e.2.descriptor "default"
    | v => v
  let editor ← MonadExcept.ofExcept (e.2.editor.display e.2.descriptor value)
  change fun s => { s with fields := Assoc.put s.fields e.1 { e.2 with editor } }
  setParam h e.1 (← MonadExcept.ofExcept editor.value)

/-- Setting a field back settles it. -/
theorem settles_resetField {presets : Fields} {e : Text × SheetField}
    (hrun : (resetField h presets e).run i = (.ok (), i')) : ∃ f, Settles h e.1 f i i' := by
  obtain ⟨editor, hdisplay, hrest⟩ := exists_of_ofExcept_ok hrun
  obtain ⟨w, hvalue, hset⟩ :=
    exists_of_ofExcept_ok (i := { i with sheet := { i.sheet with fields := _ } }) hrest
  cases hset
  exact ⟨{ e.2 with editor }, rfl, w, hvalue, rfl⟩

/-- So fields can be set back one after the other. -/
theorem agrees_resetFields {presets : Fields} {entries : List (Text × SheetField)} (hi : i.Agrees)
    (hcard : i.sheet.card = some h)
    (hrun : (entries.forM (resetField h presets)).run i = (.ok (), i')) :
    i'.Agrees ∧ Within i i' := by
  induction entries generalizing i with
  | nil =>
    cases hrun
    exact ⟨hi, .of_scene rfl rfl fun _ hname => hname⟩
  | cons e entries ih =>
    obtain ⟨_, j, hfirst, hrest⟩ := exists_of_run_ok hrun
    obtain ⟨f, hsettles⟩ := settles_resetField hfirst
    have hwithin := hsettles.within hi hcard
    obtain ⟨hagrees, hmore⟩ := ih (hsettles.agrees hi hcard) (hwithin.card.trans hcard) hrest
    exact ⟨hagrees, hwithin.trans hmore⟩

theorem agrees_reset (hi : i.Agrees) (hrun : reset.run i = (.ok (), i')) :
    i'.Agrees ∧ Confined i i' := by
  have hsame (hi' : i' = i) : i'.Agrees ∧ Confined i i' := by
    subst hi'
    exact ⟨hi, (Within.of_scene rfl rfl fun _ hname => hname).toConfined⟩
  unfold reset at hrun
  rw [run_of_ok (show sheet.run i = (.ok i.sheet, i) from rfl)] at hrun
  cases hcard : i.sheet.card with
  | none =>
    rw [hcard] at hrun
    cases hrun
    exact hsame rfl
  | some h =>
    rw [hcard] at hrun
    obtain ⟨entry, -, hrest⟩ := exists_of_ofExcept_ok
      ((run_of_ok (show (node h).run i =
        (.ok (i.session.scene.card h).node, i) from rfl)).symm.trans hrun)
    dsimp only at hrest
    split at hrest
    · obtain ⟨_, j, hfields, hannounce⟩ := exists_of_run_ok hrest
      obtain ⟨hagrees, hwithin⟩ := agrees_resetFields hi hcard hfields
      obtain ⟨o, log, hlog⟩ := run_announceParams h j
      rw [hannounce] at hlog
      cases hlog
      exact ⟨⟨hagrees.shown, hagrees.value⟩, hwithin.others, hwithin.bound⟩
    · cases hrest
      exact hsame rfl

end Inspect

/-! ## what is done at a sheet -/

/-- What can be done at a property sheet: a block is shown, a value is entered in an editor, a
colour is picked or not, the parameters are set back, no block is shown. -/
inductive SheetAction where
  | bind (card : Nat)
  | enter (name : Text) (v : Value)
  | pick (name : Text) (choice : Option Text)
  | reset
  | clear

namespace SheetAction

def act : SheetAction → Inspect Unit
  | .bind h => Inspect.bind h
  | .enter name v => Inspect.edit name (·.edit v)
  | .pick name choice => Inspect.edit name (·.pick choice)
  | .reset => Inspect.reset
  | .clear => Inspect.clear

/-- The block is one of the scene, and the editor announces the value that it then holds. -/
def Proper (i : Inspector) : SheetAction → Prop
  | .bind h => h < i.session.scene.cards.length
  | .enter name v => ∀ f ∈ Assoc.get? i.sheet.fields name, carries f.editor (f.editor.edit v) = true
  | .pick .. | .reset | .clear => True

instance (i : Inspector) : DecidablePred (Proper i)
  | .bind h => inferInstanceAs (Decidable (h < i.session.scene.cards.length))
  | .enter name v => inferInstanceAs
      (Decidable (∀ f ∈ Assoc.get? i.sheet.fields name,
        carries f.editor (f.editor.edit v) = true))
  | .pick .. | .reset | .clear => .isTrue trivial

end SheetAction

namespace Inspector

def after (i : Inspector) (a : SheetAction) : Inspector := (a.act.run i).2

/-- An action is proper, and nothing stops it. -/
def Passes (i : Inspector) (a : SheetAction) : Prop := a.Proper i ∧ (a.act.run i).1 = .ok ()

instance (i : Inspector) : DecidablePred i.Passes :=
  fun a => inferInstanceAs (Decidable (a.Proper i ∧ (a.act.run i).1 = .ok ()))

/-- So are all of the actions, each in its turn. -/
def PassesAll : Inspector → List SheetAction → Prop
  | _, [] => True
  | i, a :: rest => i.Passes a ∧ (i.after a).PassesAll rest

instance decidablePassesAll : (i : Inspector) → DecidablePred i.PassesAll
  | _, [] => .isTrue trivial
  | i, a :: rest =>
    have := decidablePassesAll (i.after a) rest
    inferInstanceAs (Decidable (i.Passes a ∧ (i.after a).PassesAll rest))

/-- One action that passes leaves sheet and block in agreement. -/
theorem agrees_after {i : Inspector} {a : SheetAction} (hi : i.Agrees) (ha : i.Passes a) :
    (i.after a).Agrees ∧ Confined i (i.after a) := by
  obtain ⟨hproper, hok⟩ := ha
  have hrun : a.act.run i = (.ok (), i.after a) := Prod.ext hok rfl
  cases a with
  | bind h => exact agrees_bind hproper hrun
  | enter name v => exact agrees_edit (·.edit v) hi hproper hrun
  | pick name choice =>
    refine agrees_edit (·.pick choice) hi (fun f _ => ?_) hrun
    cases hpick : f.editor.pick choice with
    | error fault => rfl
    | ok result =>
      obtain ⟨e, told⟩ := result
      rcases Editor.value_of_pick hpick with ⟨rfl, rfl⟩ | rfl
      · exact decide_eq_true rfl
      · exact decide_eq_true rfl
  | reset => exact agrees_reset hi hrun
  | clear => exact ⟨.of_not_shown rfl, fun _ _ => rfl, fun _ _ _ _ => rfl⟩

/-- So do actions in turn. -/
theorem agrees_foldl {i : Inspector} {actions : List SheetAction} (hi : i.Agrees)
    (hpasses : i.PassesAll actions) : (actions.foldl after i).Agrees := by
  induction actions generalizing i with
  | nil => exact hi
  | cons a rest ih => exact ih (agrees_after hi hpasses.1).1 hpasses.2

/-- Whatever is done at a sheet that showed no block, the block that it shows has in each parameter
just what the editor for it holds; and no action changes another block, or a value without an
editor. -/
theorem agrees_of_passesAll (start : Inspector) (hstart : start.sheet.card = none)
    (actions : List SheetAction) (hpasses : start.PassesAll actions) :
    (actions.foldl after start).Agrees ∧ ∀ a, (actions.foldl after start).Passes a →
      Confined (actions.foldl after start) ((actions.foldl after start).after a) := by
  have hagrees := agrees_foldl (.of_not_shown hstart) hpasses
  exact ⟨hagrees, fun a ha => (agrees_after hagrees ha).2⟩

end Inspector

end Sheets

namespace Inspector

open scoped Plain

def lampCatalog : Catalog := [("LAMP", .dict [
  ("params", .list [
    .dict [("name", .text "level"), ("type", .text "int"), ("min", .int 0), ("max", .int 100)],
    .dict [("name", .text "mode"), ("type", .text "enum"),
      ("options", .list [.text "slow", .text "fast"])],
    .dict [("name", .text "tint"), ("type", .text "color")]]),
  ("default_params", .dict [("level", .int 5), ("tint", .text "#ffffff")])])]

/-- Two lamps whose brightness is bounded, the one of them without a value for it. -/
def lamps : Inspector where
  session.scene.cards := [
    { node := {
        uid := "a", type := .text "LAMP", params := [("level", .int 70), ("note", .text "old")] }
      title := "LAMP" },
    { node := { uid := "b", type := .text "LAMP" }, title := "LAMP" }]
  session.scene.catalog := lampCatalog
  sheet.catalog := lampCatalog

/-- Values of both lamps are entered, picked and set back. -/
def lampActions : List SheetAction :=
  [.bind 0, .enter "level" (.int 200), .enter "mode" (.int 1), .clear, .bind 1, .reset,
    .enter "tint" (.text "red"), .pick "tint" (some "#00ff00")]

theorem agrees_of_passesAll_lamps : lamps.sheet.card = none ∧ lamps.PassesAll lampActions ∧
    (lampActions.foldl after lamps).sheet.card = some 1 ∧ (lampActions.foldl after lamps).Agrees ∧
    (lampActions.foldl after lamps).Passes (.bind 0) ∧
    Confined (lampActions.foldl after lamps) ((lampActions.foldl after lamps).after (.bind 0)) := by
  have hpasses : lamps.PassesAll lampActions := by decide +kernel
  have hbind : (lampActions.foldl after lamps).Passes (.bind 0) := by decide +kernel
  obtain ⟨hagrees, hconfined⟩ := agrees_of_passesAll lamps rfl lampActions hpasses
  exact ⟨rfl, hpasses, by decide +kernel, hagrees, hbind, hconfined _ hbind⟩

end Inspector

end BlockSketch
