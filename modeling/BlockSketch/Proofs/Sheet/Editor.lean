import BlockSketch.Sheet.Editor

/-!
# BlockSketch.Proofs.Sheet.Editor

What editors make of the values that they show, whatever the widgets are.  An editor that is made
for a descriptor can be read once it shows a value, and what is read is the value itself exactly
when the editor `Keeps` it: the value is of the kind of the editor, and the widget gives back what
was set in it for the value.

* `value_of_display` — an editor that shows a value can be read, and what is read;
* `value_of_pick` — a colour that is picked is announced as it is then held.
-/

namespace BlockSketch

namespace Widget

variable {ι α β : Type} {w : Widget ι α β} {s s' : w.State}

/-- A widget in which something was set holds this. -/
def GivesBack (w : Widget ι α β) (s : w.State) (a : α) (b : β) : Prop :=
  ∃ s', w.set s a = .ok s' ∧ w.value s' = .ok b

/-- What is given back is what the widget holds once something was set. -/
theorem givesBack_iff {a : α} {b b' : β} (hset : w.set s a = .ok s') (hvalue : w.value s' = .ok b) :
    w.GivesBack s a b' ↔ b = b' := by
  constructor
  · rintro ⟨s'', hset', hvalue'⟩
    rw [hset] at hset'
    cases hset'
    rw [hvalue] at hvalue'
    exact Except.ok.inj hvalue'
  · rintro rfl
    exact ⟨s', hset, hvalue⟩

/-- A new widget can be read, whether or not there was something to set. -/
theorem exists_value_of_setSome {i : ι} {a : Option α} (hmake : w.make i = .ok s)
    (hset : Editor.setSome w s a = .ok s') : ∃ b, w.value s' = .ok b := by
  cases a with
  | none =>
    cases hset
    exact (w.readable hmake).1
  | some a => exact (w.readable hmake).2 hset

end Widget

namespace Editor

variable [Platform]

/-! ## new editors -/

/-- The widget of the editor is a new one. -/
def Fresh : Editor → Prop
  | .whole s => ∃ i, Platform.whole.make i = .ok s
  | .decimal s => ∃ i, Platform.decimal.make i = .ok s
  | .choice s => ∃ i, Platform.rows.make i = .ok s
  | .line s | .color s | .free s => ∃ i, Platform.line.make i = .ok s
  | .tick s => ∃ i, Platform.tick.make i = .ok s

/-- The editor for a descriptor is new, and of the kind that the descriptor asks for. -/
theorem ofDescriptor_cases {d : Fields} {e : Editor} (h : ofDescriptor d = .ok e) :
    e.Fresh ∧ kindOf d = .ok e.kind := by
  obtain ⟨kind, hkind, h⟩ := Outcome.bind_eq_ok_iff.mp h
  cases kind with
  | whole | tick | color | line | free =>
    obtain ⟨s, hs, h⟩ := Outcome.bind_eq_ok_iff.mp h
    cases h
    exact ⟨⟨_, hs⟩, hkind⟩
  | decimal | choice =>
    obtain ⟨i, -, h⟩ := Outcome.bind_eq_ok_iff.mp h
    obtain ⟨s, hs, h⟩ := Outcome.bind_eq_ok_iff.mp h
    cases h
    exact ⟨⟨_, hs⟩, hkind⟩

/-! ## showing a value -/

/-- The values that an editor gives back as they were shown. -/
def Keeps (d : Fields) : Editor → Value → Prop
  | .whole s, v => ∃ n, v = .int n ∧ Platform.whole.GivesBack s n n
  | .decimal s, v => ∃ x, v = .float x ∧ Platform.decimal.GivesBack s x x
  | .choice s, v => Platform.rows.GivesBack s (rowFor d s v) v
  | .line s, v | .free s, v => ∃ t, lineText v = .ok t ∧ Platform.line.GivesBack s t v
  | .tick s, v => ∃ b, v = .bool b ∧ Platform.tick.GivesBack s b b
  | .color s, v => ∃ t, colorFor d v = .ok t ∧ Platform.line.GivesBack s t v

section Showing

variable {d : Fields} {v : Value}

theorem value_of_display_whole {s s' : Platform.whole.State} {given : Option Int} {n : Int}
    (hgiven : wholeFor d v = .ok given) (hset : setSome Platform.whole s given = .ok s')
    (hvalue : Platform.whole.value s' = .ok n) : .int n = v ↔ (whole s).Keeps d v := by
  constructor
  · rintro rfl
    cases hgiven
    exact ⟨n, rfl, s', hset, hvalue⟩
  · rintro ⟨m, rfl, hback⟩
    cases hgiven
    rw [(Widget.givesBack_iff hset hvalue).mp hback]

theorem value_of_display_decimal {s s' : Platform.decimal.State} {given : Option Float} {x : Float}
    (hgiven : decimalFor d v = .ok given) (hset : setSome Platform.decimal s given = .ok s')
    (hvalue : Platform.decimal.value s' = .ok x) : .float x = v ↔ (decimal s).Keeps d v := by
  constructor
  · rintro rfl
    cases hgiven
    exact ⟨x, rfl, s', hset, hvalue⟩
  · rintro ⟨y, rfl, hback⟩
    cases hgiven
    rw [(Widget.givesBack_iff hset hvalue).mp hback]

/-- A line is set to a text that the value has; it keeps the value when that is what it holds. -/
theorem value_of_display_line {s s' : Platform.line.State} {given : Outcome Text} {t : Text}
    {w : Value} (hgiven : given = .ok t) (hset : Platform.line.set s t = .ok s')
    (hvalue : Platform.line.value s' = .ok w) :
    w = v ↔ ∃ t, given = .ok t ∧ Platform.line.GivesBack s t v := by
  rw [← Widget.givesBack_iff hset hvalue]
  constructor
  · exact fun hback => ⟨t, hgiven, hback⟩
  · rintro ⟨t', ht', hback⟩
    rw [hgiven] at ht'
    cases ht'
    exact hback

/-- A new editor that shows a value can be read, and gives back just the values it keeps. -/
theorem value_of_display {e e' : Editor} (hfresh : e.Fresh) (h : e.display d v = .ok e') :
    ∃ w, e'.value = .ok w ∧ (w = v ↔ e.Keeps d v) := by
  cases e with
  | whole s =>
    obtain ⟨i, hmake⟩ := hfresh
    obtain ⟨given, hgiven, h⟩ := Outcome.bind_eq_ok_iff.mp h
    obtain ⟨s', hset, h⟩ := Outcome.bind_eq_ok_iff.mp h
    cases h
    obtain ⟨n, hvalue⟩ := Widget.exists_value_of_setSome hmake hset
    exact ⟨.int n, Outcome.bind_eq_ok_iff.mpr ⟨n, hvalue, rfl⟩,
      value_of_display_whole hgiven hset hvalue⟩
  | decimal s =>
    obtain ⟨i, hmake⟩ := hfresh
    obtain ⟨given, hgiven, h⟩ := Outcome.bind_eq_ok_iff.mp h
    obtain ⟨s', hset, h⟩ := Outcome.bind_eq_ok_iff.mp h
    cases h
    obtain ⟨x, hvalue⟩ := Widget.exists_value_of_setSome hmake hset
    exact ⟨.float x, Outcome.bind_eq_ok_iff.mpr ⟨x, hvalue, rfl⟩,
      value_of_display_decimal hgiven hset hvalue⟩
  | choice s =>
    obtain ⟨i, hmake⟩ := hfresh
    obtain ⟨s', hset, h⟩ := Outcome.bind_eq_ok_iff.mp h
    cases h
    obtain ⟨w, hvalue⟩ := (Platform.rows.readable hmake).2 hset
    exact ⟨w, hvalue, (Widget.givesBack_iff hset hvalue).symm⟩
  | tick s =>
    obtain ⟨i, hmake⟩ := hfresh
    obtain ⟨s', hset, h⟩ := Outcome.bind_eq_ok_iff.mp h
    cases h
    obtain ⟨b, hvalue⟩ := (Platform.tick.readable hmake).2 hset
    refine ⟨.bool b, Outcome.bind_eq_ok_iff.mpr ⟨b, hvalue, rfl⟩, ?_⟩
    constructor
    · rintro rfl
      exact ⟨b, rfl, s', hset, hvalue⟩
    · rintro ⟨b', rfl, hback⟩
      rw [(Widget.givesBack_iff hset hvalue).mp hback]
  | line s | free s | color s =>
    obtain ⟨i, hmake⟩ := hfresh
    obtain ⟨t, hgiven, h⟩ := Outcome.bind_eq_ok_iff.mp h
    obtain ⟨s', hset, h⟩ := Outcome.bind_eq_ok_iff.mp h
    cases h
    obtain ⟨w, hvalue⟩ := (Platform.line.readable hmake).2 hset
    exact ⟨w, hvalue, value_of_display_line hgiven hset hvalue⟩

end Showing

/-! ## inputs -/

/-- What a dialog for a colour does: nothing, or it is announced what the editor then holds. -/
theorem value_of_pick {e e' : Editor} {choice : Option Text} {told : Option (Outcome Value)}
    (h : e.pick choice = .ok (e', told)) : (e' = e ∧ told = none) ∨ told = some e'.value := by
  unfold pick at h
  split at h
  · obtain ⟨s, -, h⟩ := Outcome.bind_eq_ok_iff.mp h
    cases h
    exact .inr rfl
  · cases h
    exact .inl ⟨rfl, rfl⟩

end Editor

end BlockSketch
