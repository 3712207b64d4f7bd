import BlockSketch.Fault
import Mathlib.Data.List.Forall2

/-!
# BlockSketch.Proofs.Outcome

Lists whose items are read one after the other.  A list is read when all its items
are, and otherwise the first item that is not read gives the fault.

* `mapM_eq_ok_iff`, `mapM_eq_error_iff` — when a list is read, and for which fault not;
* `mapM_map`, `foldlM_eq_map` — functions that are applied to what is read;
* `foldlM_eq_filterMap` — items of which some are passed over;
* `exists_foldlM_eq_ok_iff` — when items are taken in.
-/

namespace BlockSketch.Outcome

variable {α β γ : Type} {f : α → Outcome β}

theorem bind_eq_error_iff {o : Outcome α} {g : α → Outcome β} {fault : Fault} :
    o >>= g = .error fault ↔ o = .error fault ∨ ∃ a, o = .ok a ∧ g a = .error fault := by
  cases o with
  | error cause => simp [bind, Except.bind]
  | ok a => simp [bind, Except.bind]

theorem ok_bind_of {o : Outcome α} {P : Prop} (h : ∀ a, o = .ok a → ((∃ b, f a = .ok b) ↔ P)) :
    (∃ b, o >>= f = .ok b) ↔ (∃ a, o = .ok a) ∧ P := by
  simp only [bind_eq_ok_iff]
  constructor
  · rintro ⟨b, a, ha, hb⟩
    exact ⟨⟨a, ha⟩, (h a ha).mp ⟨b, hb⟩⟩
  · rintro ⟨⟨a, ha⟩, hP⟩
    obtain ⟨b, hb⟩ := (h a ha).mpr hP
    exact ⟨b, a, ha, hb⟩

/-- Outcomes are results together when each of them is, one by one. -/
theorem mapM_eq_ok_iff {as : List α} {bs : List β} :
    as.mapM f = .ok bs ↔ List.Forall₂ (fun a b => f a = .ok b) as bs := by
  induction as generalizing bs with
  | nil => simp [pure, Except.pure, eq_comm]
  | cons a as ih =>
    rw [List.mapM_cons, bind_eq_ok_iff, List.forall₂_cons_left_iff]
    constructor
    · rintro ⟨b, hb, hrest⟩
      obtain ⟨rest, hrest, hbs⟩ := bind_eq_ok_iff.mp hrest
      exact ⟨b, rest, hb, ih.mp hrest, (Except.ok.inj hbs).symm⟩
    · rintro ⟨b, rest, hb, hrest, rfl⟩
      exact ⟨b, hb, bind_eq_ok_iff.mpr ⟨rest, ih.mpr hrest, rfl⟩⟩

/-- What is read comes from an item. -/
theorem exists_of_mem_mapM {as : List α} {bs : List β} (h : as.mapM f = .ok bs) {b : β}
    (hb : b ∈ bs) :
    ∃ a ∈ as, f a = .ok b := by
  induction mapM_eq_ok_iff.mp h with
  | nil => exact absurd hb List.not_mem_nil
  | @cons a b' as bs hab hrest ih =>
    rcases List.mem_cons.mp hb with rfl | hb
    · exact ⟨a, List.mem_cons_self, hab⟩
    · obtain ⟨a', ha', hab'⟩ := ih (mapM_eq_ok_iff.mpr hrest) hb
      exact ⟨a', List.mem_cons_of_mem a ha', hab'⟩

/-- They are so exactly when every one of them is. -/
theorem exists_mapM_eq_ok_iff {as : List α} :
    (∃ bs, as.mapM f = .ok bs) ↔ ∀ a ∈ as, ∃ b, f a = .ok b := by
  induction as with
  | nil => simp [pure, Except.pure]
  | cons a as ih =>
    rw [List.forall_mem_cons, ← ih]
    simp only [List.mapM_cons, bind_eq_ok_iff]
    constructor
    · rintro ⟨bs, b, hb, rest, hrest, -⟩
      exact ⟨⟨b, hb⟩, rest, hrest⟩
    · rintro ⟨⟨b, hb⟩, rest, hrest⟩
      exact ⟨b :: rest, b, hb, rest, hrest, rfl⟩

/-- A list is not read for the fault of its first item that is not read. -/
theorem mapM_eq_error_iff {as : List α} {fault : Fault} :
    as.mapM f = .error fault ↔ ∃ before a after, as = before ++ a :: after ∧
      (∀ a ∈ before, ∃ b, f a = .ok b) ∧ f a = .error fault := by
  induction as with
  | nil => simp [pure, Except.pure]
  | cons a as ih =>
    rw [List.mapM_cons, bind_eq_error_iff]
    constructor
    · rintro (ha | ⟨b, hb, hrest⟩)
      · exact ⟨[], a, as, rfl, by simp, ha⟩
      · obtain hrest | ⟨_, _, hpure⟩ := bind_eq_error_iff.mp hrest
        · obtain ⟨before, a', after, rfl, hbefore, ha'⟩ := ih.mp hrest
          exact ⟨a :: before, a', after, rfl, List.forall_mem_cons.mpr ⟨⟨b, hb⟩, hbefore⟩, ha'⟩
        · exact nomatch hpure
    · rintro ⟨before, a', after, has, hbefore, ha'⟩
      cases before with
      | nil =>
        obtain ⟨rfl, rfl⟩ := List.cons.inj has
        exact .inl ha'
      | cons a'' before =>
        obtain ⟨rfl, rfl⟩ := List.cons.inj has
        obtain ⟨⟨b, hb⟩, hbefore⟩ := List.forall_mem_cons.mp hbefore
        refine .inr ⟨b, hb, bind_eq_error_iff.mpr (.inl (ih.mpr ?_))⟩
        exact ⟨before, a', after, rfl, hbefore, ha'⟩

theorem mapM_map (g : β → γ) (as : List α) :
    as.mapM (fun a => (f a).map g) = (as.mapM f).map (List.map g) := by
  induction as with
  | nil => rfl
  | cons a as ih =>
    rw [List.mapM_cons, List.mapM_cons, ih]
    cases f a with
    | error fault => rfl
    | ok b => cases as.mapM f <;> rfl

/-- Results that are taken in one after the other. -/
theorem foldlM_eq_map (g : γ → β → γ) (as : List α) (c : γ) :
    as.foldlM (fun c a => do let b ← f a; pure (g c b)) c =
      (as.mapM f).map fun bs => bs.foldl g c := by
  induction as generalizing c with
  | nil => rfl
  | cons a as ih =>
    rw [List.foldlM_cons, List.mapM_cons]
    cases f a with
    | error fault => rfl
    | ok b =>
      refine (ih (g c b)).trans ?_
      cases as.mapM f <;> rfl

/-- Items that are taken in one after the other, or passed over, without a fault. -/
theorem foldlM_eq_filterMap {take : γ → α → Outcome γ} {pick : α → Option β} {put : γ → β → γ}
    {as : List α} (h : ∀ c, ∀ a ∈ as, take c a = .ok ((pick a).elim c (put c))) (c : γ) :
    as.foldlM take c = .ok ((as.filterMap pick).foldl put c) := by
  induction as generalizing c with
  | nil => rfl
  | cons a as ih =>
    have hrest := ih fun c b hb => h c b (List.mem_cons_of_mem a hb)
    rw [List.foldlM_cons, h c a List.mem_cons_self, List.filterMap_cons]
    cases pick a with
    | none => exact hrest c
    | some b => exact hrest (put c b)

/-- Items are taken in one after the other when each can be, if that does not hang on those
before. -/
theorem exists_foldlM_eq_ok_iff {take : γ → α → Outcome γ} {P : α → Prop}
    (h : ∀ c a, (∃ c', take c a = .ok c') ↔ P a) (as : List α) (c : γ) :
    (∃ c', as.foldlM take c = .ok c') ↔ ∀ a ∈ as, P a := by
  induction as generalizing c with
  | nil => simp [pure, Except.pure]
  | cons a as ih =>
    rw [List.foldlM_cons, List.forall_mem_cons, ← h c a]
    exact ok_bind_of fun c' _ => ih c'

end BlockSketch.Outcome
