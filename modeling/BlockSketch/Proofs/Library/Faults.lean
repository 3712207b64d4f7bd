import BlockSketch.Proofs.Library.Reading

/-!
# BlockSketch.Proofs.Library.Faults

The faults for which a file gives no library.  Most of them are complaints about the
library; the others stray past whoever waits for such a complaint.

* `Outcome.Strays` — an outcome that is neither a result nor a complaint about a library;
* `Outcome.StraysUnless` — an outcome that is no complaint, and when it is a result;
* `Json.document_error` — the faults of a file that holds no document;
* `strays_ofMapping_iff` — what strays past in the reading of an object;
* `strays_load_iff` — the files for which something does.
-/

namespace BlockSketch

/-! ## outcomes -/

namespace Outcome

variable {α β : Type} {o : Outcome α} {f : α → Outcome β}

/-- The outcome is neither a result nor a complaint about a library. -/
def Strays (o : Outcome α) : Prop := ∃ fault, o = .error fault ∧ ∀ cause, fault ≠ .library cause

@[simp] theorem not_strays_ok (a : α) : ¬ Strays (.ok a : Outcome α) := by
  rintro ⟨fault, h, -⟩
  exact nomatch h

@[simp] theorem strays_error_iff (fault : Fault) :
    Strays (.error fault : Outcome α) ↔ ∀ cause, fault ≠ .library cause := by
  constructor
  · rintro ⟨_, h, hcause⟩
    cases h
    exact hcause
  · exact fun h => ⟨fault, rfl, h⟩

theorem not_strays_iff :
    ¬ o.Strays ↔ (∃ a, o = .ok a) ∨ ∃ cause, o = .error (.library cause) := by
  cases o <;> simp

/-- Outcomes in a row stray where the first of them strays, or the second does after it. -/
theorem strays_bind_iff : (o >>= f).Strays ↔ o.Strays ∨ ∃ a, o = .ok a ∧ (f a).Strays := by
  cases o with
  | error fault => simp [bind, Except.bind]
  | ok a => simp [bind, Except.bind]

theorem strays_bind_of {S : Prop} (h : ∀ a, o = .ok a → ((f a).Strays ↔ S)) :
    (o >>= f).Strays ↔ o.Strays ∨ (∃ a, o = .ok a) ∧ S := by
  rw [strays_bind_iff]
  refine or_congr Iff.rfl ⟨fun ⟨a, ha, hf⟩ => ⟨⟨a, ha⟩, (h a ha).mp hf⟩, ?_⟩
  rintro ⟨⟨a, ha⟩, hS⟩
  exact ⟨a, ha, (h a ha).mpr hS⟩

theorem strays_map_iff (g : α → β) : Strays (o.map g) ↔ o.Strays := by
  cases o <;> simp [Except.map]

/-- A list strays when its first item that is not read does. -/
theorem strays_mapM_iff {as : List α} : (as.mapM f).Strays ↔ ∃ before a after,
    as = before ++ a :: after ∧ (∀ a ∈ before, ∃ b, f a = .ok b) ∧ (f a).Strays := by
  constructor
  · rintro ⟨fault, hfault, hcause⟩
    obtain ⟨before, a, after, has, hbefore, ha⟩ := mapM_eq_error_iff.mp hfault
    exact ⟨before, a, after, has, hbefore, fault, ha, hcause⟩
  · rintro ⟨before, a, after, has, hbefore, fault, ha, hcause⟩
    exact ⟨fault, mapM_eq_error_iff.mpr ⟨before, a, after, has, hbefore, ha⟩, hcause⟩

/-- Outcomes none of which strays do not stray together. -/
theorem not_strays_mapM {as : List α} (h : ∀ a ∈ as, ¬ (f a).Strays) : ¬ (as.mapM f).Strays := by
  rw [strays_mapM_iff]
  rintro ⟨before, a, after, rfl, -, ha⟩
  exact h a (by simp) ha

/-- The outcome is a result where `P` holds, and strays otherwise. -/
def StraysUnless (o : Outcome α) (P : Prop) : Prop := (P ∧ ∃ a, o = .ok a) ∨ ¬ P ∧ o.Strays

namespace StraysUnless

variable {P Q : Prop}

theorem ok (a : α) : StraysUnless (.ok a) True := .inl ⟨trivial, a, rfl⟩

theorem error {fault : Fault} (h : ∀ cause, fault ≠ .library cause) :
    StraysUnless (.error fault : Outcome α) False := .inr ⟨id, fault, rfl, h⟩

theorem of_iff (h : o.StraysUnless P) (hiff : P ↔ Q) : o.StraysUnless Q := propext hiff ▸ h

/-- There is a result exactly where `P` holds. -/
theorem ok_iff (h : o.StraysUnless P) : (∃ a, o = .ok a) ↔ P := by
  rcases h with ⟨hP, hok⟩ | ⟨hP, hstrays⟩
  · exact iff_of_true hok hP
  · refine iff_of_false ?_ hP
    rintro ⟨a, rfl⟩
    exact not_strays_ok a hstrays

/-- The outcome strays exactly where it does not. -/
theorem strays_iff (h : o.StraysUnless P) : o.Strays ↔ ¬ P := by
  rcases h with ⟨hP, a, rfl⟩ | ⟨hP, hstrays⟩
  · exact iff_of_false (not_strays_ok a) (not_not_intro hP)
  · exact iff_of_true hstrays hP

theorem map (h : o.StraysUnless P) (g : α → β) : StraysUnless (o.map g) P := by
  rcases h with ⟨hP, a, rfl⟩ | ⟨hP, hstrays⟩
  · exact .inl ⟨hP, g a, rfl⟩
  · exact .inr ⟨hP, (strays_map_iff g).mpr hstrays⟩

/-- Outcomes in a row are a result where both are. -/
theorem bind (h : o.StraysUnless P) (hf : ∀ a, o = .ok a → (f a).StraysUnless Q) :
    (o >>= f).StraysUnless (P ∧ Q) := by
  rcases h with ⟨hP, a, rfl⟩ | ⟨hP, hstrays⟩
  · exact (hf a rfl).of_iff (and_iff_right hP).symm
  · exact .inr ⟨fun h => hP h.1, strays_bind_iff.mpr (.inl hstrays)⟩

/-- Where no item is complained of, a list is read when all its items are, and strays otherwise. -/
theorem mapM {P : α → Prop} {as : List α} (h : ∀ a ∈ as, (f a).StraysUnless (P a)) :
    (as.mapM f).StraysUnless (∀ a ∈ as, P a) := by
  induction as with
  | nil => exact (ok []).of_iff (by simp)
  | cons a as ih =>
    rw [List.mapM_cons]
    have hrest := ih fun b hb => h b (List.mem_cons_of_mem a hb)
    refine ((h a List.mem_cons_self).bind fun b _ => hrest.bind fun bs _ => ok (b :: bs)).of_iff ?_
    rw [and_true, List.forall_mem_cons]

end StraysUnless

end Outcome

/-! ## files -/

/-- The faults of a file that holds no document, a missing file and a text that is not JSON
apart. -/
def Json.unreadable : List Fault := [.notEncodable, .notUnicode, .malformed, .tooDeep]

/-- A file without a document is missing, is not JSON, or cannot be read. -/
theorem Json.document_error {c : Json.Content} {fault : Fault} (h : c.document = .error fault) :
    fault = .noSuchFile ∨ (∃ problem, fault = .notJson problem) ∨ fault ∈ unreadable := by
  unfold Json.Content.document at h
  rcases Outcome.bind_eq_error_iff.mp h with hread | ⟨s, -, hparse⟩
  · cases hsource : c.source with
    | missing =>
      rw [hsource] at hread
      cases hread
      exact .inl rfl
    | text t =>
      simp only [hsource, Json.Source.read] at hread
      split at hread
      · exact nomatch hread
      · cases hread
        exact .inr (.inr (by simp [unreadable]))
    | bytes bs =>
      simp only [hsource, Json.Source.read] at hread
      split at hread
      · exact nomatch hread
      · cases hread
        exact .inr (.inr (by simp [unreadable]))
  · unfold Json.parse Json.parseChars at hparse
    split at hparse
    · cases hparse
      exact .inr (.inl ⟨_, rfl⟩)
    · split at hparse
      · exact nomatch hparse
      · cases hparse
        exact .inr (.inr (by simp [unreadable]))
      · cases hparse
        exact .inr (.inr (by simp [unreadable]))
      · cases hparse
        exact .inr (.inl ⟨_, rfl⟩)

/-! ## libraries -/

namespace Library

open Outcome

/-- The categories of a library do not say what colour a category has: they are no dictionary, and
they are not a list or a text without the category either. -/
def Colorless (categories : Value) (category : Text) : Prop :=
  categories.asDict? = none ∧ holdsText categories category ≠ .ok false

/-- An entry takes its colour from categories that do not say it. -/
def Uncolored (categories : Value) (entry : Value) : Prop :=
  ∃ fs, entry = .dict fs ∧ (trimmed fs "id").isEmpty = false ∧
    (trimmed fs "category").isEmpty = false ∧
    Fields.text? fs "color" = none ∧ Colorless categories (trimmed fs "category")

/-- An object from which no library is read, although it has a list of blocks: an entry takes its
colour from categories that do not say it, or there is no room for a copy of the object. -/
def Misread (room : Json.Room) (fs : Fields) : Prop :=
  ∃ entries, fs.opt "blocks" = .list entries ∧
    ((∃ entry ∈ entries, Uncolored (fs.get "categories" (.dict [])) entry) ∨
      room.copies (.dict fs) = false)

/-- A category has its colour unless the categories do not say it. -/
theorem categoryColor_straysUnless (categories : Value) (category : Text) :
    (categoryColor categories category).StraysUnless (¬ Colorless categories category) := by
  unfold categoryColor Colorless StraysUnless
  cases categories with
  | dict fs =>
    cases h : Assoc.has fs category <;>
      simp [holdsText, h, Value.fields, Value.asDict?, bind, Except.bind, pure, Except.pure]
  | list items =>
    cases h : items.contains (.text category) <;>
      simp only [holdsText, h, Value.fields, Value.asDict?, bind, Except.bind] <;>
        simp [pure, Except.pure]
  | text t =>
    cases h : Text.contains t category <;>
      simp [holdsText, h, Value.fields, Value.asDict?, bind, Except.bind, pure, Except.pure]
  | _ => simp [holdsText, Value.asDict?, bind, Except.bind]

/-- An entry of an object has a colour of its own, or takes that of its category. -/
theorem mappingRule_straysUnless (categories : Value) (fs : Fields) (category : Text) :
    ((mappingRule categories).color fs category).StraysUnless
      (Fields.text? fs "color" = none → ¬ Colorless categories category) := by
  unfold mappingRule
  dsimp only
  cases Fields.text? fs "color" with
  | some color => exact (StraysUnless.ok _).of_iff (by simp)
  | none => exact (categoryColor_straysUnless categories category).of_iff (by simp)

/-- The reading of an entry strays only for want of a colour. -/
theorem readEntry_straysUnless {rule : EntryRule} {P : Fields → Text → Prop}
    (h : ∀ fs category, (rule.color fs category).StraysUnless (P fs category)) (v : Value) :
    (readEntry rule v).StraysUnless (∀ fs, v = .dict fs → (trimmed fs "id").isEmpty = false →
      (trimmed fs "category").isEmpty = false → P fs (trimmed fs "category")) := by
  unfold readEntry
  cases v with
  | dict fs =>
    dsimp only
    split
    · next hempty =>
      refine (StraysUnless.ok _).of_iff (iff_of_true trivial fun _ heq hid hcategory => ?_)
      cases heq
      simp [hid, hcategory] at hempty
    · next hfull =>
      simp only [Bool.or_eq_true, not_or, Bool.not_eq_true] at hfull
      refine ((h fs _).bind fun color _ => StraysUnless.ok _).of_iff ?_
      simp [hfull]
  | _ => exact (StraysUnless.ok _).of_iff (by simp)

/-- A list of entries is always a library. -/
theorem not_strays_ofList (entries : List Value) : ¬ (ofList entries).Strays := by
  have hentry (v : Value) : (readEntry listRule v).StraysUnless True :=
    (readEntry_straysUnless (P := fun _ _ => True) (fun fs _ => StraysUnless.ok _)
      v).of_iff (by simp)
  have hread := (StraysUnless.mapM fun v (_ : v ∈ entries) => hentry v).bind fun read _ =>
    StraysUnless.ok (Library.mk (read.filterMap id) (some (.dict fallback)) .list
      (collectAliases (read.filterMap id)))
  exact hread.strays_iff.not.mpr (by simp)

/-- The reading of an object with a list of blocks. -/
theorem ofMapping_straysUnless (room : Json.Room) {fs : Fields} {entries : List Value}
    (h : fs.opt "blocks" = .list entries) :
    (ofMapping room fs).StraysUnless (¬ Misread room fs) := by
  have hmisread : Misread room fs ↔
      (∃ entry ∈ entries, Uncolored (fs.get "categories" (.dict [])) entry) ∨
        room.copies (.dict fs) = false := by
    unfold Misread
    rw [h]
    simp
  have hentry (v : Value) :
      (readEntry (mappingRule (fs.get "categories" (.dict []))) v).StraysUnless
      (¬ Uncolored (fs.get "categories" (.dict [])) v) := by
    refine (readEntry_straysUnless (mappingRule_straysUnless _) v).of_iff ?_
    unfold Uncolored
    simp only [not_exists, not_and]
  unfold ofMapping
  rw [h, hmisread]
  refine ((StraysUnless.mapM fun v _ => hentry v).bind
    (Q := ¬ room.copies (.dict fs) = false) fun read _ => ?_).of_iff (by simp)
  dsimp only
  split
  · next hflat => exact (StraysUnless.ok _).of_iff (by simp [hflat])
  · next hdeep => exact (StraysUnless.error (by simp)).of_iff (by simp [hdeep])

/-- What strays past in the reading of a library from an object. -/
theorem strays_ofMapping_iff (room : Json.Room) (fs : Fields) :
    (ofMapping room fs).Strays ↔ Misread room fs := by
  by_cases hlist : ∃ entries, fs.opt "blocks" = .list entries
  · obtain ⟨entries, hentries⟩ := hlist
    rw [(ofMapping_straysUnless room hentries).strays_iff, not_not]
  · refine iff_of_false ?_ fun ⟨entries, hentries, _⟩ => hlist ⟨entries, hentries⟩
    unfold ofMapping
    split
    · next entries hentries => exact absurd ⟨entries, hentries⟩ hlist
    · simp

/-- The files for which the reading of a library strays. -/
def Lost (content : Json.Content) : Prop :=
  (∃ fault ∈ Json.unreadable, content.document = .error fault) ∨
    ∃ fs, content.document = .ok (.dict fs) ∧ Misread content.room fs

/-- The files for which reading strays are the lost ones. -/
theorem strays_load_iff (file : Text) (content : Json.Content) :
    (load file content).Strays ↔ Lost content := by
  unfold load Lost
  cases hdocument : content.document with
  | error fault =>
    rcases Json.document_error hdocument with rfl | ⟨problem, rfl⟩ | hfault
    · simp [Json.unreadable]
    · simp [Json.unreadable]
    · refine iff_of_true ?_ (.inl ⟨fault, hfault, rfl⟩)
      simp only [Json.unreadable, List.mem_cons, List.not_mem_nil, or_false] at hfault
      rcases hfault with rfl | rfl | rfl | rfl <;> simp
  | ok v =>
    cases v with
    | list entries => simp [ofDocument, not_strays_ofList]
    | dict fs => simp [ofDocument, strays_ofMapping_iff]
    | _ => simp [ofDocument]

end Library

end BlockSketch
