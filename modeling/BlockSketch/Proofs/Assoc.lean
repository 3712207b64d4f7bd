import BlockSketch.Assoc
import Mathlib.Data.List.Forall2
import Mathlib.Data.List.Induction
import Mathlib.Data.List.Perm.Basic

/-!
# BlockSketch.Proofs.Assoc

Entries that are taken in one after the other.  Values under the same key are gathered in
one group, or only the first of them is kept; either way the keys stand in the order of
their first appearance.

* `keys_foldl`, `nodup_eraseDups` — the keys of what was taken in, each of them once;
* `get?_putAll`, `get?_foldl_putNew` — the last value of a key is read back, or the first;
* `keys_groups`, `getD_groups`, `eq_of_mem_groups` — the groups, and what each of them holds;
* `groups_perm` — every entry is in one group, and once.
-/

namespace BlockSketch.Assoc

variable {α β γ : Type} [DecidableEq α]

/-! ## keys -/

/-- The keys after an entry was taken in: a new key goes last. -/
def keysWith (keys : List α) (key : α) : List α := if key ∈ keys then keys else keys ++ [key]

theorem keys_putNew (m : Assoc α β) (key : α) (value : β) :
    (m.putNew key value).keys = keysWith m.keys key := by
  unfold putNew keysWith
  by_cases h : key ∈ m.keys
  · rw [if_pos h, if_pos ((has_iff_mem_keys m key).mpr h)]
  · rw [if_neg h, if_neg fun hhas => h ((has_iff_mem_keys m key).mp hhas)]
    simp [keys]

/-- Filing under a key makes the key known, at the end if it is new. -/
theorem keys_addToGroup (m : Assoc α (List β)) (key : α) (value : β) :
    (m.addToGroup key value).keys = keysWith m.keys key := by
  unfold addToGroup keysWith
  by_cases h : key ∈ m.keys
  · rw [if_pos h, keys_put_of_mem m _ h]
  · rw [if_neg h, keys_put_of_not_mem m _ h]

/-- The keys stand in the order in which they first appeared. -/
theorem keys_foldl {take : Assoc α γ → α × β → Assoc α γ}
    (htake : ∀ m e, (take m e).keys = keysWith m.keys e.1) (entries : List (α × β)) :
    (entries.foldl take []).keys = (entries.map Prod.fst).eraseDups := by
  induction entries using List.reverseRecOn with
  | nil => rfl
  | append_singleton entries e ih =>
    rw [List.foldl_append, List.foldl_cons, List.foldl_nil, htake, ih, List.map_append,
      List.map_singleton, List.eraseDups_append]
    unfold keysWith
    by_cases h : e.1 ∈ entries.map Prod.fst
    · simp [List.removeAll, List.mem_eraseDups, h]
    · simp [List.removeAll, List.mem_eraseDups, List.eraseDups_cons, h]

/-- Entered one after the other, the first entry of each key gives the key its place. -/
theorem keys_foldl_putNew (entries : List (α × β)) :
    keys (entries.foldl (fun m e => putNew m e.1 e.2) []) = (entries.map Prod.fst).eraseDups :=
  keys_foldl (fun m e => keys_putNew m e.1 e.2) entries

/-! ## values -/

theorem get?_put_eq_none_iff (m : Assoc α β) (key other : α) (value : β) :
    (m.put key value).get? other = none ↔ key ≠ other ∧ m.get? other = none := by
  by_cases h : key = other
  · subst h
    simp [get?_put_self]
  · simp [get?_put_of_ne m value h, h]

/-- Of the entries that are put in turn, the last one of a key is read back. -/
theorem get?_putAll (m : Assoc α β) (entries : List (α × β)) (key : α) :
    (m.putAll entries).get? key = (get? entries.reverse key).or (m.get? key) := by
  induction entries generalizing m with
  | nil => rfl
  | cons e rest ih =>
    have hput : (m.put e.1 e.2).get? key = (get? [e] key).or (m.get? key) := by
      by_cases h : e.1 = key
      · subst h
        simp [get?_put_self, get?]
      · simp [get?_put_of_ne m e.2 h, get?, h]
    calc ((m.put e.1 e.2).putAll rest).get? key
        = (get? rest.reverse key).or ((m.put e.1 e.2).get? key) := ih _
      _ = (get? (e :: rest).reverse key).or (m.get? key) := by
        rw [hput, List.reverse_cons, get?_append, Option.or_assoc]

/-- The entries of a dictionary are read back, over what was there. -/
theorem get?_putAll_of_nodup (m : Assoc α β) {entries : Assoc α β} (h : entries.keys.Nodup)
    (key : α) :
    (m.putAll entries).get? key = (entries.get? key).or (m.get? key) := by
  rw [get?_putAll, get?_of_perm h entries.reverse_perm.symm]

/-- Of the entries whose keys are set only when they are absent, the first one of a key is read
back, behind what was there. -/
theorem get?_foldl_putNew (m : Assoc α β) (entries : List (α × β)) (key : α) :
    get? (entries.foldl (fun m e => putNew m e.1 e.2) m) key =
      (m.get? key).or (get? entries key) := by
  induction entries generalizing m with
  | nil => simp [get?]
  | cons e rest ih =>
    rw [List.foldl_cons, ih, get?_putNew, Option.or_assoc]
    by_cases h : e.1 = key <;> simp [get?, h]

/-- Mapping the values of a map maps what is found in it. -/
theorem get?_map (f : α → β → γ) (entries : List (α × β)) (key : α) :
    get? (entries.map fun e => (e.1, f e.1 e.2)) key = (get? entries key).map (f key) := by
  induction entries with
  | nil => rfl
  | cons e rest ih =>
    by_cases h : e.1 = key
    · subst h
      simp [get?]
    · simpa [get?, h] using ih

omit [DecidableEq α] in
theorem keys_of_forall₂ {as : List (α × β)} {bs : List (α × γ)}
    (h : List.Forall₂ (fun a b => b.1 = a.1) as bs) : keys bs = keys as := by
  induction h with
  | nil => rfl
  | cons hab hrest ih => exact congrArg₂ List.cons hab ih

/-- What is found under a key in one of two lists that go together is found in the other. -/
theorem get?_of_forall₂ {R : α → β → γ → Prop} {as : List (α × β)} {bs : List (α × γ)}
    (h : List.Forall₂ (fun a b => b.1 = a.1 ∧ R a.1 a.2 b.2) as bs) (key : α) :
    (get? as key = none ∧ get? bs key = none) ∨
      ∃ a b, get? as key = some a ∧ get? bs key = some b ∧ R key a b := by
  induction h with
  | nil => exact .inl ⟨rfl, rfl⟩
  | @cons a b as bs hab hrest ih =>
    obtain ⟨hkey, hR⟩ := hab
    by_cases heq : a.1 = key
    · subst heq
      exact .inr ⟨a.2, b.2, by simp [get?], by simp [get?, hkey], hR⟩
    · simpa [get?, hkey, heq] using ih

/-! ## groups -/

/-- Values in groups by their keys, in order. -/
def groups (entries : List (α × β)) : Assoc α (List β) :=
  entries.foldl (fun m e => m.addToGroup e.1 e.2) []

/-- Grouping goes entry by entry: the last one is filed on its own. -/
theorem groups_concat (entries : List (α × β)) (e : α × β) :
    groups (entries ++ [e]) = (groups entries).addToGroup e.1 e.2 := by
  rw [groups, List.foldl_append]
  rfl

theorem keys_groups (entries : List (α × β)) :
    (groups entries).keys = (entries.map Prod.fst).eraseDups :=
  keys_foldl (fun m e => keys_addToGroup m e.1 e.2) entries

/-- No key has two groups. -/
theorem nodup_keys_groups (entries : List (α × β)) : (groups entries).keys.Nodup := by
  induction entries using List.reverseRecOn with
  | nil => exact List.nodup_nil
  | append_singleton entries e ih =>
    rw [groups_concat]
    exact nodup_keys_put ih _ _

/-- No key is there twice after the first appearances were taken. -/
theorem nodup_eraseDups (keys : List α) : keys.eraseDups.Nodup := by
  have hkeys := nodup_keys_groups (keys.map fun key => (key, ()))
  rwa [keys_groups, List.map_map, List.map_id''] at hkeys
  exact fun key => rfl

/-- A group holds the values of its key, in order. -/
theorem getD_groups (entries : List (α × β)) (key : α) :
    (groups entries).getD key [] = (entries.filter (·.1 = key)).map Prod.snd := by
  induction entries using List.reverseRecOn with
  | nil => rfl
  | append_singleton entries e ih =>
    rw [groups_concat, getD_addToGroup, ih, List.filter_append, List.map_append]
    by_cases h : e.1 = key
    · simp [h]
    · simp [h]

/-- A group holds all the values entered under its key, in their order, and nothing else. -/
theorem eq_of_mem_groups {entries : List (α × β)} {g : α × List β} (h : g ∈ groups entries) :
    g.2 = (entries.filter (·.1 = g.1)).map Prod.snd := by
  rw [← getD_groups, getD, get?_of_mem (nodup_keys_groups entries) h]
  rfl

/-- The entries of some groups, group by group. -/
def ungrouped (m : Assoc α (List β)) : List (α × β) := m.flatMap fun g => g.2.map fun v => (g.1, v)

/-- Filing one value adds one entry to the groups taken apart again. -/
theorem ungrouped_addToGroup_perm (m : Assoc α (List β)) (key : α) (value : β) :
    (ungrouped (m.addToGroup key value)).Perm (ungrouped m ++ [(key, value)]) := by
  unfold addToGroup ungrouped
  induction m with
  | nil => simp [put, getD, get?]
  | cons g rest ih =>
    obtain ⟨k, vs⟩ := g
    by_cases h : k = key
    · simp only [put, getD, get?, h, if_true, Option.getD_some, List.flatMap_cons, List.map_append,
        List.append_assoc]
      exact List.perm_append_comm.append_left _
    · simp only [put, getD, get?, h, if_false, List.flatMap_cons, List.append_assoc] at ih ⊢
      exact ih.append_left _

/-- Every entry is in one group, and once. -/
theorem groups_perm (entries : List (α × β)) : (ungrouped (groups entries)).Perm entries := by
  induction entries using List.reverseRecOn with
  | nil => exact List.Perm.refl []
  | append_singleton entries e ih =>
    rw [groups_concat]
    exact (ungrouped_addToGroup_perm _ _ _).trans (ih.append_right [e])

omit [DecidableEq α] in
theorem map_snd_ungrouped (m : Assoc α (List β)) :
    (ungrouped m).map Prod.snd = m.flatMap Prod.snd := by
  unfold ungrouped
  rw [List.map_flatMap]
  refine List.flatMap_congr fun g _ => ?_
  rw [List.map_map]
  exact List.map_id g.2

end BlockSketch.Assoc
