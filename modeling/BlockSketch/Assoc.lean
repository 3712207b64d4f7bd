/-!
# BlockSketch.Assoc

Ordered association lists.  An `Assoc` keeps the order in which its keys were
first put, so it serves both as a finite map and as the record of an order that
shows in answers: putting a key again keeps its place and takes the new value.

* `get?_put_self`, `get?_put_of_ne` — reading back after `put`;
* `keys_put_of_mem`, `keys_put_of_not_mem` — what `put` does to the order;
* `get?_append`, `get?_putNew` — what is there first is read back;
* `get?_putNew_of_mem` — `putNew` never overwrites;
* `getD_addToGroup` — a value goes to the end of its group;
* `put_of_not_mem`, `mem_put`, `mem_erase` — the entries after a change;
* `eq_of_mem`, `get?_of_perm` — a key that is there once has one value, in any order;
* `putAll_of_nodup` — entries with new keys of their own go to the end.
-/

namespace BlockSketch

/-- Keys with their values, in order of first appearance. -/
abbrev Assoc (α β : Type) := List (α × β)

namespace Assoc

variable {α β γ : Type} [DecidableEq α]

/-- The value under a key, the first one when a key is repeated. -/
def get? : Assoc α β → α → Option β
  | [], _ => none
  | (k, v) :: rest, key => if k = key then some v else get? rest key

def keys (m : Assoc α β) : List α := m.map Prod.fst

def values (m : Assoc α β) : List β := m.map Prod.snd

/-- Whether a key is present. -/
def has (m : Assoc α β) (key : α) : Bool := (m.get? key).isSome

/-- The value under a key, or a fallback. -/
def getD (m : Assoc α β) (key : α) (fallback : β) : β := (m.get? key).getD fallback

/-- Set a key: an old key keeps its place, a new one goes last. -/
def put : Assoc α β → α → β → Assoc α β
  | [], key, value => [(key, value)]
  | (k, v) :: rest, key, value =>
    if k = key then (k, value) :: rest else (k, v) :: put rest key value

/-- Set a key only when it is absent. -/
def putNew (m : Assoc α β) (key : α) (value : β) : Assoc α β :=
  if m.has key then m else m ++ [(key, value)]

/-- Remove a key. -/
def erase (m : Assoc α β) (key : α) : Assoc α β := m.filter fun entry => !decide (entry.1 = key)

/-- Change the value under a key, if it is present. -/
def update (m : Assoc α β) (key : α) (f : β → β) : Assoc α β :=
  m.map fun entry => if entry.1 = key then (entry.1, f entry.2) else entry

/-- Put every entry of a list in turn. -/
def putAll (m : Assoc α β) (entries : List (α × β)) : Assoc α β :=
  entries.foldl (fun acc entry => acc.put entry.1 entry.2) m

/-- Entries in the order given; a repeated key keeps its first place and takes its last value. -/
def ofList (entries : List (α × β)) : Assoc α β := putAll [] entries

/-- Apply a function to every value. -/
def mapValues (f : β → γ) (m : Assoc α β) : Assoc α γ := m.map fun entry => (entry.1, f entry.2)

/-- Put a value into the group of a key, opening the group when it is new. -/
def addToGroup (m : Assoc α (List β)) (key : α) (value : β) : Assoc α (List β) :=
  m.put key (m.getD key [] ++ [value])

/-! ## reading back -/

theorem get?_put_self (m : Assoc α β) (key : α) (value : β) :
    (m.put key value).get? key = some value := by
  induction m with
  | nil => simp [put, get?]
  | cons entry rest ih =>
    obtain ⟨k, v⟩ := entry
    by_cases h : k = key <;> simp [put, get?, h, ih]

theorem get?_put_of_ne (m : Assoc α β) {key other : α} (value : β) (h : key ≠ other) :
    (m.put key value).get? other = m.get? other := by
  induction m with
  | nil => simp [put, get?, h]
  | cons entry rest ih =>
    obtain ⟨k, v⟩ := entry
    by_cases hk : k = key
    · subst hk; simp [put, get?, h]
    · by_cases ho : k = other
      · subst ho; simp [put, get?, hk]
      · simp [put, get?, hk, ho, ih]

theorem get?_eq_none_iff (m : Assoc α β) (key : α) : m.get? key = none ↔ key ∉ m.keys := by
  induction m with
  | nil => simp [get?, keys]
  | cons entry rest ih =>
    obtain ⟨k, v⟩ := entry
    by_cases h : k = key
    · simp [get?, keys, h]
    · have h' : ¬ key = k := fun e => h e.symm
      simpa [get?, keys, h, h'] using ih

theorem has_iff_mem_keys (m : Assoc α β) (key : α) : m.has key = true ↔ key ∈ m.keys := by
  have := get?_eq_none_iff m key
  cases hg : m.get? key <;> simp_all [has]

theorem keys_put_of_mem (m : Assoc α β) {key : α} (value : β) (h : key ∈ m.keys) :
    (m.put key value).keys = m.keys := by
  induction m with
  | nil => simp [keys] at h
  | cons entry rest ih =>
    obtain ⟨k, v⟩ := entry
    by_cases hk : k = key
    · simp [put, keys, hk]
    · have h' : key ∈ keys rest := by
        simp only [keys, List.map_cons, List.mem_cons] at h
        exact h.resolve_left fun e => hk e.symm
      simpa [put, keys, hk] using ih h'

theorem keys_put_of_not_mem (m : Assoc α β) {key : α} (value : β) (h : key ∉ m.keys) :
    (m.put key value).keys = m.keys ++ [key] := by
  induction m with
  | nil => simp [put, keys]
  | cons entry rest ih =>
    obtain ⟨k, v⟩ := entry
    simp only [keys, List.map_cons, List.mem_cons, not_or] at h
    have hk : ¬ k = key := fun e => h.1 e.symm
    simpa [put, keys, hk] using ih h.2

theorem get?_putNew_of_mem (m : Assoc α β) {key : α} (value : β) (h : m.has key = true) :
    m.putNew key value = m := by simp [putNew, h]

theorem get?_append (m m' : Assoc α β) (key : α) :
    get? (m ++ m') key = (m.get? key).or (m'.get? key) := by
  induction m with
  | nil => rfl
  | cons entry rest ih =>
    rw [List.cons_append, get?, get?, ih]
    split <;> rfl

/-- A key that is set only when it is absent. -/
theorem get?_putNew (m : Assoc α β) (key other : α) (value : β) :
    (m.putNew key value).get? other =
      (m.get? other).or (if key = other then some value else none) := by
  unfold putNew
  split
  · next hhas =>
    obtain ⟨old, hold⟩ := Option.isSome_iff_exists.mp hhas
    by_cases hkey : key = other
    · rw [← hkey, hold, Option.some_or]
    · rw [if_neg hkey, Option.or_none]
  · exact get?_append m _ other

theorem getD_mapValues (f : β → γ) (m : Assoc α β) (key : α) (fallback : β) :
    (m.mapValues f).getD key (f fallback) = f (m.getD key fallback) := by
  induction m with
  | nil => rfl
  | cons entry rest ih =>
    obtain ⟨k, v⟩ := entry
    simp only [getD, mapValues, List.map_cons, get?] at ih ⊢
    by_cases h : k = key
    · simp [h]
    · simpa [h] using ih

theorem getD_put (m : Assoc α β) (key other : α) (value fallback : β) :
    (m.put key value).getD other fallback =
      if key = other then value else m.getD other fallback := by
  unfold getD
  by_cases h : key = other
  · subst h
    simp [get?_put_self]
  · rw [get?_put_of_ne m value h, if_neg h]

theorem getD_addToGroup (m : Assoc α (List β)) (key other : α) (value : β) :
    (m.addToGroup key value).getD other [] =
      m.getD other [] ++ if key = other then [value] else [] := by
  rw [addToGroup, getD_put]
  by_cases h : key = other
  · subst h
    simp
  · simp [h]

theorem mapValues_put (f : β → γ) (m : Assoc α β) (key : α) (value : β) :
    (m.put key value).mapValues f = (m.mapValues f).put key (f value) := by
  induction m with
  | nil => rfl
  | cons entry rest ih =>
    obtain ⟨k, v⟩ := entry
    simp only [mapValues, List.map_cons, put] at ih ⊢
    split
    · rfl
    · rw [List.map_cons, ih]

/-! ## entries -/

theorem put_of_not_mem (m : Assoc α β) {key : α} (value : β) (h : key ∉ m.keys) :
    m.put key value = m ++ [(key, value)] := by
  induction m with
  | nil => rfl
  | cons entry rest ih =>
    obtain ⟨k, v⟩ := entry
    simp only [keys, List.map_cons, List.mem_cons, not_or] at h
    have hk : ¬ k = key := fun e => h.1 e.symm
    simpa [put, hk] using ih h.2

theorem mem_put (m : Assoc α β) {key : α} {value : β} {entry : α × β}
    (h : entry ∈ m.put key value) : entry ∈ m ∨ entry = (key, value) := by
  induction m with
  | nil => exact .inr (by simpa [put] using h)
  | cons first rest ih =>
    obtain ⟨k, v⟩ := first
    by_cases hk : k = key
    · subst hk
      have h' : entry = (k, value) ∨ entry ∈ rest := by simpa [put] using h
      exact h'.symm.imp_left (List.mem_cons_of_mem _)
    · have h' : entry = (k, v) ∨ entry ∈ put rest key value := by simpa [put, hk] using h
      rcases h' with rfl | hrest
      · exact .inl (by simp)
      · exact (ih hrest).imp_left (List.mem_cons_of_mem _)

theorem mem_keys_put (m : Assoc α β) (key other : α) (value : β) :
    other ∈ (m.put key value).keys ↔ other ∈ m.keys ∨ other = key := by
  by_cases h : key ∈ m.keys
  · rw [keys_put_of_mem m value h]
    exact ⟨.inl, fun ho => ho.elim id fun e => e ▸ h⟩
  · rw [keys_put_of_not_mem m value h]
    simp

theorem mem_erase (m : Assoc α β) (key : α) (entry : α × β) :
    entry ∈ m.erase key ↔ entry ∈ m ∧ entry.1 ≠ key := by simp [erase]

theorem keys_erase (m : Assoc α β) (key : α) :
    (m.erase key).keys = m.keys.filter fun other => !decide (other = key) := by
  simp only [erase, keys, List.filter_map]
  rfl

theorem mem_keys_of_get? {m : Assoc α β} {key : α} {value : β} (h : m.get? key = some value) :
    key ∈ m.keys := by
  rw [← has_iff_mem_keys, has, h]
  rfl

theorem mem_of_get? {m : Assoc α β} {key : α} {value : β} (h : m.get? key = some value) :
    (key, value) ∈ m := by
  induction m with
  | nil => exact nomatch h
  | cons entry rest ih =>
    obtain ⟨k, v⟩ := entry
    by_cases hk : k = key
    · subst hk
      have hv : v = value := by simpa [get?] using h
      exact hv ▸ List.mem_cons_self
    · exact List.mem_cons_of_mem _ (ih (by simpa [get?, hk] using h))

omit [DecidableEq α] in
theorem mem_values {m : Assoc α β} {value : β} : value ∈ m.values ↔ ∃ key, (key, value) ∈ m := by
  simp [values]

omit [DecidableEq α] in
/-- A key that is there once has one value. -/
theorem eq_of_mem {m : Assoc α β} {key : α} {value value' : β} (hm : m.keys.Nodup)
    (h : (key, value) ∈ m) (h' : (key, value') ∈ m) : value = value' := by
  induction m with
  | nil => exact nomatch h
  | cons entry rest ih =>
    obtain ⟨hfirst, hrest⟩ := List.nodup_cons.mp hm
    have hin {v : β} (hv : (key, v) ∈ rest) : key ∈ keys rest := List.mem_map.mpr ⟨_, hv, rfl⟩
    rcases List.mem_cons.mp h with rfl | hr
    · rcases List.mem_cons.mp h' with heq | hr'
      · exact (Prod.mk.inj heq).2.symm
      · exact absurd (hin hr') hfirst
    · rcases List.mem_cons.mp h' with rfl | hr'
      · exact absurd (hin hr) hfirst
      · exact ih hrest hr hr'

theorem get?_of_mem {m : Assoc α β} {key : α} {value : β} (hm : m.keys.Nodup)
    (h : (key, value) ∈ m) : m.get? key = some value := by
  cases hg : m.get? key with
  | none => exact absurd (List.mem_map.mpr ⟨_, h, rfl⟩) ((get?_eq_none_iff m key).mp hg)
  | some value' => rw [eq_of_mem hm h (mem_of_get? hg)]

/-- With every key there once, the order of the entries is of no account. -/
theorem get?_of_perm {m m' : Assoc α β} (hm : m.keys.Nodup) (h : m.Perm m') (key : α) :
    m.get? key = m'.get? key := by
  cases hg : m.get? key with
  | some value =>
    exact (get?_of_mem ((h.map Prod.fst).nodup hm) (h.mem_iff.mp (mem_of_get? hg))).symm
  | none =>
    rw [get?_eq_none_iff] at hg
    exact ((get?_eq_none_iff m' key).mpr fun hmem => hg ((h.map Prod.fst).mem_iff.mpr hmem)).symm

theorem nodup_keys_erase {m : Assoc α β} (hm : m.keys.Nodup) (key : α) :
    (m.erase key).keys.Nodup := by
  rw [keys_erase]
  exact List.filter_sublist.nodup hm

theorem nodup_keys_put {m : Assoc α β} (hm : m.keys.Nodup) (key : α) (value : β) :
    (m.put key value).keys.Nodup := by
  by_cases h : key ∈ m.keys
  · rwa [keys_put_of_mem m value h]
  · rw [keys_put_of_not_mem m value h]
    refine List.nodup_append.mpr ⟨hm, by simp, fun other ho last hl heq => h ?_⟩
    rwa [← List.mem_singleton.mp hl, ← heq]

theorem mem_keys_putNew (m : Assoc α β) (key other : α) (value : β) :
    other ∈ (m.putNew key value).keys ↔ other ∈ m.keys ∨ other = key := by
  unfold putNew
  split
  · next hhas => exact ⟨.inl, fun h => h.elim id fun heq => heq ▸ (has_iff_mem_keys m key).mp hhas⟩
  · simp [keys]

theorem nodup_keys_putNew {m : Assoc α β} (hm : m.keys.Nodup) (key : α) (value : β) :
    (m.putNew key value).keys.Nodup := by
  unfold putNew
  split
  · exact hm
  · next hhas =>
    rw [has_iff_mem_keys] at hhas
    rw [← put_of_not_mem m value hhas]
    exact nodup_keys_put hm key value

omit [DecidableEq α] in
theorem keys_mapValues (f : β → γ) (m : Assoc α β) : (m.mapValues f).keys = m.keys := by
  simp [keys, mapValues]

/-! ## several entries -/

theorem nodup_keys_putAll {m : Assoc α β} (hm : m.keys.Nodup) (entries : List (α × β)) :
    (m.putAll entries).keys.Nodup := by
  induction entries generalizing m with
  | nil => exact hm
  | cons entry rest ih => exact ih (nodup_keys_put hm entry.1 entry.2)

theorem mem_keys_putAll (m : Assoc α β) (entries : List (α × β)) (key : α) :
    key ∈ (m.putAll entries).keys ↔ key ∈ m.keys ∨ key ∈ entries.map Prod.fst := by
  induction entries generalizing m with
  | nil => simp [putAll]
  | cons entry rest ih =>
    refine (ih (m.put entry.1 entry.2)).trans ?_
    rw [mem_keys_put, List.map_cons, List.mem_cons, or_assoc]

theorem mem_putAll {m : Assoc α β} {entries : List (α × β)} {entry : α × β}
    (h : entry ∈ m.putAll entries) : entry ∈ m ∨ entry ∈ entries := by
  induction entries generalizing m with
  | nil => exact .inl h
  | cons first rest ih =>
    rcases ih h with hput | hrest
    · exact (mem_put m hput).imp_right fun heq => List.mem_cons.mpr (.inl heq)
    · exact .inr (List.mem_cons_of_mem _ hrest)

theorem length_putAll_le (m : Assoc α β) (entries : List (α × β)) :
    (m.putAll entries).length ≤ m.length + entries.length := by
  have hput (m : Assoc α β) (key : α) (value : β) : (m.put key value).length ≤ m.length + 1 := by
    induction m with
    | nil => simp [put]
    | cons entry rest ih =>
      obtain ⟨k, v⟩ := entry
      rw [put]
      split
      · simp
      · simpa using ih
  induction entries generalizing m with
  | nil => simp [putAll]
  | cons entry rest ih =>
    have hrest := ih (m.put entry.1 entry.2)
    have hfirst := hput m entry.1 entry.2
    rw [List.length_cons]
    exact Nat.le_trans hrest (by omega)

/-- Entries with new keys of their own go to the end. -/
theorem putAll_of_nodup (m : Assoc α β) (entries : List (α × β))
    (h : (m.keys ++ entries.map Prod.fst).Nodup) : m.putAll entries = m ++ entries := by
  induction entries generalizing m with
  | nil => simp [putAll]
  | cons entry rest ih =>
    have hnew : entry.1 ∉ m.keys := fun hmem =>
      (List.nodup_append.mp h).2.2 entry.1 hmem entry.1 (by simp) rfl
    have hrest : ((m.put entry.1 entry.2).keys ++ rest.map Prod.fst).Nodup := by
      rw [keys_put_of_not_mem m entry.2 hnew, List.append_assoc]
      exact h
    refine (ih _ hrest).trans ?_
    rw [put_of_not_mem m entry.2 hnew, List.append_assoc]
    rfl

end Assoc

end BlockSketch
