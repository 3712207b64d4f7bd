import BlockSketch.Proofs.Canvas.Presets
import BlockSketch.Proofs.Library.Reading
import BlockSketch.Workbench.Start

/-!
# BlockSketch.Proofs.Library.Offer

What a library offers in the workbench.  Its blocks become the entries of the palette, which keep
the identifiers as the file gives them, and the types of the catalog, which are listed by the
identifiers without the blanks around them.

* `ids_paletteEntry` — the two identifiers of a block;
* `exists_ofBlocks_iff` — when there is a catalog;
* `covers_ofBlocks` — the types of a catalog;
* `exists_ofLibrary_iff`, `ofLibrary_spec` — the workbench for a library.
-/

namespace BlockSketch

/-! ## the identifiers of a block -/

namespace BlockSpec

variable {b : BlockSpec}

/-- The identifier of a block as the file gives it. -/
def givenId (b : BlockSpec) : Value := Fields.opt b.raw "id"

theorem get?_fill_of_ne (fs : Fields) {key other : Text} (v : Option Value) (h : key ≠ other) :
    Assoc.get? (Fields.fill fs key v) other = Assoc.get? fs other := by
  cases v with
  | none => rfl
  | some v => simp [Fields.fill, Assoc.get?_putNew, h]

/-- A palette entry keeps the identifier that its block has in the file. -/
theorem get?_id_paletteEntry (h : Assoc.has b.raw "id" = true) :
    Assoc.get? b.paletteEntry "id" = Assoc.get? b.raw "id" := by
  have hne (key : String) (hkey : key ≠ "id") : (Text.ofString key) ≠ "id" := fun he =>
    hkey (Text.ofString_inj.mp he)
  unfold paletteEntry
  dsimp only
  rw [get?_fill_of_ne _ _ (hne "aliases" (by decide)),
    get?_fill_of_ne _ _ (hne "default_params" (by decide)),
    Assoc.get?_put_of_ne _ _ (hne "ports" (by decide)), Assoc.get?_putNew,
    get?_fill_of_ne _ _ (hne "color" (by decide)),
      get?_fill_of_ne _ _ (hne "description" (by decide)),
    get?_fill_of_ne _ _ (hne "section" (by decide)), Assoc.get?_putNew, Assoc.get?_putNew,
    Assoc.get?_putNew_of_mem _ _ h, if_neg (hne "params" (by decide)),
      if_neg (hne "title" (by decide)),
    if_neg (hne "category" (by decide)), Option.or_none, Option.or_none, Option.or_none]

end BlockSpec

namespace Library

variable {b : BlockSpec}

/-- A block with an identifier has a field for it. -/
theorem ReadsRaw.exists_id (h : ReadsRaw b) (hnamed : b.id.isEmpty = false) :
    ∃ v, Assoc.get? b.raw "id" = some v ∧ b.id = Text.trim v.shown := by
  cases hget : Assoc.get? b.raw "id" with
  | none =>
    rw [h.id, trimmed, Fields.get, Assoc.getD, hget] at hnamed
    exact absurd hnamed (by decide +kernel)
  | some v =>
    refine ⟨v, rfl, ?_⟩
    rw [h.id, trimmed, Fields.get, Assoc.getD, hget]
    rfl

/-- The palette has the identifier as the file gives it, the catalog the one without the blanks. -/
theorem ids_paletteEntry (h : ReadsRaw b) (hnamed : b.id.isEmpty = false) :
    b.id = Text.trim b.givenId.shown ∧ Fields.opt b.paletteEntry "id" = b.givenId ∧
      Catalog.identified? (.dict b.paletteEntry) = some (b.id, b.paletteEntry) := by
  obtain ⟨v, hv, hid⟩ := h.exists_id hnamed
  have hentry : Assoc.get? b.paletteEntry "id" = some v := by
    rw [BlockSpec.get?_id_paletteEntry (by simp [Assoc.has, hv]), hv]
  have hraw : b.givenId = v := by simp [BlockSpec.givenId, Fields.opt, Fields.get, Assoc.getD, hv]
  refine ⟨by rw [hraw, hid], ?_, ?_⟩
  · rw [hraw]
    simp [Fields.opt, Fields.get, Assoc.getD, hentry]
  · simp [Catalog.identified?, Fields.get, Assoc.getD, hentry, ← hid, hnamed]

end Library

/-! ## the catalog of a palette -/

namespace Catalog

/-- The name of a parameter, if it has one, can be a key. -/
def Nameable (d : Fields) : Prop :=
  (Fields.opt d "name").isSet = true → (Fields.opt d "name").isKey = true

/-- A default can be added when the name of the parameter can be a key. -/
theorem exists_addDefault_iff (m : Fields) (param : Value) :
    (∃ m', addDefault m param = .ok m') ↔ ∀ d, param = .dict d → Nameable d := by
  cases param with
  | dict d =>
    have hall : (∀ d', Value.dict d = .dict d' → Nameable d') ↔ Nameable d :=
      ⟨fun h => h d rfl, fun h d' hd' => by cases hd'; exact h⟩
    rw [hall]
    unfold Nameable
    cases hname : Fields.opt d "name" with
    | list items => cases items <;> simp [addDefault, hname, Value.isSet, Value.isKey]
    | dict entries => cases entries <;> simp [addDefault, hname, Value.isSet, Value.isKey]
    | _ => simp [addDefault, hname, Value.isKey]
  | _ => simp [addDefault]

/-- An entry can be made when the names of all its parameters can be keys. -/
theorem exists_entryOf_iff (id : Text) (fs : Fields) :
    (∃ entry, entryOf id fs = .ok entry) ↔ ∀ d, .dict d ∈ descriptors fs → Nameable d := by
  have hpresets : (∃ m, presets fs (descriptors fs) = .ok m) ↔
      ∀ d, .dict d ∈ descriptors fs → Nameable d := by
    refine (Outcome.exists_foldlM_eq_ok_iff exists_addDefault_iff _ _).trans ?_
    exact ⟨fun h d hd => h _ hd d rfl, fun h param hparam d hd => h d (hd ▸ hparam)⟩
  rw [← hpresets]
  refine (Outcome.ok_bind_of (P := True) fun m _ => ?_).trans (and_iff_left trivial)
  exact iff_of_true ⟨_, rfl⟩ trivial

/-- A palette entry is passed over, or listed by its identifier. -/
theorem addEntry_eq (c : Catalog) (block : Value) :
    addEntry c block = (identified? block).elim (.ok c) fun e => do
      return Assoc.put c e.1 (.dict (← entryOf e.1 e.2)) := by
  cases block with
  | dict fs =>
    simp only [addEntry, identified?]
    split <;> rfl
  | _ => rfl

/-- So can it be added to a catalog; what has no identifier is passed over. -/
theorem exists_addEntry_iff (c : Catalog) (block : Value) :
    (∃ c', addEntry c block = .ok c') ↔
      ∀ e, identified? block = some e → ∀ d, .dict d ∈ descriptors e.2 → Nameable d := by
  rw [addEntry_eq]
  cases identified? block with
  | none => simp
  | some e =>
    have hall : (∀ e', some e = some e' → ∀ d, .dict d ∈ descriptors e'.2 → Nameable d) ↔
        ∀ d, .dict d ∈ descriptors e.2 → Nameable d :=
      ⟨fun h => h e rfl, fun h e' he' => by cases he'; exact h⟩
    rw [hall, ← exists_entryOf_iff e.1]
    refine (Outcome.ok_bind_of (P := True) fun entry _ => ?_).trans (and_iff_left trivial)
    exact iff_of_true ⟨_, rfl⟩ trivial

/-- A palette has a catalog when the names of its parameters can be keys. -/
theorem exists_ofBlocks_iff (blocks : List Value) :
    (∃ c, ofBlocks blocks = .ok c) ↔
      ∀ block ∈ blocks, ∀ e, identified? block = some e → ∀ d, .dict d ∈ descriptors e.2 →
        Nameable d :=
  Outcome.exists_foldlM_eq_ok_iff exists_addEntry_iff blocks []

/-- A catalog lists some types, and nothing else. -/
structure Covers (c : Catalog) (ids : List Text) : Prop where
  keys : ∀ id, id ∈ Assoc.keys c ↔ id ∈ ids
  entries : ∀ e ∈ c, ∃ fs, e.2 = .dict fs

/-- The types of a catalog grow by the identifiers of the entries that are added. -/
theorem covers_foldlM {blocks : List Value} {c c' : Catalog} {ids : List Text}
    (h : blocks.foldlM addEntry c = .ok c') (hc : c.Covers ids) :
    c'.Covers (ids ++ (blocks.filterMap identified?).map Prod.fst) := by
  induction blocks generalizing c ids with
  | nil =>
    cases h
    simpa using hc
  | cons block blocks ih =>
    rw [List.foldlM_cons] at h
    obtain ⟨next, hnext, hrest⟩ := Outcome.bind_eq_ok_iff.mp h
    rw [addEntry_eq] at hnext
    cases hid : identified? block with
    | none =>
      rw [hid] at hnext
      cases hnext
      simpa [hid] using ih hrest hc
    | some e =>
      rw [hid] at hnext
      obtain ⟨entry, -, hput⟩ := Outcome.bind_eq_ok_iff.mp hnext
      cases hput
      -- an identifier that comes again gets another entry, so the keys only grow
      have hcovers : Covers (Assoc.put c e.1 (.dict entry)) (ids ++ [e.1]) := by
        constructor
        · intro id
          rw [Assoc.mem_keys_put, hc.keys, List.mem_append, List.mem_singleton]
        · intro e' he'
          rcases Assoc.mem_put c he' with hold | rfl
          · exact hc.entries e' hold
          · exact ⟨entry, rfl⟩
      simpa [hid] using ih hrest hcovers

/-- A catalog lists the types of its palette, and nothing else. -/
theorem covers_ofBlocks {blocks : List Value} {c : Catalog} (h : ofBlocks blocks = .ok c) :
    c.Covers ((blocks.filterMap identified?).map Prod.fst) := by
  have hempty : Covers [] [] := ⟨fun id => Iff.rfl, fun e he => absurd he List.not_mem_nil⟩
  simpa using covers_foldlM h hempty

/-- A type has an entry, or an empty one, when it can be a key at all. -/
theorem Covers.exists_entry_iff {c : Catalog} {ids : List Text} (h : c.Covers ids) (type : Value) :
    (∃ fs, c.entry type = .ok fs) ↔ type.isKey = true := by
  cases type with
  | text id =>
    refine iff_of_true ?_ rfl
    cases hget : Assoc.get? c id with
    | none =>
      exact ⟨[], by simp [entry, Value.asKey, Value.isKey, bind, Except.bind, hget, pure,
        Except.pure]⟩
    | some v =>
      obtain ⟨fs, hfs⟩ := h.entries _ (Assoc.mem_of_get? hget)
      have hfs : v = .dict fs := hfs
      exact ⟨fs, by simp [entry, Value.asKey, Value.isKey, bind, Except.bind, hget, hfs,
        Value.fields]⟩
  | list items => simp [entry, Value.asKey, Value.isKey, bind, Except.bind]
  | dict entries => simp [entry, Value.asKey, Value.isKey, bind, Except.bind]
  | _ => exact iff_of_true ⟨[], rfl⟩ rfl

end Catalog

/-! ## the workbench for a library -/

namespace Library

/-- A block that was loaded is what the fields of its entry say. -/
theorem readsRaw_of_load {file : Text} {content : Json.Content} {lib : Library} {b : BlockSpec}
    (h : load file content = .ok lib) (hb : b ∈ lib.blocks) : ReadsRaw b := by
  obtain ⟨_, _, -, -, _, read, hread, hblocks, -⟩ := blocks_of_load h
  rw [hblocks] at hb
  obtain ⟨v, -, hv⟩ := Outcome.exists_of_mem_mapM hread (by simpa using hb)
  exact (readsRaw_of_readEntry hv).2.2

end Library

namespace Workbench

variable [Platform]

/-- The workbench of a library has its palette, and the catalog of that palette. -/
theorem ofLibrary_spec {lib : Library} {w : Workbench} (h : ofLibrary lib = .ok w) :
    w.library = lib.paletteEntries ∧
      Catalog.ofBlocks (lib.paletteEntries.map .dict) = .ok w.scene.catalog := by
  obtain ⟨catalog, hcatalog, hready⟩ := Outcome.bind_eq_ok_iff.mp h
  cases hready
  exact ⟨rfl, hcatalog⟩

/-- A library can be opened when the names of the parameters that it offers can be keys. -/
theorem exists_ofLibrary_iff {file : Text} {content : Json.Content} {lib : Library}
    (h : Library.load file content = .ok lib) :
    (∃ w, ofLibrary lib = .ok w) ↔
      ∀ b ∈ lib.blocks, ∀ d, .dict d ∈ Catalog.descriptors b.paletteEntry → Catalog.Nameable d := by
  have hcatalog : (∃ w, ofLibrary lib = .ok w) ↔
      ∃ c, Catalog.ofBlocks (lib.paletteEntries.map .dict) = .ok c := by
    refine (Outcome.ok_bind_of (P := True) fun c _ => ?_).trans (and_iff_left trivial)
    exact iff_of_true ⟨_, rfl⟩ trivial
  have hids (b : BlockSpec) (hb : b ∈ lib.blocks) :=
    (Library.ids_paletteEntry (Library.readsRaw_of_load h hb) (Library.id_of_load h hb)).2.2
  rw [hcatalog, Catalog.exists_ofBlocks_iff, Library.paletteEntries, List.map_map]
  constructor
  · exact fun hall b hb => hall _ (List.mem_map_of_mem hb) _ (hids b hb)
  · intro hall block hblock e he
    obtain ⟨b, hb, rfl⟩ := List.mem_map.mp hblock
    rw [Function.comp_apply, hids b hb] at he
    cases he
    exact hall b hb

end Workbench

end BlockSketch
