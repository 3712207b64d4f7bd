import BlockSketch.Library.Basic
import BlockSketch.Proofs.Outcome

/-!
# BlockSketch.Proofs.Library.Reading

Libraries that were read.  A library is read from a list of entries, or from an object
with such a list, and its former identifiers are collected from its blocks.

* `ofList_spec`, `ofMapping_spec`, `document_of_load` — how a library is read;
* `id_of_load` — its blocks have identifiers;
* `get?_collectAliases` — the first block that claims a former identifier has it.
-/

namespace BlockSketch

namespace Library

/-! ## what is read -/

/-- A list is read entry by entry, with the definitions to fall back on. -/
theorem ofList_spec {entries : List Value} {lib : Library} (h : ofList entries = .ok lib) :
    ∃ read, entries.mapM (readEntry listRule) = .ok read ∧
      lib = ⟨read.filterMap id, some (.dict fallback), .list,
        collectAliases (read.filterMap id)⟩ := by
  obtain ⟨read, hread, hlib⟩ := Outcome.bind_eq_ok_iff.mp h
  exact ⟨read, hread, (Except.ok.inj hlib).symm⟩

/-- An object is read by its list of blocks, with itself for the definitions. -/
theorem ofMapping_spec {room : Json.Room} {fs : Fields} {lib : Library}
    (h : ofMapping room fs = .ok lib) :
    ∃ entries read, fs.opt "blocks" = .list entries ∧
      entries.mapM (readEntry (mappingRule (fs.get "categories" (.dict [])))) = .ok read ∧
      lib = ⟨read.filterMap id, some (.dict fs), .mapping, collectAliases (read.filterMap id)⟩ := by
  unfold ofMapping at h
  split at h
  · next entries hentries =>
    obtain ⟨read, hread, hlib⟩ := Outcome.bind_eq_ok_iff.mp h
    split at hlib
    · exact ⟨entries, read, hentries, hread, (Except.ok.inj hlib).symm⟩
    · exact nomatch hlib
  · exact nomatch h

theorem load_of_document {content : Json.Content} {v : Value} (h : content.document = .ok v)
    (file : Text) :
    load file content = ofDocument content.room v := by
  unfold load
  rw [h]

/-- A library is read from a list, or from an object. -/
theorem document_of_load {file : Text} {content : Json.Content} {lib : Library}
    (h : load file content = .ok lib) :
    (∃ entries, content.document = .ok (.list entries) ∧ ofList entries = .ok lib) ∨
      ∃ fs, content.document = .ok (.dict fs) ∧ ofMapping content.room fs = .ok lib := by
  unfold load at h
  split at h
  · next v hv =>
    unfold ofDocument at h
    split at h
    · next entries => exact .inl ⟨entries, hv, h⟩
    · next fs => exact .inr ⟨fs, hv, h⟩
    · exact nomatch h
  · exact nomatch h
  · exact nomatch h
  · exact nomatch h

/-- The entries that a document holds. -/
def entriesOf? : Value → Option (List Value)
  | .list entries => some entries
  | .dict fs => (Fields.opt fs "blocks").asList?
  | _ => none

/-- The blocks are read from the entries, and the former identifiers are those of the blocks. -/
theorem blocks_of_load {file : Text} {content : Json.Content} {lib : Library}
    (h : load file content = .ok lib) :
    ∃ document entries, content.document = .ok document ∧ entriesOf? document = some entries ∧
      ∃ (rule : EntryRule) (read : List (Option BlockSpec)),
        entries.mapM (readEntry rule) = .ok read ∧ lib.blocks = read.filterMap id ∧
        lib.aliases = collectAliases lib.blocks := by
  rcases document_of_load h with ⟨entries, hdocument, hlist⟩ | ⟨fs, hdocument, hmapping⟩
  · obtain ⟨read, hread, rfl⟩ := ofList_spec hlist
    exact ⟨_, entries, hdocument, rfl, _, read, hread, rfl, rfl⟩
  · obtain ⟨entries, read, hentries, hread, rfl⟩ := ofMapping_spec hmapping
    exact ⟨_, entries, hdocument, by rw [entriesOf?, hentries]; rfl, _, read, hread, rfl, rfl⟩

/-- Whether an entry is read as a block: it has an identifier and a category. -/
def isListed : Value → Bool
  | .dict fs => !(trimmed fs "id").isEmpty && !(trimmed fs "category").isEmpty
  | _ => false

/-- A block is what the fields of its entry say. -/
structure ReadsRaw (b : BlockSpec) : Prop where
  id : b.id = trimmed b.raw "id"
  category : b.category = trimmed b.raw "category"
  aliases : b.aliases = readAliases (Fields.opt b.raw "aliases")

/-- An entry is passed over, or read as a block that is what its fields say. -/
theorem readEntry_spec {rule : EntryRule} {v : Value} {read : Option BlockSpec}
    (h : readEntry rule v = .ok read) :
    (isListed v = false ∧ read = none) ∨
      ∃ b, read = some b ∧ v = .dict b.raw ∧ isListed v = true ∧ ReadsRaw b := by
  unfold readEntry at h
  split at h
  · next fs =>
    dsimp only at h
    split at h
    · next hempty =>
      refine .inl ⟨?_, (Except.ok.inj h).symm⟩
      rcases Bool.or_eq_true _ _ ▸ hempty with hid | hcategory
      · simp [isListed, hid]
      · simp [isListed, hcategory]
    · next hempty =>
      obtain ⟨color, -, hb⟩ := Outcome.bind_eq_ok_iff.mp h
      cases hb
      refine .inr ⟨_, rfl, rfl, ?_, rfl, rfl, rfl⟩
      simpa [isListed] using hempty
  · next hfields =>
    refine .inl ⟨?_, (Except.ok.inj h).symm⟩
    cases v with
    | dict fs => exact absurd rfl (hfields fs)
    | _ => rfl

theorem readsRaw_of_readEntry {rule : EntryRule} {v : Value} {b : BlockSpec}
    (h : readEntry rule v = .ok (some b)) : v = .dict b.raw ∧ isListed v = true ∧ ReadsRaw b := by
  rcases readEntry_spec h with ⟨-, hnone⟩ | ⟨b', hb, hraw⟩
  · exact absurd hnone (by simp)
  · cases hb
    exact hraw

/-- A block that was read has an identifier and a category. -/
theorem ReadsRaw.named {b : BlockSpec} (h : ReadsRaw b) (hlisted : isListed (.dict b.raw) = true) :
    b.id.isEmpty = false ∧ b.category.isEmpty = false := by
  rw [h.id, h.category]
  simpa [isListed] using hlisted

/-- Every block of a library has an identifier. -/
theorem id_of_load {file : Text} {content : Json.Content} {lib : Library}
    (h : load file content = .ok lib) {b : BlockSpec} (hb : b ∈ lib.blocks) :
    b.id.isEmpty = false := by
  obtain ⟨_, _, -, -, _, read, hread, hblocks, -⟩ := blocks_of_load h
  rw [hblocks] at hb
  obtain ⟨v, -, hv⟩ := Outcome.exists_of_mem_mapM hread (by simpa using hb)
  obtain ⟨rfl, hlisted, hreads⟩ := readsRaw_of_readEntry hv
  exact (hreads.named hlisted).1

/-! ## former identifiers -/

/-- The first block that claims a former identifier has it. -/
theorem get?_collectAliases (blocks : List BlockSpec) (a : Text) :
    Assoc.get? (collectAliases blocks) a =
      (blocks.find? fun b => a ∈ b.aliases).map BlockSpec.id := by
  have hblock (id : Text) (aliases : List Text) (m : Assoc Text Text) :
      Assoc.get? (aliases.foldl (fun m a => Assoc.putNew m a id) m) a =
        (Assoc.get? m a).or (if a ∈ aliases then some id else none) := by
    induction aliases generalizing m with
    | nil => simp
    | cons first rest ih =>
      rw [List.foldl_cons, ih, Assoc.get?_putNew, Option.or_assoc]
      by_cases h : first = a
      · simp [h]
      · simp [h, Ne.symm h]
  have hblocks (m : Assoc Text Text) :
      Assoc.get? (blocks.foldl (fun m b => b.aliases.foldl
        (fun m a => Assoc.putNew m a b.id) m) m) a =
        (Assoc.get? m a).or ((blocks.find? fun b => a ∈ b.aliases).map BlockSpec.id) := by
    induction blocks generalizing m with
    | nil => simp
    | cons b blocks ih =>
      rw [List.foldl_cons, ih, hblock, Option.or_assoc, List.find?_cons]
      by_cases h : a ∈ b.aliases <;> simp [h]
  exact hblocks []

end Library

end BlockSketch
