import BlockSketch.Proofs.Assoc
import BlockSketch.Proofs.Diagram.Project
import BlockSketch.Proofs.Library.Reading
import BlockSketch.Proofs.Text.Split

/-!
# BlockSketch.Proofs.Library.Index

What a library is looked up by.  Its blocks are listed as they stand in the file, by category
and by former identifier, and the three agree whatever the entries repeat or leave out.

* `byCategory_eq`, `collectAliases_eq` — the lists as entries taken in one after the other;
* `raw_of_mapM` — the blocks are the listed entries, in the order of the file;
* `Indexed` — how the lists hang together;
* `indexed_of_load` — so they do in every library that was loaded.
-/

namespace BlockSketch.Library

/-! ## the lists as entries taken in -/

def categoryEntries (lib : Library) : List (Text × BlockSpec) :=
  lib.blocks.map fun b => (b.category, b)

/-- The lists by category are groups. -/
theorem byCategory_eq (lib : Library) : lib.byCategory = Assoc.groups lib.categoryEntries := by
  rw [Assoc.groups, categoryEntries, List.foldl_map]
  rfl

/-- Former identifiers are entered in the order of the blocks. -/
theorem collectAliases_eq (blocks : List BlockSpec) :
    collectAliases blocks = (blocks.flatMap fun b => b.aliases.map fun a => (a, b.id)).foldl
      (fun m e => Assoc.putNew m e.1 e.2) [] := by
  unfold collectAliases
  simp only [List.foldl_flatMap, List.foldl_map]

theorem keys_collectAliases (blocks : List BlockSpec) :
    Assoc.keys (collectAliases blocks) = (blocks.flatMap BlockSpec.aliases).eraseDups := by
  rw [collectAliases_eq, Assoc.keys_foldl_putNew, List.map_flatMap]
  simp only [List.map_map, Function.comp_def, List.map_id']

/-! ## the blocks of the file -/

/-- The blocks are the listed entries, in the order of the file. -/
theorem raw_of_mapM {rule : EntryRule} {entries : List Value} {read : List (Option BlockSpec)}
    (h : entries.mapM (readEntry rule) = .ok read) :
    (read.filterMap id).map (fun b => Value.dict b.raw) = entries.filter isListed := by
  have hall := Outcome.mapM_eq_ok_iff.mp h
  clear h
  induction hall with
  | nil => rfl
  | cons hentry _ ih =>
    rcases readEntry_spec hentry with ⟨hskipped, rfl⟩ | ⟨b, rfl, rfl, hlisted, -⟩
    · simpa [hskipped] using ih
    · simpa [hlisted] using ih

/-! ## a consistent index -/

/-- How the lists of a library hang together.  Its blocks have an identifier and a category, without
blanks around them.  The categories stand in the order in which they first appear, with their blocks
in the order of the file, and every block stands under one of them, once.  The former identifiers
are those of the blocks, and each stands for the first block that lists it. -/
structure Indexed (lib : Library) : Prop where
  named : ∀ b ∈ lib.blocks, (b.id.isEmpty = false ∧ b.id.Trimmed) ∧
    b.category.isEmpty = false ∧ b.category.Trimmed
  categories : lib.byCategory.keys = (lib.blocks.map BlockSpec.category).eraseDups
  group : ∀ g ∈ lib.byCategory, g.2 = lib.blocks.filter (·.category = g.1)
  partition : (lib.byCategory.flatMap Prod.snd).Perm lib.blocks
  aliases : lib.aliases.keys = (lib.blocks.flatMap BlockSpec.aliases).eraseDups
  claimed : ∀ e ∈ lib.aliases,
    (lib.blocks.find? fun b => e.1 ∈ b.aliases).map BlockSpec.id = some e.2

/-- The list of a category has all its blocks, in order. -/
theorem group_byCategory (lib : Library) {g : Text × List BlockSpec} (h : g ∈ lib.byCategory) :
    g.2 = lib.blocks.filter (·.category = g.1) := by
  rw [byCategory_eq] at h
  rw [Assoc.eq_of_mem_groups h, categoryEntries, List.filter_map, List.map_map]
  exact List.map_id _

/-- The lists by category have every block once. -/
theorem byCategory_perm (lib : Library) : (lib.byCategory.flatMap Prod.snd).Perm lib.blocks := by
  have hperm := (Assoc.groups_perm lib.categoryEntries).map Prod.snd
  rwa [Assoc.map_snd_ungrouped, ← byCategory_eq, categoryEntries, List.map_map,
    List.map_id''] at hperm
  exact fun b => rfl

/-- A former identifier belongs to the first block that claims it. -/
theorem claimed_collectAliases {blocks : List BlockSpec} {e : Text × Text}
    (h : e ∈ collectAliases blocks) :
    (blocks.find? fun b => e.1 ∈ b.aliases).map BlockSpec.id = some e.2 := by
  -- a former identifier is there once, so what stands under it is what is looked up
  have hkeys : (Assoc.keys (collectAliases blocks)).Nodup :=
    keys_collectAliases blocks ▸ Assoc.nodup_eraseDups _
  rw [← get?_collectAliases]
  exact Assoc.get?_of_mem hkeys h

/-- A library whose blocks were read from their entries is indexed. -/
theorem indexed_of_blocks {lib : Library} (haliases : lib.aliases = collectAliases lib.blocks)
    (hblocks : ∀ b ∈ lib.blocks, isListed (.dict b.raw) = true ∧ ReadsRaw b) : lib.Indexed where
  named b hb := by
    obtain ⟨hlisted, hraw⟩ := hblocks b hb
    obtain ⟨hid, hcategory⟩ := hraw.named hlisted
    exact ⟨⟨hid, hraw.id ▸ Text.trimmed_trim _⟩, hcategory, hraw.category ▸ Text.trimmed_trim _⟩
  categories := by
    rw [byCategory_eq, Assoc.keys_groups, categoryEntries, List.map_map]
    rfl
  group g hg := group_byCategory lib hg
  partition := byCategory_perm lib
  aliases := by rw [haliases, keys_collectAliases]
  claimed e he := claimed_collectAliases (haliases ▸ he)

/-- A library that was loaded, from a document of either shape, has the blocks that the listed
entries describe, in their order, and its index is consistent. -/
theorem indexed_of_load (file : Text) (content : Json.Content) (lib : Library)
    (h : load file content = .ok lib) :
    lib.Indexed ∧
      ∃ document entries, content.document = .ok document ∧ entriesOf? document = some entries ∧
        lib.blocks.map (fun b => Value.dict b.raw) = entries.filter isListed ∧
        ∀ b ∈ lib.blocks, ReadsRaw b := by
  obtain ⟨document, entries, hdocument, hentries, rule, read, hread, hblocks, haliases⟩ :=
    blocks_of_load h
  have hraw : ∀ b ∈ lib.blocks, isListed (.dict b.raw) = true ∧ ReadsRaw b := by
    intro b hb
    rw [hblocks] at hb
    obtain ⟨v, -, hv⟩ := Outcome.exists_of_mem_mapM hread (by simpa using hb)
    obtain ⟨rfl, hlisted, hreads⟩ := readsRaw_of_readEntry hv
    exact ⟨hlisted, hreads⟩
  refine ⟨indexed_of_blocks haliases hraw, document, entries, hdocument, hentries, ?_, ?_⟩
  · rw [hblocks]
    exact raw_of_mapM hread
  · exact fun b hb => (hraw b hb).2

/-- A library with blocks that share an identifier, a category or a former identifier, and with
entries that are no blocks. -/
def repetitive : Value := .dict [("blocks", .list [
  .dict [("id", .text " lamp"), ("category", .text "light"),
    ("aliases", .list [.text "led", .text " led", .null])],
  .text "lamp",
  .dict [("id", .text "pause"), ("category", .text "time"),
    ("aliases", .list [.text "led", .text "delay"])],
  .dict [("id", .text " "), ("category", .text "light"), ("aliases", .list [.text "blink"])],
  .dict [("id", .text "lamp"), ("category", .text "light "), ("aliases", .list [.text "delay"])]])]

def repetitiveCategories : Assoc Text (List Text) :=
  [("light", ["lamp", "lamp"]), ("time", ["pause"])]

def repetitiveAliases : Assoc Text Text := [("led", "lamp"), ("delay", "pause")]

theorem indexed_of_load_repetitive :
    ∃ lib, load "blocks.json" (.text (Json.render repetitive)) = .ok lib ∧ lib.Indexed ∧
      lib.byCategory.mapValues (·.map BlockSpec.id) = repetitiveCategories ∧
      lib.aliases = repetitiveAliases := by
  have hdocument : (Json.Content.text (Json.render repetitive)).document = .ok repetitive :=
    Project.document_eq_ok (by decide +kernel)
  have htest : (ofDocument .usual repetitive).toOption.any (fun lib =>
      decide (lib.byCategory.mapValues (·.map BlockSpec.id) = repetitiveCategories) &&
        decide (lib.aliases = repetitiveAliases)) = true := by decide +kernel
  obtain ⟨lib, hlib, hlists⟩ := Outcome.exists_ok_of_any htest
  rw [Bool.and_eq_true, decide_eq_true_eq, decide_eq_true_eq] at hlists
  have hload := (load_of_document hdocument "blocks.json").trans hlib
  exact ⟨lib, hload, (indexed_of_load _ _ lib hload).1, hlists⟩

end BlockSketch.Library
