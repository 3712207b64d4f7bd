import BlockSketch.Proofs.Diagram.Project
import BlockSketch.Proofs.Library.Offer
import BlockSketch.Proofs.Palette.Tree
import BlockSketch.Proofs.Workbench.Listening

/-!
# BlockSketch.Proofs.Workbench.Adding

The two ways in which a block of the palette is added.  A double click takes the identifier of the
palette entry as it stands in the file; dragging hands out its text, and the scene takes the blanks
off where it is dropped.  The catalog lists the type without the blanks.

* `adds_activate_iff` — the block that a double click adds;
* `adds_dragOnto_iff` — the block that is added by dragging;
* `added_alike_iff` — when both add the block that the library describes.
-/

namespace BlockSketch

namespace Canvas

/-! ## scenes with one block more -/

namespace Scene

/-- The outline of a scene with a new block of a type. -/
def outlineWith (s : Scene) (type : Value) : Outline where
  types := s.outline.types ++ [type]
  items := s.items ++ [.card s.cards.length]
  byUid := Assoc.put s.byUid s.nextUid s.cards.length

/-- The scene `s'` has the blocks of `s` and a new one of a type. -/
def Adds (s s' : Scene) (type : Value) : Prop := s'.outline = s.outlineWith type

/-- Where a block of one type is added under a condition, no other one is. -/
theorem adds_iff {s s' : Scene} {v : Value} {c : Prop} (hadded : c → s'.outline = s.outlineWith v)
    (hsame : ¬ c → s'.outline = s.outline) (type : Value) : s.Adds s' type ↔ type = v ∧ c := by
  unfold Adds
  by_cases hc : c
  · rw [hadded hc]
    constructor
    · intro h
      have htypes := congrArg Outline.types h
      exact ⟨(List.singleton_inj.mp (List.append_cancel_left htypes)).symm, hc⟩
    · rintro ⟨rfl, -⟩
      rfl
  · rw [hsame hc]
    refine iff_of_false (fun h => ?_) fun h => hc h.2
    have htypes := congrArg Outline.types h
    exact absurd htypes (by simp [outlineWith])

end Scene

/-! ## edits that add a block -/

/-- A block that is put at a place comes to stand on the grid. -/
def Placed (p : Point) : Prop := (Edit.settle {} p).2 = none

instance (p : Point) : Decidable (Placed p) :=
  inferInstanceAs (Decidable ((Edit.settle {} p).2 = none))

/-- So does a block that is dropped there, which is put on the grid before it is added. -/
def Droppable (p : Point) : Prop := ∃ q, snap p = .ok q ∧ Placed q

namespace Edit

variable {α β : Type} {s : Scene} {type : Value} {p : Point}

/-- An edit that announces nothing and leaves the blocks alone. -/
theorem leaves_of_silent {e : Edit α} {o : Outcome α} {s' : Scene}
    (h : e.run ⟨s, []⟩ = (o, ⟨s', []⟩)) (hs : s'.outline = s.outline) : e.Leaves s s.outline :=
  ⟨o, s', [], h, hs, fun _ ha => absurd ha List.not_mem_nil⟩

theorem Leaves.bind_pure {e : Edit α} {blocks : Outline}
    (h : e.Leaves s blocks) (b : β) : (e >>= fun _ => pure b).Leaves s blocks := by
  obtain ⟨o, s', log, hrun, hrest⟩ := h
  cases o with
  | error fault => exact ⟨_, s', log, run_of_error hrun, hrest⟩
  | ok a => exact ⟨_, s', log, run_of_ok hrun, hrest⟩

theorem run_makeCard (n : Node) (s : Scene) (log : List (Notice × Scene)) :
    (makeCard n).run ⟨s, log⟩ =
      match cardFor s.catalog n with
      | .ok card => (.ok s.cards.length, ⟨s.addCard card, log⟩)
      | .error fault => (.error fault, ⟨s, log⟩) := by
  have hlook := run_look (fun s => cardFor s.catalog n) s log
  cases hcard : cardFor s.catalog n with
  | ok card =>
    rw [hcard] at hlook
    exact run_of_ok hlook
  | error fault =>
    rw [hcard] at hlook
    exact run_of_error hlook

/-- Once its type is looked up and its identifier given out, the card of a new block is made. -/
theorem run_add_of_entry {fs : Fields} (hentry : s.catalog.entry type = .ok fs) :
    (add type p "" []).run ⟨s, []⟩ = (do
      let h ← makeCard (newNode s type p "" (startValues fs []))
      announce (.blockAdded ((← scene).card h).node)
      announceDiagram
      status ("Добавлен блок: " ++ (← look fun s => s.catalog.title type))
      return h : Edit Nat).run ⟨(s.withUid "").2, []⟩ := by
  have hlook := run_look (fun s => s.catalog.entry type) s []
  rw [hentry] at hlook
  exact (run_of_ok hlook).trans (run_of_ok rfl)

/-- What is announced of a new block, all of it in the scene that shows the block. -/
theorem run_announceAdded {title : Text} (htitle : s.catalog.title type = .ok title) (h : Nat) :
    (do
      announce (.blockAdded ((← scene).card h).node)
      announceDiagram
      status ("Добавлен блок: " ++ (← look fun s => s.catalog.title type))
      return h : Edit Nat).run ⟨s, []⟩ =
        (.ok h, ⟨s, [(.blockAdded (s.card h).node, s), (.changed s.diagram, s),
          (.status ("Добавлен блок: " ++ title) 4000, s)]⟩) := by
  have hlook := run_look (fun s => s.catalog.title type) s
    [(.blockAdded (s.card h).node, s), (.changed s.diagram, s)]
  rw [htitle] at hlook
  exact (run_of_ok rfl).trans ((run_of_ok rfl).trans ((run_of_ok rfl).trans (run_of_ok hlook)))

/-- The card of the new block makes the outline that of a scene with a new block. -/
theorem outline_addCard {fs : Fields} {card : Card}
    (hcard : cardFor s.catalog (newNode s type p "" (startValues fs [])) = .ok card) :
    ((s.withUid "").2.addCard card).outline = s.outlineWith type := by
  have hcontent := content_of_cardFor hcard
  have huid : card.node.uid = s.nextUid := congrArg Prod.fst hcontent
  have htype : card.node.type = type := congrArg (fun c => c.2.1) hcontent
  have hnew : ((s.withUid "").2.addCard card).outline =
      ⟨(s.cards ++ [card]).map fun c => c.node.type, s.items ++ [.card s.cards.length],
        Assoc.put s.byUid card.node.uid s.cards.length⟩ := rfl
  rw [hnew, List.map_append, List.map_singleton, huid, htype]
  rfl

/-- A block of a type that can be looked up has a card exactly when it comes to stand on the
grid. -/
theorem cardFor_cases {fs : Fields} (hentry : s.catalog.entry type = .ok fs) :
    (Placed p ∧ ∃ card, cardFor s.catalog (newNode s type p "" (startValues fs [])) = .ok card) ∨
      ¬ Placed p ∧ ∃ fault, cardFor s.catalog (newNode s type p "" (startValues fs [])) =
        .error fault := by
  have htitled : s.catalog.Titled type := ⟨_, Outcome.bind_eq_ok_iff.mpr ⟨fs, hentry, rfl⟩⟩
  rcases cardFor_of_titled (n := newNode s type p "" (startValues fs [])) htitled with
    ⟨card, hplaced, hcard⟩ | ⟨fault, hfault, hcard⟩
  · exact .inl ⟨hplaced, card, hcard⟩
  · exact .inr ⟨fun hplaced => absurd (hplaced.symm.trans hfault) (by simp), fault, hcard⟩

/-- A block is added where it comes to stand on the grid, if its type can be looked up. -/
theorem leaves_add (hentry : ∃ fs, s.catalog.entry type = .ok fs) (hplaced : Placed p) :
    (add type p "" []).Leaves s (s.outlineWith type) := by
  obtain ⟨fs, hentry⟩ := hentry
  rcases cardFor_cases (p := p) hentry with ⟨-, card, hcard⟩ | ⟨hnot, -⟩
  · have hmake := run_makeCard (newNode s type p "" (startValues fs [])) (s.withUid "").2 []
    rw [catalog_withUid, hcard] at hmake
    have hcatalog : ((s.withUid "").2.addCard card).catalog = s.catalog := catalog_withUid ""
    have htitle : s.catalog.title type = .ok (Fields.get fs "title" type).shown :=
      Outcome.bind_eq_ok_iff.mpr ⟨fs, hentry, rfl⟩
    have hannounce := run_announceAdded (hcatalog.symm ▸ htitle) (s.withUid "").2.cards.length
    have hblocks := outline_addCard hcard
    -- the three announcements are made when the card is there
    refine ⟨_, _, _, (run_add_of_entry hentry).trans ((run_of_ok hmake).trans hannounce),
      hblocks, ?_⟩
    simp [hblocks]
  · exact absurd hplaced hnot

/-- Nothing is added where the type has no entry or the block cannot come to stand on the grid. -/
theorem leaves_add_of_not (h : ¬ ((∃ fs, s.catalog.entry type = .ok fs) ∧ Placed p)) :
    (add type p "" []).Leaves s s.outline := by
  cases hentry : s.catalog.entry type with
  | error fault =>
    have hlook := run_look (fun s => s.catalog.entry type) s []
    rw [hentry] at hlook
    exact leaves_of_silent (run_of_error hlook) rfl
  | ok fs =>
    rcases cardFor_cases (p := p) hentry with ⟨hplaced, -⟩ | ⟨-, fault, hcard⟩
    · exact absurd ⟨⟨fs, hentry⟩, hplaced⟩ h
    · have hmake := run_makeCard (newNode s type p "" (startValues fs [])) (s.withUid "").2 []
      rw [catalog_withUid, hcard] at hmake
      exact leaves_of_silent ((run_add_of_entry hentry).trans (run_of_error hmake)) rfl

theorem run_drop (text : Text) (p : Point) (s : Scene) :
    (drop (some ⟨blockFormat, text⟩) p).run ⟨s, []⟩ =
      (if s.acceptsDrops then do
        let _ ← add (.text text.trim) (← ofOutcome (snap p)) "" []
        return .proposed
      else return .ignored : Edit Verdict).run ⟨s, []⟩ := by
  have htakes : takesDrop s (some ⟨blockFormat, text⟩) = s.acceptsDrops := by simp [takesDrop]
  refine (run_of_ok rfl).trans ?_
  dsimp only
  rw [htakes]
  rfl

/-- A block that is dropped is added on the grid. -/
theorem leaves_drop {text : Text} (hentry : ∃ fs, s.catalog.entry (.text text.trim) = .ok fs)
    (hdrops : s.acceptsDrops = true) (hp : Droppable p) :
    (drop (some ⟨blockFormat, text⟩) p).Leaves s (s.outlineWith (.text text.trim)) := by
  obtain ⟨q, hsnap, hplaced⟩ := hp
  unfold Leaves
  rw [run_drop, if_pos hdrops, hsnap]
  exact (leaves_add hentry hplaced).bind_pure Verdict.proposed

/-- Nothing is added by a drop that is not accepted, or whose place cannot be put on the grid. -/
theorem leaves_drop_of_not {text : Text} (h : ¬ (s.acceptsDrops = true ∧ Droppable p)) :
    (drop (some ⟨blockFormat, text⟩) p).Leaves s s.outline := by
  unfold Leaves
  rw [run_drop]
  by_cases hdrops : s.acceptsDrops = true
  · rw [if_pos hdrops]
    cases hsnap : snap p with
    | error fault => exact leaves_of_silent (o := .error fault) rfl rfl
    | ok q =>
      have hnot : ¬ Placed q := fun hplaced => h ⟨hdrops, q, hsnap, hplaced⟩
      exact (leaves_add_of_not fun hboth => hnot hboth.2).bind_pure Verdict.proposed
  · rw [if_neg hdrops]
    exact leaves_of_silent (o := .ok .ignored) rfl rfl

end Edit

end Canvas

namespace Palette

/-- Every block that a palette lists can be made the current one. -/
theorem Lists.exists_place {p : Palette} {blocks : List Fields} (h : Lists p.branches blocks)
    {fs : Fields}
    (hfs : fs ∈ blocks) : ∃ place, currentBlock? { p with current := some place } = some fs := by
  have hleaf := h.leaves.mem_iff.mpr (List.mem_map_of_mem hfs)
  obtain ⟨b, hb, hleaf⟩ := List.mem_flatMap.mp hleaf
  obtain ⟨l, hl, hblock⟩ := List.mem_map.mp hleaf
  obtain ⟨i, hi⟩ := List.getElem?_of_mem hb
  obtain ⟨j, hj⟩ := List.getElem?_of_mem hl
  have hdict : l.block = .dict fs := congrArg Prod.snd hblock
  exact ⟨⟨i, some j⟩, by simp [currentBlock?, hi, hj, hdict, Value.asDict?]⟩

/-- What dragging the current leaf hands out: the text of its identifier, if that can be encoded. -/
theorem dragged_cases {p : Palette} {block : Fields} (h : p.currentBlock? = some block) :
    ((Fields.opt block "id").isSet = true ∧ (Fields.opt block "id").shown.plain?.isSome = true ∧
        p.dragged? = .ok (some (Fields.opt block "id").shown)) ∨
      ¬ ((Fields.opt block "id").isSet = true ∧
        (Fields.opt block "id").shown.plain?.isSome = true) ∧
        ∀ id, p.dragged? ≠ .ok (some id) := by
  unfold dragged?
  rw [h]
  dsimp only [Option.getD]
  by_cases hset : (Fields.opt block "id").isSet = true
  · rw [if_pos hset]
    by_cases hplain : (Fields.opt block "id").shown.plain?.isSome = true
    · rw [Text.encoded, if_pos hplain]
      exact .inl ⟨hset, hplain, rfl⟩
    · rw [Text.encoded, if_neg hplain]
      exact .inr ⟨fun hboth => hplain hboth.2, fun id hid => by cases hid⟩
  · rw [if_neg hset]
    exact .inr ⟨fun hboth => hset hboth.1, fun id hid => by cases hid⟩

end Palette

section Offering

variable [Platform]

namespace Work

open Canvas

/-! ## the two ways -/

/-- A double click on the current leaf of the palette adds its block at the middle of the view. -/
def activate (p : Palette) (middle : Point) : Work Unit := do
  if let some block := p.currentBlock? then addFromPalette (Fields.opt block "id") middle

/-- The current leaf of the palette is dragged to a place of the scene and dropped there. -/
def dragOnto (p : Palette) (place : Point) : Work Unit := do
  if let some id ← MonadExcept.ofExcept p.dragged? then
    let _ ← edit (Edit.drop (some ⟨blockFormat, id⟩) place)

/-- Adding from the palette adds as the scene does. -/
theorem outline_addFromPalette {v : Value} (hset : v.isSet = true) (middle : Point)
    (w : Workbench) :
    ((addFromPalette v middle).run w).2.scene.outline =
      ((edit (Edit.add v middle "" [])).run w).2.scene.outline := by
  have hrelabel (s : Scene) (blocks : Outline) :
      Keeps (fun w => w.scene.outline = blocks) (relabel s) :=
    keeps_modify fun _ hw => hw
  unfold addFromPalette
  rw [if_pos hset]
  exact outline_bind (fun _ _ => keeps_get.bind fun _ => hrelabel _ _) w

/-- Dragging from the palette drops as the scene does. -/
theorem outline_dragOnto {p : Palette} {id : Text} (h : p.dragged? = .ok (some id)) (place : Point)
    (w : Workbench) : ((dragOnto p place).run w).2.scene.outline =
      ((edit (Edit.drop (some ⟨blockFormat, id⟩) place)).run w).2.scene.outline := by
  unfold dragOnto
  rw [h]
  exact outline_bind (fun _ _ => keeps_pure ()) w

/-- Nothing is dropped unless dragging hands something out. -/
theorem outline_dragOnto_of_none {p : Palette} (h : ∀ id, p.dragged? ≠ .ok (some id))
    (place : Point)
    (w : Workbench) : ((dragOnto p place).run w).2.scene.outline = w.scene.outline := by
  unfold dragOnto
  cases hdragged : p.dragged? with
  | error fault => rfl
  | ok handed =>
    cases handed with
    | none => rfl
    | some id => exact absurd hdragged (h id)

section Ways

variable {p : Palette} {block : Fields} {w : Workbench} {ids : List Text}
  (hcurrent : p.currentBlock? = some block) (hcatalog : w.scene.catalog.Covers ids)

include hcurrent hcatalog

/-- A double click takes the identifier as it is. -/
theorem adds_activate_iff (middle : Point) (type : Value) :
    w.scene.Adds ((activate p middle).run w).2.scene type ↔
      type = Fields.opt block "id" ∧ (Fields.opt block "id").isSet = true ∧
        (Fields.opt block "id").isKey = true ∧ Placed middle := by
  have hrun : activate p middle = addFromPalette (Fields.opt block "id") middle := by
    unfold activate
    rw [hcurrent]
  rw [hrun]
  refine Scene.adds_iff (fun h => ?_) (fun h => ?_) type
  · obtain ⟨hset, hkey, hplaced⟩ := h
    rw [outline_addFromPalette hset]
    exact outline_edit (Edit.leaves_add ((hcatalog.exists_entry_iff _).mpr hkey) hplaced)
  · by_cases hset : (Fields.opt block "id").isSet = true
    · rw [outline_addFromPalette hset]
      refine outline_edit (Edit.leaves_add_of_not fun hboth => h ⟨hset, ?_, hboth.2⟩)
      exact (hcatalog.exists_entry_iff _).mp hboth.1
    · unfold addFromPalette
      rw [if_neg hset]
      rfl

/-- Dragging takes the text of the identifier, without the blanks around it. -/
theorem adds_dragOnto_iff (place : Point) (type : Value) :
    w.scene.Adds ((dragOnto p place).run w).2.scene type ↔
      type = .text (Text.trim (Fields.opt block "id").shown) ∧
        (Fields.opt block "id").isSet = true ∧
        (Fields.opt block "id").shown.plain?.isSome = true ∧ w.scene.acceptsDrops = true ∧
          Droppable place := by
  refine Scene.adds_iff (fun h => ?_) (fun h => ?_) type
  · obtain ⟨hset, hplain, hdrops, hplace⟩ := h
    rcases Palette.dragged_cases hcurrent with ⟨-, -, hdragged⟩ | ⟨hnot, -⟩
    · rw [outline_dragOnto hdragged]
      exact outline_edit (Edit.leaves_drop ((hcatalog.exists_entry_iff _).mpr rfl) hdrops hplace)
    · exact absurd ⟨hset, hplain⟩ hnot
  · rcases Palette.dragged_cases hcurrent with ⟨hset, hplain, hdragged⟩ | ⟨-, hnone⟩
    · rw [outline_dragOnto hdragged]
      exact outline_edit (Edit.leaves_drop_of_not fun hboth => h ⟨hset, hplain, hboth⟩)
    · exact outline_dragOnto_of_none hnone place w

end Ways

end Work

namespace Workbench

open Canvas Work

/-- A block of a library that was loaded is a type of the catalog, and the palette offers it, if the
workbench can be opened at all.  A double click on it adds a block whose type is the identifier in
the file, if that is set and can be a key; dragging it adds one whose type is the identifier of
the block, if that in the file is set and can be encoded.  So both add a block of the same type, the
identifier of the block, exactly when the file has this identifier, as a text without blanks around
it, and it can be encoded. -/
theorem added_alike_iff (file : Text) (content : Json.Content) (lib : Library) (b : BlockSpec)
    (hload : Library.load file content = .ok lib) (hb : b ∈ lib.blocks) :
    ((∃ w, ofLibrary lib = .ok w) ↔
      ∀ b ∈ lib.blocks, ∀ d, .dict d ∈ Catalog.descriptors b.paletteEntry → Catalog.Nameable d) ∧
    ∀ w₀, ofLibrary lib = .ok w₀ →
      b.id ∈ Assoc.keys w₀.scene.catalog ∧
      (∀ (p : Palette) (text : Text), p.Settled w₀.library text →
        ∃ place, Palette.currentBlock? { p with current := some place } = some b.paletteEntry) ∧
      ∀ (w : Workbench) (p : Palette) (middle place : Point), w.scene.catalog = w₀.scene.catalog →
        p.currentBlock? = some b.paletteEntry → Placed middle → Droppable place →
        w.scene.acceptsDrops = true →
        (∀ type, w.scene.Adds ((activate p middle).run w).2.scene type ↔
          type = b.givenId ∧ b.givenId.isSet = true ∧ b.givenId.isKey = true) ∧
        (∀ type, w.scene.Adds ((dragOnto p place).run w).2.scene type ↔
          type = .text b.id ∧ b.givenId.isSet = true ∧ b.givenId.shown.plain?.isSome = true) ∧
        ((w.scene.Adds ((activate p middle).run w).2.scene (.text b.id) ∧
            w.scene.Adds ((dragOnto p place).run w).2.scene (.text b.id)) ↔
          b.givenId = .text b.id ∧ b.id.plain?.isSome = true) := by
  have hnamed := Library.id_of_load hload hb
  obtain ⟨hid, hentry, hidentified⟩ :=
    Library.ids_paletteEntry (Library.readsRaw_of_load hload hb) hnamed
  refine ⟨exists_ofLibrary_iff hload, fun w₀ hopen => ?_⟩
  obtain ⟨hlibrary, hcatalog⟩ := ofLibrary_spec hopen
  have hcovers := Catalog.covers_ofBlocks hcatalog
  have hoffered : b.paletteEntry ∈ lib.paletteEntries := List.mem_map_of_mem hb
  refine ⟨?_, fun p text hp => ?_, fun w p middle place hw hp hmiddle hplace hdrops => ?_⟩
  · have hmem :
        (b.id, b.paletteEntry) ∈ (lib.paletteEntries.map Value.dict).filterMap
          Catalog.identified? :=
      List.mem_filterMap.mpr ⟨_, List.mem_map_of_mem hoffered, hidentified⟩
    exact (hcovers.keys b.id).mpr (List.mem_map_of_mem hmem)
  · rw [hlibrary] at hp
    exact hp.shows.lists.exists_place hoffered
  · rw [← hw] at hcovers
    have hactivate := adds_activate_iff hp hcovers middle
    have hdrag := adds_dragOnto_iff hp hcovers place
    rw [hentry] at hactivate hdrag
    rw [← hid] at hdrag
    -- with a place for both, what is left to ask is asked of the identifier
    simp only [hmiddle, hplace, hdrops, and_true] at hactivate hdrag
    refine ⟨hactivate, hdrag, ?_⟩
    rw [hactivate, hdrag]
    constructor
    · rintro ⟨⟨hgiven, -, -⟩, -, -, hplain⟩
      rw [← hgiven] at hplain ⊢
      exact ⟨rfl, hplain⟩
    · rintro ⟨hgiven, hplain⟩
      have hset : (Value.text b.id).isSet = true := by rw [Value.isSet, hnamed]; rfl
      rw [hgiven]
      exact ⟨⟨rfl, hset, rfl⟩, rfl, hset, hplain⟩

end Workbench

end Offering

namespace Workbench

open Work
open scoped Plain

/-- A library of one block, whose identifier has blanks around it. -/
def blankNamed : Value := .list [.dict [("id", .text " x "), ("category", .text "c")]]

/-- A palette of one block, which is the current one. -/
def paletteOf (fs : Fields) : Palette :=
  { branches := [{ name := Palette.categoryOf fs, leaves := [Palette.leafOf fs] }],
    current := some ⟨0, some 0⟩ }

/-- The library with the blanks: a double click adds a block of a type with blanks, dragging one
without. -/
theorem added_alike_blank :
    ∃ lib b w, Library.load "blocks.json" (.text (Json.render blankNamed)) = .ok lib ∧
      b ∈ lib.blocks ∧
      ofLibrary lib = .ok w ∧ b.id ∈ Assoc.keys w.scene.catalog ∧
      w.scene.Adds ((activate (paletteOf b.paletteEntry) {}).run w).2.scene (.text " x ") ∧
      w.scene.Adds ((dragOnto (paletteOf b.paletteEntry) {}).run w).2.scene (.text "x") := by
  have hdocument : (Json.Content.text (Json.render blankNamed)).document = .ok blankNamed :=
    Project.document_eq_ok (by decide +kernel)
  have htest : (Library.ofDocument .usual blankNamed).toOption.any (fun lib =>
      decide (lib.blocks.map (fun b => (b.id, b.givenId)) =
        [(Text.ofString "x", Value.text " x ")]) &&
        (ofLibrary lib).toOption.any fun w => w.scene.acceptsDrops) = true := by decide +kernel
  obtain ⟨lib, hlib, htest⟩ := Outcome.exists_ok_of_any htest
  rw [Bool.and_eq_true, decide_eq_true_eq] at htest
  obtain ⟨w, hw, hdrops⟩ := Outcome.exists_ok_of_any htest.2
  obtain ⟨b, hblocks, hids⟩ := List.map_eq_singleton_iff.mp htest.1
  obtain ⟨hid, hgiven⟩ := Prod.mk.inj hids
  have hb : b ∈ lib.blocks := by rw [hblocks]; exact List.mem_singleton_self b
  have hload := (Library.load_of_document hdocument "blocks.json").trans hlib
  obtain ⟨-, hadded⟩ := added_alike_iff "blocks.json" _ lib b hload hb
  obtain ⟨hkey, -, hadded⟩ := hadded w hw
  obtain ⟨hactivate, hdrag, -⟩ :=
    hadded w (paletteOf b.paletteEntry) {} {} rfl rfl (by decide +kernel)
    ⟨{}, by decide +kernel, by decide +kernel⟩ hdrops
  refine ⟨lib, b, w, hload, hb, hw, hkey, ?_, ?_⟩
  · rw [hactivate, hgiven]
    decide +kernel
  · rw [hdrag, hid, hgiven]
    decide +kernel

/-- The same block gets two types, of which the catalog lists one. -/
theorem types_apart_blank :
    ((Library.ofDocument .usual blankNamed >>= ofLibrary).toOption.map fun w =>
      let p := paletteOf (w.library.headD [])
      (((activate p {}).run w).2.scene.nodes.map Node.type,
        ((dragOnto p {}).run w).2.scene.nodes.map Node.type, Assoc.keys w.scene.catalog)) =
      some ([Value.text " x "], [Value.text "x"], [Text.ofString "x"]) := by
  decide +kernel

end Workbench

end BlockSketch
