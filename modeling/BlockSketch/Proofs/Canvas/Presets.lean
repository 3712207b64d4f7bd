import BlockSketch.Proofs.Assoc
import BlockSketch.Proofs.Canvas.Reach
import BlockSketch.Proofs.Outcome

/-!
# BlockSketch.Proofs.Canvas.Presets

Where the parameter values of a new block come from.  A palette becomes a catalog, in which
the last entry of an identifier counts; the presets of an entry are its own values, and
behind them the defaults of its parameters, of which the first one of a name counts; and the
values given for a new block go before all of these.

* `ofBlocks_eq` — the catalog of a palette, as the list of its entries;
* `get?_allPresets` — the presets of an entry;
* `params_add` — when a block is added, and the values that it then has;
* `layered_add` — the parameter values of a new block.
-/

namespace BlockSketch

namespace Catalog

/-! ## the entries of a palette -/

/-- The identifier of a palette entry and its fields, unless it has none. -/
def identified? : Value → Option (Text × Fields)
  | .dict fs =>
    let id := Text.trim (Fields.get fs "id" (.text "")).shown
    if id.isEmpty then none else some (id, fs)
  | _ => none

/-- The palette entry of an identifier, which is the last one. -/
def paletteFields? (blocks : List Value) (id : Text) : Option Fields :=
  Assoc.get? (blocks.filterMap identified?).reverse id

def descriptors (fs : Fields) : List Value := (Fields.opt fs "params").asList?.getD []

/-- The values that an entry gives itself. -/
def ownPresets (fs : Fields) : Fields := (Fields.opt fs "default_params").asDict?.getD []

/-- The name of a parameter and its descriptor, unless it has no name. -/
def namedDescriptor? : Value → Option (Text × Fields)
  | .dict d =>
    match Fields.opt d "name" with
    | .text name => if name.isEmpty then none else some (name, d)
    | _ => none
  | _ => none

def namedDescriptors (fs : Fields) : List (Text × Fields) :=
  (descriptors fs).filterMap namedDescriptor?

def namedDefaults (fs : Fields) : List (Text × Value) :=
  (namedDescriptors fs).map fun e => (e.1, Fields.opt e.2 "default")

/-- A parameter that has a name has a text for it. -/
def TextNamed (d : Fields) : Prop :=
  Fields.opt d "name" = .null ∨ ∃ name, Fields.opt d "name" = .text name

/-- So do all parameters of a palette. -/
def NamedByTexts (blocks : List Value) : Prop :=
  ∀ fs, .dict fs ∈ blocks → ∀ d, .dict d ∈ descriptors fs → TextNamed d

/-! ## presets -/

/-- The presets of an entry whose parameters have texts for names. -/
def allPresets (fs : Fields) : Fields :=
  (namedDefaults fs).foldl (fun m e => Assoc.putNew m e.1 e.2) (ownPresets fs)

/-- A preset is what the entry gives itself, and else the default of its parameter. -/
theorem get?_allPresets (fs : Fields) (key : Text) :
    Assoc.get? (allPresets fs) key =
      (Assoc.get? (ownPresets fs) key).or (Assoc.get? (namedDefaults fs) key) :=
  Assoc.get?_foldl_putNew _ _ _

/-- A parameter with a name adds its default, unless the name has one; any other adds nothing. -/
theorem addDefault_eq {param : Value} (h : ∀ d, param = .dict d → TextNamed d) (defaults : Fields) :
    addDefault defaults param =
      .ok ((namedDescriptor? param).elim defaults fun e =>
        Assoc.putNew defaults e.1 (Fields.opt e.2 "default")) := by
  cases param with
  | dict d =>
    rcases h d rfl with hname | ⟨name, hname⟩
    · simp only [addDefault, namedDescriptor?, hname]
      rfl
    · simp only [addDefault, namedDescriptor?, hname]
      cases name.isEmpty <;> rfl
  | _ => rfl

/-- With texts for names, the presets of an entry can be told. -/
theorem presets_eq {fs : Fields} (h : ∀ d, .dict d ∈ descriptors fs → TextNamed d) :
    presets fs (descriptors fs) = .ok (allPresets fs) := by
  have hadd (m : Fields) (param : Value) (hparam : param ∈ descriptors fs) :=
    addDefault_eq (fun d hd => h d (hd ▸ hparam)) m
  unfold allPresets namedDefaults
  rw [List.foldl_map]
  exact Outcome.foldlM_eq_filterMap hadd _

/-! ## the catalog of a palette -/

/-- The catalog entry that a palette entry gives. -/
def builtEntry (id : Text) (fs : Fields) : Fields := (entryOf id fs).toOption.getD []

/-- With texts for names, an entry is built, and its presets are among its fields. -/
theorem entryOf_eq {fs : Fields} (h : ∀ d, .dict d ∈ descriptors fs → TextNamed d) (id : Text) :
    entryOf id fs = .ok (builtEntry id fs) ∧
      Fields.opt (builtEntry id fs) "default_params" = .dict (allPresets fs) := by
  have hentry : ∃ entry, entryOf id fs = .ok entry ∧
      Fields.opt entry "default_params" = .dict (allPresets fs) := by
    have hpresets := presets_eq h
    unfold descriptors at hpresets
    unfold entryOf
    simp only [hpresets, bind, Except.bind]
    exact ⟨_, rfl, rfl⟩
  obtain ⟨entry, hok, hopt⟩ := hentry
  have hbuilt : builtEntry id fs = entry := by simp [builtEntry, hok, Except.toOption]
  rw [hbuilt]
  exact ⟨hok, hopt⟩

/-- The catalog of a palette whose parameters have texts for names. -/
def ofPalette (blocks : List Value) : Catalog :=
  Assoc.ofList ((blocks.filterMap identified?).map fun e => (e.1, .dict (builtEntry e.1 e.2)))

/-- With texts for names, a palette gives a catalog. -/
theorem ofBlocks_eq {blocks : List Value} (h : NamedByTexts blocks) :
    ofBlocks blocks = .ok (ofPalette blocks) := by
  have hadd (c : Catalog) (block : Value) (hblock : block ∈ blocks) : addEntry c block =
      .ok ((identified? block).elim c fun e => Assoc.put c e.1 (.dict (builtEntry e.1 e.2))) := by
    cases block with
    | dict fs =>
      simp only [addEntry, identified?, (entryOf_eq (h fs hblock) _).1]
      split <;> rfl
    | _ => rfl
  unfold ofBlocks ofPalette Assoc.ofList Assoc.putAll
  rw [Outcome.foldlM_eq_filterMap hadd, List.foldl_map]

/-- A type of the catalog is built from its last entry in the palette. -/
theorem get?_ofPalette (blocks : List Value) (id : Text) :
    Assoc.get? (ofPalette blocks) id =
      (paletteFields? blocks id).map fun fs => .dict (builtEntry id fs) := by
  unfold ofPalette Assoc.ofList paletteFields?
  rw [Assoc.get?_putAll, ← List.map_reverse,
    Assoc.get?_map (fun id fs => Value.dict (builtEntry id fs))]
  simp [Assoc.get?]

/-- The entry of an identifier is one of the palette. -/
theorem dict_mem_of_paletteFields {blocks : List Value} {id : Text} {fs : Fields}
    (h : paletteFields? blocks id = some fs) : .dict fs ∈ blocks := by
  have hmem : (id, fs) ∈ blocks.filterMap identified? := List.mem_reverse.mp (Assoc.mem_of_get? h)
  obtain ⟨block, hblock, hentry⟩ := List.mem_filterMap.mp hmem
  have heq : block = .dict fs := by
    unfold identified? at hentry
    grind
  exact heq ▸ hblock

/-- Every identifier of the catalog has a palette entry, and a title. -/
theorem entry_ofPalette {blocks : List Value} {id : Text} {fs : Fields}
    (h : paletteFields? blocks id = some fs) :
    (ofPalette blocks).entry (.text id) = .ok (builtEntry id fs) ∧
      (ofPalette blocks).Titled (.text id) := by
  have hentry : (ofPalette blocks).entry (.text id) = .ok (builtEntry id fs) := by
    simp [entry, Value.asKey, Value.isKey, bind, Except.bind, get?_ofPalette, h, Value.fields]
  exact ⟨hentry, _, Outcome.bind_eq_ok_iff.mpr ⟨_, hentry, rfl⟩⟩

end Catalog

namespace Canvas

open Catalog

/-! ## adding a block -/

namespace Edit

/-- A block of a type with a title has a card exactly when its place has a point of the grid. -/
theorem cardFor_of_titled {c : Catalog} {n : Node} (h : c.Titled n.type) :
    (∃ card, (settle {} ⟨n.x, n.y⟩).2 = none ∧ cardFor c n = .ok card) ∨
      ∃ fault, (settle {} ⟨n.x, n.y⟩).2 = some fault ∧ cardFor c n = .error fault := by
  obtain ⟨title, htitle⟩ := h
  obtain ⟨fs, hentry, _⟩ := Outcome.bind_eq_ok_iff.mp htitle
  simp only [cardFor, hentry, htitle, bind, Except.bind]
  cases (settle {} ⟨n.x, n.y⟩).2 with
  | none => exact .inl ⟨_, rfl, rfl⟩
  | some fault => exact .inr ⟨fault, rfl, rfl⟩

def newNode (s : Scene) (type : Value) (p : Point) (uid : Text) (params : Fields) : Node :=
  { uid := (s.withUid uid).1, type, x := p.x, y := p.y, params }

section Adding

variable {s : Scene} {type : Value} {fs : Fields} (p : Point) (uid : Text) (given : Fields)

/-- A block is added by making its card, once its identifier is settled. -/
theorem ends_add_of_makeCard {o : Outcome Nat} {s' : Scene} (hentry : s.catalog.entry type = .ok fs)
    (hmake : Ends (do
      let h ← makeCard (newNode s type p uid (startValues fs given))
      announce (.blockAdded ((← scene).card h).node)
      announceDiagram
      status ("Добавлен блок: " ++ (← look fun s => s.catalog.title type))
      return h) (s.withUid uid).2 o s') : Ends (add type p uid given) s o s' := by
  have hlook := ends_look (fun s => s.catalog.entry type) s
  rw [hentry] at hlook
  refine hlook.bind ?_
  unfold newNode Scene.withUid at hmake
  dsimp only
  split at hmake
  · next hempty =>
    rw [if_pos hempty]
    exact (ends_freshUid s).bind hmake
  · next hempty =>
    rw [if_neg hempty]
    exact (ends_pure uid s).bind hmake

theorem catalog_withUid : (s.withUid uid).2.catalog = s.catalog := by
  unfold Scene.withUid
  split <;> rfl

theorem cards_withUid : (s.withUid uid).2.cards = s.cards := by
  unfold Scene.withUid
  split <;> rfl

/-- A block that has a card is added. -/
theorem ends_add_of_card {card : Card} (hentry : s.catalog.entry type = .ok fs)
    (htitled : s.catalog.Titled type)
    (hcard : cardFor s.catalog (newNode s type p uid (startValues fs given)) = .ok card) :
    Ends (add type p uid given) s (.ok s.cards.length) ((s.withUid uid).2.addCard card) := by
  obtain ⟨title, htitle⟩ := htitled
  rw [← catalog_withUid uid] at hcard htitle
  have htail := ends_look (fun s => s.catalog.title type) ((s.withUid uid).2.addCard card)
  rw [show ((s.withUid uid).2.addCard card).catalog.title type = .ok title from htitle] at htail
  refine ends_add_of_makeCard p uid given hentry ?_
  rw [← cards_withUid uid]
  exact (ends_makeCard_ok hcard).bind ((ends_scene _).bind ((ends_announce _ _).bind
    ((ends_announceDiagram _).bind (htail.bind ((ends_status _ _).bind (ends_pure _ _))))))

/-- A block that has none is not. -/
theorem ends_add_of_fault {fault : Fault} (hentry : s.catalog.entry type = .ok fs)
    (hcard : cardFor s.catalog (newNode s type p uid (startValues fs given)) = .error fault) :
    Ends (add type p uid given) s (.error fault) (s.withUid uid).2 := by
  rw [← catalog_withUid uid] at hcard
  exact ends_add_of_makeCard p uid given hentry (ends_makeCard_error hcard).bind_error

end Adding

/-- A block of a type with a title is added where its place has a point of the grid, with its start
values. -/
theorem params_add {t : Session} {type : Value} {fs : Fields} (p : Point) (uid : Text)
    (given : Fields)
    (hentry : t.scene.catalog.entry type = .ok fs) (htitled : t.scene.catalog.Titled type) :
    ((∃ h, ((add type p uid given).run t).1 = .ok h) ↔ (settle {} p).2 = none) ∧
      ∀ h, ((add type p uid given).run t).1 = .ok h →
        (((add type p uid given).run t).2.scene.card h).node.params = startValues fs given := by
  rcases cardFor_of_titled (n := newNode t.scene type p uid (startValues fs given)) htitled with
    ⟨card, hplace, hcard⟩ | ⟨fault, hplace, hcard⟩
  · obtain ⟨log, hrun⟩ := ends_add_of_card p uid given hentry htitled hcard t.log
    rw [show (add type p uid given).run t = _ from hrun]
    refine ⟨iff_of_true ⟨_, rfl⟩ hplace, fun h hh => ?_⟩
    cases hh
    have hnew : ((t.scene.withUid uid).2.addCard card).card t.scene.cards.length = card := by
      rw [← cards_withUid uid]
      exact Scene.card_addCard_self _ card
    rw [hnew]
    exact congrArg (fun e => e.2.2) (content_of_cardFor hcard)
  · obtain ⟨log, hrun⟩ := ends_add_of_fault p uid given hentry hcard t.log
    rw [show (add type p uid given).run t = _ from hrun]
    refine ⟨iff_of_false ?_ ?_, fun h hh => ?_⟩
    · rintro ⟨h, hh⟩
      cases hh
    · rw [show (settle {} p).2 = some fault from hplace]
      simp
    · cases hh

/-- The values given for a new block go before the presets of its type. -/
theorem get?_startValues {fs presets given : Fields}
    (h : Fields.opt fs "default_params" = .dict presets)
    (hgiven : (Assoc.keys given).Nodup) (key : Text) :
    Assoc.get? (startValues fs given) key = (Assoc.get? given key).or (Assoc.get? presets key) := by
  unfold startValues
  rw [h]
  exact Assoc.get?_putAll_of_nodup presets hgiven key

end Edit

/-! ## the values of a new block -/

/-- Parameter values in three layers: those given, then those of the type's entry, then the defaults
of its parameters.  What has a value in one of them has a value, and the first that has one gives
it. -/
structure Layered (given own : Fields) (defaults : List (Text × Value)) (params : Fields) :
    Prop where
  keys : ∀ key, key ∈ Assoc.keys params ↔
    key ∈ Assoc.keys given ∨ key ∈ Assoc.keys own ∨ key ∈ Assoc.keys defaults
  get : ∀ key, Assoc.get? params key =
    (Assoc.get? given key).or ((Assoc.get? own key).or (Assoc.get? defaults key))

/-- Looking up one layer after the other is all that it takes. -/
theorem Layered.of_get {given own params : Fields} {defaults : List (Text × Value)}
    (h : ∀ key, Assoc.get? params key =
      (Assoc.get? given key).or ((Assoc.get? own key).or (Assoc.get? defaults key))) :
    Layered given own defaults params where
  keys key := by
    have hmem (m : Fields) : key ∈ Assoc.keys m ↔ (Assoc.get? m key).isSome = true :=
      (Assoc.has_iff_mem_keys m key).symm
    rw [hmem, hmem, hmem, hmem, h]
    simp
  get := h

/-- Whatever palette a catalog is built from, as long as its parameters have texts for names, a
block of any type of the catalog can be added at any place that has a point of the grid; it gets the
values given, then those of the last palette entry of its type, then the defaults of that entry's
parameters, of which the first one of a name counts. -/
theorem layered_add (blocks : List Value) (hnames : NamedByTexts blocks) :
    ∃ c, Catalog.ofBlocks blocks = .ok c ∧
      ∀ id ∈ Assoc.keys c, ∃ fs, paletteFields? blocks id = some fs ∧
        ∀ given : Fields, (Assoc.keys given).Nodup → ∀ (t : Session), t.scene.catalog = c → ∀ p uid,
          ((∃ h, ((Edit.add (.text id) p uid given).run t).1 = .ok h) ↔
            (Edit.settle {} p).2 = none) ∧
          ∀ h, ((Edit.add (.text id) p uid given).run t).1 = .ok h →
            Layered given (ownPresets fs) (namedDefaults fs)
              (((Edit.add (.text id) p uid given).run t).2.scene.card h).node.params := by
  refine ⟨_, ofBlocks_eq hnames, fun id hid => ?_⟩
  have hpalette : ∃ fs, paletteFields? blocks id = some fs := by
    rw [← Assoc.has_iff_mem_keys, Assoc.has, get?_ofPalette] at hid
    exact Option.isSome_iff_exists.mp (by simpa using hid)
  obtain ⟨fs, hfs⟩ := hpalette
  refine ⟨fs, hfs, fun given hgiven t hcatalog p uid => ?_⟩
  obtain ⟨hentry, htitled⟩ := entry_ofPalette hfs
  rw [← hcatalog] at hentry htitled
  obtain ⟨hok, hparams⟩ := Edit.params_add p uid given hentry htitled
  refine ⟨hok, fun h hh => .of_get fun key => ?_⟩
  have hopt := (entryOf_eq (hnames fs (dict_mem_of_paletteFields hfs)) id).2
  rw [hparams h hh, Edit.get?_startValues hopt hgiven, get?_allPresets]

def namedParam (name : Text) (default : Value) : Value :=
  .dict [("name", .text name), ("default", default)]

/-- Two entries of a lamp, of which the second one counts. -/
def lampPalette : List Value :=
  [.dict [("id", .text "LAMP"), ("params", .list [namedParam "old" (.int 0)])],
   .dict [("id", .text " LAMP "), ("default_params",
     .dict [("pin", .int 13), ("mode", .text "slow")]),
    ("params", .list [namedParam "mode" (.text "fast"), namedParam "level" (.int 5),
      namedParam "level" (.int 6), namedParam "" (.int 1)])]]

theorem namedByTexts_lampPalette : NamedByTexts lampPalette := by
  intro fs hfs d hd
  have hparam : ∃ name default, Value.dict d = namedParam name default := by
    rcases List.mem_cons.mp hfs with hfs | hfs
    · cases hfs
      have hd : Value.dict d ∈ [namedParam "old" (.int 0)] := hd
      exact ⟨_, _, List.mem_singleton.mp hd⟩
    · cases List.mem_singleton.mp hfs
      have hd : Value.dict d ∈ [namedParam "mode" (.text "fast"), namedParam "level" (.int 5),
        namedParam "level" (.int 6), namedParam "" (.int 1)] := hd
      simp only [List.mem_cons, List.not_mem_nil, or_false] at hd
      rcases hd with hd | hd | hd | hd <;> exact ⟨_, _, hd⟩
  obtain ⟨name, default, hparam⟩ := hparam
  cases hparam
  exact .inr ⟨name, rfl⟩

theorem layered_add_lamp : NamedByTexts lampPalette ∧ ∃ c, Catalog.ofBlocks lampPalette = .ok c ∧
    ∃ h t, (Edit.add (.text "LAMP") ⟨20.0, 30.0⟩ "a" [("pin", .int 7)]).run
      { scene := { catalog := c } } =
        (.ok h, t) ∧
      Layered [("pin", .int 7)] [("pin", .int 13), ("mode", .text "slow")]
        [("mode", .text "fast"), ("level", .int 5), ("level", .int 6)]
          (t.scene.card h).node.params := by
  obtain ⟨c, hc, hadd⟩ := layered_add lampPalette namedByTexts_lampPalette
  have hkey : (Text.ofString "LAMP") ∈ Assoc.keys c := by
    rw [ofBlocks_eq namedByTexts_lampPalette] at hc
    cases hc
    decide +kernel
  obtain ⟨fs, hfs, hadd⟩ := hadd "LAMP" hkey
  cases hfs
  obtain ⟨hok, hlayered⟩ :=
    hadd [("pin", .int 7)] (by decide) { scene := { catalog := c } } rfl ⟨20.0, 30.0⟩ "a"
  obtain ⟨h, hh⟩ := hok.mpr (by decide +kernel)
  exact ⟨namedByTexts_lampPalette, c, hc, h, _, Prod.ext hh rfl, hlayered h hh⟩

end Canvas

end BlockSketch
