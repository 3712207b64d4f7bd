import BlockSketch.Proofs.Diagram.Project
import BlockSketch.Proofs.Library.Reading

/-!
# BlockSketch.Proofs.Diagram.Migration

Former identifiers in project files.  A block of a library may list identifiers that it
was known by before, and a project file in which one of them stands is opened with the
identifier now in use.  A former identifier is replaced even where it is the identifier
of a block of the same library.

* `currentType_aliasFields` — what a former identifier is replaced by;
* `ofDocument_renamed` — opening with former identifiers renames the types, and nothing else;
* `load_migrated` — which types stay, and when a project is opened again as it was.
-/

namespace BlockSketch

/-! ## former identifiers -/

namespace Library

def identifiers (lib : Library) : List Text := lib.blocks.map BlockSpec.id

/-- The identifiers of the blocks as a list of values. -/
def known (lib : Library) : Value := .list (lib.identifiers.map .text)

def aliasFields (lib : Library) : Fields := Assoc.mapValues Value.text lib.aliases

/-- The identifier now in use for a type: that of the first block that was known by it before, or
else the type itself. -/
def current (lib : Library) (type : Text) : Text :=
  ((lib.blocks.find? fun b => type ∈ b.aliases).map BlockSpec.id).getD type

/-- A type that is replaced is replaced by the identifier of a block. -/
theorem current_eq_or_mem (lib : Library) (type : Text) :
    lib.current type = type ∨ lib.current type ∈ lib.identifiers := by
  unfold current identifiers
  cases hfind : lib.blocks.find? fun b => type ∈ b.aliases with
  | none => exact .inl rfl
  | some b => exact .inr (List.mem_map.mpr ⟨b, List.mem_of_find?_eq_some hfind, rfl⟩)

section Loaded

variable {file : Text} {content : Json.Content} {lib : Library} (h : load file content = .ok lib)

include h

/-- The type that a former identifier is replaced by. -/
theorem currentType_aliasFields (type : Text) :
    Project.currentType lib.aliasFields type = .text (lib.current type) := by
  obtain ⟨-, -, -, -, -, -, -, -, haliases⟩ := blocks_of_load h
  unfold Project.currentType Fields.get aliasFields current
  rw [Assoc.getD_mapValues, Assoc.getD, haliases, get?_collectAliases]

theorem isEmpty_current {type : Text} (htype : type.isEmpty = false) :
    (lib.current type).isEmpty = false := by
  rcases lib.current_eq_or_mem type with hsame | hblock
  · rw [hsame]
    exact htype
  · obtain ⟨b, hb, hid⟩ := List.mem_map.mp hblock
    rw [← hid]
    exact id_of_load h hb

end Loaded

end Library

/-! ## renaming -/

def Node.renamed (f : Text → Text) (n : Node) : Node :=
  { n with type := match n.type with
    | .text type => .text (f type)
    | other => other }

namespace Project

/-- A project with other names for the types of its blocks. -/
def renamed (f : Text → Text) (p : Project) : Project :=
  { p with diagram := { p.diagram with nodes := p.diagram.nodes.map (Node.renamed f) } }

section Renamed

variable {aliases : Fields} {f : Text → Text}
    (h : ∀ type, currentType aliases type = .text (f type))

include h

theorem readNode_renamed (fs : Fields) :
    readNode aliases fs = (readNode [] fs).map (Option.map (Node.renamed f)) := by
  unfold readNode
  dsimp only
  split
  · rfl
  · cases (Fields.get (Node.dictOr fs "pos") "x" (.float 0.0)).toFloat with
    | error fault => rfl
    | ok x =>
      cases (Fields.get (Node.dictOr fs "pos") "y" (.float 0.0)).toFloat with
      | error fault => rfl
      | ok y =>
        rw [h]
        rfl

/-- Reading a document with former identifiers renames the types, and does nothing else. -/
theorem ofDocument_renamed (v : Value) :
    ofDocument aliases v = (ofDocument [] v).map (renamed f) := by
  have hnodes (nodes : List Fields) : nodes.mapM (readNode aliases) =
      (nodes.mapM (readNode [])).map (List.map (Option.map (Node.renamed f))) := by
    rw [← Outcome.mapM_map]
    exact congrArg (fun g => nodes.mapM g) (funext (readNode_renamed h))
  have hfound (read : List (Option Node)) : (read.map (Option.map (Node.renamed f))).filterMap id =
      (read.filterMap id).map (Node.renamed f) := by
    rw [List.filterMap_map, List.map_filterMap]
    rfl
  unfold ofDocument
  simp only [bind, Except.bind, hnodes]
  cases v.fields with
  | error fault => rfl
  | ok fs =>
    dsimp only
    cases Diagram.dictItems fs "nodes" with
    | error fault => rfl
    | ok nodes =>
      dsimp only
      cases nodes.mapM (readNode []) with
      | error fault => rfl
      | ok read =>
        cases Diagram.dictItems fs "edges" with
        | error fault => rfl
        | ok edges =>
          exact congrArg (fun nodes => Except.ok (Project.mk ⟨nodes, _⟩ _ _)) (hfound read)

end Renamed

theorem aliasesOf_dict (fs : Fields) : aliasesOf (.dict fs) = .ok fs := by
  have hfields : Value.Table.fields (fs.map fun e => (Value.text e.1, e.2)) = fs := by
    unfold Value.Table.fields
    induction fs with
    | nil => rfl
    | cons e fs ih => exact congrArg (List.cons e) ih
  exact congrArg Except.ok hfields

theorem checkKnown_texts (ids : List Text) : checkKnown (.list (ids.map .text)) = .ok () := by
  induction ids with
  | nil => rfl
  | cons id ids ih => exact ih

/-- A block with a type keeps it exactly when the name of the type is kept. -/
theorem renamed_eq_iff {n : Node} {type : Text} (h : n.type = .text type) (f : Text → Text) :
    n.renamed f = n ↔ f type = type := by
  obtain ⟨uid, _, x, y, params⟩ := n
  cases h
  simp [Node.renamed]

theorem renamed_eq_self_iff (p : Project) (f : Text → Text) :
    p.renamed f = p ↔ ∀ n ∈ p.diagram.nodes, n.renamed f = n := by
  obtain ⟨⟨nodes, links⟩, board, port⟩ := p
  simp only [renamed, mk.injEq, Diagram.mk.injEq, and_true]
  have hmap := List.map_inj_left (l := nodes) (f := Node.renamed f) (g := id)
  rwa [List.map_id] at hmap

section Libraries

variable {file : Text} {blocks content : Json.Content} {lib : Library} {p : Project}
    {lines : List Text}
  (hlib : Library.load file blocks = .ok lib)

include hlib

/-- What is opened with the former identifiers of a library is what is opened without them, with the
types renamed. -/
theorem renamed_of_load (hload : load (.dict lib.aliasFields) lib.known content = .ok (p, lines)) :
    ∃ q, load .null .null content = .ok (q, []) ∧ q.Complete ∧ p = q.renamed lib.current := by
  obtain ⟨v, fs, current, hv, hfs, hcurrent, -, hp, -⟩ := load_eq_ok_iff.mp hload
  rw [aliasesOf_dict] at hcurrent
  cases hcurrent
  rw [ofDocument_renamed (Library.currentType_aliasFields hlib)] at hp
  cases hq : ofDocument [] v with
  | error fault =>
    rw [hq] at hp
    exact nomatch hp
  | ok q =>
    rw [hq] at hp
    exact ⟨q, load_of_document rfl hv hq, complete_of_ofDocument hq, (Except.ok.inj hp).symm⟩

theorem Complete.renamed {q : Project} (hq : q.Complete) : (q.renamed lib.current).Complete where
  nodes n hn := by
    obtain ⟨m, hm, rfl⟩ := List.mem_map.mp hn
    obtain ⟨huid, type, htype, hfull⟩ := hq.nodes m hm
    refine ⟨huid, lib.current type, ?_, Library.isEmpty_current hlib hfull⟩
    simp only [Node.renamed, htype]
  links := hq.links

/-- The document of a project is read with the types renamed. -/
theorem ofDocument_saved (hp : p.Complete) :
    ofDocument lib.aliasFields p.toDocument = .ok (p.renamed lib.current) := by
  rw [ofDocument_renamed (Library.currentType_aliasFields hlib), ofDocument_toDocument hp]
  rfl

end Libraries

/-- A document is opened with the former identifiers of a library. -/
theorem load_of_aliases {room : Json.Room} {lib : Library} {v : Value} {t : Text} {p : Project}
    (hv : (Json.Content.text t room).document = .ok v) (hp : ofDocument lib.aliasFields v = .ok p) :
    ∃ lines, load (.dict lib.aliasFields) lib.known (.text t room) = .ok (p, lines) := by
  obtain ⟨fs, -, -, -, hfs, -⟩ := ofDocument_eq_ok_iff.mp hp
  exact ⟨_, load_eq_ok_iff.mpr ⟨v, fs, lib.aliasFields, hv, hfs, aliasesOf_dict _,
    checkKnown_texts _, hp, rfl⟩⟩

/-- The blocks whose type is the identifier of a block of the library keep that type. -/
def KeepsKnown (lib : Library) (q : Project) : Prop :=
  ∀ n ∈ q.diagram.nodes, ∀ id ∈ lib.identifiers, n.type = .text id → n.renamed lib.current = n

/-- Known types are kept, and a second renaming changes nothing, as far as the names of the types
allow. -/
theorem keepsKnown_and_stable_iff (lib : Library) {q : Project} (hq : q.Complete) :
    let p := q.renamed lib.current
    KeepsKnown lib q ∧ p.renamed lib.current = p ↔
      ∀ n ∈ q.diagram.nodes, ∀ type, n.type = .text type →
        (type ∈ lib.identifiers → lib.current type = type) ∧
          lib.current (lib.current type) = lib.current type := by
  intro p
  have htwice {n : Node} {type : Text} (htype : n.type = .text type) :
      (n.renamed lib.current).renamed lib.current = n.renamed lib.current ↔
        lib.current (lib.current type) = lib.current type :=
    renamed_eq_iff (by simp only [Node.renamed, htype]) lib.current
  have hstable : p.renamed lib.current = p ↔ ∀ n ∈ q.diagram.nodes,
      (n.renamed lib.current).renamed lib.current = n.renamed lib.current :=
    (renamed_eq_self_iff p lib.current).trans List.forall_mem_map
  rw [hstable]
  constructor
  · rintro ⟨hkeeps, htwo⟩ n hn type htype
    refine ⟨fun hid => ?_, (htwice htype).mp (htwo n hn)⟩
    exact (renamed_eq_iff htype lib.current).mp (hkeeps n hn type hid htype)
  · intro h
    refine ⟨fun n hn id hid htype => ?_, fun n hn => ?_⟩
    · exact (renamed_eq_iff htype lib.current).mpr ((h n hn id htype).1 hid)
    · obtain ⟨-, type, htype, -⟩ := hq.nodes n hn
      exact (htwice htype).mpr (h n hn type htype).2

/-- A project that is opened with the former identifiers of a library is the project in the file,
with every type that a block was known by before replaced by the identifier of the first such block.
Reading its document again replaces types once more, and as far as the document is read back from
its file, so does saving and opening it.  So the types of the library are kept, and the project is
opened again as it was, exactly when no type of the file that is an identifier of the library is
replaced, and none is replaced by a type that is replaced itself.  That is so for every project if
no identifier of the library is a former identifier of another of its blocks. -/
theorem load_migrated (file : Text) (blocks content : Json.Content) (lib : Library) (p : Project)
    (lines : List Text) (hlib : Library.load file blocks = .ok lib)
    (hload : load (.dict lib.aliasFields) lib.known content = .ok (p, lines)) :
    ∃ q, load .null .null content = .ok (q, []) ∧ p = q.renamed lib.current ∧
      ofDocument lib.aliasFields p.toDocument = .ok (p.renamed lib.current) ∧
      (∀ room, Rereads room p.toDocument → ∃ text lines', p.storedText = .ok text ∧
        load (.dict lib.aliasFields) lib.known (.text text room) =
          .ok (p.renamed lib.current, lines')) ∧
      (KeepsKnown lib q ∧ p.renamed lib.current = p ↔
        ∀ n ∈ q.diagram.nodes, ∀ type, n.type = .text type →
          (type ∈ lib.identifiers → lib.current type = type) ∧
            lib.current (lib.current type) = lib.current type) ∧
      ((∀ id ∈ lib.identifiers, lib.current id = id) →
        KeepsKnown lib q ∧ p.renamed lib.current = p) := by
  obtain ⟨q, hq, hcomplete, rfl⟩ := renamed_of_load hlib hload
  have hiff := keepsKnown_and_stable_iff lib hcomplete
  have hsaved := ofDocument_saved hlib (hcomplete.renamed hlib)
  refine ⟨q, hq, rfl, hsaved, fun room h => ?_, hiff, fun hids => hiff.mpr fun n _ type _ => ?_⟩
  · obtain ⟨lines', hlines'⟩ := load_of_aliases h hsaved
    exact ⟨_, lines', storedText_of_rereads h, hlines'⟩
  · refine ⟨hids type, ?_⟩
    rcases lib.current_eq_or_mem type with hsame | hblock
    · rw [hsame, hsame]
    · exact hids _ hblock

/-- A library of a lamp, which was known as `former` before, and of a pause, which was a delay. -/
def lampAndPause (former : Text) : Value := .list [
  .dict [("id", .text "lamp"), ("category", .text "light"), ("aliases", .list [.text former])],
  .dict [("id", .text "pause"), ("category", .text "time"), ("aliases", .list [.text "delay"])]]

def twoPauses : Value := .dict [("nodes", .list [
  .dict [("uid", .text "a"), ("type", .text "pause")],
  .dict [("uid", .text "b"), ("type", .text "delay")]])]

/-- Two blocks of the types `first` and `second`. -/
def twoBlocks (first second : Text) : Project where
  diagram := { nodes := [{ uid := "a", type := .text first },
    { uid := "b", type := .text second }] }

theorem load_migrated_lampAndPause :
    ∃ lib, Library.load "blocks.json" (.text (Json.render (lampAndPause "light"))) = .ok lib ∧
      ∃ lines, load (.dict lib.aliasFields) lib.known (.text (Json.render twoPauses)) =
        .ok (twoBlocks "pause" "pause", lines) ∧
      ∃ text lines', (twoBlocks "pause" "pause").storedText = .ok text ∧
        load (.dict lib.aliasFields) lib.known (.text text) =
          .ok (twoBlocks "pause" "pause", lines') := by
  have hblocks : (Json.Content.text (Json.render (lampAndPause "light"))).document =
      .ok (lampAndPause "light") := document_eq_ok (by decide +kernel)
  have hnodes : (Json.Content.text (Json.render twoPauses)).document = .ok twoPauses :=
    document_eq_ok (by decide +kernel)
  have hrereads : Rereads .usual (twoBlocks "pause" "pause").toDocument :=
    document_eq_ok (by decide +kernel)
  have htest : (Library.ofDocument .usual (lampAndPause "light")).toOption.any (fun lib =>
      decide ((ofDocument lib.aliasFields twoPauses).toOption = some (twoBlocks "pause" "pause")) &&
        decide (∀ id ∈ lib.identifiers, lib.current id = id)) = true := by decide +kernel
  obtain ⟨lib, hlib, hlibTest⟩ := Outcome.exists_ok_of_any htest
  rw [Bool.and_eq_true, decide_eq_true_eq, decide_eq_true_eq] at hlibTest
  have hload := (Library.load_of_document hblocks "blocks.json").trans hlib
  obtain ⟨lines, hlines⟩ := load_of_aliases hnodes (Outcome.eq_ok_of_toOption hlibTest.1)
  obtain ⟨q, -, -, -, hsaved, -, hkeeps⟩ := load_migrated _ _ _ lib _ lines hload hlines
  rw [(hkeeps hlibTest.2).2] at hsaved
  exact ⟨lib, hload, lines, hlines, hsaved .usual hrereads⟩

/-- The lamp was known as a pause before.  Then the pause is opened as a lamp, and the delay as a
pause; saved and opened again, that is a lamp, too. -/
theorem not_keepsKnown_lampAndPause :
    ∃ lib, Library.load "blocks.json" (.text (Json.render (lampAndPause "pause"))) = .ok lib ∧
      ("pause" : Text) ∈ lib.identifiers ∧
      (∃ lines, load (.dict lib.aliasFields) lib.known (.text (Json.render twoPauses)) =
        .ok (twoBlocks "lamp" "pause", lines)) ∧
      ∃ text lines', (twoBlocks "lamp" "pause").storedText = .ok text ∧
        load (.dict lib.aliasFields) lib.known (.text text) =
          .ok (twoBlocks "lamp" "lamp", lines') := by
  have hblocks : (Json.Content.text (Json.render (lampAndPause "pause"))).document =
      .ok (lampAndPause "pause") := document_eq_ok (by decide +kernel)
  have hnodes : (Json.Content.text (Json.render twoPauses)).document = .ok twoPauses :=
    document_eq_ok (by decide +kernel)
  have hrereads : Rereads .usual (twoBlocks "lamp" "pause").toDocument :=
    document_eq_ok (by decide +kernel)
  have htest : (Library.ofDocument .usual (lampAndPause "pause")).toOption.any (fun lib =>
      lib.identifiers.contains "pause" &&
        (decide ((ofDocument lib.aliasFields twoPauses).toOption =
          some (twoBlocks "lamp" "pause")) &&
        decide ((ofDocument lib.aliasFields (twoBlocks "lamp" "pause").toDocument).toOption =
          some (twoBlocks "lamp" "lamp")))) = true := by decide +kernel
  obtain ⟨lib, hlib, hlibTest⟩ := Outcome.exists_ok_of_any htest
  rw [Bool.and_eq_true, Bool.and_eq_true, decide_eq_true_eq, decide_eq_true_eq,
    List.contains_iff_mem] at hlibTest
  obtain ⟨hknown, hfirst, hsecond⟩ := hlibTest
  obtain ⟨lines', hlines'⟩ := load_of_aliases hrereads (Outcome.eq_ok_of_toOption hsecond)
  exact ⟨lib, (Library.load_of_document hblocks _).trans hlib, hknown,
    load_of_aliases hnodes (Outcome.eq_ok_of_toOption hfirst), _, lines',
      storedText_of_rereads hrereads,
    hlines'⟩

end Project

end BlockSketch
