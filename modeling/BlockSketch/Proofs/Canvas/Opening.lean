import BlockSketch.Proofs.Canvas.Loading
import BlockSketch.Proofs.Diagram.Project
import Mathlib.Data.List.TakeWhile

/-!
# BlockSketch.Proofs.Canvas.Opening

The blocks in a scene after a project file was opened in it.  A scene keeps its blocks by
their identifiers, so that of several blocks with one identifier the last is kept, in the
place of the first; and a block without an identifier of its own goes by its type.

* `blocks_loaded` — the blocks after a diagram was opened;
* `contents_loaded_iff` — when these are the blocks of the diagram;
* `contents_opened_iff` — the same of a project file.
-/

namespace BlockSketch.Canvas

namespace Scene

/-- What the blocks of a scene are, by identifier. -/
def blocks (s : Scene) : Assoc Text (Text × Value × Fields) :=
  Assoc.mapValues (fun h => (s.card h).node.content) s.byUid

theorem contents_eq_values (s : Scene) :
    s.diagram.nodes.map Node.content = Assoc.values s.blocks := by
  simp [diagram, nodes, blocks, Assoc.values, Assoc.mapValues]

theorem blocks_congr {s t : Scene} (hcards : t.cards = s.cards) (huids : t.byUid = s.byUid) :
    t.blocks = s.blocks := by
  unfold blocks card
  rw [hcards, huids]

/-- A new card takes the place of the card with the same identifier. -/
theorem blocks_addCard {s : Scene} (h : s.Named) (c : Card) :
    (s.addCard c).blocks = Assoc.put s.blocks c.node.uid c.node.content := by
  have hold :
      Assoc.mapValues (fun k => ((s.addCard c).card k).node.content) s.byUid = s.blocks := by
    refine List.map_congr_left fun e he => ?_
    dsimp only
    rw [card_addCard_of_lt c (h e he).1]
  have hnew : ((s.addCard c).card s.cards.length).node.content = c.node.content := by
    rw [card_addCard_self]
  rw [← hold, ← hnew]
  exact Assoc.mapValues_put _ s.byUid c.node.uid s.cards.length

theorem blocks_withCards {s : Scene} (h : s.Named) (nodes : List Node) :
    (s.withCards nodes).blocks =
      Assoc.putAll s.blocks ((cardable s.catalog nodes).map fun n => (n.uid, n.content)) := by
  induction nodes generalizing s with
  | nil => rfl
  | cons n rest ih =>
    unfold Scene.withCards
    cases hc : Edit.cardFor s.catalog n with
    | error fault => simp [cardable, hc, Except.isOk, Except.toBool, Assoc.putAll]
    | ok c =>
      have hcardable : cardable s.catalog (n :: rest) = n :: cardable s.catalog rest := by
        simp [cardable, hc, Except.isOk, Except.toBool]
      have hrest := ih (h.addCard c)
      rw [blocks_addCard h, uid_of_cardFor hc, content_of_cardFor hc] at hrest
      rw [hcardable, List.map_cons]
      exact hrest

/-- The blocks after a diagram was opened: the last one of each identifier, up to the first block
that has no card. -/
theorem blocks_loaded (s : Scene) (d : Diagram) :
    (s.loaded d).blocks =
      Assoc.ofList ((cardable s.catalog d.nodes).map fun n => (n.uid, n.content)) := by
  have hdealt : (s.loaded d).blocks = (s.dealt d).blocks := by
    unfold loaded
    split
    · exact blocks_congr (cards_restoreds _ _) (byUid_restoreds _ _)
    · rfl
  have hnamed : (s.cleared d.links).Named := fun e he => nomatch he
  rw [hdealt, dealt, blocks_withCards hnamed, Edit.catalog_cleared]
  rfl

/-- The identifiers in a scene after a diagram was opened are distinct. -/
theorem nodup_uids_loaded (s : Scene) (d : Diagram) : (s.loaded d).diagram.uids.Nodup := by
  have hkeys : Assoc.keys (s.loaded d).blocks = Assoc.keys (s.loaded d).byUid := by
    simp [blocks, Assoc.keys, Assoc.mapValues]
  rw [uids_diagram (Named.loaded s d), ← hkeys, blocks_loaded]
  exact Assoc.nodup_keys_putAll (m := []) List.nodup_nil _

/-- A scene shows the blocks of a diagram that was opened in it exactly when these have identifiers
of their own and each has a card. -/
theorem contents_loaded_iff (s : Scene) (d : Diagram) :
    (s.loaded d).diagram.nodes.map Node.content = d.nodes.map Node.content ↔
      d.uids.Nodup ∧ s.showsAll d = true := by
  have huids (d : Diagram) : d.uids = (d.nodes.map Node.content).map Prod.fst := by
    rw [Diagram.uids, List.map_map]
    rfl
  have hall : cardable s.catalog d.nodes = d.nodes ↔ s.showsAll d = true := by
    rw [cardable, List.takeWhile_eq_self_iff, showsAll, List.all_eq_true]
  rw [← hall]
  constructor
  · intro heq
    refine ⟨?_, (List.takeWhile_prefix _).eq_of_length_le ?_⟩
    · rw [huids d, ← heq, ← huids]
      exact nodup_uids_loaded s d
    · -- As many blocks are in the scene as there are cards at most.
      have hlength := congrArg List.length heq
      rw [contents_eq_values, blocks_loaded, Assoc.values, List.length_map,
        List.length_map] at hlength
      have hle := Assoc.length_putAll_le []
        ((cardable s.catalog d.nodes).map fun n => (n.uid, n.content))
      rw [List.length_map, List.length_nil, Nat.zero_add] at hle
      rw [← hlength]
      exact hle
  · rintro ⟨hnodup, hshown⟩
    have hentries := Assoc.putAll_of_nodup [] (d.nodes.map fun n => (n.uid, n.content)) (by
      rw [List.map_map]
      exact hnodup)
    rw [contents_eq_values, blocks_loaded, hshown, Assoc.ofList, hentries, Assoc.values,
      List.nil_append, List.map_map]
    rfl

end Scene

/-- Opening a project file loses no block exactly when the identifiers in the file are distinct,
where a node without an identifier goes by its type, and the opening does not stop. -/
theorem contents_opened_iff {aliases known : Value} {content : Json.Content} {p : Project}
    {lines : List Text} (h : Project.load aliases known content = .ok (p, lines)) (t : Session) :
    (t.perform (.load p.diagram)).scene.diagram.nodes.map Node.content =
        p.diagram.nodes.map Node.content ↔
      (∃ v, content.document = .ok v ∧ (Project.documentUids v).Nodup) ∧
        ¬ (Operation.load p.diagram).Stops t := by
  obtain ⟨v, fs, current, hv, -, -, -, hp, -⟩ := Project.load_eq_ok_iff.mp h
  have huids : p.diagram.uids = Project.documentUids v := Project.uids_of_ofDocument hp
  have hfile : (∃ v, content.document = .ok v ∧ (Project.documentUids v).Nodup) ↔
      p.diagram.uids.Nodup := by
    rw [huids, hv]
    simp
  rw [scene_perform, hfile, stops_load_iff, Bool.not_eq_false]
  exact Scene.contents_loaded_iff t.scene p.diagram

/-- A document with two blocks of one type, of which the first has no identifier and the second has
the fields `more`. -/
def pair (more : Fields) : Value :=
  .dict [("nodes", .list [.dict [("type", .text "wait")], .dict (("type", .text "wait") :: more)])]

/-- Two blocks of one type, of which the second has the identifier `uid`. -/
def pairProject (uid : Text) : Project where
  diagram := { nodes := [{ uid := "wait", type := .text "wait" }, { uid, type := .text "wait" }] }

/-- What an empty scene becomes when a project is opened in it. -/
def opened (p : Project) : Scene := ((Session.blank [] none).perform (.load p.diagram)).scene

theorem contents_opened_pair :
    Project.load .null .null (.text (Json.render (pair [("uid", .text "b")]))) =
        .ok (pairProject "b", []) ∧
      (opened (pairProject "b")).diagram.nodes.map Node.content =
        (pairProject "b").diagram.nodes.map Node.content := by
  have hdocument : (Json.Content.text (Json.render (pair [("uid", .text "b")]))).document =
      .ok (pair [("uid", .text "b")]) := Project.document_eq_ok (by decide +kernel)
  have hread : Project.ofDocument [] (pair [("uid", .text "b")]) = .ok (pairProject "b") :=
    Outcome.eq_ok_of_toOption (by decide +kernel)
  have hknown : Project.checkKnown .null = .ok () := rfl
  have hload := Project.load_of_document hknown hdocument hread
  have hshown : ¬ (Operation.load (pairProject "b").diagram).Stops (Session.blank [] none) := by
    rw [stops_load_iff]
    decide +kernel
  exact ⟨hload, (contents_opened_iff hload _).mpr ⟨⟨_, hdocument, by decide +kernel⟩, hshown⟩⟩

/-- Two blocks of one type without identifiers go by the same one, and the first is lost. -/
theorem block_lost_of_pair :
    Project.load .null .null (.text (Json.render (pair []))) = .ok (pairProject "wait", []) ∧
      (pairProject "wait").diagram.nodes.length = 2 ∧
      (opened (pairProject "wait")).diagram.nodes.length = 1 := by
  have hdocument : (Json.Content.text (Json.render (pair []))).document = .ok (pair []) :=
    Project.document_eq_ok (by decide +kernel)
  have hread : Project.ofDocument [] (pair []) = .ok (pairProject "wait") :=
    Outcome.eq_ok_of_toOption (by decide +kernel)
  exact ⟨Project.load_of_document rfl hdocument hread, rfl, by decide +kernel⟩

end BlockSketch.Canvas
