import BlockSketch.Diagram.Project

/-!
# BlockSketch.Proofs.Diagram.Project

Project files.  What is read from a file has identifiers, types and ends of links that
are not empty, and a project with such names is read back from the file that it is
written to.

* `load_eq_ok_iff`, `ofDocument_eq_ok_iff` — the steps of opening a file;
* `uids_of_load` — the identifiers that blocks get from a file;
* `ofDocument_toDocument`, `complete_of_ofDocument` — writing and reading;
* `load_save` — the same of files.
-/

namespace BlockSketch

/-- A block that has an identifier, and a type with a name. -/
def Node.Identified (n : Node) : Prop :=
  n.uid.isEmpty = false ∧ ∃ type : Text, n.type = .text type ∧ type.isEmpty = false

/-- A link that names the blocks at its two ends. -/
def Link.Anchored (l : Link) : Prop := l.fromUid.isEmpty = false ∧ l.toUid.isEmpty = false

namespace Project

/-- A project whose blocks and links have the names that a file needs. -/
structure Complete (p : Project) : Prop where
  nodes : ∀ n ∈ p.diagram.nodes, n.Identified
  links : ∀ l ∈ p.diagram.links, l.Anchored

/-! ## reading -/

/-- The steps of opening a file. -/
theorem load_eq_ok_iff {aliases known : Value} {content : Json.Content} {p : Project}
    {lines : List Text} :
    load aliases known content = .ok (p, lines) ↔ ∃ v fs current, content.document = .ok v ∧
      v.fields = .ok fs ∧ aliasesOf aliases = .ok current ∧ checkKnown known = .ok () ∧
      ofDocument current v = .ok p ∧ (replacements current v).map Replacement.message = lines := by
  simp only [load, Outcome.bind_eq_ok_iff, pure, Except.pure, Except.ok.injEq, Prod.mk.injEq]
  constructor
  · rintro ⟨v, hv, fs, hfs, current, hcurrent, _, hknown, _, hp, rfl, hlines⟩
    exact ⟨v, fs, current, hv, hfs, hcurrent, hknown, hp, hlines⟩
  · rintro ⟨v, fs, current, hv, hfs, hcurrent, hknown, hp, hlines⟩
    exact ⟨v, hv, fs, hfs, current, hcurrent, (), hknown, p, hp, rfl, hlines⟩

/-- The steps of reading a document. -/
theorem ofDocument_eq_ok_iff {aliases : Fields} {v : Value} {p : Project} :
    ofDocument aliases v = .ok p ↔ ∃ fs nodes read edges, v.fields = .ok fs ∧
      Diagram.dictItems fs "nodes" = .ok nodes ∧ nodes.mapM (readNode aliases) = .ok read ∧
      Diagram.dictItems fs "edges" = .ok edges ∧
      p = ⟨⟨read.filterMap id, edges.filterMap readEdge⟩, fs.opt "board", fs.opt "port"⟩ := by
  simp only [ofDocument, Outcome.bind_eq_ok_iff, pure, Except.pure, Except.ok.injEq]
  constructor
  · rintro ⟨fs, hfs, nodes, hnodes, read, hread, edges, hedges, rfl⟩
    exact ⟨fs, nodes, read, edges, hfs, hnodes, hread, hedges, rfl⟩
  · rintro ⟨fs, nodes, read, edges, hfs, hnodes, hread, hedges, rfl⟩
    exact ⟨fs, hfs, nodes, hnodes, read, hread, edges, hedges, rfl⟩

/-- The identifier that a block gets from a node of a file: the one that is written there, or else
its type.  A node without a type is no block. -/
def nodeUid? (fs : Fields) : Option Text :=
  let type := Link.shownOr fs "type"
  let uid := Link.shownOr fs "uid"
  if type.isEmpty then none else some (if uid.isEmpty then type else uid)

/-- What a node of a file is read as. -/
theorem readNode_spec {aliases fs : Fields} {found : Option Node}
    (h : readNode aliases fs = .ok found) :
    found.map Node.uid = nodeUid? fs ∧ ∀ n, found = some n →
      n.uid.isEmpty = false ∧ (Link.shownOr fs "type").isEmpty = false ∧
        n.type = currentType aliases (Link.shownOr fs "type") := by
  unfold readNode at h
  unfold nodeUid?
  cases htype : (Link.shownOr fs "type").isEmpty with
  | true =>
    rw [if_pos htype] at h
    cases h
    exact ⟨by simp [htype], nofun⟩
  | false =>
    rw [if_neg (by simp [htype])] at h
    obtain ⟨x, _, h⟩ := Outcome.bind_eq_ok_iff.mp h
    obtain ⟨y, _, h⟩ := Outcome.bind_eq_ok_iff.mp h
    cases h
    refine ⟨by simp [htype], ?_⟩
    rintro n hn
    cases hn
    refine ⟨?_, rfl, rfl⟩
    dsimp only
    split
    · exact htype
    · next huid => simpa using huid

/-- The blocks that nodes are read as have the identifiers of the nodes, and each comes from a
node. -/
theorem mapM_readNode {aliases : Fields} {nodes : List Fields} {read : List (Option Node)}
    (h : nodes.mapM (readNode aliases) = .ok read) :
    (read.filterMap id).map Node.uid = nodes.filterMap nodeUid? ∧
      ∀ n, some n ∈ read → ∃ fs, readNode aliases fs = .ok (some n) := by
  induction nodes generalizing read with
  | nil =>
    cases h
    exact ⟨rfl, nofun⟩
  | cons fs nodes ih =>
    rw [List.mapM_cons, Outcome.bind_eq_ok_iff] at h
    obtain ⟨found, hfound, hrest⟩ := h
    obtain ⟨read, hread, hcons⟩ := Outcome.bind_eq_ok_iff.mp hrest
    cases hcons
    obtain ⟨huids, hfrom⟩ := ih hread
    have hfirst := (readNode_spec hfound).1
    refine ⟨?_, fun n hn => ?_⟩
    · cases found with
      | none => simpa [← hfirst] using huids
      | some n => simpa [← hfirst] using huids
    · rcases List.mem_cons.mp hn with rfl | hn
      · exact ⟨fs, hfound⟩
      · exact hfrom n hn

def documentNodes (v : Value) : Outcome (List Fields) := do Diagram.dictItems (← v.fields) "nodes"

/-- The identifiers that the blocks of a document get, in order. -/
def documentUids (v : Value) : List Text := ((documentNodes v).toOption.getD []).filterMap nodeUid?

theorem uids_of_ofDocument {aliases : Fields} {v : Value} {p : Project}
    (h : ofDocument aliases v = .ok p) : p.diagram.nodes.map Node.uid = documentUids v := by
  obtain ⟨fs, nodes, read, edges, hfs, hnodes, hread, -, rfl⟩ := ofDocument_eq_ok_iff.mp h
  have hdocument : documentNodes v = .ok nodes := Outcome.bind_eq_ok_iff.mpr ⟨fs, hfs, hnodes⟩
  unfold documentUids
  rw [hdocument]
  exact (mapM_readNode hread).1

theorem anchored_of_readEdge {fs : Fields} {l : Link} (h : readEdge fs = some l) : l.Anchored := by
  unfold readEdge at h
  dsimp only at h
  split at h
  · exact nomatch h
  · next hends =>
    cases h
    simpa [Link.Anchored] using hends

/-- What is read from a document without replacing types is complete. -/
theorem complete_of_ofDocument {v : Value} {p : Project} (h : ofDocument [] v = .ok p) :
    p.Complete := by
  obtain ⟨fs, nodes, read, edges, -, -, hread, -, rfl⟩ := ofDocument_eq_ok_iff.mp h
  refine ⟨fun n hn => ?_, fun l hl => ?_⟩
  · obtain ⟨fs, hnode⟩ := (mapM_readNode hread).2 n (by simpa using hn)
    obtain ⟨huid, hfull, htype⟩ := (readNode_spec hnode).2 n rfl
    exact ⟨huid, _, htype, hfull⟩
  · obtain ⟨edge, -, hedge⟩ := List.mem_filterMap.mp hl
    exact anchored_of_readEdge hedge

/-! ## writing -/

theorem get_cons (key : Text) (entry : Text × Value) (fs : Fields) (fallback : Value) :
    Fields.get (entry :: fs) key fallback =
      if entry.1 = key then entry.2 else fs.get key fallback := by
  obtain ⟨k, v⟩ := entry
  simp only [Fields.get, Assoc.getD, Assoc.get?]
  split <;> rfl

/-- A block is read from its node. -/
theorem readNode_nodeDocument {n : Node} (hn : n.Identified) :
    ∃ fs, (nodeDocument n).asDict? = some fs ∧ readNode [] fs = .ok (some n) := by
  obtain ⟨uid, _, x, y, params⟩ := n
  obtain ⟨huid, type, rfl, hfull⟩ := hn
  let place : Fields := [("x", .float x), ("y", .float y)]
  let fs : Fields :=
    [("uid", .text uid), ("type", .text type), ("pos", .dict place), ("params", .dict params)]
  have hname : Link.shownOr fs "uid" = uid := by
    simp [fs, Link.shownOr, get_cons, Value.shown]
  have htype : Link.shownOr fs "type" = type := by
    simp [fs, Link.shownOr, get_cons, Text.ofString_inj, Value.shown]
  have hplace : Node.dictOr fs "pos" = place := by
    simp [fs, Node.dictOr, Fields.opt, get_cons, Text.ofString_inj, Value.asDict?]
  have hparams : Node.dictOr fs "params" = params := by
    simp [fs, Node.dictOr, Fields.opt, get_cons, Text.ofString_inj, Value.asDict?]
  have hx : (place.get "x" (.float 0.0)).toFloat = .ok x := by
    simp [place, get_cons, Value.toFloat]
  have hy : (place.get "y" (.float 0.0)).toFloat = .ok y := by
    simp [place, get_cons, Text.ofString_inj, Value.toFloat]
  have hkept : (if uid.isEmpty = true then type else uid) = uid := if_neg (by simpa using huid)
  refine ⟨fs, rfl, ?_⟩
  unfold readNode
  rw [htype, hname, hplace, hparams, if_neg (by simp [hfull])]
  refine Outcome.bind_eq_ok_iff.mpr ⟨x, hx, Outcome.bind_eq_ok_iff.mpr ⟨y, hy, ?_⟩⟩
  dsimp only
  rw [hkept]
  rfl

/-- A link is read from its edge. -/
theorem readEdge_edgeDocument {l : Link} (hl : l.Anchored) :
    ∃ fs, (edgeDocument l).asDict? = some fs ∧ readEdge fs = some l := by
  let source : Fields := [("node", .text l.fromUid), ("port", .text l.fromPort)]
  let target : Fields := [("node", .text l.toUid), ("port", .text l.toPort)]
  let fs : Fields := [("uid", .text l.key), ("from", .dict source), ("to", .dict target)]
  have hsource : Node.dictOr fs "from" = source := by
    simp [fs, Node.dictOr, Fields.opt, get_cons, Text.ofString_inj, Value.asDict?]
  have htarget : Node.dictOr fs "to" = target := by
    simp [fs, Node.dictOr, Fields.opt, get_cons, Text.ofString_inj, Value.asDict?]
  have hfrom :
      Link.shownOr source "node" = l.fromUid ∧ Link.shownOr source "port" = l.fromPort := by
    simp [source, Link.shownOr, get_cons, Text.ofString_inj, Value.shown]
  have hto : Link.shownOr target "node" = l.toUid ∧ Link.shownOr target "port" = l.toPort := by
    simp [target, Link.shownOr, get_cons, Text.ofString_inj, Value.shown]
  refine ⟨fs, rfl, ?_⟩
  unfold readEdge
  dsimp only
  rw [hsource, htarget, hfrom.1, hfrom.2, hto.1, hto.2]
  exact if_neg (by simp [hl.1, hl.2])

/-- Complete blocks are read from their nodes. -/
theorem mapM_nodeDocument {nodes : List Node} (h : ∀ n ∈ nodes, n.Identified) :
    ((nodes.map nodeDocument).filterMap Value.asDict?).mapM (readNode []) =
      .ok (nodes.map some) := by
  induction nodes with
  | nil => rfl
  | cons n nodes ih =>
    obtain ⟨fs, hfs, hread⟩ := readNode_nodeDocument (h n List.mem_cons_self)
    have hrest := ih fun m hm => h m (List.mem_cons_of_mem n hm)
    rw [List.map_cons, List.filterMap_cons_some hfs, List.mapM_cons, hread, hrest]
    rfl

/-- Anchored links are read from their edges. -/
theorem filterMap_edgeDocument {links : List Link} (h : ∀ l ∈ links, l.Anchored) :
    ((links.map edgeDocument).filterMap Value.asDict?).filterMap readEdge = links := by
  induction links with
  | nil => rfl
  | cons l links ih =>
    obtain ⟨fs, hfs, hread⟩ := readEdge_edgeDocument (h l List.mem_cons_self)
    have hrest := ih fun m hm => h m (List.mem_cons_of_mem l hm)
    rw [List.map_cons, List.filterMap_cons_some hfs, List.filterMap_cons_some hread, hrest]

/-- The dictionaries in a list of values. -/
theorem dictItems_of_list {fs : Fields} {key : Text} {items : List Value}
    (h : fs.get key (.list []) = .list items) :
    Diagram.dictItems fs key = .ok (items.filterMap Value.asDict?) := by
  unfold Diagram.dictItems
  rw [h]
  rfl

/-- A complete project is read from its document. -/
theorem ofDocument_toDocument {p : Project} (hp : p.Complete) :
    ofDocument [] p.toDocument = .ok p := by
  obtain ⟨⟨nodes, links⟩, board, port⟩ := p
  let fs : Fields := [("version", .int 1), ("board", board), ("port", port),
    ("nodes", .list (nodes.map nodeDocument)), ("edges", .list (links.map edgeDocument))]
  have hnodes :
      Diagram.dictItems fs "nodes" = .ok ((nodes.map nodeDocument).filterMap Value.asDict?) :=
    dictItems_of_list (by simp [fs, get_cons, Text.ofString_inj])
  have hedges :
      Diagram.dictItems fs "edges" = .ok ((links.map edgeDocument).filterMap Value.asDict?) :=
    dictItems_of_list (by simp [fs, get_cons, Text.ofString_inj])
  have hboard : fs.opt "board" = board := by simp [fs, Fields.opt, get_cons, Text.ofString_inj]
  have hport : fs.opt "port" = port := by simp [fs, Fields.opt, get_cons, Text.ofString_inj]
  refine ofDocument_eq_ok_iff.mpr ⟨fs, _, _, _, rfl, hnodes, mapM_nodeDocument hp.nodes, hedges, ?_⟩
  rw [filterMap_edgeDocument hp.links, hboard, hport]
  simp

/-- Without aliases no type is replaced. -/
theorem replacements_nil (v : Value) : replacements [] v = [] := by
  have hnone (fs : Fields) : replacement? [] fs = none :=
    if_pos (by simp [currentType, Fields.get, Assoc.getD, Assoc.get?])
  unfold replacements
  split
  · split
    · exact List.filterMap_eq_nil_iff.mpr fun fs _ => hnone fs
    · rfl
  · rfl

/-! ## files -/

/-- Without aliases a file is opened when its document is read. -/
theorem load_of_document {known v : Value} {content : Json.Content} {p : Project}
    (hknown : checkKnown known = .ok ()) (hv : content.document = .ok v)
    (hp : ofDocument [] v = .ok p) : load .null known content = .ok (p, []) := by
  obtain ⟨fs, -, -, -, hfs, -⟩ := ofDocument_eq_ok_iff.mp hp
  refine load_eq_ok_iff.mpr ⟨v, fs, [], hv, hfs, rfl, hknown, hp, ?_⟩
  rw [replacements_nil]
  rfl

/-- The document is read back from the file that it is written to. -/
def Rereads (room : Json.Room) (v : Value) : Prop :=
  (Json.Content.text (Json.render v ++ "\n") room).document = .ok v

theorem document_eq_ok {room : Json.Room} {t : Text} {v : Value}
    (h : (t.letters.mapM Letter.char?).any (fun cs =>
      decide ((Json.parseChars room (Text.unifyChars cs)).toOption = some v)) = true) :
    (Json.Content.text t room).document = .ok v := by
  cases hcs : t.letters.mapM Letter.char? with
  | none =>
    rw [hcs] at h
    exact nomatch h
  | some cs =>
    rw [hcs, Option.any_some, decide_eq_true_eq] at h
    rw [Json.document_text hcs]
    exact Outcome.eq_ok_of_toOption h

/-- What is read back has been stored. -/
theorem storedText_of_rereads {room : Json.Room} {p : Project} (h : Rereads room p.toDocument) :
    p.storedText = .ok p.fileText := by
  obtain ⟨s, hs, -⟩ := Outcome.bind_eq_ok_iff.mp h
  have hplain : p.fileText.plain?.isSome = true := by
    simp only [Json.Content.text, Json.Source.read] at hs
    split at hs
    · next s' hreread => exact Option.isSome_map.symm.trans (Option.isSome_of_eq_some hreread)
    · exact nomatch hs
  exact if_pos hplain

/-- A complete project is read back from its file. -/
theorem load_storedText {room : Json.Room} {known : Value} {p : Project}
    (hknown : checkKnown known = .ok ()) (hp : p.Complete) (h : Rereads room p.toDocument) :
    ∃ text, p.storedText = .ok text ∧ load .null known (.text text room) = .ok (p, []) := by
  exact ⟨p.fileText, storedText_of_rereads h, load_of_document hknown h (ofDocument_toDocument hp)⟩

/-- As far as documents are read back from the files that they are written to, a complete project is
read back from its file: the same blocks and links in the same order, the same board and the same
port.  And whatever file is opened, what is read from it is complete, so that it can be written and
read again. -/
theorem load_save (room : Json.Room) (known : Value) :
    (∀ p : Project, checkKnown known = .ok () → p.Complete → Rereads room p.toDocument →
      ∃ text, p.storedText = .ok text ∧ load .null known (.text text room) = .ok (p, [])) ∧
    ∀ content p lines, load .null known content = .ok (p, lines) → p.Complete ∧
      (Rereads room p.toDocument →
        ∃ text, p.storedText = .ok text ∧ load .null known (.text text room) = .ok (p, lines)) := by
  refine ⟨fun p => load_storedText, fun content p lines h => ?_⟩
  obtain ⟨v, fs, current, -, -, hcurrent, hknown, hp, hlines⟩ := load_eq_ok_iff.mp h
  cases hcurrent
  rw [replacements_nil] at hlines
  cases hlines
  have hcomplete := complete_of_ofDocument hp
  exact ⟨hcomplete, load_storedText hknown hcomplete⟩

/-- A document with a node without an identifier and one without a type, with a position that is no
float, and with an edge that leads nowhere. -/
def untidy : Value :=
  .dict [
    ("nodes", .list [
      .dict [("type", .text "wait"), ("pos", .dict [("x", .int 40)])],
      .dict [("uid", .text "b")],
      .dict [("uid", .int 7), ("type", .text "led"),
        ("params", .dict [("pin", .list [.int 13, .null])])]]),
    ("edges", .list [
      .dict [("from", .dict [("node", .text "wait")])],
      .dict [("from", .dict [("node", .text "wait")]), ("to", .dict [("node", .int 7)])]])]

def tidied : Project where
  diagram := {
    nodes := [{ uid := "wait", type := .text "wait", x := 40.0 },
      { uid := "7", type := .text "led", params := [("pin", .list [.int 13, .null])] }]
    links := [⟨"wait", "", "7", ""⟩] }

theorem load_save_untidy : load .null .null (.text (Json.render untidy)) = .ok (tidied, []) ∧
    tidied.Complete ∧ Rereads .usual tidied.toDocument ∧
    ∃ text, tidied.storedText = .ok text ∧ load .null .null (.text text) = .ok (tidied, []) := by
  have hdocument : (Json.Content.text (Json.render untidy)).document = .ok untidy :=
    document_eq_ok (by decide +kernel)
  have hread : ofDocument [] untidy = .ok tidied := Outcome.eq_ok_of_toOption (by decide +kernel)
  have hload : load .null .null (.text (Json.render untidy)) = .ok (tidied, []) :=
    load_of_document rfl hdocument hread
  have hrereads : Rereads .usual tidied.toDocument := document_eq_ok (by decide +kernel)
  obtain ⟨hcomplete, hagain⟩ := (load_save .usual .null).2 _ tidied [] hload
  exact ⟨hload, hcomplete, hrereads, hagain hrereads⟩

end Project

end BlockSketch
