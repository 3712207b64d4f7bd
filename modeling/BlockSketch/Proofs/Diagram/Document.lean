import BlockSketch.Proofs.Diagram.Project
import BlockSketch.Proofs.Outcome

/-!
# BlockSketch.Proofs.Diagram.Document

Diagrams as documents.  A document may leave fields out, hold values of any kind in them, and
write a link in two ways; once it is read, all that is settled, and what is read comes back from
the document that it is written to.

* `Node.ofFields_toDocument`, `Node.named_of_ofFields` — blocks;
* `Link.ofFields_of_flat`, `Link.ofFields_of_nested` — the two ways to write a link;
* `Diagram.reread_toDocument` — diagrams.
-/

namespace BlockSketch

/-! ## blocks -/

namespace Node

/-- A block whose type is named by a text. -/
def Named (n : Node) : Prop := ∃ type : Text, n.type = .text type

/-- A block is read from its document. -/
theorem ofFields_toDocument {n : Node} (h : n.Named) :
    ∃ fs, n.toDocument.asDict? = some fs ∧ ofFields fs = .ok n := by
  obtain ⟨uid, _, x, y, params⟩ := n
  obtain ⟨type, rfl⟩ := h
  let fs : Fields := [("uid", .text uid), ("type_id", .text type), ("x", .float x), ("y", .float y),
    ("params", .dict params)]
  have hx : (fs.get "x" (.float 0.0)).toFloat = .ok x := by
    simp [fs, Project.get_cons, Text.ofString_inj, Value.toFloat]
  have hy : (fs.get "y" (.float 0.0)).toFloat = .ok y := by
    simp [fs, Project.get_cons, Text.ofString_inj, Value.toFloat]
  have huid : (fs.get "uid" (.text "")).shown = uid := by
    simp [fs, Project.get_cons, Value.shown]
  have htype : (fs.get "type_id" (.text "")).shown = type := by
    simp [fs, Project.get_cons, Text.ofString_inj, Value.shown]
  have hparams : dictOr fs "params" = params := by
    simp [fs, dictOr, Fields.opt, Project.get_cons, Text.ofString_inj, Value.asDict?]
  refine ⟨fs, rfl, Outcome.bind_eq_ok_iff.mpr ⟨x, hx, Outcome.bind_eq_ok_iff.mpr ⟨y, hy, ?_⟩⟩⟩
  rw [huid, htype, hparams]
  rfl

/-- Whatever a block is read from, its type is named by a text. -/
theorem named_of_ofFields {fs : Fields} {n : Node} (h : ofFields fs = .ok n) : n.Named := by
  obtain ⟨x, -, h⟩ := Outcome.bind_eq_ok_iff.mp h
  obtain ⟨y, -, h⟩ := Outcome.bind_eq_ok_iff.mp h
  cases h
  exact ⟨_, rfl⟩

/-- Blocks are read from their documents, one after the other. -/
theorem mapM_toDocument {nodes : List Node} (h : ∀ n ∈ nodes, n.Named) :
    ((nodes.map toDocument).filterMap Value.asDict?).mapM ofFields = .ok nodes := by
  induction nodes with
  | nil => rfl
  | cons n nodes ih =>
    obtain ⟨fs, hfs, hread⟩ := ofFields_toDocument (h n List.mem_cons_self)
    have hrest := ih fun m hm => h m (List.mem_cons_of_mem n hm)
    rw [List.map_cons, List.filterMap_cons_some hfs, List.mapM_cons, hread, hrest]
    rfl

end Node

/-! ## links -/

namespace Link

/-- The values that a document has for the blocks and ports at the ends of a link, as far as it has
any. -/
structure Ends where
  fromUid : Option Value
  fromPort : Option Value
  toUid : Option Value
  toPort : Option Value

namespace Ends

/-- The link between two ends; what there is no value for is empty. -/
def link (e : Ends) : Link :=
  let told (v : Option Value) : Text := (v.getD (.text "")).shown
  ⟨told e.fromUid, told e.fromPort, told e.toUid, told e.toPort⟩

/-- A document has the ends of a link as fields of its own, and one of the two blocks at least. -/
structure Flat (e : Ends) (fs : Fields) : Prop where
  block : e.fromUid.isSome = true ∨ e.toUid.isSome = true
  fromUid : Assoc.get? fs "from_uid" = e.fromUid
  fromPort : Assoc.get? fs "from_port" = e.fromPort
  toUid : Assoc.get? fs "to_uid" = e.toUid
  toPort : Assoc.get? fs "to_port" = e.toPort

/-- A document has the ends of a link in two dictionaries. -/
structure Nested (e : Ends) (fs : Fields) : Prop where
  noFromUid : Assoc.get? fs "from_uid" = none
  noToUid : Assoc.get? fs "to_uid" = none
  fromUid : Assoc.get? (Node.dictOr fs "from") "block_uid" = e.fromUid
  fromPort : Assoc.get? (Node.dictOr fs "from") "port" = e.fromPort
  toUid : Assoc.get? (Node.dictOr fs "to") "block_uid" = e.toUid
  toPort : Assoc.get? (Node.dictOr fs "to") "port" = e.toPort

end Ends

theorem shownOr_of_get? {fs : Fields} {key : Text} {v : Option Value} (h : Assoc.get? fs key = v) :
    shownOr fs key = (v.getD (.text "")).shown := by
  unfold shownOr Fields.get Assoc.getD
  rw [h]

theorem ofFields_of_flat {e : Ends} {fs : Fields} (h : e.Flat fs) : ofFields fs = e.link := by
  have hflat : (Assoc.has fs "from_uid" || Assoc.has fs "to_uid") = true := by
    simpa [Assoc.has, h.fromUid, h.toUid] using h.block
  unfold ofFields
  rw [if_pos hflat, shownOr_of_get? h.fromUid, shownOr_of_get? h.fromPort, shownOr_of_get? h.toUid,
    shownOr_of_get? h.toPort]
  rfl

theorem ofFields_of_nested {e : Ends} {fs : Fields} (h : e.Nested fs) : ofFields fs = e.link := by
  have hnested : ¬ (Assoc.has fs "from_uid" || Assoc.has fs "to_uid") = true := by
    simp [Assoc.has, h.noFromUid, h.noToUid]
  unfold ofFields
  rw [if_neg hnested]
  dsimp only
  rw [shownOr_of_get? h.fromUid, shownOr_of_get? h.fromPort, shownOr_of_get? h.toUid,
    shownOr_of_get? h.toPort]
  rfl

def ends (l : Link) : Ends :=
  ⟨some (.text l.fromUid), some (.text l.fromPort), some (.text l.toUid), some (.text l.toPort)⟩

/-- A link is read from its document, which has its ends as fields. -/
theorem ofFields_toDocument (l : Link) :
    ∃ fs, l.toDocument.asDict? = some fs ∧ ofFields fs = l := by
  let fs : Fields := [("from_uid", .text l.fromUid), ("from_port", .text l.fromPort),
    ("to_uid", .text l.toUid), ("to_port", .text l.toPort)]
  have hflat : l.ends.Flat fs := by
    constructor <;> simp [fs, ends, Assoc.get?, Text.ofString_inj]
  exact ⟨fs, rfl, ofFields_of_flat hflat⟩

/-- Links are read from their documents. -/
theorem map_toDocument (links : List Link) :
    ((links.map toDocument).filterMap Value.asDict?).map ofFields = links := by
  induction links with
  | nil => rfl
  | cons l links ih =>
    obtain ⟨fs, hfs, hread⟩ := ofFields_toDocument l
    rw [List.map_cons, List.filterMap_cons_some hfs, List.map_cons, hread, ih]

end Link

/-! ## diagrams -/

namespace Diagram

/-- A diagram whose blocks have types that are named by texts is read from its document. -/
theorem ofDocument_toDocument {d : Diagram} (h : ∀ n ∈ d.nodes, n.Named) :
    ofDocument d.toDocument = .ok d := by
  obtain ⟨nodes, links⟩ := d
  let fs : Fields := [("blocks", .list (nodes.map Node.toDocument)),
    ("connections", .list (links.map Link.toDocument))]
  have hblocks :
      dictItems fs "blocks" = .ok ((nodes.map Node.toDocument).filterMap Value.asDict?) :=
    Project.dictItems_of_list (by simp [fs, Project.get_cons])
  have hconnections :
      dictItems fs "connections" = .ok ((links.map Link.toDocument).filterMap Value.asDict?) :=
    Project.dictItems_of_list (by simp [fs, Project.get_cons, Text.ofString_inj])
  change (do
    let nodes ← (← dictItems fs "blocks").mapM Node.ofFields
    let links := (← dictItems fs "connections").map Link.ofFields
    return ⟨nodes, links⟩ : Outcome Diagram) = _
  refine Outcome.bind_eq_ok_iff.mpr ⟨_, hblocks, ?_⟩
  refine Outcome.bind_eq_ok_iff.mpr ⟨_, Node.mapM_toDocument h, ?_⟩
  refine Outcome.bind_eq_ok_iff.mpr ⟨_, hconnections, ?_⟩
  rw [Link.map_toDocument]
  rfl

/-- Whatever a diagram is read from, the types of its blocks are named by texts. -/
theorem named_of_ofDocument {v : Value} {d : Diagram} (h : ofDocument v = .ok d) :
    ∀ n ∈ d.nodes, n.Named := by
  cases v with
  | dict fs =>
    obtain ⟨blocks, -, h⟩ := Outcome.bind_eq_ok_iff.mp h
    obtain ⟨nodes, hnodes, h⟩ := Outcome.bind_eq_ok_iff.mp h
    obtain ⟨connections, -, h⟩ := Outcome.bind_eq_ok_iff.mp h
    cases h
    intro n hn
    obtain ⟨block, -, hread⟩ := Outcome.exists_of_mem_mapM hnodes hn
    exact Node.named_of_ofFields hread
  | _ =>
    cases h
    intro n hn
    exact absurd hn List.not_mem_nil

/-- A diagram whose blocks have types that are named by texts is read back from the document that it
is written to: the same blocks and links, in the same order.  Whatever document is read, what is
read is such a diagram, so reading it again changes nothing.  And a link is the same whether a
document has its ends as fields or in two dictionaries, of which other fields, the order and
values that are no texts are of no matter. -/
theorem reread_toDocument :
    (∀ d : Diagram, (∀ n ∈ d.nodes, n.Named) → ofDocument d.toDocument = .ok d) ∧
    (∀ v d, ofDocument v = .ok d →
      (∀ n ∈ d.nodes, n.Named) ∧ ofDocument d.toDocument = .ok d) ∧
    ∀ (e : Link.Ends) (flat nested : Fields), e.Flat flat → e.Nested nested →
      Link.ofFields flat = e.link ∧ Link.ofFields nested = e.link := by
  refine ⟨fun d => ofDocument_toDocument, fun v d h => ?_, fun e flat nested hflat hnested => ?_⟩
  · exact ⟨named_of_ofDocument h, ofDocument_toDocument (named_of_ofDocument h)⟩
  · exact ⟨Link.ofFields_of_flat hflat, Link.ofFields_of_nested hnested⟩

def folded : Fields :=
  [("from", .dict [("block_uid", .int 7), ("port", .text "out")]),
    ("to", .dict [("port", .text "in"), ("block_uid", .text "b")])]

def flattened : Fields :=
  [("to_port", .text "in"), ("from_uid", .int 7), ("to_uid", .text "b"), ("from_port", .text "out")]

def foldedEnds : Link.Ends :=
  ⟨some (.int 7), some (.text "out"), some (.text "b"), some (.text "in")⟩

/-- A document with a block without a type, one with a place that is no float, and something that is
no block; and with a link in two dictionaries, one without ends, and one that has a field for the
block it starts from, so that the dictionary of its other end is not looked at. -/
def mixed : Value :=
  .dict [
    ("blocks", .list [
      .dict [("uid", .int 7), ("x", .text " 2.5 ")],
      .text "no block",
      .dict [("type_id", .text "led"), ("uid", .text "b"), ("y", .int 40),
        ("params", .dict [("pin", .list [.int 13, .null])]), ("note", .null)]]),
    ("connections", .list [
      .dict folded,
      .dict [],
      .dict [("from_uid", .null), ("to", .dict [("block_uid", .text "b")])]])]

def settled : Diagram where
  nodes := [{ uid := "7", type := .text "", x := 2.5 },
    { uid := "b", type := .text "led", y := 40.0, params := [("pin", .list [.int 13, .null])] }]
  links := [⟨"7", "out", "b", "in"⟩, ⟨"", "", "", ""⟩, ⟨"None", "", "", ""⟩]

theorem reread_toDocument_mixed :
    ofDocument mixed = .ok settled ∧ ofDocument settled.toDocument = .ok settled ∧
    Link.ofFields flattened = ⟨"7", "out", "b", "in"⟩ ∧
      Link.ofFields folded = ⟨"7", "out", "b", "in"⟩ := by
  have hread : ofDocument mixed = .ok settled := Outcome.eq_ok_of_toOption (by decide +kernel)
  have hflat : foldedEnds.Flat flattened := by constructor <;> decide +kernel
  have hnested : foldedEnds.Nested folded := by constructor <;> decide +kernel
  have hlink : foldedEnds.link = ⟨"7", "out", "b", "in"⟩ := by decide +kernel
  obtain ⟨-, hagain, hends⟩ := reread_toDocument
  obtain ⟨hfields, hdicts⟩ := hends foldedEnds flattened folded hflat hnested
  exact ⟨hread, (hagain _ _ hread).2, hfields.trans hlink, hdicts.trans hlink⟩

end Diagram

end BlockSketch
