import BlockSketch.Proofs.Assoc
import BlockSketch.Proofs.Sketch.Numbering

/-!
# BlockSketch.Proofs.Sketch.Attribution

Which rows of a sketch are attributed to which blocks.  Rows are numbered in one go over
all sections, with the fixed rows between them, and a number is noted under the block that
its row comes from.

* `noteRows_eq` — the numbers are in groups by the blocks of their rows;
* `rows_split` — where the entries of a section stand among the rows;
* `pairwise_number` — entries further on have greater numbers;
* `attributed_rows` — only entries of the sections are attributed;
* `attribution_generate` — every entry of a block is noted once, under the block.
-/

namespace BlockSketch.Sketch

/-! ## rows with an owner -/

/-- The block that a row is attributed to: the one that it comes from, if that has a name. -/
def owner? (row : Line) : Option Text := row.2.filter fun id => !id.isEmpty

/-- The rows that are attributed to a block, by the block and their number; the first row has the
number `k`. -/
def attributed (k : Nat) (rows : List Line) : List (Text × Nat) :=
  (rows.zipIdx k).filterMap fun e => (owner? e.1).map fun id => (id, e.2)

/-- The first row is attributed to its owner, if it has one, and the numbers go on. -/
theorem attributed_cons (k : Nat) (row : Line) (rows : List Line) :
    attributed k (row :: rows) =
      ((owner? row).map fun id => (id, k)).toList ++ attributed (k + 1) rows := by
  unfold attributed
  rw [List.zipIdx_cons, List.filterMap_cons]
  cases owner? row <;> rfl

/-- Rows that follow are numbered on. -/
theorem attributed_append (k : Nat) (rows rows' : List Line) :
    attributed k (rows ++ rows') = attributed k rows ++ attributed (k + rows.length) rows' := by
  unfold attributed
  rw [List.zipIdx_append, List.filterMap_append]

/-- Rows that come from no block are attributed to none. -/
theorem attributed_of_none {rows : List Line} (h : ∀ row ∈ rows, row.2 = none) (k : Nat) :
    attributed k rows = [] := by
  refine List.filterMap_eq_nil_iff.mpr fun e he => ?_
  have hrow : e.1.2 = none := h e.1 (List.fst_mem_of_mem_zipIdx he)
  simp [owner?, hrow]

/-- Noting a row files its number under its owner, if it has one. -/
theorem noteRow_eq (numbers : Assoc Text (List Nat)) (n : Nat) (row : Line) :
    noteRow numbers n row =
      ((owner? row).map fun id => (id, n)).toList.foldl (fun m e => Assoc.addToGroup m e.1 e.2)
        numbers := by
  obtain ⟨text, owner⟩ := row
  cases owner with
  | none => rfl
  | some id =>
    have howner : owner? (text, some id) = if id.isEmpty then none else some id := by
      cases hid : id.isEmpty <;> simp [owner?, Option.filter, hid]
    rw [howner]
    cases hid : id.isEmpty <;> simp [noteRow, hid]

/-- The numbers of rows are put in groups by the blocks that the rows are attributed to. -/
theorem noteRows_eq (k : Nat) (numbers : Assoc Text (List Nat)) (rows : List Line) :
    noteRows k numbers rows =
      (attributed k rows).foldl (fun m e => Assoc.addToGroup m e.1 e.2) numbers := by
  induction rows generalizing k numbers with
  | nil => rfl
  | cons row rows ih => rw [noteRows, ih, attributed_cons, List.foldl_append, noteRow_eq]

/-! ## the entries of the sections -/

/-- The fixed rows in front of the entries of a section. -/
def headRows (lines : SectionLines) (s : Section) : List Line :=
  let row (t : Text) : Line := (t, none)
  match s with
  | .includes => []
  | .globals => [row globalsHeading]
  | .setup => (if lines.globals.isEmpty then [] else [row ""]) ++ [row "void setup() \x7b"]
  | .loop => [row "\x7d", row "", row "void loop() \x7b"]
  | .functions => row "\x7d" :: if lines.functions.isEmpty then [] else [row ""]

def rowsOf (lines : SectionLines) (s : Section) : List Line := headRows lines s ++ lines.get s

@[simp] theorem length_rowsOf (lines : SectionLines) (s : Section) :
    (rowsOf lines s).length = (headRows lines s).length + (lines.get s).length := List.length_append

/-- The rows of a sketch are those of its sections in turn. -/
theorem rows_eq_flatMap (lines : SectionLines) :
    rows lines = Section.all.flatMap (rowsOf lines) := by
  cases hfunctions : lines.functions with
  | nil => simp [rows, rowsOf, headRows, Section.all, SectionLines.get, hfunctions]
  | cons line rest => simp [rows, rowsOf, headRows, Section.all, SectionLines.get, hfunctions]

/-- Fixed rows come from no block. -/
theorem none_of_mem_headRows {lines : SectionLines} {s : Section} :
    ∀ row ∈ headRows lines s, row.2 = none := by
  cases s with
  | includes | globals | loop => simp [headRows]
  | setup => cases h : lines.globals.isEmpty <;> simp [headRows, h]
  | functions => cases h : lines.functions.isEmpty <;> simp [headRows, h]

/-- An entry of a section: a line with the block it comes from, and how many entries stand before
it. -/
structure SectionEntry where
  target : Section
  place : Nat
  line : Line
deriving DecidableEq, Repr

def sectionEntries (lines : SectionLines) : List SectionEntry :=
  Section.all.flatMap fun s => (lines.get s).zipIdx.map fun e => ⟨s, e.2, e.1⟩

/-- How many rows of a sketch stand before the entries of a section. -/
def rowsBefore (lines : SectionLines) (s : Section) : Nat :=
  ((Section.all.takeWhile (· ≠ s)).flatMap (rowsOf lines)).length + (headRows lines s).length

def SectionEntry.number (lines : SectionLines) (e : SectionEntry) : Nat :=
  rowsBefore lines e.target + e.place + 1

variable {lines : SectionLines}

/-- What stands before the entries of a section: the sections in front, and its fixed rows. -/
theorem rowsBefore_eq {s : Section} {before after : List Section}
    (h : Section.all = before ++ s :: after) :
    rowsBefore lines s = (before.flatMap (rowsOf lines)).length + (headRows lines s).length := by
  have hnodup : (before ++ s :: after).Nodup := by
    rw [← h]
    decide
  have hbefore : ∀ s' ∈ before, decide (s' ≠ s) = true := by
    intro s' hs'
    exact decide_eq_true ((List.nodup_append.mp hnodup).2.2 s' hs' s List.mem_cons_self)
  unfold rowsBefore
  rw [h, List.takeWhile_append_of_pos hbefore, List.takeWhile_cons_of_neg (by simp),
    List.append_nil]

/-- The entries of a section stand together among the rows. -/
theorem rows_split (lines : SectionLines) (s : Section) : ∃ before after,
    rows lines = before ++ lines.get s ++ after ∧ before.length = rowsBefore lines s := by
  have hs : s ∈ Section.all := by cases s <;> decide
  obtain ⟨before, after, hall⟩ := List.append_of_mem hs
  refine ⟨before.flatMap (rowsOf lines) ++ headRows lines s, after.flatMap (rowsOf lines), ?_, ?_⟩
  · rw [rows_eq_flatMap, hall, List.flatMap_append, List.flatMap_cons, rowsOf]
    simp only [List.append_assoc]
  · rw [rowsBefore_eq hall, List.length_append]

/-- The number of an entry is that of its row. -/
theorem row_of_entry {e : SectionEntry} (he : e ∈ sectionEntries lines) :
    (rows lines)[e.number lines - 1]? = some e.line := by
  simp only [sectionEntries, List.mem_flatMap, List.mem_map] at he
  obtain ⟨s, -, ⟨line, place⟩, hplace, rfl⟩ := he
  have hline : (lines.get s)[place]? = some line := List.mem_zipIdx_iff_getElem?.mp hplace
  obtain ⟨hlt, -⟩ := List.getElem?_eq_some_iff.mp hline
  obtain ⟨before, after, hrows, hlength⟩ := rows_split lines s
  have hindex : SectionEntry.number lines ⟨s, place, line⟩ - 1 = before.length + place := by
    rw [SectionEntry.number, hlength, Nat.add_sub_cancel]
  rw [hindex, hrows, List.append_assoc, List.getElem?_append_right (by omega),
    Nat.add_sub_cancel_left, List.getElem?_append_left hlt]
  exact hline

/-- A section ends before the entries of the sections behind it begin. -/
theorem pairwise_rowsBefore (lines : SectionLines) : Section.all.Pairwise fun s s' =>
    rowsBefore lines s + (lines.get s).length ≤ rowsBefore lines s' := by
  simp [Section.all, rowsBefore]
  omega

/-- Entries further on have greater numbers. -/
theorem pairwise_number (lines : SectionLines) :
    (sectionEntries lines).Pairwise fun e e' => e.number lines < e'.number lines := by
  refine List.pairwise_flatMap.mpr ⟨fun s _ => ?_, ?_⟩
  · have hplaces : ((lines.get s).zipIdx.map Prod.snd).Pairwise (· < ·) := by
      rw [List.zipIdx_map_snd]
      exact List.pairwise_lt_range'
    refine List.pairwise_map.mpr ((List.pairwise_map.mp hplaces).imp fun hlt => ?_)
    simp only [SectionEntry.number]
    omega
  · refine (pairwise_rowsBefore lines).imp fun {s s'} hle => ?_
    simp only [List.mem_map]
    rintro _ ⟨⟨line, place⟩, hplace, rfl⟩ _ ⟨⟨line', place'⟩, -, rfl⟩
    have hlt : place < (lines.get s).length := (List.mem_zipIdx' hplace).1
    simp only [SectionEntry.number]
    omega

/-- Only the entries of the sections are attributed to blocks. -/
theorem attributed_rows (lines : SectionLines) :
    attributed 1 (rows lines) = (sectionEntries lines).filterMap fun e =>
      (owner? e.line).map fun id => (id, e.number lines) := by
  -- the sections are gone through one by one, `before` being those already done
  have hsections (before after : List Section) (h : Section.all = before ++ after) :
      attributed (1 + (before.flatMap (rowsOf lines)).length) (after.flatMap (rowsOf lines)) =
        after.flatMap fun s => attributed (rowsBefore lines s + 1) (lines.get s) := by
    induction after generalizing before with
    | nil => rfl
    | cons s after ih =>
      have hrest := ih (before ++ [s]) (by rw [h, List.append_assoc]; rfl)
      rw [List.flatMap_append, List.flatMap_singleton, List.length_append, ← Nat.add_assoc] at hrest
      rw [List.flatMap_cons, List.flatMap_cons, attributed_append, hrest, rowsOf, attributed_append,
        attributed_of_none none_of_mem_headRows, List.nil_append, rowsBefore_eq h]
      congr 2
      omega
  have hshift (s : Section) : attributed (rowsBefore lines s + 1) (lines.get s) =
      ((lines.get s).zipIdx.map fun e => (⟨s, e.2, e.1⟩ : SectionEntry)).filterMap fun e =>
        (owner? e.line).map fun id => (id, e.number lines) := by
    unfold attributed
    rw [List.zipIdx_eq_map_add, List.filterMap_map, List.filterMap_map]
    refine List.filterMap_congr fun e _ => ?_
    have hnumber : SectionEntry.number lines ⟨s, e.2, e.1⟩ = rowsBefore lines s + 1 + e.2 := by
      rw [SectionEntry.number, Nat.add_right_comm]
    simp only [Function.comp, hnumber]
  rw [rows_eq_flatMap]
  refine (hsections [] Section.all rfl).trans ?_
  rw [sectionEntries, List.filterMap_flatMap]
  exact List.flatMap_congr fun s _ => hshift s

/-- The numbers of a block are those of its entries. -/
theorem filter_attributed (entries : List SectionEntry) (number : SectionEntry → Nat) (id : Text) :
    ((entries.filterMap fun e => (owner? e.line).map fun id => (id, number e)).filter
      (·.1 = id)).map
        Prod.snd = (entries.filter fun e => owner? e.line = some id).map number := by
  induction entries with
  | nil => rfl
  | cons e entries ih =>
    rw [List.filterMap_cons, List.filter_cons]
    cases howner : owner? e.line with
    | none => simpa using ih
    | some other =>
      by_cases h : other = id
      · simpa [h] using ih
      · simpa [h] using ih

/-- Every entry of a section that comes from a named block is noted once, under the block, by the
number of its row, and nothing else is noted.  The numbers follow the order of the sections, and in
a section that of its entries, so that no two entries have the same one. -/
theorem attribution_generate (r : Registry) (p : Program) (sketch : Sketch)
    (h : generate r p = .ok sketch) :
    let entries := sectionEntries sketch.lines
    let number (e : SectionEntry) : Nat := e.number sketch.lines
    (∀ e ∈ entries, (rows sketch.lines)[number e - 1]? = some e.line) ∧
      entries.Pairwise (fun e e' => number e < number e') ∧
      (Assoc.ungrouped sketch.mapping).Perm
        (entries.filterMap fun e => (owner? e.line).map fun id => (id, number e)) ∧
      (Assoc.keys sketch.mapping).Nodup ∧
      ∀ g ∈ sketch.mapping,
        g.2 = (entries.filter fun e => owner? e.line = some g.1).map number ∧
          g.2.Pairwise (· < ·) := by
  intro entries number
  have hmapping : sketch.mapping = Assoc.groups (entries.filterMap fun e =>
      (owner? e.line).map fun id => (id, number e)) := by
    rw [(code_of_generate h).2, noteRows_eq, attributed_rows]
    rfl
  have hordered : entries.Pairwise (fun e e' => number e < number e') :=
    pairwise_number sketch.lines
  rw [hmapping]
  refine ⟨fun e he => row_of_entry he, hordered, Assoc.groups_perm _, Assoc.nodup_keys_groups _, ?_⟩
  intro g hg
  have hnumbers : g.2 = (entries.filter fun e => owner? e.line = some g.1).map number := by
    rw [Assoc.eq_of_mem_groups hg, filter_attributed]
  refine ⟨hnumbers, ?_⟩
  rw [hnumbers]
  exact List.pairwise_map.mpr (hordered.filter _)

/-- Four statements in the loop: two of the same name, one with an empty name and one without
any. -/
def litOften : Program where
  root := some (.mk (some "start") "start" [] [("loop", [.mk (some "led") "on" [] [],
    .mk (some "") "on" [] [], .mk none "on" [] [], .mk (some "led") "on" [] []])])

theorem attribution_generate_litOften : ∃ sketch, generate lamp litOften = .ok sketch ∧
    sketch.mapping = ([("led", [4, 7, 11, 14])] : Assoc Text (List Nat)) ∧
    [4, 7, 11, 14] = ((sectionEntries sketch.lines).filter fun e =>
      owner? e.line = some ("led" : Text)).map (SectionEntry.number sketch.lines) := by
  have hok : (generate lamp litOften).toOption.any (fun sketch : Sketch =>
      decide (sketch.mapping = ([("led", [4, 7, 11, 14])] : Assoc Text (List Nat)))) = true := by
    decide +kernel
  obtain ⟨sketch, hg, htest⟩ := Outcome.exists_ok_of_any hok
  have hmapping := of_decide_eq_true htest
  obtain ⟨-, -, -, -, hgroups⟩ := attribution_generate lamp litOften sketch hg
  have hled : (("led" : Text), [4, 7, 11, 14]) ∈ sketch.mapping := by
    rw [hmapping]
    exact List.mem_cons_self
  exact ⟨sketch, hg, hmapping, (hgroups _ hled).1⟩

end BlockSketch.Sketch
