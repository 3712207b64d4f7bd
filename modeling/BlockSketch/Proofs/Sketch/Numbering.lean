import BlockSketch.Proofs.Sketch.Emission
import BlockSketch.Proofs.Text.Split

/-!
# BlockSketch.Proofs.Sketch.Numbering

The numbers that a sketch gives to the rows of its blocks, and the lines of the code
on which those rows stand.  Rows are counted one by one, but a row that holds line
feeds takes several lines, and the heading of the global declarations is such a row.

* `getD_noteRows` — a block gets the numbers of its rows, in order;
* `section_of_row` — the rows of blocks are the entries of the sections;
* `numbers_generate` — a row stands behind the line of its number by as many lines as
  there are line feeds in the rows before it.
-/

namespace BlockSketch.Sketch

/-! ## numbers -/

/-- The numbers of the rows that come from a block, the first row having the number `k`. -/
def numbersOf (id : Text) (k : Nat) (rows : List Line) : List Nat :=
  (rows.zipIdx k).filterMap fun e => if e.1.2 = some id then some e.2 else none

/-- Noting a row adds its number to those of its block, and to no others. -/
theorem getD_noteRow (numbers : Assoc Text (List Nat)) (n : Nat) (row : Line) {id : Text}
    (hid : id.isEmpty = false) :
    Assoc.getD (noteRow numbers n row) id [] =
      Assoc.getD numbers id [] ++ if row.2 = some id then [n] else [] := by
  obtain ⟨text, owner⟩ := row
  cases owner with
  | none => simp [noteRow]
  | some other =>
    by_cases ho : other = id
    · simp [noteRow, ho, hid, Assoc.getD_addToGroup]
    · cases hempty : other.isEmpty <;> simp [noteRow, ho, hempty, Assoc.getD_addToGroup]

/-- A block gets the numbers of its rows in order, behind those it has. -/
theorem getD_noteRows (rows : List Line) (k : Nat) (numbers : Assoc Text (List Nat)) {id : Text}
    (hid : id.isEmpty = false) :
    Assoc.getD (noteRows k numbers rows) id [] =
      Assoc.getD numbers id [] ++ numbersOf id k rows := by
  induction rows generalizing k numbers with
  | nil => simp [noteRows, numbersOf]
  | cons row rows ih =>
    rw [noteRows, ih, getD_noteRow numbers k row hid, List.append_assoc]
    by_cases ho : row.2 = some id <;> simp [numbersOf, List.zipIdx_cons, ho]

/-- Rows that come from no named block leave no number. -/
theorem getD_noteRows_empty (rows : List Line) (k : Nat) (numbers : Assoc Text (List Nat))
    {id : Text} (hid : id.isEmpty = true) :
    Assoc.getD (noteRows k numbers rows) id [] = Assoc.getD numbers id [] := by
  induction rows generalizing k numbers with
  | nil => rfl
  | cons row rows ih =>
    rw [noteRows, ih]
    obtain ⟨text, owner⟩ := row
    cases owner with
    | none => rfl
    | some other =>
      cases hempty : other.isEmpty with
      | true => simp [noteRow, hempty]
      | false =>
        have hne : other ≠ id := fun heq => by simp [heq, hid] at hempty
        simp [noteRow, hempty, Assoc.getD_addToGroup, hne]

/-- A number of a block is the place of a row of it, counted from `k`. -/
theorem mem_numbersOf {id : Text} {k n : Nat} {rows : List Line} (h : n ∈ numbersOf id k rows) :
    ∃ (before : List Line) (text : Text) (after : List Line),
      rows = before ++ (text, some id) :: after ∧ n = before.length + k := by
  obtain ⟨⟨⟨text, owner⟩, m⟩, hmem, hown⟩ := List.mem_filterMap.mp h
  obtain ⟨rfl, rfl⟩ : owner = some id ∧ m = n := by simpa using hown
  obtain ⟨hle, hget⟩ : k ≤ m ∧ rows[m - k]? = some (text, some id) :=
    List.mem_zipIdx_iff_le_and_getElem?_sub.mp hmem
  obtain ⟨hlt, hrow⟩ := List.getElem?_eq_some_iff.mp hget
  refine ⟨rows.take (m - k), text, rows.drop (m - k + 1), ?_, ?_⟩
  · rw [← hrow, ← List.drop_eq_getElem_cons hlt, List.take_append_drop]
  · rw [List.length_take]
    omega

/-! ## rows -/

/-- The rows below the heading of the global declarations. -/
def below (lines : SectionLines) : List Line :=
  let row (t : Text) : Line := (t, none)
  lines.globals ++ (if lines.globals.isEmpty then [] else [row ""]) ++
    [row "void setup() \x7b"] ++ lines.setup ++ [row "\x7d", row ""] ++
    [row "void loop() \x7b"] ++ lines.loop ++ [row "\x7d"] ++
    (if lines.functions.isEmpty then [] else row "" :: lines.functions)

/-- The headers come first, and then the heading of the global declarations. -/
theorem rows_eq (lines : SectionLines) :
    rows lines = lines.includes ++ (globalsHeading, none) :: below lines := by
  simp [rows, below]

/-- A row below the headers that comes from a block is an entry of another section. -/
theorem mem_below {lines : SectionLines} {text id : Text} (h : (text, some id) ∈ below lines) :
    ∃ s, s ≠ .includes ∧ (text, some id) ∈ lines.get s := by
  have hfixed {rows : List Line} (hrows : ∀ row ∈ rows, row.2 = none) : (text, some id) ∉ rows :=
    fun hmem => nomatch hrows _ hmem
  simp only [below, List.append_assoc, List.mem_append] at h
  rcases h with h | h | h | h | h | h | h | h | h
  · exact ⟨.globals, nofun, h⟩
  · exact absurd h (hfixed (by split <;> simp))
  · exact absurd h (hfixed (by simp))
  · exact ⟨.setup, nofun, h⟩
  · exact absurd h (hfixed (by simp))
  · exact absurd h (hfixed (by simp))
  · exact ⟨.loop, nofun, h⟩
  · exact absurd h (hfixed (by simp))
  · split at h
    · exact absurd h List.not_mem_nil
    · exact ⟨.functions, nofun, (List.mem_cons.mp h).resolve_left nofun⟩

/-- A row of a block is an entry of a section.  There are no line feeds before it only if it is
among the headers. -/
theorem section_of_row {lines : SectionLines} {before after : List Line} {text id : Text}
    (h : rows lines = before ++ (text, some id) :: after) :
    ∃ s, (text, some id) ∈ lines.get s ∧ (Text.feeds (before.map Prod.fst) = 0 ↔
      s = .includes ∧ ∀ row ∈ before, row.1.has '\n' = false) := by
  rw [rows_eq] at h
  rw [Text.feeds_eq_zero_iff, List.forall_mem_map]
  rcases List.append_eq_append_iff.mp h with ⟨between, hbefore, hbelow⟩
    | ⟨between, hincludes, hbelow⟩
  · cases between with
    | nil => exact absurd hbelow (by simp)
    | cons heading between =>
      obtain ⟨rfl, hrest⟩ := List.cons.inj hbelow
      have hrow : (text, some id) ∈ below lines := by
        rw [hrest]
        exact List.mem_append_right _ List.mem_cons_self
      obtain ⟨s, hs, hmem⟩ := mem_below hrow
      refine ⟨s, hmem, iff_of_false (fun hnone => ?_) fun hboth => hs hboth.1⟩
      have hheading : globalsHeading.has '\n' = false :=
        hnone (globalsHeading, none) (by rw [hbefore]; simp)
      exact absurd hheading (by decide)
  · cases between with
    | nil => exact absurd hbelow (by simp)
    | cons first between =>
      obtain ⟨rfl, _⟩ := List.cons.inj hbelow
      refine ⟨.includes, ?_, by simp⟩
      change _ ∈ lines.includes
      rw [hincludes]
      exact List.mem_append_right _ List.mem_cons_self

/-! ## the ends of the code -/

/-- Headers that wait keep their places while others come. -/
theorem prefix_foldl_putNew (hs : List Line) (m : Assoc Text (Option Text)) :
    m <+: hs.foldl (fun m h => Assoc.putNew m (Text.trim h.1) h.2) m := by
  induction hs generalizing m with
  | nil => exact List.prefix_rfl
  | cons h hs ih =>
    have hput : m <+: Assoc.putNew m (Text.trim h.1) h.2 := by
      unfold Assoc.putNew
      split
      · exact List.prefix_rfl
      · exact List.prefix_append _ _
    exact hput.trans (ih _)

/-- Where no block writes among the headers, the rows begin with the first header. -/
theorem rows_eq_cons_of_generate {r : Registry} {p : Program} {sketch : Sketch}
    (h : generate r p = .ok sketch) (hnone : ∀ e ∈ programEntries r p, e.target ≠ .includes) :
    ∃ rest, rows sketch.lines = (baseHeader, none) :: rest := by
  obtain ⟨out, rfl, hlines⟩ := assembled_of_generate h
  have hincludes : (fresh.extend out).assemble.lines.includes = (fresh.extend out).headers := by
    have hown : (programEntries r p).filter (fun e => e.target = .includes) = [] := by
      simpa using hnone
    change ((fresh.extend out).lines.append .includes (fresh.extend out).headers).get .includes = _
    rw [get_append, get_extend, hlines, linesIn_placed, hown]
    rfl
  have hfirst : [(baseHeader, none)] <+: (fresh.extend out).headers := by
    have hfresh : fresh.headers = [(baseHeader, none)] := by decide
    rw [← hfresh]
    exact prefix_foldl_putNew out.headers fresh.headers
  obtain ⟨headers, hheaders⟩ := hfirst
  refine ⟨headers ++ (globalsHeading, none) :: below (fresh.extend out).assemble.lines, ?_⟩
  change rows (fresh.extend out).assemble.lines = _
  rw [rows_eq, hincludes, ← hheaders]
  rfl

/-- Where there are no functions, the rows end with the brace that closes the loop. -/
theorem rows_eq_concat {lines : SectionLines} (h : lines.functions = []) :
    ∃ rest : List Line, rows lines = rest ++ [((("\x7d" : String) : Text), none)] := by
  unfold rows
  simp only [h, List.isEmpty_nil, if_true, List.append_nil]
  exact ⟨_, rfl⟩

/-! ## lines -/

/-- The rows of a sketch as one text, with the blanks at its ends. -/
def joined (rows : List Line) : Text := Text.intercalate "\n" (rows.map Prod.fst)

/-- The code of a sketch is its rows without the blanks at the ends, and the mapping numbers the
rows. -/
theorem sketch_assemble (g : Generator) :
    g.assemble.sketch.code = (joined (rows g.assemble.sketch.lines)).trim ++ "\n" ∧
      g.assemble.sketch.mapping = noteRows 1 g.numbers (rows g.assemble.sketch.lines) := by
  constructor
  · simp only [Generator.sketch, rowsText, joined]
  · simp only [Generator.sketch, Generator.assemble, Generator.settleHeaders]

/-- The code is the text of the rows, and the numbers are theirs. -/
theorem code_of_generate {r : Registry} {p : Program} {sketch : Sketch}
    (h : generate r p = .ok sketch) : sketch.code = (joined (rows sketch.lines)).trim ++ "\n" ∧
      sketch.mapping = noteRows 1 [] (rows sketch.lines) := by
  obtain ⟨out, rfl, _⟩ := assembled_of_generate h
  have hnumbers : (fresh.extend out).numbers = [] := rfl
  rw [← hnumbers]
  exact sketch_assemble (fresh.extend out)

/-- In the text of the rows, a row begins as many lines behind the line of its place as there are
line feeds in the rows before it. -/
theorem lineAt_joined (before : List Line) (row : Line) (after : List Line) :
    (joined (before ++ row :: after)).lineAt (before.length + 1 + Text.feeds
      (before.map Prod.fst)) =
      row.1.firstLine := by
  have hline := Text.lineAt_intercalate (before.map Prod.fst) row.1 (after.map Prod.fst)
  unfold joined
  rwa [List.length_map, ← List.map_cons, ← List.map_append] at hline

/-- Blanks are cut off the beginning of a sketch only where a block writes its own headers, and off
the end only where there are functions. -/
theorem cut_of_generate {r : Registry} {p : Program} {sketch : Sketch}
    (h : generate r p = .ok sketch) :
    ∃ lead cut : Text, Text.Blank lead ∧ Text.Blank cut ∧
      joined (rows sketch.lines) = lead ++ (joined (rows sketch.lines)).trim ++ cut ∧
      (lead ≠ "" → ∃ e ∈ programEntries r p, e.target = .includes) ∧
      (cut ≠ "" → sketch.lines.functions ≠ []) := by
  obtain ⟨lead, cut, hlead, hcut, hjoined, hstart, hend⟩ :=
    Text.trim_spec (joined (rows sketch.lines))
  refine ⟨lead, cut, hlead, hcut, hjoined, fun hne => ?_, fun hne hnone => hne ?_⟩
  · by_contra hno
    obtain ⟨rest, hrows⟩ := rows_eq_cons_of_generate h fun e he ht => hno ⟨e, he, ht⟩
    refine hne (hstart '#' ?_ (by decide))
    obtain ⟨others, hletters⟩ := Text.letters_intercalate_cons "\n" baseHeader (rest.map Prod.fst)
    rw [hrows, joined, List.map_cons, hletters]
    rfl
  · obtain ⟨rest, hrows⟩ := rows_eq_concat hnone
    refine hend '}' ?_ (by decide)
    obtain ⟨others, hletters⟩ := Text.letters_intercalate_concat "\n" "\x7d" (rest.map Prod.fst)
    have hbrace : (("\x7d" : String) : Text).letters = [.char '}'] := by decide
    rw [hrows, joined, List.map_append, List.map_singleton, hletters, hbrace, List.getLast?_concat]
    rfl

/-- A number of a block is the place of a row of the block. -/
theorem row_of_number {r : Registry} {p : Program} {sketch : Sketch} (h : generate r p = .ok sketch)
    {id : Text} {n : Nat} (hn : n ∈ Assoc.getD sketch.mapping id []) :
    ∃ (before : List Line) (text : Text) (after : List Line),
      rows sketch.lines = before ++ (text, some id) :: after ∧ before.length + 1 = n := by
  rw [(code_of_generate h).2] at hn
  cases hid : id.isEmpty with
  | true =>
    rw [getD_noteRows_empty _ _ _ hid] at hn
    exact nomatch hn
  | false =>
    rw [getD_noteRows _ _ _ hid] at hn
    obtain ⟨before, text, after, hrows, hplace⟩ := mem_numbersOf hn
    exact ⟨before, text, after, hrows, hplace.symm⟩

/-- The numbers of a block are the places of its rows, and rows may take several lines.  With the
blanks put back that are cut off the ends of the code, a row begins as many lines behind the line of
its number as there are line feeds in the rows before it.  So a number is that of the line only for
headers, and only where no header before holds a line feed. -/
theorem numbers_generate (r : Registry) (p : Program) (sketch : Sketch)
    (h : generate r p = .ok sketch) :
    ∃ lead body cut : Text, sketch.code = body ++ "\n" ∧ Text.Blank lead ∧ Text.Blank cut ∧
      (lead ≠ "" → ∃ e ∈ programEntries r p, e.target = .includes) ∧
      (cut ≠ "" → sketch.lines.functions ≠ []) ∧
      ∀ id n, n ∈ Assoc.getD sketch.mapping id [] → ∃ s before text after,
        rows sketch.lines = before ++ (text, some id) :: after ∧ before.length + 1 = n ∧
        (text, some id) ∈ sketch.lines.get s ∧
        (lead ++ body ++ cut).lineAt (n + Text.feeds (before.map Prod.fst)) = text.firstLine ∧
        (lead = "" → cut = "" →
          sketch.code.lineAt (n + Text.feeds (before.map Prod.fst)) = text.firstLine) ∧
        (Text.feeds (before.map Prod.fst) = 0 ↔
          s = .includes ∧ ∀ row ∈ before, row.1.has '\n' = false) := by
  obtain ⟨hcode, -⟩ := code_of_generate h
  obtain ⟨lead, cut, hlead, hcut, hjoined, hheaders, hfunctions⟩ := cut_of_generate h
  refine ⟨lead, _, cut, hcode, hlead, hcut, hheaders, hfunctions, fun id n hn => ?_⟩
  obtain ⟨before, text, after, hrows, rfl⟩ := row_of_number h hn
  obtain ⟨s, hs, hfeeds⟩ := section_of_row hrows
  have hline : (lead ++ (joined (rows sketch.lines)).trim ++ cut).lineAt
      (before.length + 1 + Text.feeds (before.map Prod.fst)) = text.firstLine := by
    rw [← hjoined, hrows]
    exact lineAt_joined before (text, some id) after
  refine ⟨s, before, text, after, hrows, rfl, hs, hline, ?_, hfeeds⟩
  rintro rfl rfl
  rw [hcode, Text.lineAt_append_feed, ← hline, Text.empty_append, Text.append_empty]

/-- A start with a loop, and a statement that needs code in `setup`. -/
def lamp : Registry where
  definitions := [
    ("start", { id := "start", containers := [{ name := "loop", target := .loop }] }),
    ("on", { id := "on", target := some .loop, template := .text "on();", setup := ["ready();"] })]

def lit : Program where
  root := some (.mk (some "start") "start" [] [("loop", [.mk (some "led") "on" [] []])])

theorem numbers_generate_lit : ∃ sketch, generate lamp lit = .ok sketch ∧
    4 ∈ Assoc.getD sketch.mapping "led" [] ∧
    ∃ lead body cut : Text, sketch.code = body ++ "\n" ∧
      ∃ (s : Section) (before : List Line) (text : Text) (after : List Line),
        rows sketch.lines = before ++ (text, some ("led" : Text)) :: after ∧ before.length + 1 = 4 ∧
        (text, some ("led" : Text)) ∈ sketch.lines.get s ∧
        (lead ++ body ++ cut).lineAt (4 + Text.feeds (before.map Prod.fst)) = text.firstLine := by
  have hok : (generate lamp lit).toOption.any (fun sketch : Sketch =>
      decide (4 ∈ Assoc.getD sketch.mapping ("led" : Text) [])) = true := by decide +kernel
  obtain ⟨sketch, hg, htest⟩ := Outcome.exists_ok_of_any hok
  have hmem := of_decide_eq_true htest
  obtain ⟨lead, body, cut, hcode, _, _, _, _, hrow⟩ := numbers_generate lamp lit sketch hg
  obtain ⟨s, before, text, after, hrows, hlength, hs, hline, _⟩ := hrow "led" 4 hmem
  exact ⟨sketch, hg, hmem, lead, body, cut, hcode, s, before, text, after, hrows,
    hlength, hs, hline⟩

/-- Every number of a block is that of a line of the code with which an entry of the block
begins. -/
def NumbersAreLines (sketch : Sketch) : Prop :=
  ∀ e ∈ sketch.mapping, ∀ n ∈ e.2, ∃ s ∈ Section.all, ∃ row ∈ sketch.lines.get s,
    row.2 = some e.1 ∧ sketch.code.lineAt n = row.1.firstLine

instance (sketch : Sketch) : Decidable (NumbersAreLines sketch) :=
  inferInstanceAs (Decidable (∀ e ∈ sketch.mapping, ∀ n ∈ e.2, ∃ s ∈ Section.all,
    ∃ row ∈ sketch.lines.get s, row.2 = some e.1 ∧ sketch.code.lineAt n = row.1.firstLine))

/-- The statement has the numbers of the lines before those on which its entries stand. -/
theorem not_numbersAreLines_lit :
    ∃ sketch, generate lamp lit = .ok sketch ∧ ¬ NumbersAreLines sketch := by
  have hbad : (generate lamp lit).toOption.any (fun sketch =>
      decide (¬ NumbersAreLines sketch)) = true := by decide +kernel
  obtain ⟨sketch, hg, htest⟩ := Outcome.exists_ok_of_any hbad
  exact ⟨sketch, hg, of_decide_eq_true htest⟩

end BlockSketch.Sketch
