import BlockSketch.Proofs.Sketch.Numbering
import BlockSketch.Proofs.Sketch.Reuse
import BlockSketch.Proofs.Text.Braces

/-!
# BlockSketch.Proofs.Sketch.Brackets

Sketches of the definitions that come with every library that is a list of palette
entries.  Their one template with braces is that of the condition: it opens a brace at
the end of a line, puts the code of its children on the lines behind it, and closes the
brace.  So the code of every block is balanced, and no mark can arise in it from the code
of the children.

* `load_of_list`, `bundled_eq` — the registry of such libraries;
* `wellBracketed_rendered` — the code of a block;
* `balanced_entries` — the lines that a tree of blocks writes to a section;
* `balanced_code` — which programs have a sketch, and the braces of the sketch.
-/

namespace BlockSketch.Sketch

open Text (Balanced Sealed WellBracketed mark opening closing)

/-! ## the registry -/

/-- The start: its containers are the bodies of `setup` and `loop`. -/
def startDefinition : Definition where
  id := "EV_START"
  name := "Старт"
  category := "events"
  kind := "event"
  containers := [{ name := "setup", target := .setup }, { name := "loop", target := .loop }]

def ledOnDefinition : Definition where
  id := "LS_LED_ON"
  name := "Включить светодиод"
  category := "logic"
  kind := "statement"
  target := some .loop
  template := .text "digitalWrite(\x7bpin\x7d, HIGH);"
  parameters := [{ name := "pin", type := "int", default := .int 13 }]
  setup := ["pinMode(\x7bpin\x7d, OUTPUT);"]

def delayDefinition : Definition where
  id := "TM_DELAY"
  name := "Задержка"
  category := "timing"
  kind := "statement"
  target := some .loop
  template := .text "delay(\x7bms\x7d);"
  parameters := [{ name := "ms", type := "int", default := .int 1000 }]

/-- The condition: the code of its children takes a place in its own. -/
def ifDefinition : Definition where
  id := "CTL_IF"
  name := "Если"
  category := "logic"
  kind := "statement"
  target := some .loop
  template := .text "if (\x7bcondition\x7d) \x7b\n\x7bthen\x7d\n\x7d"
  parameters := [{ name := "condition", type := "string", default := .text "true" }]
  containers := [{ name := "then", target := .loop, placeholder := some "then" }]

/-- The registry with these definitions. -/
def shipped : Registry where
  definitions := [("EV_START", startDefinition), ("LS_LED_ON", ledOnDefinition),
    ("TM_DELAY", delayDefinition), ("CTL_IF", ifDefinition)]
  categories := [(.text "events", Library.fallbackCategory "События" "#607D8B"),
    (.text "logic", Library.fallbackCategory "Логика" "#4CAF50"),
    (.text "timing", Library.fallbackCategory "Таймер" "#FFC107")]

/-- The definitions to fall back on give the registry. -/
theorem ofFields_fallback : Registry.ofFields Library.fallback = .ok shipped := by rfl

/-- A list of entries is always a library. -/
theorem ofList_ok (entries : List Value) :
    ∃ lib, Library.ofList entries = .ok lib ∧ Registry.ofLibrary lib = .ok shipped := by
  have hentry (v : Value) : ∃ spec, Library.readEntry Library.listRule v = .ok spec := by
    unfold Library.readEntry
    split
    · dsimp only
      split
      · exact ⟨_, rfl⟩
      · exact ⟨_, rfl⟩
    · exact ⟨_, rfl⟩
  have hentries : ∃ specs, entries.mapM (Library.readEntry Library.listRule) = .ok specs := by
    induction entries with
    | nil => exact ⟨[], rfl⟩
    | cons v entries ih =>
      obtain ⟨spec, hspec⟩ := hentry v
      obtain ⟨specs, hspecs⟩ := ih
      rw [List.mapM_cons, hspec, hspecs]
      exact ⟨_, rfl⟩
  obtain ⟨specs, hspecs⟩ := hentries
  have hregistry (lib : Library) (hlib : lib.definitions = some (.dict Library.fallback)) :
      Registry.ofLibrary lib = .ok shipped := by
    have hdict (fs : Fields) :
        (do Registry.ofDocument (← Library.requireDefinitions (some (.dict fs)))) =
          Registry.ofFields fs := rfl
    unfold Registry.ofLibrary
    rw [hlib, hdict]
    exact ofFields_fallback
  unfold Library.ofList
  rw [hspecs]
  exact ⟨_, rfl, hregistry _ rfl⟩

/-- A file that holds a list says nothing of code, so the registry is the one to fall back on. -/
theorem load_of_list {content : Json.Content} {entries : List Value}
    (h : content.document = .ok (.list entries)) (file : Text) :
    Registry.load file content = .ok shipped := by
  obtain ⟨lib, hlib, hregistry⟩ := ofList_ok entries
  unfold Registry.load Library.load Library.ofDocument
  rw [h]
  dsimp only
  rw [hlib]
  exact hregistry

theorem bundled_eq : Registry.bundled = .ok shipped := by
  obtain ⟨lib, hlib, hregistry⟩ := ofList_ok _
  unfold Registry.bundled Library.bundled Library.ofDocument Library.Bundled.document
  dsimp only
  rw [hlib]
  exact hregistry

/-- A definition of the registry is one of the four. -/
theorem mem_shipped {name : Text} {d : Definition}
    (h : Assoc.get? shipped.definitions name = some d) :
    d = startDefinition ∨ d = ledOnDefinition ∨ d = delayDefinition ∨ d = ifDefinition := by
  have hmem := Assoc.mem_of_get? h
  simp only [shipped, List.mem_cons, List.not_mem_nil, Prod.mk.injEq, or_false] at hmem
  rcases hmem with ⟨-, rfl⟩ | ⟨-, rfl⟩ | ⟨-, rfl⟩ | ⟨-, rfl⟩
  · exact .inl rfl
  · exact .inr (.inl rfl)
  · exact .inr (.inr (.inl rfl))
  · exact .inr (.inr (.inr rfl))

/-- The values of all parameters of the blocks that are visited have texts. -/
def Legible (vs : List Visit) : Prop :=
  ∀ v ∈ vs, ∀ d ∈ v.definition? shipped, ∀ q ∈ d.parameters,
    (v.block.values.get q.name q.default).hasText = true

/-- Every block with a definition can be rendered, if its values have texts. -/
theorem renders_shipped (v : Spot) {d : Definition} (h : v.definition? shipped = some d)
    (htexts : ∀ q ∈ d.parameters, (v.block.values.get q.name q.default).hasText = true) :
    v.Renders shipped d := by
  have hsuited (text : Text) : suits (v.context d) text = true := suits_of_hasText htexts text
  rcases mem_shipped h with rfl | rfl | rfl | rfl
  · exact ⟨fun _ ht => absurd ht List.not_mem_nil, fun text _ => hsuited text, nofun, nofun⟩
  all_goals exact ⟨fun _ ht => absurd ht List.not_mem_nil, fun text _ => hsuited text,
    fun _ => rfl, fun _ => rfl⟩

/-- Where all values have texts, the blocks that can be rendered are those with one of four
definitions. -/
theorem definition?_shipped_iff {p : Program} (htexts : Legible (programVisits shipped p))
    {v : Spot} (hv : v ∈ programSpots shipped p) :
    (∃ d ∈ v.definition? shipped, v.Renders shipped d) ↔
      v.block.definition ∈ (["EV_START", "LS_LED_ON", "TM_DELAY", "CTL_IF"] : List Text) := by
  have hkeys : (["EV_START", "LS_LED_ON", "TM_DELAY", "CTL_IF"] : List Text) =
      Assoc.keys shipped.definitions := rfl
  rw [hkeys, ← Assoc.has_iff_mem_keys, Assoc.has, Option.isSome_iff_exists]
  constructor
  · rintro ⟨d, hd, -⟩
    exact ⟨d, hd⟩
  · rintro ⟨d, hd⟩
    have hvisited := (mem_programVisits_iff shipped p v.toVisit).mpr ⟨v, hv, rfl⟩
    exact ⟨d, hd, renders_shipped v hd (htexts v.toVisit hvisited d hd)⟩

/-! ## the code of a block -/

instance (vs : List Visit) : Decidable (Legible vs) :=
  inferInstanceAs (Decidable (∀ v ∈ vs, ∀ d ∈ v.definition? shipped, _))

/-- The texts of the parameters of all blocks that are visited have no braces. -/
def Braceless (vs : List Visit) : Prop :=
  ∀ v ∈ vs, ∀ d ∈ v.definition? shipped, ∀ q ∈ d.parameters,
    (v.block.values.get q.name q.default).shown.braces = []

/-- Where no text has braces, those of a block itself have none. -/
theorem Braceless.own {b : Block} {surrounding : Option Section}
    (h : Braceless (visits shipped b surrounding)) {d : Definition} {q : Parameter}
    (hd : Assoc.get? shipped.definitions b.definition = some d) (hq : q ∈ d.parameters) :
    (b.values.get q.name q.default).shown.braces = [] := by
  rw [visits_eq] at h
  exact h ⟨b, surrounding⟩ List.mem_cons_self d hd q hq

/-- Nor have those of its children. -/
theorem Braceless.child {b child : Block} {surrounding : Option Section} {d : Definition}
    {c : Container}
    (h : Braceless (visits shipped b surrounding))
    (hd : Assoc.get? shipped.definitions b.definition = some d)
    (hc : c ∈ d.containers) (hchild : child ∈ Assoc.getD b.children c.name []) :
    Braceless (visits shipped child (innerSection d c)) := by
  rw [visits_eq] at h
  exact forall_mem_inside.mp (fun v hv => h v (List.mem_cons_of_mem _ hv)) d hd c hc child hchild

/-- A snippet with the mark of the only parameter. -/
theorem snippet_mark {d : Definition} {q : Parameter} (hq : d.parameters = [q])
    (hname : q.name.IsName)
    (hid : q.name ≠ "id") (id : Option Text) {values : Fields} (level : Nat) {start rest : Text}
    (hstart : start.braces = []) (hrest : Sealed rest.letters)
    (hvalue : (values.get q.name q.default).shown.braces = []) :
    snippet (context d id values) level (start ++ mark q.name ++ rest) =
      indent level (start ++ (values.get q.name q.default).shown ++ rest) := by
  have hcontext : context d id values =
      [(q.name, values.get q.name q.default), ("id", Value.ofText? id)] := by
    simp [context, hq, Assoc.ofList, Assoc.putAll, Assoc.put, Assoc.putNew, Assoc.has,
      Assoc.get?, hid]
  have hmark : (mark q.name).letters = opening :: (q.name.letters ++ [closing]) := rfl
  have hfull : (start ++ mark q.name ++ rest).isEmpty = false := by simp [Text.isEmpty, hmark]
  have hopening : opening ∉ (start ++ (values.get q.name q.default).shown).letters := by
    rw [Text.letters_append, List.mem_append, not_or]
    exact ⟨Text.opening_not_mem hstart, Text.opening_not_mem hvalue⟩
  have hsealed : Sealed (start ++ (values.get q.name q.default).shown ++ rest).letters :=
    Sealed.append_of_not_mem hopening hrest
  have hidName : Text.IsName "id" := ⟨.char 'i', [.char 'd'], rfl, by decide⟩
  rw [snippet, hfull, hcontext]
  change indent level (Text.substitute (mark "id") (Value.ofText? id).shown
    (Text.substitute (mark q.name) (values.get q.name q.default).shown
      (start ++ mark q.name ++ rest))) = _
  rw [Text.substitute_mark hname _ (Text.opening_not_mem hstart) hrest,
    Text.substitute_of_sealed hidName _ hsealed]

/-- A snippet without braces but those of its mark. -/
theorem braces_snippet {d : Definition} {q : Parameter} (hq : d.parameters = [q])
    (hname : q.name.IsName)
    (hid : q.name ≠ "id") (id : Option Text) {values : Fields} (level : Nat) (start rest : Text)
    (hstart : start.braces = []) (hrest : rest.braces = [])
    (hvalue : (values.get q.name q.default).shown.braces = []) :
    (snippet (context d id values) level (start ++ mark q.name ++ rest)).braces = [] := by
  have hends := Text.sealed_of_not_mem (Text.opening_not_mem hrest)
  rw [snippet_mark hq hname hid id level hstart hends hvalue, Text.braces_indent,
    Text.braces_append, Text.braces_append, hstart, hvalue, hrest]
  rfl

/-- The code of the children is indented as a whole. -/
theorem wellBracketed_containerText (level : Nat) {texts : List Text}
    (h : ∀ t ∈ texts, WellBracketed t) :
    WellBracketed (containerText level texts) := by
  unfold containerText
  dsimp only
  split
  · exact Text.wellBracketed_intercalate h
  · exact (Text.wellBracketed_intercalate h).indent (level + 1)

/-- The code of a condition. -/
theorem wellBracketed_condition (id : Option Text) {values : Fields} (level : Nat) {inner : Text}
    (hvalue : (values.get "condition" (.text "true")).shown.braces = [])
    (hinner : WellBracketed inner) :
    WellBracketed (snippet (context ifDefinition id values) level
      (fillMarks [("then", inner)] "if (\x7bcondition\x7d) \x7b\n\x7bthen\x7d\n\x7d")) := by
  let rest : Text := ") \x7b\n" ++ inner ++ "\n\x7d"
  have hfilled : fillMarks [("then", inner)] "if (\x7bcondition\x7d) \x7b\n\x7bthen\x7d\n\x7d" =
      "if (" ++ mark "condition" ++ rest := rfl
  have hbraces : rest.braces = opening :: (inner.braces ++ [closing]) := by
    rw [Text.braces_append, Text.braces_append]
    rfl
  have hends : Sealed rest.letters := by
    have hfirst : Sealed (([.char ')', .char ' '] : List Letter) ++ [opening]) :=
      Sealed.append_of_not_mem (by decide) (List.isChain_singleton _)
    have hlast : Sealed (inner.letters ++ .char '\n' :: [closing]) :=
      hinner.ends.append_feed (List.isChain_singleton _)
    have hletters : rest.letters =
        [.char ')', .char ' ', opening] ++
          .char '\n' :: (inner.letters ++ .char '\n' :: [closing]) := rfl
    rw [hletters]
    exact hfirst.append_feed hlast
  have hname : Text.IsName "condition" := ⟨.char 'c', _, rfl, by decide⟩
  have hstart : ("if (" : Text).braces = [] := by decide
  rw [hfilled]
  rw [snippet_mark (d := ifDefinition) rfl hname (by decide) id level hstart hends hvalue]
  refine WellBracketed.indent level ⟨?_, ?_⟩
  · rw [Text.braces_append, Text.braces_append, hstart, hvalue, hbraces]
    exact hinner.balanced.nest
  · refine Sealed.append_of_not_mem ?_ hends
    rw [Text.letters_append, List.mem_append, not_or]
    exact ⟨Text.opening_not_mem hstart, Text.opening_not_mem hvalue⟩

/-- By induction over the tree: the code of a block whose texts have no braces is well bracketed. -/
theorem wellBracketed_rendered (b : Block) (surrounding : Option Section)
    (h : Braceless (visits shipped b surrounding)) (level : Nat) :
    ∀ code ∈ rendered shipped b level, WellBracketed code := by
  induction b using children_induction generalizing surrounding level with | step b ih
  intro code hcode
  rw [rendered_eq, Option.mem_def] at hcode
  cases hd : Assoc.get? shipped.definitions b.definition with
  | none =>
    rw [blockRendered, hd] at hcode
    exact nomatch hcode
  | some d =>
    have hvalue {q : Parameter} (hq : q ∈ d.parameters) := h.own hd hq
    rcases mem_shipped hd with rfl | rfl | rfl | rfl
    · rw [blockRendered_of_unset hd rfl] at hcode
      exact nomatch hcode
    · rw [blockRendered_of_text hd rfl rfl] at hcode
      rw [← Option.some.inj hcode]
      exact Text.wellBracketed_of_braces (braces_snippet (d := ledOnDefinition) rfl
        ⟨.char 'p', _, rfl, by decide⟩
        (by decide) b.id level "digitalWrite(" ", HIGH);" (by decide) (by decide)
          (hvalue List.mem_cons_self))
    · rw [blockRendered_of_text hd rfl rfl] at hcode
      rw [← Option.some.inj hcode]
      exact Text.wellBracketed_of_braces (braces_snippet (d := delayDefinition) rfl
        ⟨.char 'm', _, rfl, by decide⟩
        (by decide) b.id level "delay(" ");" (by decide) (by decide) (hvalue List.mem_cons_self))
    · rw [blockRendered_of_text hd rfl rfl] at hcode
      rw [← Option.some.inj hcode]
      refine wellBracketed_condition b.id level (hvalue List.mem_cons_self) ?_
      refine wellBracketed_containerText level fun text htext => ?_
      rw [getD_children, List.mem_filter, List.mem_filterMap] at htext
      obtain ⟨⟨_, hmem, htext⟩, -⟩ := htext
      obtain ⟨child, hchild, rfl⟩ := List.mem_map.mp hmem
      exact ih "then" child hchild _ (h.child hd List.mem_cons_self hchild) (level + 1) text htext

/-! ## the lines of a section -/

def lineBraces (ls : List Line) : List Letter := ls.flatMap fun l => l.1.braces

theorem lineBraces_append (ls ls' : List Line) :
    lineBraces (ls ++ ls') = lineBraces ls ++ lineBraces ls' :=
  List.flatMap_append

def bracesIn (s : Section) (es : List Entry) : List Letter :=
  lineBraces (linesIn s (es.map Entry.placed))

theorem bracesIn_append (s : Section) (es es' : List Entry) :
    bracesIn s (es ++ es') = bracesIn s es ++ bracesIn s es' := by
  simp [bracesIn, linesIn, lineBraces_append]

/-- The braces that parts add to a section come one after the other. -/
theorem bracesIn_flatMap {α : Type} (s : Section) (as : List α) (es : α → List Entry) :
    bracesIn s (as.flatMap es) = as.flatMap fun a => bracesIn s (es a) := by
  induction as with
  | nil => rfl
  | cons a as ih => rw [List.flatMap_cons, bracesIn_append, ih, List.flatMap_cons]

/-- A text adds its braces to the section it goes to. -/
theorem bracesIn_entryOf (s target : Section) (id : Option Text) (inner : Bool) (text : Text) :
    bracesIn s (entryOf target id inner text) = if target = s then text.braces else [] := by
  unfold entryOf
  split
  · next hempty =>
    have hnone : text.braces = [] := by
      rw [Text.braces, List.isEmpty_iff.mp hempty, List.filter_nil]
    rw [hnone, ite_self]
    rfl
  · by_cases htarget : target = s <;> simp [bracesIn, lineBraces, linesIn, Entry.placed, htarget]

/-- The lines of a block's code add the braces of the code. -/
theorem bracesIn_lines (s target : Section) (id : Option Text) (inner : Bool) (code : Text) :
    bracesIn s ((Text.lines code).flatMap (entryOf target id inner)) =
      if target = s then code.braces else [] := by
  simp only [bracesIn_flatMap, bracesIn_entryOf]
  split
  · exact Text.braces_lines code
  · exact List.flatMap_eq_nil_iff.mpr fun _ _ => rfl

/-- What a block needs adds no braces. -/
theorem bracesIn_needs {b : Block} {surrounding : Option Section} {d : Definition}
    (h : Braceless (visits shipped b surrounding))
    (hd : Assoc.get? shipped.definitions b.definition = some d)
    (s : Section) : bracesIn s (needs d b.id (context d b.id b.values)) = [] := by
  have hvalue {q : Parameter} (hq : q ∈ d.parameters) := h.own hd hq
  rcases mem_shipped hd with rfl | rfl | rfl | rfl
  · rfl
  · have hsetup :=
      braces_snippet (d := ledOnDefinition) rfl ⟨.char 'p', _, rfl, by decide⟩ (by decide) b.id 1
      "pinMode(" ", OUTPUT);" (by decide) (by decide) (hvalue List.mem_cons_self)
    have htext : ("pinMode(\x7bpin\x7d, OUTPUT);" : Text) =
      "pinMode(" ++ mark "pin" ++ ", OUTPUT);" := rfl
    have hneeds (ctx : Fields) : needs ledOnDefinition b.id ctx =
        entryOf .setup b.id false (snippet ctx 1 "pinMode(\x7bpin\x7d, OUTPUT);") := by
      simp [needs, ledOnDefinition]
    rw [hneeds, htext, bracesIn_entryOf, hsetup, ite_self]
  · rfl
  · rfl

/-- The lines that a tree of blocks writes to a section are balanced. -/
theorem balanced_entries (b : Block) (surrounding : Option Section)
    (h : Braceless (visits shipped b surrounding)) (level : Nat) (inner : Bool) (s : Section) :
    Balanced (bracesIn s (entries shipped b surrounding level inner)) := by
  induction b using children_induction generalizing surrounding level inner with | step b ih
  rw [entries_eq, blockEntries]
  cases hd : Assoc.get? shipped.definitions b.definition with
  | none => exact Text.balanced_nil
  | some d =>
    have hchildren : Balanced (bracesIn s (d.containers.flatMap fun c => containerEntries d level c
        (Assoc.getD (Assoc.mapValues (List.map (entries shipped)) b.children) c.name []))) := by
      unfold containerEntries
      simp only [bracesIn_flatMap, getD_children, List.flatMap_map]
      refine Text.balanced_flatMap fun c hc => Text.balanced_flatMap fun child hchild => ?_
      have hbraceless := h.child hd hc hchild
      unfold innerSection at hbraceless
      split
      · next hplace =>
        rw [if_pos hplace] at hbraceless
        exact ih c.name child hchild d.target hbraceless (level + 1) true
      · next hplace =>
        rw [if_neg hplace] at hbraceless
        exact ih c.name child hchild (some c.target) hbraceless (bodyLevel c.target) false
    simp only [bracesIn_append, bracesIn_needs h hd, List.nil_append]
    refine hchildren.append ?_
    split
    · next code target hcode _ =>
      rw [bracesIn_lines]
      split
      · exact (wellBracketed_rendered b surrounding h level code hcode).balanced
      · exact Text.balanced_nil
    · exact Text.balanced_nil

/-! ## sketches -/

/-- The rows around the sections close the braces that they open. -/
theorem balanced_rows {lines : SectionLines} (h : ∀ s, Balanced (lineBraces (lines.get s))) :
    Balanced (lineBraces (rows lines)) := by
  have hrows : lineBraces (rows lines) = lineBraces lines.includes ++ (lineBraces lines.globals ++
      (opening :: (lineBraces lines.setup ++ [closing]) ++
        (opening :: (lineBraces lines.loop ++ [closing]) ++ lineBraces lines.functions))) := by
    have hheading : globalsHeading.braces = [] := by decide
    have hempty : ("" : Text).braces = [] := rfl
    have hsetup : ("void setup() \x7b" : Text).braces = [opening] := by decide
    have hloop : ("void loop() \x7b" : Text).braces = [opening] := by decide
    have hclose : ("\x7d" : Text).braces = [closing] := by decide
    have hglobals : (if lines.globals.isEmpty then [] else [(("" : Text), none)]).flatMap
        (fun l : Line => l.1.braces) = [] := by split <;> rfl
    have hfunctions :
        (if lines.functions.isEmpty then []
          else (("" : Text), none) :: lines.functions).flatMap
        (fun l : Line => l.1.braces) = lineBraces lines.functions := by
      split
      · next hnone => rw [List.isEmpty_iff.mp hnone]; rfl
      · rw [List.flatMap_cons, hempty]; rfl
    unfold rows
    simp only [lineBraces, List.flatMap_append, List.flatMap_cons, hheading, hempty, hsetup, hloop,
      hclose, hglobals, hfunctions, List.nil_append, List.append_assoc, List.cons_append]
  rw [hrows]
  exact (h .includes).append ((h .globals).append
    ((h .setup).nest.append ((h .loop).nest.append (h .functions))))

/-- No block of these definitions asks for a header. -/
theorem headers_shipped (root : Block) :
    (collected shipped ⟨some root⟩).headers = [(baseHeader, none)] := by
  have hnone (v : Visit) : v.headers shipped = [] := by
    unfold Visit.headers
    cases hd : v.definition? shipped with
    | none => rfl
    | some d => rcases mem_shipped hd with rfl | rfl | rfl | rfl <;> rfl
  have hvisits : (visits shipped root none).flatMap (Visit.headers shipped) = [] :=
    List.flatMap_eq_nil_iff.mpr fun v _ => hnone v
  obtain ⟨headers, hheaders, hpart, -⟩ := headers_collected shipped root
  rw [hvisits, List.map_nil, List.prefix_nil] at hpart
  rw [hheaders, hpart]
  rfl

/-- The lines of every section are balanced, and so is the code that is made of them. -/
theorem balanced_of_generate {p : Program} {sketch : Sketch} (h : generate shipped p = .ok sketch)
    (hbraceless : Braceless (programVisits shipped p)) : Balanced sketch.code.letters := by
  obtain ⟨root⟩ := p
  cases root with
  | none => exact nomatch h
  | some root =>
    have hvisits : programVisits shipped ⟨some root⟩ = visits shipped root none := by
      simp [programVisits]
    rw [hvisits] at hbraceless
    have hheaders : lineBraces (collected shipped ⟨some root⟩).headers = [] := by
      rw [headers_shipped]
      decide
    have hsections (s : Section) : Balanced (lineBraces (sketch.lines.get s)) := by
      have hentries := balanced_entries root none hbraceless 0 false s
      have hlines := (get_collected_programEntries shipped ⟨some root⟩ s).2 ⟨sketch, h⟩
      rw [programEntries, Option.toList_some, List.flatMap_singleton] at hlines
      rw [get_generate h, hlines]
      split
      · rwa [lineBraces_append, hheaders, List.append_nil]
      · rwa [List.append_nil]
    have hcode : sketch.code.braces = lineBraces (rows sketch.lines) := by
      have hfeed : ("\n" : Text).braces = [] := by decide
      rw [(code_of_generate h).1, Text.braces_append, hfeed, List.append_nil,
        Text.braces_trim, joined, Text.braces_intercalate hfeed, List.flatMap_map]
      rfl
    exact Text.balanced_of_braces (hcode.symm ▸ balanced_rows hsections)

/-- The definitions that come with every library that is a list of entries, as the bundled one is.
A program whose values have texts has a sketch exactly when it has a root and every visited block
has one of the four definitions; and if no text of a parameter that is used has a brace, the braces
of the code are balanced. -/
theorem balanced_code (file : Text) (content : Json.Content) (entries : List Value)
    (h : content.document = .ok (.list entries)) :
    Registry.load file content = .ok shipped ∧ Registry.bundled = .ok shipped ∧
    ∀ p : Program,
      (Legible (programVisits shipped p) →
        ((∃ sketch, generate shipped p = .ok sketch) ↔ p.root.isSome = true ∧
          ∀ v ∈ programVisits shipped p,
            v.block.definition ∈ (["EV_START", "LS_LED_ON", "TM_DELAY", "CTL_IF"] : List Text))) ∧
      ∀ sketch, generate shipped p = .ok sketch →
        (∀ v ∈ programVisits shipped p, ∀ d ∈ v.definition? shipped, ∀ q ∈ d.parameters,
          (v.block.values.get q.name q.default).shown.has opening = false ∧
            (v.block.values.get q.name q.default).shown.has closing = false) →
        (∀ start, start <+: sketch.code.letters → start.count closing ≤ start.count opening) ∧
          sketch.code.letters.count opening = sketch.code.letters.count closing := by
  refine ⟨load_of_list h file, bundled_eq,
    fun p => ⟨fun htexts => ?_, fun sketch hsketch hvalues => ?_⟩⟩
  · rw [generate_eq_ok_iff]
    refine and_congr_right fun _ => ⟨fun hspots v hv => ?_, fun hvisits v hv => ?_⟩
    · obtain ⟨u, hu, rfl⟩ := (mem_programVisits_iff shipped p v).mp hv
      exact (definition?_shipped_iff htexts hu).mp (hspots u hu)
    · have hvisited := (mem_programVisits_iff shipped p v.toVisit).mpr ⟨v, hv, rfl⟩
      exact (definition?_shipped_iff htexts hv).mpr (hvisits v.toVisit hvisited)
  · have hbraceless : Braceless (programVisits shipped p) := fun v hv d hd q hq =>
      (Text.braces_eq_nil_iff _).mpr (hvalues v hv d hd q hq)
    have hbalanced := balanced_of_generate hsketch hbraceless
    exact ⟨hbalanced.closing_le, hbalanced.count_eq⟩

/-- A light under two conditions, the first of which takes two lines. -/
def nestedConditions : Program where
  root := some (.mk none "EV_START" [] [("loop", [
    .mk (some "a") "CTL_IF" [("condition", .text "x\n== 1")] [("then", [
      .mk (some "b") "CTL_IF" [] [("then", [.mk (some "c") "LS_LED_ON" [("pin", .int 12)] []])],
      .mk (some "d") "TM_DELAY" [] []])]])])

theorem balanced_code_nestedConditions :
    Registry.load "blocks.json" (Json.Content.text "[]") = .ok shipped ∧
      ∃ sketch, generate shipped nestedConditions = .ok sketch ∧
        sketch.code.letters.count opening = sketch.code.letters.count closing := by
  have hdocument : (Json.Content.text "[]").document = .ok (.list []) := by rfl
  obtain ⟨hload, -, hprograms⟩ := balanced_code "blocks.json" (Json.Content.text "[]") [] hdocument
  obtain ⟨hsketch, hbalanced⟩ := hprograms nestedConditions
  obtain ⟨sketch, hgenerate⟩ := (hsketch (by decide +kernel)).mpr ⟨rfl, by decide +kernel⟩
  exact ⟨hload, sketch, hgenerate, (hbalanced sketch hgenerate (by decide +kernel)).2⟩

end BlockSketch.Sketch
