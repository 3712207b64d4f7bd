import BlockSketch.Proofs.Sketch.Emission
import BlockSketch.Proofs.Sketch.Walk

/-!
# BlockSketch.Proofs.Sketch.Vacant

Sections that stay empty, in the opinion of the checks and in the sketch.  The checks go
by the definitions: a section is in use when the definition of a visited block names it.
The generator goes by what is written: a template without a section of its own is
written to the section around it, and what a definition names a section for may turn
out empty.

* `mem_messages_iff` — when the checks call a section empty;
* `get_eq_nil_iff` — when it is empty in the sketch;
* `vacant_iff` — when the two agree.
-/

namespace BlockSketch.Sketch

open Validation (usedBy)

/-! ## who writes to a section -/

section Sections

variable (r : Registry) (v : Spot) (s : Section)

/-- The definition of the block names a section. -/
def Spot.Names : Prop := ∃ d ∈ v.definition? r, s ∈ usedBy d

/-- The definition of the block has no section for code, and the block stands in a section. -/
def Spot.Inherits : Prop := ∃ d ∈ v.definition? r, d.target = none ∧ v.surrounding = some s

/-- The block has code that goes to a section, and a line of it is not empty. -/
def Spot.WritesCode : Prop :=
  ∃ d ∈ v.definition? r, d.target.or v.surrounding = some s ∧
    ∃ code ∈ rendered r v.block v.level, ∃ line ∈ Text.lines code, line.isEmpty = false

/-- The block needs code in `setup` that does not turn out empty. -/
def Spot.WritesSetup : Prop :=
  ∃ d ∈ v.definition? r, ∃ text ∈ d.setup, (snippet (v.context d) 1 text).isEmpty = false

/-- The block writes to one of the two bodies. -/
def Spot.Writes : Prop := v.WritesCode r s ∨ s = .setup ∧ v.WritesSetup r

instance : Decidable (v.Names r s) := inferInstanceAs (Decidable (∃ d ∈ v.definition? r, _))

instance : Decidable (v.Inherits r s) := inferInstanceAs (Decidable (∃ d ∈ v.definition? r, _))

instance : Decidable (v.WritesCode r s) := inferInstanceAs (Decidable (∃ d ∈ v.definition? r, _))

instance : Decidable (v.WritesSetup r) := inferInstanceAs (Decidable (∃ d ∈ v.definition? r, _))

instance : Decidable (v.Writes r s) := inferInstanceAs (Decidable (_ ∨ _))

end Sections

/-- What writes to a section is named by its definition, or stands in the section. -/
theorem Spot.names_or_inherits {r : Registry} {v : Spot} {s : Section} (h : v.Writes r s) :
    v.Names r s ∨ v.Inherits r s := by
  rcases h with ⟨d, hd, htarget, -⟩ | ⟨rfl, d, hd, text, htext, -⟩
  · cases hown : d.target with
    | none =>
      rw [hown] at htarget
      exact .inr ⟨d, hd, hown, htarget⟩
    | some t =>
      rw [hown] at htarget
      refine .inl ⟨d, hd, ?_⟩
      unfold usedBy
      rw [hown, ← Option.some.inj htarget]
      simp
  · have hsetup : d.setup.isEmpty = false := by
      rw [List.isEmpty_eq_false_iff]
      exact List.ne_nil_of_mem htext
    refine .inl ⟨d, hd, ?_⟩
    unfold usedBy
    simp [hsetup]

/-- Of what a block needs, only its code for `setup` goes to one of the two bodies. -/
theorem body_needsScript_iff {d : Definition} {id : Option Text} {ctx : Fields} {s : Section}
    (hs : s.isBody = true) : (∃ l, Event.line s l ∈ needsScript d id ctx) ↔
      s = .setup ∧ ∃ text ∈ d.setup, (snippet ctx 1 text).isEmpty = false := by
  have hglobals : s ≠ .globals := fun h => absurd (h ▸ hs) (by decide)
  have hfunctions : s ≠ .functions := fun h => absurd (h ▸ hs) (by decide)
  constructor
  · rintro ⟨l, hl⟩
    rcases mem_needsScript hl with h | h | ⟨rfl, text, htext, hfull⟩
    · exact absurd h hglobals
    · exact absurd h hfunctions
    · exact ⟨rfl, text, htext, hfull⟩
  · rintro ⟨rfl, text, htext, hfull⟩
    have hline : Event.line .setup (snippet ctx 1 text, id) ∈ snippetScript ctx .setup id 1 text :=
      mem_snippetScript_iff.mpr (mem_lineOf_iff.mpr ⟨hfull, rfl, rfl⟩)
    exact ⟨_, List.mem_append_right _ (List.mem_flatMap.mpr ⟨text, htext, hline⟩)⟩

/-- The lines that a block writes to one of the two bodies. -/
theorem Spot.writes_iff (r : Registry) (v : Spot) {s : Section} (hs : s.isBody = true) :
    (∃ l, Event.line s l ∈ v.events r) ↔ v.Writes r s := by
  unfold Spot.events Spot.Writes Spot.WritesCode Spot.WritesSetup
  cases v.definition? r with
  | none => simp
  | some d =>
    simp only [Option.toList_some, List.flatMap_singleton, List.mem_append, exists_or,
      body_needsScript_iff hs, Option.mem_some_iff, exists_eq_left']
    rw [or_comm]
    refine or_congr_left ⟨?_, ?_⟩
    · rintro ⟨l, hl⟩
      obtain ⟨htarget, code, hcode, hline, hfull, -⟩ := mem_codeScript_iff.mp hl
      exact ⟨htarget, code, hcode, l.1, hline, hfull⟩
    · rintro ⟨htarget, code, hcode, line, hline, hfull⟩
      exact ⟨(line, v.block.id), mem_codeScript_iff.mpr ⟨htarget, code, hcode, hline, hfull, rfl⟩⟩

/-- One of the two bodies is empty exactly when no block that is visited writes there. -/
theorem get_eq_nil_iff {r : Registry} {p : Program} {sketch : Sketch} {s : Section}
    (h : generate r p = .ok sketch) (hs : s.isBody = true) :
    sketch.lines.get s = [] ↔ ∀ v ∈ programSpots r p, ¬ v.Writes r s := by
  obtain ⟨root⟩ := p
  cases root with
  | none => exact nomatch h
  | some root =>
    obtain ⟨headers, hget⟩ := get_of_generate h
    have hheaders : Section.includes ≠ s := fun heq => by
      rw [← heq] at hs
      exact nomatch hs
    have hentries : (programEntries r ⟨some root⟩).map Entry.placed =
        (script r root none 0).filterMap Event.line? := by
      rw [lines_script r root none 0 false]
      simp [programEntries]
    have hspots : programSpots r ⟨some root⟩ = spots r root none 0 := by simp [programSpots]
    rw [hget s, if_neg hheaders, List.append_nil, hentries, hspots, List.eq_nil_iff_forall_not_mem]
    simp only [mem_linesIn_iff, mem_script_iff, ← Spot.writes_iff r _ hs, not_exists, not_and]
    exact ⟨fun h v hv l => h l v hv, fun h l v hv => h v hv l⟩

end BlockSketch.Sketch

namespace BlockSketch.Validation

open Sketch (Visit visits programVisits)

/-! ## what the checks say -/

/-- The complaint that a section is empty. -/
def emptyMessage (s : Section) : Text := "Секция '" ++ s.name ++ "' пуста"

/-- The sections that a step adds to those in use are `sections`, and no section is called empty. -/
structure Finds (f f' : Findings) (sections : List Section) : Prop where
  used : ∀ s, s ∈ f'.used ↔ s ∈ f.used ∨ s ∈ sections
  silent : ∀ s, emptyMessage s ∈ f'.complaints.map Complaint.message →
    emptyMessage s ∈ f.complaints.map Complaint.message

theorem Finds.refl (f : Findings) : Finds f f [] := ⟨by simp, fun _ h => h⟩

/-- Two steps find the sections that either finds. -/
theorem Finds.trans (f g f' : Findings) (ss ss' : List Section) (h : Finds f g ss)
    (h' : Finds g f' ss') : Finds f f' (ss ++ ss') where
  used s := by rw [h'.used, h.used, List.mem_append, or_assoc]
  silent s hs := h.silent s (h'.silent s hs)

/-- A text with another first letter calls no section empty. -/
theorem ne_emptyMessage {start message : Text} (hstart : start.letters <+: message.letters)
    (hfirst : ∃ l ∈ start.letters.head?, l ≠ .char 'С') (s : Section) :
    message ≠ emptyMessage s := by
  have hempty : (emptyMessage s).letters.head? = some (.char 'С') := by
    have hword : ("Секция '" : Text).letters.head? = some (.char 'С') := by decide +kernel
    unfold emptyMessage
    simp only [Text.letters_append, List.head?_append, hword, Option.some_or]
  obtain ⟨l, hl, hother⟩ := hfirst
  obtain ⟨rest, hrest⟩ := hstart
  rintro rfl
  rw [← hrest, List.head?_append, Option.mem_def.mp hl, Option.some_or] at hempty
  exact hother (Option.some.inj hempty)

/-- A complaint about something else finds no section. -/
theorem finds_complain {message : Text} (h : ∀ s, message ≠ emptyMessage s) (f : Findings)
    (id : Option Text) : Finds f (f.complain message id) [] where
  used s := by
    unfold Findings.complain
    simp
  silent s hs := by
    have hmessages : (f.complain message id).complaints.map Complaint.message =
        f.complaints.map Complaint.message ++ [message] := List.map_append
    rw [hmessages, List.mem_append, List.mem_singleton] at hs
    exact hs.resolve_right (h s).symm

/-- The check of a parameter finds no section. -/
theorem finds_checkParameter (board : Board) (id : Option Text) (values : Fields) (p : Parameter)
    (f f' : Findings) (hok : checkParameter board id values p f = .ok f') : Finds f f' [] := by
  have hfirst : ∀ start ∈ valueOpenings, ∃ l ∈ start.letters.head?, l ≠ .char 'С' := by
    decide +kernel
  obtain rfl | ⟨message, ⟨start, hstart, hmessage⟩, rfl⟩ :=
    objects_checkParameter board id values p f f' hok
  · exact .refl f'
  · exact finds_complain (ne_emptyMessage hmessage (hfirst start hstart)) f id

/-- The check of a visited block adds the sections that its definition names. -/
theorem finds_checkVisit (r : Registry) (board : Board) (v : Visit) (f f' : Findings)
    (hok : checkVisit r board v f = .ok f') :
    Finds f f' ((v.definition? r).toList.flatMap usedBy) := by
  unfold checkVisit at hok
  cases hd : v.definition? r with
  | none =>
    rw [hd] at hok
    cases hok
    exact finds_complain (ne_emptyMessage (List.prefix_refl _) (by decide +kernel)) f v.block.id
  | some d =>
    rw [hd] at hok
    have huse : Finds f ((usedBy d).foldl Findings.use f) (usedBy d) :=
      ⟨mem_used_foldl_use (usedBy d) f, fun s hs => by rwa [complaints_foldl_use] at hs⟩
    have hparameters := runAll_adds Finds.refl Finds.trans
      (fun p _ => finds_checkParameter board v.block.id v.block.values p) _ f' hok
    have hnone : d.parameters.flatMap (fun _ => ([] : List Section)) = [] :=
      List.flatMap_eq_nil_iff.mpr fun _ _ => rfl
    have hboth := huse.trans _ _ _ _ _ hparameters
    rw [hnone, List.append_nil] at hboth
    rwa [Option.toList_some, List.flatMap_singleton]

/-- A walk adds the sections that the definitions of the visited blocks name. -/
theorem finds_walk (r : Registry) (board : Board) (b : Block) (surrounding : Option Section)
    (f f' : Findings) (hok : walk r board b f = .ok f') :
    Finds f f' ((visits r b surrounding).flatMap fun v => (v.definition? r).toList.flatMap
      usedBy) := by
  rw [walk_eq_runAll r board b surrounding] at hok
  exact runAll_adds Finds.refl Finds.trans (fun v _ => finds_checkVisit r board v) f f' hok

/-- Each section has a message of its own. -/
theorem emptyMessage_inj {s t : Section} (h : emptyMessage s = emptyMessage t) : s = t := by
  have hletters := congrArg Text.letters h
  simp only [emptyMessage, Text.letters_append, List.append_assoc, List.append_cancel_left_eq,
    List.append_cancel_right_eq] at hletters
  have hname : s.name = t.name := congrArg Text.mk hletters
  have hfound := s.ofName?_name
  rw [hname, t.ofName?_name] at hfound
  exact (Option.some.inj hfound).symm

/-- The closing complaints call one of the two bodies empty exactly when it is not in use. -/
theorem mem_closing_iff (used : List Section) {s : Section} (hs : s.isBody = true) :
    emptyMessage s ∈ (closing used).map Complaint.message ↔ s ∉ used := by
  have hloop : ("В цикле loop() отсутствуют исполняемые блоки" : Text) ≠ emptyMessage s :=
    ne_emptyMessage (List.prefix_refl _) (by decide +kernel) s
  have hbody : s ∈ [Section.loop, Section.setup] := by
    cases s with
    | setup | loop => simp
    | _ => exact nomatch hs
  unfold closing
  rw [List.map_append, List.mem_append, List.map_map, or_iff_right]
  · rw [List.mem_map]
    constructor
    · rintro ⟨t, ht, hmessage⟩
      rw [← emptyMessage_inj hmessage]
      simpa using (List.mem_filter.mp ht).2
    · intro hunused
      exact ⟨s, List.mem_filter.mpr ⟨hbody, by simpa using hunused⟩, rfl⟩
  · split
    · simp
    · simpa [eq_comm] using hloop

/-- The checks call one of the two bodies empty exactly when no definition of a visited block names
it. -/
theorem mem_messages_iff {r : Registry} {board : Board} {p : Program} {complaints : List Complaint}
    {s : Section} (h : validate r board p = .ok complaints) (hroot : p.root.isSome = true)
    (hs : s.isBody = true) : emptyMessage s ∈ complaints.map Complaint.message ↔
      ∀ v ∈ Sketch.programSpots r p, ¬ v.Names r s := by
  obtain ⟨root, hsome⟩ := Option.isSome_iff_exists.mp hroot
  obtain ⟨f, hf, rfl⟩ := walk_of_validate h hsome
  have hfinds := finds_walk r board root none {} f hf
  have hsilent : emptyMessage s ∉ f.complaints.map Complaint.message := fun hin =>
    absurd (hfinds.silent s hin) List.not_mem_nil
  have hspots : Sketch.programSpots r p = Sketch.spots r root none 0 := by
    simp [Sketch.programSpots, hsome]
  rw [List.map_append, List.mem_append, or_iff_right hsilent, mem_closing_iff f.used hs,
    hfinds.used, ← Sketch.map_spots r root none 0, hspots]
  simp [Sketch.Spot.Names]

/-- The checks and the sketch of a program agree on whether one of the two bodies is empty exactly
when a body that a template is written to for want of a section of its own is named by some other
block, and a body that is named is written to by some block. -/
theorem vacant_iff (r : Registry) (board : Board) (p : Program) (complaints : List Complaint)
    (sketch : Sketch) (s : Section) (hs : s.isBody = true)
    (hvalid : validate r board p = .ok complaints) (hsketch : Sketch.generate r p = .ok sketch) :
    let reported := emptyMessage s ∈ complaints.map Complaint.message
    let spots := Sketch.programSpots r p
    (reported ↔ ∀ v ∈ spots, ¬ v.Names r s) ∧
      (sketch.lines.get s = [] ↔ ∀ v ∈ spots, ¬ v.Writes r s) ∧
      ((reported ↔ sketch.lines.get s = []) ↔
        (∀ v ∈ spots, v.Inherits r s → v.Writes r s → ∃ w ∈ spots, w.Names r s) ∧
          ∀ v ∈ spots, v.Names r s → ∃ w ∈ spots, w.Writes r s) := by
  intro reported spots
  have hroot : p.root.isSome = true := ((Sketch.generate_eq_ok_iff r p).mp ⟨sketch, hsketch⟩).1
  have hreported : reported ↔ ∀ v ∈ spots, ¬ v.Names r s := mem_messages_iff hvalid hroot hs
  have hempty : sketch.lines.get s = [] ↔ ∀ v ∈ spots, ¬ v.Writes r s :=
    Sketch.get_eq_nil_iff hsketch hs
  refine ⟨hreported, hempty, ?_⟩
  rw [hreported, hempty]
  constructor
  · intro hagree
    refine ⟨fun v hv _ hwrites => ?_, fun v hv hnames => ?_⟩
    · by_contra hnone
      exact hagree.mp (fun w hw hnames => hnone ⟨w, hw, hnames⟩) v hv hwrites
    · by_contra hnone
      exact hagree.mpr (fun w hw hwrites => hnone ⟨w, hw, hwrites⟩) v hv hnames
  · rintro ⟨hinherits, hnamed⟩
    constructor
    · intro hnone v hv hwrites
      rcases Sketch.Spot.names_or_inherits hwrites with hnames | hinherit
      · exact hnone v hv hnames
      · obtain ⟨w, hw, hnames⟩ := hinherits v hv hinherit hwrites
        exact hnone w hw hnames
    · intro hnone v hv hnames
      obtain ⟨w, hw, hwrites⟩ := hnamed v hv hnames
      exact hnone w hw hwrites

/-- A start with both bodies, a lamp with a section of its own, words that go where they stand, and
a pause that has a section but no code. -/
def signals : Registry where
  definitions := [
    ("start", {
      id := "start"
      containers := [{ name := "setup", target := .setup }, { name := "loop", target := .loop }] }),
    ("lamp", {
      id := "lamp"
      target := some .loop
      template := .text "on();"
      setup := ["pinMode(13, OUTPUT);"] }),
    ("say", { id := "say", template := .text "say();" }),
    ("pause", { id := "pause", target := some .loop })]

/-- Words and a lamp in the loop. -/
def saying : Program where
  root := some (.mk (some "start") "start" [] [("loop", [
    .mk (some "words") "say" [] [], .mk (some "lamp") "lamp" [] []])])

/-- The loop is named by the lamp, and the words that stand there as well change nothing. -/
theorem vacant_saying :
    ∃ complaints sketch, validate signals default saying = .ok complaints ∧
      Sketch.generate signals saying = .ok sketch ∧
      (emptyMessage .loop ∈ complaints.map Complaint.message ↔ sketch.lines.get .loop = []) := by
  have hvalid : (validate signals default saying).toOption = some [] := by decide +kernel
  have hok : (Sketch.generate signals saying).toOption.isSome = true := by decide +kernel
  obtain ⟨sketch, hsketch⟩ := Option.isSome_iff_exists.mp hok
  have hvalid := Outcome.eq_ok_of_toOption hvalid
  have hsketch := Outcome.eq_ok_of_toOption hsketch
  obtain ⟨-, -, hiff⟩ := vacant_iff signals default saying [] sketch .loop rfl hvalid hsketch
  exact ⟨[], sketch, hvalid, hsketch, hiff.mpr (by decide +kernel)⟩

/-- Words in `setup` and a pause in the loop. -/
def pausing : Program where
  root := some (.mk (some "start") "start" [] [("setup", [.mk (some "words") "say" [] []]),
    ("loop", [.mk (some "pause") "pause" [] []])])

/-- The body that is called empty has a line, and the other one, which is not, has none. -/
theorem not_vacant_pausing :
    validate signals default pausing = .ok [⟨"Секция 'setup' пуста", none⟩] ∧
      ∃ sketch, Sketch.generate signals pausing = .ok sketch ∧
        sketch.lines.get .setup = ([("  say();", some "words")] : List Sketch.Line) ∧
        sketch.lines.get .loop = [] := by
  have hvalid :
      (validate signals default pausing).toOption = some [⟨"Секция 'setup' пуста", none⟩] := by
    decide +kernel
  have hlines : (Sketch.generate signals pausing).toOption.any (fun sketch =>
      sketch.lines.get .setup == ([("  say();", some "words")] : List Sketch.Line) &&
        sketch.lines.get .loop == []) = true := by
    decide +kernel
  obtain ⟨sketch, hsketch, htest⟩ := Outcome.exists_ok_of_any hlines
  rw [Bool.and_eq_true, beq_iff_eq, beq_iff_eq] at htest
  exact ⟨Outcome.eq_ok_of_toOption hvalid, sketch, hsketch, htest⟩

end BlockSketch.Validation
