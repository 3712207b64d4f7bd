import BlockSketch.Proofs.Assoc
import BlockSketch.Proofs.Sketch.Emission
import Mathlib.Data.List.Induction

/-!
# BlockSketch.Proofs.Sketch.Reuse

A generator that is used for several programs in turn.  It keeps what it has collected,
also from a program that meets a fault, and a program never looks at it; so every
program adds the lines that it adds to a new generator.  Headers wait until a program
has a sketch, and then go to their section, each once.  `collected` is what a new generator
holds of a program just before.

* `headers_script` — the headers of a script are those that the visited blocks ask for;
* `foldl_putNew_eq` — headers that wait are kept in the order in which they were first asked for;
* `headers_collected`, `includes_collected` — the headers that wait for a program, and what it
  writes to their section itself;
* `groups_after` — the section of the headers after some programs;
* `accumulated_after` — what programs that are built in turn add.
-/

namespace BlockSketch.Sketch

/-! ## the headers of a program -/

def Visit.headers (r : Registry) (v : Visit) : List Line :=
  (v.definition? r).toList.flatMap fun d => d.includes.flatMap fun text =>
    (Format.render text (v.context d)).toOption.toList.map fun filled => (filled, v.block.id)

theorem headers_lineOf (target : Section) (id : Option Text) (text : Text) :
    (lineOf target id text).filterMap Event.header? = [] := by
  unfold lineOf
  split <;> rfl

/-- The headers that a block needs are those that can be filled. -/
theorem headers_needsScript (d : Definition) (id : Option Text) (ctx : Fields) :
    (needsScript d id ctx).filterMap Event.header? = d.includes.flatMap fun text =>
      (Format.render text ctx).toOption.toList.map fun filled => (filled, id) := by
  have hheader (text : Text) :
      (fillScript ctx (fun text => [.header (text, id)]) text).filterMap Event.header? =
        (Format.render text ctx).toOption.toList.map fun filled => (filled, id) := by
    unfold fillScript
    cases Format.render text ctx <;> rfl
  have hfunction (text : Text) :
      (fillScript ctx (lineOf .functions id) text).filterMap Event.header? = [] := by
    unfold fillScript
    cases Format.render text ctx with
    | ok filled => exact headers_lineOf .functions id filled
    | error fault => rfl
  have hnone (texts : List Text) : texts.flatMap (fun _ => ([] : List Line)) = [] :=
    List.flatMap_eq_nil_iff.mpr fun _ _ => rfl
  have hsnippet (target : Section) (level : Nat) (text : Text) :
      (snippetScript ctx target id level text).filterMap Event.header? = [] :=
    (filterMap_snippetScript (fun _ => rfl) target id level text).trans (headers_lineOf _ _ _)
  unfold needsScript
  simp only [List.filterMap_append, List.filterMap_flatMap, hheader, hfunction, hsnippet, hnone,
    List.append_nil]

/-- The headers of a script are those that the visited blocks ask for, in order. -/
theorem headers_script (r : Registry) (b : Block) (surrounding : Option Section) (level : Nat) :
    (script r b surrounding level).filterMap Event.header? =
      (visits r b surrounding).flatMap (Visit.headers r) := by
  induction b using children_induction generalizing surrounding level with | step b ih
  rw [script_eq, visits_eq, List.flatMap_cons]
  unfold blockScript Visit.headers Visit.definition? Visit.context inside
  cases Assoc.get? r.definitions b.definition with
  | none => rfl
  | some d =>
    have hsection : (sectionScript d surrounding).filterMap Event.header? = [] :=
      filterMap_of_faults (fun _ => rfl) fun _ he => eq_fault_of_mem_sectionScript he
    have htemplate (filled : Assoc Text Text) :
        (templateScript d (context d b.id b.values) filled).filterMap Event.header? = [] :=
      filterMap_of_faults (fun _ => rfl) fun _ he => eq_fault_of_mem_templateScript he
    have hcode (code : Option Text) :
        (codeScript d b.id surrounding code).filterMap Event.header? = [] := by
      unfold codeScript
      split
      · rw [List.filterMap_flatMap]
        exact List.flatMap_eq_nil_iff.mpr fun _ _ => headers_lineOf _ b.id _
      · rfl
    have hchildren : (d.containers.flatMap fun c => containerScript d level c
        (Assoc.getD (Assoc.mapValues (List.map (script r)) b.children) c.name [])).filterMap
          Event.header? =
        (within d (Assoc.mapValues (List.map (visits r)) b.children)).flatMap
          (Visit.headers r) := by
      simp only [within_map, List.filterMap_flatMap, List.flatMap_assoc, containerScript,
        getD_children, List.flatMap_map]
      refine List.flatMap_congr fun c _ => List.flatMap_congr fun child hchild => ?_
      unfold innerSection
      split
      · exact ih c.name child hchild d.target (level + 1)
      · exact ih c.name child hchild (some c.target) (bodyLevel c.target)
    simp only [List.filterMap_append, headers_needsScript, hsection, hchildren, htemplate, hcode,
      List.append_nil, Option.toList_some, List.flatMap_singleton]
    rfl

/-- A header as it waits, without the blanks around it. -/
def trimmed (l : Line) : Line := (Text.trim l.1, l.2)

/-- The first of the lines with a text, for every text, in order. -/
def firsts (ls : List Line) : List Line := ls.eraseDupsBy fun l l' => l.1 == l'.1

/-- Headers that wait are the first ones with their texts. -/
theorem foldl_putNew_eq (ls : List Line) :
    ls.foldl (fun hs h => Assoc.putNew hs h.1 h.2) [] = firsts ls := by
  have hloop (ls waiting : List Line) : ls.foldl (fun hs h => Assoc.putNew hs h.1 h.2) waiting =
      List.eraseDupsBy.loop (fun l l' => l.1 == l'.1) ls waiting.reverse := by
    induction ls generalizing waiting with
    | nil => rw [List.eraseDupsBy.loop, List.reverse_reverse, List.foldl_nil]
    | cons l ls ih =>
      have hhas : waiting.reverse.any (fun l' => l.1 == l'.1) = Assoc.has waiting l.1 := by
        rw [Bool.eq_iff_iff, Assoc.has_iff_mem_keys]
        simp only [List.any_eq_true, List.mem_reverse, beq_iff_eq, Assoc.keys, List.mem_map]
        constructor <;> rintro ⟨l', hl', htext⟩ <;> exact ⟨l', hl', htext.symm⟩
      rw [List.foldl_cons, ih, List.eraseDupsBy.loop, hhas]
      unfold Assoc.putNew
      cases Assoc.has waiting l.1 <;> simp
  exact hloop ls []

/-- No text comes first twice. -/
theorem nodup_firsts (ls : List Line) : ((firsts ls).map Prod.fst).Nodup := by
  have hkeys := Assoc.keys_foldl_putNew ls
  rw [foldl_putNew_eq, Assoc.keys] at hkeys
  rw [hkeys]
  exact Assoc.nodup_eraseDups _

/-- A line whose text is there already adds nothing, so the first ones add as much as all. -/
theorem foldl_putNew_firsts (ls : List Line) (m : Assoc Text (Option Text)) :
    (firsts ls).foldl (fun hs h => Assoc.putNew hs h.1 h.2) m =
      ls.foldl (fun hs h => Assoc.putNew hs h.1 h.2) m := by
  induction ls using List.reverseRecOn with
  | nil => rfl
  | append_singleton ls l ih =>
    rw [← foldl_putNew_eq, List.foldl_append, List.foldl_append, foldl_putNew_eq, ← ih,
      List.foldl_cons, List.foldl_nil, List.foldl_cons, List.foldl_nil]
    cases hhas : Assoc.has (firsts ls) l.1 with
    | false =>
      rw [Assoc.putNew, hhas, if_neg Bool.false_ne_true, List.foldl_append, List.foldl_cons,
        List.foldl_nil]
    | true =>
      have hafter :
          Assoc.has ((firsts ls).foldl (fun hs h => Assoc.putNew hs h.1 h.2) m) l.1 = true := by
        rw [Assoc.has, Assoc.get?_foldl_putNew, Option.isSome_or]
        exact Bool.or_eq_true_iff.mpr (.inr hhas)
      rw [Assoc.putNew, if_pos hhas, Assoc.putNew, if_pos hafter]

/-! ## one program with a new generator -/

/-- What a new generator holds of a program, at the end of the program or at its fault, before the
headers that wait go to their section. -/
def collected (r : Registry) (p : Program) : Generator := ((collect r p).run.run {}).2

def HasSketch (r : Registry) (p : Program) : Prop := ∃ sketch, generate r p = .ok sketch

/-- A program has a sketch exactly when its script meets no fault. -/
theorem hasSketch_iff (r : Registry) (p : Program) :
    HasSketch r p ↔ verdict (faults (programScript r p)) = .ok () := by
  rw [HasSketch, ← map_unit_eq_ok_iff, generate_map_verdict]

/-- A program with a sketch is performed to its end. -/
theorem performed_of_hasSketch {r : Registry} {p : Program} (h : HasSketch r p) :
    performed (programScript r p) = programScript r p :=
  performed_of_faults ((verdict_eq_ok_iff _).mp ((hasSketch_iff r p).mp h))

theorem get_empty (s : Section) : ({} : Generator).lines.get s = [] := by cases s <;> rfl

/-- What a new generator holds in a section is what was performed of the program. -/
theorem get_collected (r : Registry) (p : Program) (s : Section) :
    (collected r p).lines.get s = linesIn s (output (performed (programScript r p))).lines := by
  rw [collected, run_collect, get_extend, get_empty, List.nil_append]

/-- The headers that wait are the first of each text. -/
theorem headers_collected_eq (r : Registry) (p : Program) : (collected r p).headers =
    firsts (((performed (programScript r p)).filterMap Event.header?).map trimmed) := by
  rw [collected, run_collect, ← foldl_putNew_eq, List.foldl_map]
  rfl

/-- The header of every sketch waits first, and then the headers of the blocks, all of them if there
is no fault. -/
theorem headers_collected (r : Registry) (root : Block) : ∃ headers,
    (collected r ⟨some root⟩).headers = firsts ((baseHeader, none) :: headers) ∧
      headers <+: ((visits r root none).flatMap (Visit.headers r)).map trimmed ∧
      (HasSketch r ⟨some root⟩ →
        headers = ((visits r root none).flatMap (Visit.headers r)).map trimmed) := by
  have hbase : Text.trim baseHeader = baseHeader := by decide +kernel
  have hfirst : (collected r ⟨some root⟩).headers = firsts ((Text.trim baseHeader, none) ::
      ((performed (script r root none 0)).filterMap Event.header?).map trimmed) :=
    headers_collected_eq r ⟨some root⟩
  rw [hbase] at hfirst
  refine ⟨_, hfirst, ?_, fun hsketch => ?_⟩
  · rw [← headers_script r root none 0]
    exact ((List.takeWhile_prefix _).filterMap _).map _
  · have hfaults : faults (script r root none 0) = [] :=
      (verdict_eq_ok_iff _).mp ((hasSketch_iff r ⟨some root⟩).mp hsketch)
    rw [performed_of_faults hfaults, headers_script]

/-- A program writes its entries, all of them if there is no fault. -/
theorem get_collected_programEntries (r : Registry) (p : Program) (s : Section) :
    (collected r p).lines.get s <+: linesIn s ((programEntries r p).map Entry.placed) ∧
      (HasSketch r p →
        (collected r p).lines.get s = linesIn s ((programEntries r p).map Entry.placed)) := by
  rw [get_collected, ← lines_programScript]
  refine ⟨?_, fun hsketch => by rw [performed_of_hasSketch hsketch]; rfl⟩
  exact (((List.takeWhile_prefix _).filterMap _).filter _).map _

/-- What a program writes to the section of the headers itself is code of visited blocks that goes
to that section. -/
theorem codeLine_of_mem_collected {r : Registry} {p : Program} {l : Line}
    (h : l ∈ (collected r p).lines.includes) :
    ∃ v ∈ programSpots r p, v.CodeLine r .includes l := by
  have hmem : l ∈ linesIn .includes (output (performed (programScript r p))).lines :=
    get_collected r p .includes ▸ h
  have hscript : Event.line .includes l ∈ programScript r p :=
    (List.takeWhile_prefix _).subset (mem_linesIn_iff.mp hmem)
  obtain ⟨root⟩ := p
  cases root with
  | none => simp [programScript] at hscript
  | some root =>
    refine codeLine_of_mem_script ?_
    simpa [programScript] using hscript

/-! ## the generator after some programs -/

/-- The generator after programs were built in turn. -/
def after (r : Registry) (g : Generator) (ps : List Program) : Generator :=
  ps.foldl (fun g p => ((build r p).run.run g).2) g

/-- The last of some programs is built on what the others left. -/
theorem after_concat (r : Registry) (g : Generator) (ps : List Program) (p : Program) :
    after r g (ps ++ [p]) = ((build r p).run.run (after r g ps)).2 := by
  simp [after]

/-- Whatever a generator has collected, a program without a fault is assembled. -/
theorem run_build_of_hasSketch {r : Registry} {p : Program} (h : HasSketch r p) (g : Generator) :
    ((build r p).run.run g).2 = (g.extend (output (performed (programScript r p)))).assemble := by
  rw [run_build, (hasSketch_iff r p).mp h]

/-- A program without a sketch leaves what was performed of it. -/
theorem run_build_of_not_hasSketch {r : Registry} {p : Program} (h : ¬ HasSketch r p)
    (g : Generator) :
    ((build r p).run.run g).2 = g.extend (output (performed (programScript r p))) := by
  rw [run_build]
  cases hverdict : verdict (faults (programScript r p)) with
  | ok u => exact absurd ((hasSketch_iff r p).mpr hverdict) h
  | error fault => rfl

/-- The lines of a section when a program has come to its end or to a fault. -/
theorem get_extend_collected (r : Registry) (p : Program) (g : Generator) (s : Section) :
    (g.extend (output (performed (programScript r p)))).lines.get s =
      g.lines.get s ++ (collected r p).lines.get s := by
  rw [get_extend, get_collected]

/-- The headers that wait then. -/
theorem headers_extend_collected (r : Registry) (p : Program) (g : Generator) :
    (g.extend (output (performed (programScript r p)))).headers =
      (collected r p).headers.foldl (fun hs h => Assoc.putNew hs h.1 h.2) g.headers := by
  rw [headers_collected_eq, foldl_putNew_firsts, List.foldl_map]
  rfl

/-- Putting a sketch together moves the headers that wait to their section. -/
theorem get_assemble (g : Generator) (s : Section) :
    g.assemble.lines.get s = g.lines.get s ++ if .includes = s then g.headers else [] :=
  get_append g.lines .includes s g.headers

/-- A program adds what it writes to every section but that of the headers. -/
theorem get_run_build {s : Section} (hs : s ≠ .includes) (r : Registry) (p : Program)
    (g : Generator) :
    ((build r p).run.run g).2.lines.get s = g.lines.get s ++ (collected r p).lines.get s := by
  by_cases h : HasSketch r p
  · rw [run_build_of_hasSketch h, get_assemble, get_extend_collected, if_neg hs.symm,
      List.append_nil]
  · rw [run_build_of_not_hasSketch h, get_extend_collected]

/-- Every section but that of the headers holds what the programs gave it, one behind the other. -/
theorem get_after {s : Section} (hs : s ≠ .includes) (r : Registry) (g : Generator)
    (ps : List Program) :
    (after r g ps).lines.get s =
      g.lines.get s ++ ps.flatMap fun p => (collected r p).lines.get s := by
  induction ps using List.reverseRecOn with
  | nil => simp [after]
  | append_singleton ps p ih =>
    rw [after_concat, get_run_build hs, ih, List.flatMap_append, List.flatMap_singleton,
      List.append_assoc]

/-- Every program has the outcome that it has with a new generator. -/
theorem generateAll_map_unit (r : Registry) (g : Generator) (ps : List Program) :
    (generateAll r g ps).map (fun o => o.map fun _ => ()) =
      ps.map fun p => (generate r p).map fun _ => () := by
  induction ps generalizing g with
  | nil => rfl
  | cons p ps ih =>
    have houtcome :
        (((build r p).run.run g).1).map (fun _ => ()) = (generate r p).map fun _ => () := by
      rw [generate_map_verdict, run_build]
      cases verdict (faults (programScript r p)) <;> rfl
    change ((build r p).run.run g).1.map (fun _ => ()) :: (generateAll r _ ps).map _ = _
    rw [houtcome, ih]
    rfl

/-- A sketch shows the lines of the generator after its program. -/
theorem lines_generateAll (r : Registry) (g : Generator) (ps : List Program) (k : Nat)
    (sketch : Sketch) (h : (generateAll r g ps)[k]? = some (.ok sketch)) :
    sketch.lines = (after r g (ps.take (k + 1))).lines := by
  induction ps generalizing g k with
  | nil => exact nomatch h
  | cons p ps ih =>
    cases k with
    | zero =>
      have hbuild : ((build r p).run.run g).1 = .ok sketch := Option.some.inj h
      change sketch.lines = ((build r p).run.run g).2.lines
      rw [run_build] at hbuild ⊢
      cases hverdict : verdict (faults (programScript r p)) with
      | ok u =>
        rw [hverdict] at hbuild
        rw [← Except.ok.inj hbuild]
        rfl
      | error fault =>
        rw [hverdict] at hbuild
        exact nomatch hbuild
    | succ k => exact ih _ k h

/-! ## the section of the headers -/

/-- Programs in turn of which the last, and no other, has a sketch. -/
def EndsInSketch (r : Registry) (group : List Program) : Prop :=
  ∃ failing p, group = failing ++ [p] ∧ (∀ q ∈ failing, ¬ HasSketch r q) ∧ HasSketch r p

/-- What a group of programs adds to the section of the headers: first their lines of code, and when
the last program has its sketch the headers that wait since the sketch before. -/
def groupIncludes (r : Registry) (group : List Program) : List Line :=
  group.flatMap (fun p => (collected r p).lines.includes) ++
    firsts (group.flatMap fun p => (collected r p).headers)

/-- The sections of the sketch of a single program. -/
theorem get_generate {r : Registry} {p : Program} {sketch : Sketch} (h : generate r p = .ok sketch)
    (s : Section) : sketch.lines.get s =
      (collected r p).lines.get s ++ if .includes = s then (collected r p).headers else [] := by
  have hnone : ({} : Generator).headers = [] := rfl
  rw [lines_generateAll r {} [p] 0 sketch (congrArg some h)]
  change ((build r p).run.run {}).2.lines.get s = _
  rw [run_build_of_hasSketch ⟨sketch, h⟩, get_assemble, get_extend_collected, get_empty,
    List.nil_append, headers_extend_collected, headers_collected_eq, hnone, foldl_putNew_firsts,
    foldl_putNew_eq]

/-- Programs are groups that end in a sketch and a rest without one.  The headers of the rest
wait. -/
theorem groups_after (r : Registry) (ps : List Program) :
    ∃ (groups : List (List Program)) (rest : List Program), ps = groups.flatten ++ rest ∧
      (∀ group ∈ groups, EndsInSketch r group) ∧ (∀ p ∈ rest, ¬ HasSketch r p) ∧
      (after r {} ps).lines.get .includes =
        groups.flatMap (groupIncludes r) ++ rest.flatMap (fun p => (collected r p).lines.includes) ∧
      (after r {} ps).headers = firsts (rest.flatMap fun p => (collected r p).headers) := by
  induction ps using List.reverseRecOn with
  | nil => exact ⟨[], [], rfl, by simp, by simp, rfl, rfl⟩
  | append_singleton ps p ih =>
    obtain ⟨groups, rest, rfl, hgroups, hrest, hlines, hheaders⟩ := ih
    have hwaiting : ((after r {} (groups.flatten ++ rest)).extend
        (output (performed (programScript r p)))).headers =
          firsts ((rest ++ [p]).flatMap fun p => (collected r p).headers) := by
      rw [headers_extend_collected, hheaders, ← foldl_putNew_eq, ← foldl_putNew_eq,
        List.flatMap_append, List.flatMap_singleton, List.foldl_append]
    rw [after_concat]
    by_cases h : HasSketch r p
    · refine ⟨groups ++ [rest ++ [p]], [], by simp, ?_, by simp, ?_, ?_⟩
      · intro group hgroup
        rcases List.mem_append.mp hgroup with hold | hnew
        · exact hgroups group hold
        · exact ⟨rest, p, List.mem_singleton.mp hnew, hrest, h⟩
      · rw [run_build_of_hasSketch h, get_assemble, get_extend_collected, hlines,
          if_pos rfl, hwaiting]
        simp [groupIncludes, SectionLines.get]
      · rw [run_build_of_hasSketch h]
        rfl
    · refine ⟨groups, rest ++ [p], by simp, hgroups, ?_, ?_, ?_⟩
      · intro q hq
        rcases List.mem_append.mp hq with hold | hnew
        · exact hrest q hold
        · exact List.mem_singleton.mp hnew ▸ h
      · rw [run_build_of_not_hasSketch h, get_extend_collected, hlines]
        simp [SectionLines.get]
      · rw [run_build_of_not_hasSketch h, hwaiting]

/-- What programs that are built in turn with one generator add, some of which may meet a fault:

* the sketch of a program shows the lines of the generator after it;
* every program has a sketch, or meets the fault, that it has with a new generator;
* every section but that of the headers holds what new generators hold after the single programs;
* the section of the headers holds, for each group of programs that ends in a sketch, what new
  generators hold there before the headers come and then the first of the headers that wait in them
  for each text; and at the end what they hold there for the programs behind the last sketch;
* in a new generator the header of every sketch waits, and then those of the visited blocks in
  order, the first one with each text, for all blocks if there is a sketch;
* before the headers come it holds in their section the entries of the program that go there, all of
  them if there is a sketch: lines of code of visited blocks with that section, which is their own
  or the one around them. -/
theorem accumulated_after (r : Registry) (ps : List Program) :
    (∀ k sketch, (generateAll r {} ps)[k]? = some (.ok sketch) →
      sketch.lines = (after r {} (ps.take (k + 1))).lines) ∧
    (generateAll r {} ps).map (fun o => o.map fun _ => ()) =
      ps.map (fun p => (generate r p).map fun _ => ()) ∧
    (∀ s, s ≠ .includes →
      (after r {} ps).lines.get s = ps.flatMap fun p => (after r {} [p]).lines.get s) ∧
    (∃ (groups : List (List Program)) (rest : List Program), ps = groups.flatten ++ rest ∧
      (∀ group ∈ groups, EndsInSketch r group) ∧ (∀ p ∈ rest, ¬ HasSketch r p) ∧
      (∀ group ∈ groups,
        ((firsts (group.flatMap fun p => (collected r p).headers)).map Prod.fst).Nodup) ∧
      (after r {} ps).lines.includes =
        groups.flatMap (fun group => group.flatMap (fun p => (collected r p).lines.includes) ++
          firsts (group.flatMap fun p => (collected r p).headers)) ++
        rest.flatMap fun p => (collected r p).lines.includes) ∧
    (∀ p ∈ ps, ∀ root ∈ p.root, ∃ headers,
      (collected r p).headers = firsts ((baseHeader, none) :: headers) ∧
      headers <+: ((programVisits r p).flatMap (Visit.headers r)).map trimmed ∧
      (HasSketch r p → headers = ((programVisits r p).flatMap (Visit.headers r)).map trimmed)) ∧
    ∀ p ∈ ps,
      (collected r p).lines.includes <+: linesIn .includes ((programEntries r p).map Entry.placed) ∧
      (HasSketch r p → (collected r p).lines.includes =
        linesIn .includes ((programEntries r p).map Entry.placed)) ∧
      ∀ l ∈ (collected r p).lines.includes, ∃ v ∈ programSpots r p, v.CodeLine r .includes l := by
  have hsingle (p : Program) {s : Section} (hs : s ≠ .includes) :
      (after r {} [p]).lines.get s = (collected r p).lines.get s := by
    rw [get_after hs, get_empty, List.nil_append, List.flatMap_singleton]
  refine ⟨lines_generateAll r {} ps, generateAll_map_unit r {} ps, fun s hs => ?_, ?_, ?_,
    fun p _ => ?_⟩
  · rw [get_after hs, get_empty, List.nil_append]
    simp only [hsingle _ hs]
  · obtain ⟨groups, rest, hps, hgroups, hrest, hlines, -⟩ := groups_after r ps
    exact ⟨groups, rest, hps, hgroups, hrest, fun group _ => nodup_firsts _, hlines⟩
  · rintro ⟨_⟩ - root rfl
    have hvisits : programVisits r ⟨some root⟩ = visits r root none := by simp [programVisits]
    rw [hvisits]
    exact headers_collected r root
  · obtain ⟨hpart, hwhole⟩ := get_collected_programEntries r p .includes
    exact ⟨hpart, hwhole, fun l => codeLine_of_mem_collected⟩

/-- A start with a loop and a place among the headers, a statement that needs a header, a note that
goes among the headers by itself, and a tag that goes where it stands. -/
def noted : Registry where
  definitions := [
    ("start", {
      id := "start"
      containers := [{ name := "loop", target := .loop },
        { name := "head", target := .includes }] }),
    ("beep", {
      id := "beep", target := some .loop, template := .text "beep();",
        includes := ["#include <b.h> "] }),
    ("note", { id := "note", target := some .includes, template := .text "#define X" }),
    ("tag", { id := "tag", template := .text "#define Y" })]

/-- A program that stops at a block without a definition behind a statement. -/
def stopping : Program where
  root := some (.mk none "start" [] [("loop",
    [.mk (some "x") "beep" [] [], .mk none "horn" [] []])])

/-- A program with two notes, a statement and a tag. -/
def notes : Program where
  root := some (.mk none "start" [] [
    ("loop", [.mk (some "a") "note" [] [], .mk (some "b") "note" [] [],
      .mk (some "y") "beep" [] []]),
    ("head", [.mk (some "c") "tag" [] []])])

/-- The program that stops leaves its line and has asked for a header, which goes to the sketch of
the next program. -/
theorem accumulated_after_stopping :
    (generateAll noted {} [stopping, notes]).map (fun o => o.map fun _ => ()) =
      [.error (unknownFault "horn"), .ok ()] ∧
    (after noted {} [stopping, notes]).lines.loop =
      (after noted {} [stopping]).lines.loop ++ (after noted {} [notes]).lines.loop ∧
    firsts ((collected noted stopping).headers ++ (collected noted notes).headers) =
      ([("#include <Arduino.h>", none), ("#include <b.h>", some "x")] : List Line) ∧
    ∀ l ∈ (collected noted notes).lines.includes,
      ∃ v ∈ programSpots noted notes, v.CodeLine noted .includes l := by
  obtain ⟨-, houtcomes, hlines, -, -, hincludes⟩ := accumulated_after noted [stopping, notes]
  have hstops : (generate noted stopping).map (fun _ => ()) = .error (unknownFault "horn") := by
    have hfaults : faults (programScript noted stopping) = [unknownFault "horn"] := by
      decide +kernel
    rw [generate_map_verdict, hfaults, verdict]
  have hends : (generate noted notes).map (fun _ => ()) = .ok () := by
    rw [generate_map_verdict, verdict_eq_ok_iff]
    decide +kernel
  refine ⟨?_, ?_, by decide +kernel, (hincludes notes (by simp)).2.2⟩
  · rw [houtcomes, List.map_cons, List.map_singleton, hstops, hends]
  · exact (hlines .loop (by decide)).trans (by simp [SectionLines.get])

/-- The section of the headers may hold lines of code, and one of them twice. -/
theorem includes_ne_firsts_of_notes : ∃ sketch, generate noted notes = .ok sketch ∧
    sketch.lines.includes = ([("  #define X", some "a"), ("  #define X", some "b"),
      ("#define Y", some "c"), ("#include <Arduino.h>", none),
      ("#include <b.h>", some "y")] : List Line) ∧
    (collected noted notes).headers =
      ([("#include <Arduino.h>", none), ("#include <b.h>", some "y")] : List Line) := by
  have hsketch : HasSketch noted notes := by
    rw [hasSketch_iff, verdict_eq_ok_iff]
    decide +kernel
  have hlines : (collected noted notes).lines.get .includes =
      ([("  #define X", some "a"), ("  #define X", some "b"), ("#define Y", some "c")] :
        List Line) := by decide +kernel
  have hheaders : (collected noted notes).headers =
      ([("#include <Arduino.h>", none), ("#include <b.h>", some "y")] : List Line) := by
    decide +kernel
  obtain ⟨sketch, hgenerate⟩ := hsketch
  have hincludes := get_generate hgenerate .includes
  rw [hlines, hheaders, if_pos rfl] at hincludes
  exact ⟨sketch, hgenerate, hincludes, hheaders⟩

end BlockSketch.Sketch
