import BlockSketch.Proofs.Diagram.Project
import BlockSketch.Proofs.Library.Faults
import BlockSketch.Proofs.Sketch.Brackets

/-!
# BlockSketch.Proofs.Registry.Faults

The faults for which a file gives no registry.  Entries that lack a field are complained
of, and so are their containers and parameters; that these cannot be gone through at all,
that a section is unknown or that the categories are no table strays past.

* `strays_readDefinition_iff`, `ok_readDefinition_iff` — the reading of an entry;
* `table_straysUnless` — the reading of the categories;
* `strays_ofFields_iff`, `strays_load_iff` — the reading of an object and of a file;
* `libraryFile_complained_iff` — the files that give what they should, or a complaint.
-/

namespace BlockSketch

namespace Registry

open Outcome

/-- An entry has the four fields that a definition needs. -/
def Headed (fs : Fields) : Prop :=
  ∀ key ∈ (["id", "name", "category", "kind"] : List Text), Assoc.has fs key = true

/-- A container has a name, and a section of a sketch. -/
def ContainerDescribed (fs : Fields) : Prop :=
  Assoc.has fs "name" = true ∧
    ∃ v ∈ Assoc.get? fs "section", (Section.ofName? v.shown).isSome = true

/-- A parameter has a name and a type. -/
def ParameterDescribed (fs : Fields) : Prop :=
  Assoc.has fs "name" = true ∧ Assoc.has fs "type" = true

/-- A value can be gone through, and the dictionaries in it are as described. -/
def Lists (v : Value) (Described : Fields → Prop) : Prop :=
  ∃ items, v.items? = some items ∧ ∀ fs ∈ items.filterMap Value.asDict?, Described fs

/-- A value is no text, or an empty one, or it names a section of a sketch. -/
def NamesSection (v : Value) : Prop :=
  ∀ s, v = .text s → s.isEmpty = false → (Section.ofName? s).isSome = true

/-- An entry from which a definition is read. -/
structure Defines (fs : Fields) : Prop where
  headed : Headed fs
  containers : Lists (fs.get "containers" (.list [])) ContainerDescribed
  parameters : Lists (fs.get "parameters" (.list [])) ParameterDescribed
  target : NamesSection (fs.opt "section")

/-- An entry for which the reading of a definition strays: its containers or its parameters cannot
be gone through, or it names a section that no sketch has, and nothing was complained of before. -/
def Undefined (fs : Fields) : Prop :=
  Headed fs ∧ ((fs.get "containers" (.list [])).items? = none ∨
    Lists (fs.get "containers" (.list [])) ContainerDescribed ∧
      ((fs.get "parameters" (.list [])).items? = none ∨
        Lists (fs.get "parameters" (.list [])) ParameterDescribed ∧
          ¬ NamesSection (fs.opt "section")))

section Needs

variable (fs : Fields) (keys : List Text) (complaint : LibraryFault)

theorem ok_needTexts_iff :
    (∃ ts, needTexts fs keys complaint = .ok ts) ↔ ∀ key ∈ keys, Assoc.has fs key = true := by
  unfold needTexts
  rw [exists_mapM_eq_ok_iff]
  refine forall₂_congr fun key _ => ?_
  unfold Assoc.has
  cases Assoc.get? fs key <;> simp

theorem not_strays_needTexts : ¬ (needTexts fs keys complaint).Strays := by
  refine not_strays_mapM fun key _ => ?_
  cases Assoc.get? fs key <;> simp

end Needs

theorem not_strays_readContainer (block : Text) (fs : Fields) :
    ¬ (readContainer block fs).Strays := by
  unfold readContainer
  rw [strays_bind_iff]
  rintro (h | ⟨ts, -, h⟩)
  · exact not_strays_needTexts _ _ _ h
  · split at h
    · split at h
      · exact not_strays_ok _ h
      · simp at h
    · simp at h

/-- A container is read exactly when it has a name and a section. -/
theorem ok_readContainer_iff (block : Text) (fs : Fields) :
    (∃ c, readContainer block fs = .ok c) ↔ ContainerDescribed fs := by
  unfold readContainer needTexts ContainerDescribed Assoc.has
  cases hname : Assoc.get? fs "name" with
  | none => simp [hname, bind, Except.bind]
  | some name =>
    cases hsection : Assoc.get? fs "section" with
    | none => simp [hname, hsection, bind, Except.bind]
    | some target =>
      cases htarget : Section.ofName? target.shown <;>
        simp [hname, hsection, htarget, bind, Except.bind, pure, Except.pure]

theorem not_strays_readParameter (block : Text) (fs : Fields) :
    ¬ (readParameter block fs).Strays := by
  unfold readParameter
  rw [strays_bind_iff]
  rintro (h | ⟨ts, -, h⟩)
  · exact not_strays_needTexts _ _ _ h
  · split at h
    · exact not_strays_ok _ h
    · simp at h

/-- A parameter is read exactly when it has a name and a type. -/
theorem ok_readParameter_iff (block : Text) (fs : Fields) :
    (∃ p, readParameter block fs = .ok p) ↔ ParameterDescribed fs := by
  unfold readParameter needTexts ParameterDescribed Assoc.has
  cases hname : Assoc.get? fs "name" with
  | none => simp [hname, bind, Except.bind]
  | some name =>
    cases htype : Assoc.get? fs "type" <;>
      simp [hname, htype, bind, Except.bind, pure, Except.pure]

/-- Read the dictionaries in a value one after the other. -/
def readAll {α : Type} (read : Fields → Outcome α) (v : Value) : Outcome (List α) :=
  dictItems v >>= fun items => items.mapM read

section ReadAll

variable {α : Type} {read : Fields → Outcome α}

/-- Where no part strays, only what cannot be gone through does. -/
theorem strays_readAll_iff (h : ∀ fs, ¬ (read fs).Strays) (v : Value) :
    (readAll read v).Strays ↔ v.items? = none := by
  unfold readAll dictItems Value.items
  cases hitems : v.items? with
  | none => simp [bind, Except.bind]
  | some items =>
    simpa [bind, Except.bind, pure, Except.pure] using not_strays_mapM fun fs _ => h fs

/-- A value is read part by part when it can be gone through and its parts are as described. -/
theorem ok_readAll_iff {Described : Fields → Prop} (h : ∀ fs, (∃ a, read fs = .ok a) ↔ Described fs)
    (v : Value) : (∃ as, readAll read v = .ok as) ↔ Lists v Described := by
  unfold readAll dictItems Value.items Lists
  cases hitems : v.items? with
  | none => simp [bind, Except.bind]
  | some items =>
    simp only [bind, Except.bind, pure, Except.pure, Option.some.injEq, exists_eq_left',
      exists_mapM_eq_ok_iff, h]

end ReadAll

/-- A section is read unless there is none of that name. -/
theorem readTarget_straysUnless (v : Value) : (readTarget v).StraysUnless (NamesSection v) := by
  unfold readTarget NamesSection Section.ofValue StraysUnless
  cases v with
  | text s =>
    by_cases hs : s.isEmpty = true
    · simp [hs]
    · cases hname : Section.ofName? s <;> simp [hs, hname, Value.asText?, Except.map]
  | _ => simp

/-- An entry without one of its four fields is complained of.  Otherwise its containers, its
parameters and its section are read. -/
theorem readDefinition_cases (fs : Fields) :
    (¬ Headed fs ∧ ∃ cause, readDefinition fs = .error (.library cause)) ∨
      Headed fs ∧ ∃ (id : Text)
          (result : List Container → List Parameter → Option Section → Definition),
        readDefinition fs =
          readAll (readContainer id) (fs.get "containers" (.list [])) >>= fun containers =>
          readAll (readParameter id) (fs.get "parameters" (.list [])) >>= fun parameters =>
          readTarget (fs.opt "section") >>= fun target =>
          pure (result containers parameters target) := by
  have hheaded := ok_needTexts_iff fs ["id", "name", "category", "kind"] .incompleteBlock
  have hcomplaint := not_strays_needTexts fs ["id", "name", "category", "kind"] .incompleteBlock
  unfold readDefinition
  cases hneeds : needTexts fs ["id", "name", "category", "kind"] .incompleteBlock with
  | error fault =>
    rw [hneeds] at hheaded hcomplaint
    refine .inl ⟨fun h => ?_, ?_⟩
    · obtain ⟨ts, hts⟩ := hheaded.mpr h
      exact nomatch hts
    · obtain ⟨cause, hcause⟩ : ∃ cause, fault = .library cause := by simpa using hcomplaint
      exact ⟨cause, congrArg Except.error hcause⟩
  | ok ts =>
    rw [hneeds] at hheaded
    have hlength : ts.length = 4 := (mapM_eq_ok_iff.mp hneeds).length_eq.symm
    obtain ⟨id, name, category, kind, rfl⟩ := List.length_eq_four.mp hlength
    refine .inr ⟨hheaded.mp ⟨_, rfl⟩, id, fun containers parameters target => {
      id, name, category, kind, target, parameters, containers
      template := fs.opt "template"
      returns := fs.opt "returns"
      setup := textList (fs.opt "setup")
      globals := textList (fs.opt "globals")
      includes := textList (fs.opt "includes")
      functions := textList (fs.opt "functions") }, ?_⟩
    simp only [readAll, bind_assoc]
    rfl

/-- The entries for which reading a definition strays. -/
theorem strays_readDefinition_iff (fs : Fields) : (readDefinition fs).Strays ↔ Undefined fs := by
  unfold Undefined
  rcases readDefinition_cases fs with ⟨hbare, cause, heq⟩ | ⟨hheaded, id, result, heq⟩
  · rw [heq]
    exact iff_of_false (by simp) fun h => hbare h.1
  · have htarget (containers : List Container) (parameters : List Parameter) :
        Strays (readTarget (fs.opt "section") >>= fun target =>
          pure (result containers parameters target)) ↔ ¬ NamesSection (fs.opt "section") := by
      rw [strays_bind_iff, (readTarget_straysUnless _).strays_iff, or_iff_left]
      rintro ⟨target, -, h⟩
      exact not_strays_ok _ h
    rw [heq, and_iff_right hheaded, strays_bind_of fun containers _ =>
        strays_bind_of fun parameters _ => htarget containers parameters,
      strays_readAll_iff (not_strays_readContainer id), ok_readAll_iff (ok_readContainer_iff id),
      strays_readAll_iff (not_strays_readParameter id), ok_readAll_iff (ok_readParameter_iff id)]

/-- The entries from which a definition is read. -/
theorem ok_readDefinition_iff (fs : Fields) : (∃ d, readDefinition fs = .ok d) ↔ Defines fs := by
  rcases readDefinition_cases fs with ⟨hbare, cause, heq⟩ | ⟨hheaded, id, result, heq⟩
  · rw [heq]
    exact iff_of_false (by simp) fun h => hbare h.headed
  · have htarget (containers : List Container) (parameters : List Parameter) :
        (∃ d, (readTarget (fs.opt "section") >>= fun target =>
          pure (result containers parameters target)) = Except.ok d) ↔
            NamesSection (fs.opt "section") := by
      refine (ok_bind_of (P := True) fun target _ => iff_of_true ⟨_, rfl⟩ trivial).trans ?_
      rw [and_true, (readTarget_straysUnless _).ok_iff]
    rw [heq,
      ok_bind_of fun containers _ => ok_bind_of fun parameters _ => htarget containers parameters,
      ok_readAll_iff (ok_readContainer_iff id), ok_readAll_iff (ok_readParameter_iff id)]
    exact ⟨fun h => ⟨hheaded, h.1, h.2.1, h.2.2⟩, fun h => ⟨h.containers, h.parameters, h.target⟩⟩

def Paired (v : Value) : Prop := ∃ k x, v.items? = some [k, x] ∧ k.isKey = true

/-- A value that can be read as a table: a dictionary, or pairs that begin with a key. -/
def Tabular (v : Value) : Prop :=
  v.asDict?.isSome = true ∨ ∃ items, v.items? = some items ∧ ∀ item ∈ items, Paired item

theorem readPair_straysUnless (v : Value) : (Value.Table.readPair v).StraysUnless (Paired v) := by
  unfold Paired Value.Table.readPair Value.items Value.asKey StraysUnless
  rcases v.items? with _ | (_ | ⟨k, _ | ⟨x, _ | ⟨y, rest⟩⟩⟩)
  · simp [bind, Except.bind]
  · simp [bind, Except.bind]
  · simp [bind, Except.bind]
  · cases hk : k.isKey <;> simp [hk, bind, Except.bind, pure, Except.pure]
  · simp [bind, Except.bind]

/-- A value that is no dictionary is read pair by pair. -/
theorem table_eq {v : Value} (h : v.asDict? = none) :
    ∃ collect : List (Value × Value) → Value.Table Value,
    Value.Table.ofValue v =
      v.items >>= fun items => (items.mapM Value.Table.readPair).map collect := by
  refine ⟨fun pairs => pairs.foldl (fun table pair => table.put pair.1 pair.2) [], ?_⟩
  have hitems (items : List Value) := foldlM_eq_map (f := Value.Table.readPair)
    (fun (table : Value.Table Value) pair => table.put pair.1 pair.2) items []
  simp only [← hitems]
  cases v with
  | dict fs => exact nomatch h
  | _ => rfl

/-- A value is read as a table where it is one, and strays otherwise. -/
theorem table_straysUnless (v : Value) : (Value.Table.ofValue v).StraysUnless (Tabular v) := by
  cases hdict : v.asDict? with
  | some fs =>
    cases v with
    | dict fs => exact (StraysUnless.ok _).of_iff (iff_of_true trivial (.inl rfl))
    | _ => exact nomatch hdict
  | none =>
    obtain ⟨collect, heq⟩ := table_eq hdict
    rw [heq]
    unfold Tabular Value.items
    rw [hdict]
    cases v.items? with
    | none => exact (StraysUnless.error (by simp)).of_iff (by simp)
    | some items =>
      have hpairs := StraysUnless.mapM fun item (_ : item ∈ items) => readPair_straysUnless item
      exact (hpairs.map collect).of_iff (by simp)

/-- An object from which no registry is read, although nothing in it is complained of: the first
entry that gives no definition strays, or all entries give one and the categories are no table. -/
def Misread (fs : Fields) : Prop :=
  ∃ entries, fs.opt "blocks" = .list entries ∧
    ((∃ before entry after, entries.filterMap Value.asDict? = before ++ entry :: after ∧
        (∀ other ∈ before, Defines other) ∧ Undefined entry) ∨
      (∀ entry ∈ entries.filterMap Value.asDict?, Defines entry) ∧
        ¬ Tabular (fs.get "categories" (.dict [])))

/-- What strays past in the reading of a registry from an object with a list of blocks. -/
theorem strays_ofFields_iff {fs : Fields} {entries : List Value}
    (h : fs.opt "blocks" = .list entries) :
    (ofFields fs).Strays ↔ Misread fs := by
  have hblocks : fs.get "blocks" (.list []) = .list entries := by
    unfold Fields.opt Fields.get Assoc.getD at *
    cases hget : Assoc.get? fs "blocks" with
    | none =>
      rw [hget] at h
      exact nomatch h
    | some v =>
      rw [hget] at h
      exact h
  have htable (definitions : Assoc Text Definition) :
      Strays (Value.Table.ofValue (fs.get "categories" (.dict [])) >>= fun table =>
        pure (Registry.mk definitions table)) ↔ ¬ Tabular (fs.get "categories" (.dict [])) := by
    rw [strays_bind_iff, (table_straysUnless _).strays_iff, or_iff_left]
    rintro ⟨table, -, hpure⟩
    exact not_strays_ok _ hpure
  have hdefinitions := foldlM_eq_map (f := readDefinition) (fun m d => Assoc.put m d.id d)
    (entries.filterMap Value.asDict?) []
  have hmisread : Misread fs ↔
      (∃ before entry after, entries.filterMap Value.asDict? = before ++ entry :: after ∧
        (∀ other ∈ before, Defines other) ∧ Undefined entry) ∨
      (∀ entry ∈ entries.filterMap Value.asDict?, Defines entry) ∧
        ¬ Tabular (fs.get "categories" (.dict [])) := by
    unfold Misread
    rw [h]
    simp
  have hok (o : Outcome (List Definition)) (g : List Definition → Assoc Text Definition) :
      (∃ m, o.map g = .ok m) ↔ ∃ ds, o = .ok ds := by
    cases o <;> simp [Except.map]
  unfold ofFields
  simp only [hblocks, Value.items?, hdefinitions]
  rw [strays_bind_of fun definitions _ => htable definitions, strays_map_iff,
    strays_mapM_iff, hmisread, hok, exists_mapM_eq_ok_iff]
  simp only [ok_readDefinition_iff, strays_readDefinition_iff]

theorem ofLibrary_of_definitions {lib : Library} {fs : Fields}
    (h : lib.definitions = some (.dict fs)) :
    ofLibrary lib = ofFields fs := by
  unfold ofLibrary
  rw [h]
  rfl

/-- The files for which the reading of a registry strays. -/
theorem strays_load_iff (file : Text) (content : Json.Content) :
    (load file content).Strays ↔ Library.Lost content ∨
      ∃ fs, content.document = .ok (.dict fs) ∧ Misread fs := by
  have hlibrary := Library.strays_load_iff file content
  have hload : (load file content).Strays ↔ Library.Lost content ∨
      ∃ lib, Library.load file content = .ok lib ∧ (ofLibrary lib).Strays :=
    strays_bind_iff.trans (or_congr hlibrary Iff.rfl)
  rw [hload]
  constructor
  · rintro (hlost | ⟨lib, hlib, hstrays⟩)
    · exact .inl hlost
    · rcases Library.document_of_load hlib with ⟨entries, hlist, -⟩ | ⟨fs, hdocument, hmapping⟩
      · have hshipped : ofLibrary lib = .ok Sketch.shipped := by
          rw [← Sketch.load_of_list hlist file]
          unfold load
          rw [hlib]
          rfl
        rw [hshipped] at hstrays
        exact absurd hstrays (not_strays_ok _)
      · obtain ⟨entries, read, hentries, -, rfl⟩ := Library.ofMapping_spec hmapping
        rw [ofLibrary_of_definitions rfl, strays_ofFields_iff hentries] at hstrays
        exact .inr ⟨fs, hdocument, hstrays⟩
  · rintro (hlost | ⟨fs, hdocument, hmisread⟩)
    · exact .inl hlost
    · obtain ⟨entries, hentries, -⟩ := id hmisread
      have hmapping : Library.load file content = Library.ofMapping content.room fs :=
        Library.load_of_document hdocument file
      rcases Library.ofMapping_straysUnless content.room hentries with ⟨-, lib, hlib⟩ | ⟨-, hstrays⟩
      · refine .inr ⟨lib, hmapping.trans hlib, ?_⟩
        obtain ⟨-, -, -, -, rfl⟩ := Library.ofMapping_spec hlib
        rw [ofLibrary_of_definitions rfl, strays_ofFields_iff hentries]
        exact hmisread
      · exact .inl (hlibrary.mp (hmapping ▸ hstrays))

end Registry

/-- A file gives a library, or a complaint about it, exactly when it is not lost: it is missing, or
no JSON, or it is a document in which every colour is found that is looked for, with room for a
copy. It gives a registry, or a complaint, exactly when moreover the first of its entries that gives
no definition is complained of, and its categories are a table if all entries give one. -/
theorem libraryFile_complained_iff (file : Text) (content : Json.Content) :
    ((∃ lib, Library.load file content = .ok lib) ∨
        (∃ cause, Library.load file content = .error (.library cause)) ↔ ¬ Library.Lost content) ∧
      ((∃ r, Registry.load file content = .ok r) ∨
        (∃ cause, Registry.load file content = .error (.library cause)) ↔
          ¬ Library.Lost content ∧
            ∀ fs, content.document = .ok (.dict fs) → ¬ Registry.Misread fs) := by
  constructor
  · rw [← Outcome.not_strays_iff, Library.strays_load_iff]
  · rw [← Outcome.not_strays_iff, Registry.strays_load_iff, not_or]
    simp only [not_exists, not_and]

/-- A document with one block, which is to go to a section that no sketch has. -/
def strayBlock : Value :=
  .dict [("blocks", .list [.dict [("id", .text "lamp"), ("name", .text "Lamp"),
  ("category", .text "light"), ("kind", .text "statement"), ("section", .text "main")]])]

/-- A byte that is no UTF-8 strays past, and so does the name of a section. -/
theorem not_complained_of_byte :
    Library.load "blocks.json" (.bytes [0xff]) = .error .notUnicode ∧
      Registry.load "blocks.json" (.text (Json.render strayBlock)) =
        .error (.unknownSection "main") := by
  have hdocument : (Json.Content.text (Json.render strayBlock)).document = .ok strayBlock :=
    Project.document_eq_ok (by decide +kernel)
  have hregistry : Registry.load "blocks.json" (.text (Json.render strayBlock)) =
      Library.ofDocument .usual strayBlock >>= Registry.ofLibrary :=
    congrArg (· >>= Registry.ofLibrary) (Library.load_of_document hdocument "blocks.json")
  refine ⟨Sketch.eq_error_of_faultOf (by decide +kernel), ?_⟩
  rw [hregistry]
  exact Sketch.eq_error_of_faultOf (by decide +kernel)

end BlockSketch
