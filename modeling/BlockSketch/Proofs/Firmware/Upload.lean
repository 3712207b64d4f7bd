import BlockSketch.Firmware.Flasher
import BlockSketch.Proofs.Format.Spelled
import BlockSketch.Proofs.Text.Words
import Mathlib.Data.List.Forall2

/-!
# BlockSketch.Proofs.Firmware.Upload

The command that loads a file onto a board.  The layout of the command is filled with the
path of the tool, the port and the path of the file first, and cut into words after that,
so what is filled in is cut as well.  It comes to the tool as it is exactly when there is
nothing in it to cut at: no gap, no quote and no backslash.

* `words_fill` — a layout that is filled with such texts is cut into its own words;
* `fits_of_intact` — where the words hold what was filled in, it was such texts;
* `flashCommand_intact_iff` — when the command holds the paths and the port unchanged.
-/

namespace BlockSketch.Firmware

open Text (Piece isWordGap isQuoting parts)

/-! ## layouts -/

/-- Whether a piece of a layout is a gap between its words. -/
def isGap : Piece → Bool
  | .letter l => isWordGap l
  | .slot _ => false

def fill (values : Assoc Text Text) (ps : List Piece) : List Letter :=
  ps.flatMap (Piece.filled values)

/-- The texts that the marks of a layout stand for, in order. -/
def inserted (values : Assoc Text Text) : List Piece → List (List Letter)
  | [] => []
  | .letter _ :: ps => inserted values ps
  | .slot name :: ps => (Assoc.getD values name "").letters :: inserted values ps

/-- Texts stand in a word one behind the other. -/
def Holds : List (List Letter) → List Letter → Prop
  | [], _ => True
  | t :: ts, word => ∃ before after, word = before ++ t ++ after ∧ Holds ts after

/-- There is a word for every word of the layout, and it holds what the marks there stand for. -/
def Intact (values : Assoc Text Text) (layout : List Piece) (words : List Text) : Prop :=
  List.Forall₂ (fun place word => Holds (inserted values place) word.letters)
    (parts isGap layout) words

/-- There is nothing to cut at in what the marks stand for, and something in every word. -/
structure Fits (values : Assoc Text Text) (layout : List Piece) : Prop where
  plain : ∀ text ∈ inserted values layout, ∀ l ∈ text, isWordGap l = false ∧ isQuoting l = false
  filled : ∀ place ∈ parts isGap layout, fill values place ≠ []

instance (values : Assoc Text Text) (layout : List Piece) : Decidable (Fits values layout) :=
  decidable_of_iff
    ((∀ text ∈ inserted values layout, ∀ l ∈ text, isWordGap l = false ∧ isQuoting l = false) ∧
      ∀ place ∈ parts isGap layout, fill values place ≠ [])
    ⟨fun h => ⟨h.1, h.2⟩, fun h => ⟨h.plain, h.filled⟩⟩

section Layout

variable {values : Assoc Text Text} {layout : List Piece}

theorem Holds.cons {ts : List (List Letter)} {word : List Letter} (h : Holds ts word) (l : Letter) :
    Holds ts (l :: word) := by
  cases ts with
  | nil => exact h
  | cons t ts =>
    obtain ⟨before, after, rfl, hafter⟩ := h
    exact ⟨l :: before, after, rfl, hafter⟩

/-- What a word holds stands in it in order. -/
theorem Holds.sublist {ts : List (List Letter)} {word : List Letter} (h : Holds ts word) :
    ts.flatten.Sublist word := by
  induction ts generalizing word with
  | nil => exact List.nil_sublist word
  | cons t ts ih =>
    obtain ⟨before, after, rfl, hafter⟩ := h
    rw [List.flatten_cons, List.append_assoc]
    exact ((List.Sublist.refl t).append (ih hafter)).trans (List.sublist_append_right _ _)

/-- A filled layout holds what was put in. -/
theorem holds_fill (values : Assoc Text Text) (ps : List Piece) :
    Holds (inserted values ps) (fill values ps) := by
  induction ps with
  | nil => trivial
  | cons p ps ih =>
    cases p with
    | letter l => exact ih.cons l
    | slot name => exact ⟨[], fill values ps, rfl, ih⟩

/-- The quotes and backslashes of a filled layout are those of what was filled in. -/
theorem countP_fill (h : ∀ l, .letter l ∈ layout → isQuoting l = false) :
    (fill values layout).countP isQuoting = (inserted values layout).flatten.countP isQuoting := by
  induction layout with
  | nil => rfl
  | cons p ps ih =>
    have hrest := ih fun l hl => h l (List.mem_cons_of_mem p hl)
    cases p with
    | letter l =>
      have hl : ¬ isQuoting l = true := by simp [h l List.mem_cons_self]
      exact (List.countP_cons_of_neg hl).trans hrest
    | slot name =>
      rw [inserted, List.flatten_cons, List.countP_append, ← hrest, ← List.countP_append]
      rfl

/-- A layout without quotes is filled without quotes exactly when nothing put in has any. -/
theorem unquoted_fill_iff (h : ∀ l, .letter l ∈ layout → isQuoting l = false) :
    (∀ l ∈ fill values layout, isQuoting l = false) ↔
      ∀ text ∈ inserted values layout, ∀ l ∈ text, isQuoting l = false := by
  have hcount : (fill values layout).countP isQuoting = 0 ↔
      (inserted values layout).flatten.countP isQuoting = 0 := by rw [countP_fill h]
  rw [List.countP_eq_zero, List.countP_eq_zero, List.forall_mem_flatten] at hcount
  simpa using hcount

theorem inserted_append (values : Assoc Text Text) (ps qs : List Piece) :
    inserted values (ps ++ qs) = inserted values ps ++ inserted values qs := by
  induction ps with
  | nil => rfl
  | cons p ps ih =>
    cases p with
    | letter l => exact ih
    | slot name => exact congrArg (_ :: ·) ih

/-- Gaps between the words of a layout hold no mark. -/
theorem flatMap_inserted_parts (values : Assoc Text Text) (layout : List Piece) :
    (parts isGap layout).flatMap (inserted values) = inserted values layout := by
  have hflat (pss : List (List Piece)) :
      pss.flatMap (inserted values) = inserted values pss.flatten := by
    induction pss with
    | nil => rfl
    | cons ps pss ih => rw [List.flatMap_cons, ih, List.flatten_cons, inserted_append]
  rw [hflat, Text.flatten_parts]
  induction layout with
  | nil => rfl
  | cons p ps ih =>
    cases p with
    | slot name => exact congrArg (_ :: ·) ih
    | letter l =>
      rw [List.filter_cons]
      split <;> exact ih

/-- Words that hold what was filled in have all its letters. -/
theorem Intact.sublist {words : List Text} (h : Intact values layout words) :
    (inserted values layout).flatten.Sublist (words.flatMap Text.letters) := by
  rw [← flatMap_inserted_parts]
  unfold Intact at h
  generalize parts isGap layout = places at h ⊢
  induction h with
  | nil => exact List.Sublist.refl []
  | @cons place word places words hword _ ih =>
    rw [List.flatMap_cons, List.flatten_append, List.flatMap_cons]
    exact hword.sublist.append ih

/-- A filled layout is cut where the layout is, if there is no gap in what was filled in. -/
theorem splitOnP_fill (h : ∀ text ∈ inserted values layout, ∀ l ∈ text, isWordGap l = false) :
    (fill values layout).splitOnP isWordGap = (layout.splitOnP isGap).map (fill values) := by
  induction layout with
  | nil => rfl
  | cons p ps ih =>
    obtain ⟨first, others, hs⟩ := List.exists_cons_of_ne_nil (List.splitOnP_ne_nil isGap ps)
    rw [List.splitOnP_cons_eq_if_modifyHead]
    cases p with
    | letter l =>
      have hrest := ih h
      rw [hs] at hrest ⊢
      change (l :: fill values ps).splitOnP isWordGap = _
      rw [List.splitOnP_cons_eq_if_modifyHead, hrest]
      cases hl : isWordGap l <;> simp [isGap, hl, fill, Piece.filled]
    | slot name =>
      obtain ⟨htext, htexts⟩ := List.forall_mem_cons.mp h
      have hrest := ih htexts
      rw [hs] at hrest ⊢
      change ((Assoc.getD values name "").letters ++ fill values ps).splitOnP isWordGap = _
      rw [Text.splitOnP_append_of_not_gap htext, hrest]
      rfl

/-- The words of a filled layout, if there is nothing to cut at in what was filled in. -/
theorem parts_fill (h : ∀ text ∈ inserted values layout, ∀ l ∈ text, isWordGap l = false) :
    parts isWordGap (fill values layout) =
      ((parts isGap layout).map (fill values)).filter fun word => !word.isEmpty := by
  unfold parts
  rw [splitOnP_fill h, List.filter_map, List.filter_map, List.filter_filter]
  congr 1
  refine List.filter_congr fun place _ => ?_
  cases place with
  | nil => rfl
  | cons p ps => simp

/-- A layout that is filled with texts that fit is cut into its own words. -/
theorem words_fill (hlayout : ∀ l, .letter l ∈ layout → isQuoting l = false)
    (h : Fits values layout) :
    Text.words ⟨fill values layout⟩ =
      .ok ((parts isGap layout).map fun place => ⟨fill values place⟩) := by
  have hunquoted : ∀ l ∈ fill values layout, isQuoting l = false :=
    (unquoted_fill_iff hlayout).mpr fun text htext l hl => (h.plain text htext l hl).2
  have hparts := parts_fill fun text htext l hl => (h.plain text htext l hl).1
  have hwords : ((parts isGap layout).map (fill values)).filter (fun word => !word.isEmpty) =
      (parts isGap layout).map (fill values) := by
    refine List.filter_eq_self.mpr fun word hword => ?_
    obtain ⟨place, hplace, rfl⟩ := List.mem_map.mp hword
    simpa using h.filled place hplace
  rw [Text.words_of_unquoted (t := ⟨fill values layout⟩) hunquoted, hparts, hwords, List.map_map]
  rfl

/-- Words that hold what was filled in are those of a layout that was filled with texts that fit. -/
theorem fits_of_intact (hlayout : ∀ l, .letter l ∈ layout → isQuoting l = false) {words : List Text}
    (hwords : Text.words ⟨fill values layout⟩ = .ok words) (h : Intact values layout words) :
    Fits values layout := by
  have hunquoted : ∀ l ∈ fill values layout, isQuoting l = false :=
    Text.unquoted_of_words hwords ((countP_fill hlayout).le.trans h.sublist.countP_le)
  have hparts : words = (parts isWordGap (fill values layout)).map Text.mk :=
    Except.ok.inj (hwords.symm.trans (Text.words_of_unquoted hunquoted))
  have hgap : ∀ text ∈ inserted values layout, ∀ l ∈ text, isWordGap l = false := by
    intro text htext l hl
    have hword := h.sublist.subset (List.mem_flatten.mpr ⟨text, htext, hl⟩)
    obtain ⟨part, hpart, hl⟩ : ∃ part ∈ parts isWordGap (fill values layout), l ∈ part := by
      simpa [hparts] using hword
    exact Text.not_gap_of_mem_parts hpart hl
  refine ⟨fun text htext l hl => ⟨hgap text htext l hl, ?_⟩, ?_⟩
  · exact (unquoted_fill_iff hlayout).mp hunquoted text htext l hl
  · -- a word with nothing in it would be missing
    have hcount := h.length_eq
    rw [hparts, parts_fill hgap, List.length_map, ← List.length_map (fill values)] at hcount
    intro place hplace
    have hkept := List.length_filter_eq_length_iff.mp hcount.symm _ (List.mem_map_of_mem hplace)
    simpa using hkept

end Layout

/-! ## upload commands -/

def uploadValues (tools : Text.FilePath) (board : Board) (tool file port : Text) :
    Assoc Text Text :=
  [("avrdude", (toolPath tools tool).render), ("port", port),
    ("hex_path", (Text.FilePath.ofText file).render), ("speed", board.speed.shown)]

/-- The names that an upload command may have marks of. -/
def uploadNames : List Text := ["avrdude", "port", "hex_path", "speed"]

/-- The speed of the board has a text, if the upload command has a mark of it. -/
def SpeedShown (board : Board) (layout : List Piece) : Prop :=
  .slot "speed" ∈ layout → board.speed.hasText = true

section Command

variable (tools : Text.FilePath) {board : Board} {tool : Text} (file port : Text)
  {layout : List Piece} (htool : board.tool = .text tool)
  (hcommand : board.command = .text (Format.template layout))
  (hnames : ∀ name, .slot name ∈ layout → name ∈ uploadNames)

include hnames in
/-- What is filled into an upload command has a text exactly when the speed has one. -/
theorem legible_upload_iff :
    layout.all (Format.legible (uploadContext tools board tool file (.text port))) = true ↔
      SpeedShown board layout := by
  rw [List.all_eq_true]
  refine ⟨fun h hmem => h _ hmem, fun h p hp => ?_⟩
  cases p with
  | letter l => rfl
  | slot name =>
    have hname := hnames name hp
    simp only [uploadNames, List.mem_cons, List.not_mem_nil, or_false] at hname
    rcases hname with rfl | rfl | rfl | rfl
    · rfl
    · rfl
    · rfl
    · exact h hp

include htool hcommand hnames

/-- The words of an upload command are those of its filled layout, if that can be filled. -/
theorem flashWords_eq_ite :
    flashWords tools board file (.text port) =
      if layout.all (Format.legible (uploadContext tools board tool file (.text port))) then
        (Text.words ⟨fill (uploadValues tools board tool file port) layout⟩).mapError .badWords
      else .error .malformed := by
  have hfields : ∀ name ∈ uploadNames, Format.IsFieldName name := by decide
  have hline : Format.render (Format.template layout)
      (uploadContext tools board tool file (.text port)) =
      if layout.all (Format.legible (uploadContext tools board tool file (.text port))) then
        .ok ⟨fill (uploadValues tools board tool file port) layout⟩ else .error .malformed :=
    Format.render_spelled fun name hname => ⟨hfields name (hnames name hname), hnames name hname⟩
  unfold flashWords
  rw [htool, hcommand]
  dsimp only
  rw [hline]
  split
  · cases hwords : Text.words ⟨fill (uploadValues tools board tool file port) layout⟩ <;>
      simp [bind, Except.bind, hwords, Except.mapError, pure, Except.pure]
  · rfl

/-- The words of an upload are those of the layout, filled. -/
theorem flashWords_eq (hspeed : SpeedShown board layout) :
    flashWords tools board file (.text port) =
      (Text.words ⟨fill (uploadValues tools board tool file port) layout⟩).mapError .badWords := by
  rw [flashWords_eq_ite tools file port htool hcommand hnames,
    if_pos ((legible_upload_iff tools file port hnames).mpr hspeed)]

/-- An upload that has words shows its speed. -/
theorem speedShown_of_flashWords {words : List Text}
    (h : flashWords tools board file (.text port) = .ok words) : SpeedShown board layout := by
  rw [flashWords_eq_ite tools file port htool hcommand hnames] at h
  split at h
  · next hlegible => exact (legible_upload_iff tools file port hnames).mp hlegible
  · cases h

end Command

/-- When the command has a word for every word of its layout, and the path of the tool, the port and
the path of the file stand unchanged where their marks stood: when there is no gap, quote or
backslash in them, and no word comes to nothing.  A speed that is to be filled in needs a text. -/
theorem flashCommand_intact_iff (tools : Text.FilePath) (board : Board) (tool file port : Text)
    (layout : List Piece) (htool : board.tool = .text tool)
    (hcommand : board.command = .text (Format.template layout))
    (hnames : ∀ name, .slot name ∈ layout → name ∈ uploadNames)
    (hlayout : ∀ l, .letter l ∈ layout → isQuoting l = false) :
    ((∃ words, flashCommand tools board file (.text port) = .ok (words.map .text) ∧
        Intact (uploadValues tools board tool file port) layout words) ↔
      SpeedShown board layout ∧ Fits (uploadValues tools board tool file port) layout) ∧
    (SpeedShown board layout → Fits (uploadValues tools board tool file port) layout →
      flashCommand tools board file (.text port) =
        .ok ((parts isGap layout).map fun place =>
          .text ⟨fill (uploadValues tools board tool file port) place⟩)) := by
  have hflash := flashWords_eq tools file port htool hcommand hnames
  have hwhole : SpeedShown board layout → Fits (uploadValues tools board tool file port) layout →
      flashCommand tools board file (.text port) =
        .ok (((parts isGap layout).map fun place =>
          (⟨fill (uploadValues tools board tool file port) place⟩ : Text)).map .text) := by
    intro hspeed hfits
    unfold flashCommand
    rw [hflash hspeed, words_fill hlayout hfits]
    rfl
  refine ⟨⟨?_, fun h => ⟨_, hwhole h.1 h.2, ?_⟩⟩, fun hspeed hfits => ?_⟩
  · rintro ⟨words, hwords, hintact⟩
    obtain ⟨found, hfound, hmap⟩ := Outcome.bind_eq_ok_iff.mp hwords
    have hsame : found = words :=
      List.map_injective_iff.mpr (fun _ _ => Value.text.inj) (Except.ok.inj hmap)
    have hspeed := speedShown_of_flashWords tools file port htool hcommand hnames hfound
    rw [hflash hspeed, hsame] at hfound
    refine ⟨hspeed, fits_of_intact hlayout ?_ hintact⟩
    cases hline : Text.words ⟨fill (uploadValues tools board tool file port) layout⟩ with
    | error cause =>
      rw [hline] at hfound
      cases hfound
    | ok cut =>
      rw [hline] at hfound
      exact congrArg Except.ok (Except.ok.inj hfound)
  · exact List.forall₂_map_right_iff.mpr (List.forall₂_same.mpr fun place _ => holds_fill _ place)
  · rw [hwhole hspeed hfits, List.map_map]
    rfl

/-- A text as a part of a layout. -/
def verbatim (t : Text) : List Piece := t.letters.map .letter

/-- The layout of the bundled upload command. -/
def unoLayout : List Piece :=
  .slot "avrdude" :: verbatim " -v -p atmega328p -c arduino -P " ++
    .slot "port" :: verbatim " -b " ++
    .slot "speed" :: verbatim " -D -U flash:w:" ++ .slot "hex_path" :: verbatim ":i"

def uno : Board where
  id := .text "uno"
  name := .text "Arduino Uno R3"
  fqbn := .text "arduino:avr:uno"
  command := .text (Format.template unoLayout)
  tool := .text "avrdude"
  speed := .int 115200
  digital := [2, 3, 4, 5, 6, 7, 8, 9, 10, 11, 12, 13]
  pwm := [3, 5, 6, 9, 10, 11]
  analog := ["A0", "A1", "A2", "A3", "A4", "A5"]

theorem ofEntry_bundledEntry : Board.ofEntry Board.bundledEntry = .ok uno := by
  have hcommand : Format.template unoLayout =
      "\x7bavrdude\x7d -v -p atmega328p -c arduino -P \x7bport\x7d " ++
        "-b \x7bspeed\x7d -D -U flash:w:\x7bhex_path\x7d:i" := by decide +kernel
  unfold uno
  rw [hcommand]
  rfl

theorem unoLayout_pieces : (∀ name, .slot name ∈ unoLayout → name ∈ uploadNames) ∧
    ∀ l, .letter l ∈ unoLayout → isQuoting l = false := by
  have hall : unoLayout.all (fun
      | .slot name => uploadNames.contains name
      | .letter l => !isQuoting l) = true := by decide +kernel
  rw [List.all_eq_true] at hall
  exact ⟨fun name hname => by simpa using hall _ hname, fun l hl => by simpa using hall _ hl⟩

theorem flashCommand_intact_uno :
    Board.ofEntry Board.bundledEntry = .ok uno ∧
    Fits (uploadValues (.ofText "portable") uno "avrdude" "build/project.ino.hex"
      "COM5") unoLayout ∧
    flashCommand (.ofText "portable") uno "build/project.ino.hex" (.text "COM5") =
      .ok ((parts isGap unoLayout).map fun place =>
        .text ⟨fill (uploadValues (.ofText "portable") uno "avrdude" "build/project.ino.hex" "COM5")
          place⟩) := by
  have hfits : Fits (uploadValues (.ofText "portable") uno "avrdude" "build/project.ino.hex" "COM5")
      unoLayout := by decide +kernel
  exact ⟨ofEntry_bundledEntry, hfits,
    (flashCommand_intact_iff (.ofText "portable") uno "avrdude" "build/project.ino.hex" "COM5"
      unoLayout rfl
      rfl unoLayout_pieces.1 unoLayout_pieces.2).2 (fun _ => by decide) hfits⟩

/-- A backslash in the path of the file is gone from the command. -/
theorem not_flashCommand_intact_backslash :
    ∃ words, flashCommand (.ofText "portable") uno "C:\\build\\project.hex" (.text "COM5") =
        .ok (words.map .text) ∧ words.getLast? = some ↑"flash:w:C:buildproject.hex:i" ∧
      ¬ Intact (uploadValues (.ofText "portable") uno "avrdude" "C:\\build\\project.hex" "COM5")
        unoLayout words := by
  have hwords : Text.words
      ⟨fill (uploadValues (.ofText "portable") uno "avrdude" "C:\\build\\project.hex" "COM5")
        unoLayout⟩ =
      .ok ["portable/Tools/avrdude/avrdude.exe", "-v", "-p", "atmega328p", "-c", "arduino",
        "-P", "COM5",
        "-b", "115200", "-D", "-U", "flash:w:C:buildproject.hex:i"] := by decide +kernel
  have hflash :=
    flashWords_eq (.ofText "portable") "C:\\build\\project.hex" "COM5" (rfl : uno.tool = _)
    rfl unoLayout_pieces.1 (fun _ => by decide)
  rw [hwords] at hflash
  unfold flashCommand
  rw [hflash]
  exact ⟨_, rfl, rfl, fun h => absurd (h.sublist.countP_le (p := isQuoting)) (by decide +kernel)⟩

end BlockSketch.Firmware
