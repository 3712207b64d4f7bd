import BlockSketch.Format.Template
import BlockSketch.Proofs.Text.Marks
import BlockSketch.Proofs.Value.Number

/-!
# BlockSketch.Proofs.Format.Spelled

Templates that are spelled out of letters and the marks of names.  A letter stands for
itself, a brace being doubled, and a mark is a field without conversion and
specification.  Such a template is filled with the plain texts of the values.

* `segments_spelled` — a spelled template is cut into its pieces again;
* `render_spelled` — what it is filled to.
-/

namespace BlockSketch.Format

open Text (Piece isBrace opening closing)

/-- A piece as a template spells it. -/
def spelled : Piece → List Letter
  | .letter l => if isBrace l then [l, l] else [l]
  | .slot name => (Text.mark name).letters

/-- The template that is spelled out of some pieces. -/
def template (ps : List Piece) : Text := ⟨ps.flatMap spelled⟩

/-- Whether a letter can stand in the name of a field: here, a Latin letter or an underscore. -/
def isNameLetter (l : Letter) : Bool := l.isIn fun c => c.isAlpha || c == '_'

def IsFieldName (name : Text) : Prop :=
  name.letters ≠ [] ∧ ∀ l ∈ name.letters, isNameLetter l = true

instance (name : Text) : Decidable (IsFieldName name) :=
  inferInstanceAs (Decidable (name.letters ≠ [] ∧ ∀ l ∈ name.letters, isNameLetter l = true))

/-- A letter that is not in the class of names. -/
theorem ne_of_isNameLetter {l : Letter} (h : isNameLetter l = true) {c : Char}
    (hc : (c.isAlpha || c == '_') = false) : l ≠ .char c := by
  rintro rfl
  exact absurd (h.symm.trans hc) (by simp)

/-! ## cutting -/

/-- A piece as it is found in a template. -/
def segment : Piece → Segment
  | .letter l => .plain l
  | .slot name => .field name.letters none []

theorem cutName_of_isNameLetter (acc : List Letter) {l : Letter} (h : isNameLetter l = true) :
    cutName acc l = .ok (none, .name (l :: acc)) := by
  unfold cutName
  rw [if_neg (ne_of_isNameLetter h (by decide)), if_neg (ne_of_isNameLetter h (by decide)),
    if_neg (ne_of_isNameLetter h (by decide)), if_neg (ne_of_isNameLetter h (by decide)),
    if_neg (ne_of_isNameLetter h (by decide))]

/-- The rest of a name, up to the brace that closes the field. -/
theorem segmentsFrom_name (acc : List Letter) {ls : List Letter} (rest : List Letter)
    (h : ∀ l ∈ ls, isNameLetter l = true) :
    segmentsFrom (.name acc) (ls ++ closing :: rest) =
      .field (acc.reverse ++ ls) none [] :: segmentsFrom .text rest := by
  induction ls generalizing acc with
  | nil =>
    rw [List.nil_append, List.append_nil]
    rfl
  | cons l ls ih =>
    obtain ⟨hl, hls⟩ := List.forall_mem_cons.mp h
    rw [List.cons_append, segmentsFrom, cutStep, cutName_of_isNameLetter acc hl]
    dsimp only
    rw [ih (l :: acc) hls, List.reverse_cons, List.append_assoc]
    rfl

theorem segmentsFrom_spelled (p : Piece) (rest : List Letter)
    (h : ∀ name, p = .slot name → IsFieldName name) :
    segmentsFrom .text (spelled p ++ rest) = segment p :: segmentsFrom .text rest := by
  cases p with
  | letter l =>
    by_cases hopening : l = .char '\x7b'
    · rw [hopening]
      rfl
    · by_cases hclosing : l = .char '\x7d'
      · rw [hclosing]
        rfl
      · have hbrace : spelled (.letter l) = [l] :=
          if_neg (by simp [isBrace, opening, closing, hopening, hclosing])
        rw [hbrace, List.singleton_append, segmentsFrom, cutStep, if_neg hopening, if_neg hclosing]
        rfl
  | slot name =>
    obtain ⟨hne, hname⟩ := h name rfl
    obtain ⟨l, ls, hletters⟩ := List.exists_cons_of_ne_nil hne
    rw [hletters] at hname
    obtain ⟨hl, hls⟩ := List.forall_mem_cons.mp hname
    have hopen : segmentsFrom .text (opening :: (l :: ls ++ closing :: rest)) =
        segmentsFrom (.name [l]) (ls ++ closing :: rest) := by
      have hbrace : l ≠ .char '\x7b' := ne_of_isNameLetter hl (by decide)
      change segmentsFrom .opened (l :: (ls ++ closing :: rest)) = _
      rw [segmentsFrom, cutStep, if_neg hbrace, cutName_of_isNameLetter [] hl]
    rw [spelled, Text.letters_mark, List.cons_append, List.append_assoc,
      List.singleton_append, hletters, hopen, segmentsFrom_name [l] rest hls]
    rw [segment, hletters]
    rfl

/-- A spelled template is cut into its pieces. -/
theorem segments_spelled {ps : List Piece} (h : ∀ name, .slot name ∈ ps → IsFieldName name) :
    segments (ps.flatMap spelled) = ps.map segment := by
  unfold segments
  induction ps with
  | nil => rfl
  | cons p ps ih =>
    rw [List.flatMap_cons, segmentsFrom_spelled p _ fun name hp => h name (hp ▸ List.mem_cons_self),
      ih fun name hname => h name (List.mem_cons_of_mem p hname), List.map_cons]

/-! ## filling -/

/-- A name without digits is no index. -/
theorem index?_of_isFieldName {name : Text} (h : IsFieldName name) :
    Reached.index? name.letters = .ok none := by
  obtain ⟨l, ls, hletters⟩ := List.exists_cons_of_ne_nil h.1
  have hl : isNameLetter l = true := h.2 l (hletters ▸ List.mem_cons_self)
  have hdigit : (l.char?.bind Text.digitValue?).isSome = false := by
    cases l with
    | half n => rfl
    | char c =>
      have hrange : 65 ≤ c.toNat ∧ c.toNat ≤ 122 := by
        have hc : (c.isUpper || c.isLower || c == '_') = true := hl
        rw [Bool.or_eq_true, Bool.or_eq_true, beq_iff_eq] at hc
        rcases hc with (hupper | hlower) | rfl
        · have hupper : 65 ≤ c.toNat ∧ c.toNat ≤ 90 := of_decide_eq_true hupper
          omega
        · have hlower : 97 ≤ c.toNat ∧ c.toNat ≤ 122 := by
            have hboth := Bool.and_eq_true_iff.mp hlower
            exact ⟨of_decide_eq_true hboth.1, of_decide_eq_true hboth.2⟩
          omega
        · decide
      have hdigit : c.isDigit = false := by
        refine Bool.eq_false_iff.mpr fun hdigit => ?_
        have hdigits := Value.toNat_of_isDigit hdigit
        omega
      have hvalue : Text.digitValue? c = none := by
        unfold Text.digitValue?
        rw [if_pos (by omega), hdigit, if_neg (by simp)]
      simp [Letter.char?, hvalue]
  have hcount : takeCount name.letters = .ok (none, name.letters) := by
    unfold takeCount
    simp [hletters, hdigit]
  unfold Reached.index?
  rw [hcount]
  rfl

theorem lookup_of_isFieldName {context : Fields} {name : Text} {v : Value} (h : IsFieldName name)
    (hv : Assoc.get? context name = some v) : lookup context name.letters = .ok (.value v) := by
  have hfirst : (name.letters.takeWhile fun c => c ≠ .char '.' ∧ c ≠ .char '[') = name.letters := by
    refine List.takeWhile_eq_self_iff.mpr fun l hl => ?_
    have hl := h.2 l hl
    simp [ne_of_isNameLetter hl (c := '.') (by decide),
      ne_of_isNameLetter hl (c := '[') (by decide)]
  have hneed : Fields.need context ⟨name.letters⟩ = .ok v := by
    unfold Fields.need
    rw [hv]
  unfold lookup
  dsimp only
  rw [hfirst, index?_of_isFieldName h, List.drop_length]
  simp [bind, Except.bind, h.1, hneed, accessesFrom, pure, Except.pure]

/-- Where every item adds its own letters or fails, all add theirs in order, or there is a
failure. -/
theorem foldlM_appends {α : Type} {step : List Letter → α → Outcome (List Letter)}
    {f : α → List Letter} {as : List α} (good : α → Bool) (fault : Fault)
    (h : ∀ a ∈ as, ∀ done, step done a = if good a then .ok (done ++ f a) else .error fault)
    (done : List Letter) :
    as.foldlM step done = if as.all good then .ok (done ++ as.flatMap f) else .error fault := by
  induction as generalizing done with
  | nil => rw [List.foldlM_nil, List.flatMap_nil, List.append_nil]; rfl
  | cons a as ih =>
    obtain ⟨ha, hrest⟩ := List.forall_mem_cons.mp h
    rw [List.foldlM_cons, ha done, List.flatMap_cons, ← List.append_assoc, List.all_cons]
    cases good a with
    | false => rfl
    | true => exact ih hrest (done ++ f a)

/-- Whether what a piece stands for has a text. -/
def legible (context : Fields) : Piece → Bool
  | .letter _ => true
  | .slot name => (Assoc.getD context name .null).hasText

/-- A spelled template is filled with the plain texts of the values, if all of them have one. -/
theorem render_spelled {context : Fields} {ps : List Piece}
    (h : ∀ name, .slot name ∈ ps → IsFieldName name ∧ name ∈ Assoc.keys context) :
    render (template ps) context = if ps.all (legible context) then
      .ok ⟨ps.flatMap (Piece.filled (Assoc.mapValues Value.shown context))⟩
      else .error .malformed := by
  unfold render template
  dsimp only
  rw [renderDepth, segments_spelled fun name hname => (h name hname).1, List.foldlM_map,
    foldlM_appends (f := Piece.filled (Assoc.mapValues Value.shown context)) (legible context)
      .malformed]
  · split <;> rfl
  · intro p hp done
    cases p with
    | letter l => rfl
    | slot name =>
      obtain ⟨hname, hkey⟩ := h name hp
      obtain ⟨v, hv⟩ := Option.isSome_iff_exists.mp ((Assoc.has_iff_mem_keys context name).mpr hkey)
      have hfilled : Assoc.getD (Assoc.mapValues Value.shown context) name "" = v.shown := by
        refine (Assoc.getD_mapValues Value.shown context name (.text "")).trans ?_
        rw [Assoc.getD, hv]
        rfl
      have hlegible : legible context (.slot name) = v.hasText := by
        rw [legible, Assoc.getD, hv]
        rfl
      have hformat : formatReached [] (.value v) =
          if v.hasText then .ok v.shown else .error .malformed := rfl
      rw [Piece.filled, hfilled, hlegible]
      simp only [segment, lookup_of_isFieldName hname hv]
      change (do
        let text ← formatReached [] (.value v)
        pure (done ++ text.letters)) = _
      rw [hformat]
      cases v.hasText <;> rfl

end BlockSketch.Format
