import BlockSketch.Proofs.Sketch.Obstacles
import BlockSketch.Validation

/-!
# BlockSketch.Proofs.Sketch.Walk

The walk of the checks over a program.  The checks visit the blocks that the generator
visits, and in the same order, so that the walk over a tree of blocks checks the list of
its visits, one after the other.  What every check does to the findings adds up over the
list.

* `walk_eq_runAll` — a walk checks the visits of its tree in order;
* `runAll_adds` — what steps add one after the other;
* `objects_checkParameter` — what is said about the value of a parameter.
-/

namespace BlockSketch.Validation

open Sketch (Visit visits children_induction)

/-! ## steps one after the other -/

theorem runAll_cons (w : Walk) (ws : List Walk) (f : Findings) :
    runAll (w :: ws) f = w f >>= runAll ws := List.foldlM_cons

/-- Steps in a row are those in front and then those behind. -/
theorem runAll_append (ws ws' : List Walk) (f : Findings) :
    runAll (ws ++ ws') f = runAll ws f >>= runAll ws' := List.foldlM_append

/-- Parts that find the same may take each other's place. -/
theorem runAll_flatMap_congr {α : Type} {as : List α} {ws ws' : α → List Walk}
    (h : ∀ a ∈ as, runAll (ws a) = runAll (ws' a)) :
    runAll (as.flatMap ws) = runAll (as.flatMap ws') := by
  induction as with
  | nil => rfl
  | cons a as ih =>
    funext f
    rw [List.flatMap_cons, List.flatMap_cons, runAll_append, runAll_append, h a List.mem_cons_self,
      ih fun b hb => h b (List.mem_cons_of_mem a hb)]

/-- A step that runs several steps can be replaced by them. -/
theorem runAll_map_congr {α : Type} {as : List α} {step : α → Walk} {ws : α → List Walk}
    (h : ∀ a ∈ as, step a = runAll (ws a)) : runAll (as.map step) = runAll (as.flatMap ws) := by
  rw [List.map_eq_flatMap]
  refine runAll_flatMap_congr fun a ha => ?_
  rw [← h a ha]
  exact funext fun f => bind_pure (step a f)

/-- What steps add to the findings, one after the other, is what they add together. -/
theorem runAll_adds {α β : Type} {Adds : Findings → Findings → List β → Prop}
    (hrefl : ∀ f, Adds f f [])
    (htrans : ∀ f g f' bs cs, Adds f g bs → Adds g f' cs → Adds f f' (bs ++ cs))
    {as : List α} {step : α → Walk} {added : α → List β}
    (hstep : ∀ a ∈ as, ∀ f f', step a f = .ok f' → Adds f f' (added a)) (f f' : Findings)
    (hok : runAll (as.map step) f = .ok f') : Adds f f' (as.flatMap added) := by
  induction as generalizing f with
  | nil =>
    cases hok
    exact hrefl f'
  | cons a as ih =>
    rw [List.map_cons, runAll_cons] at hok
    obtain ⟨g, hg, hrest⟩ := Outcome.bind_eq_ok_iff.mp hok
    refine htrans f g f' _ _ (hstep a List.mem_cons_self f g hg) ?_
    exact ih (fun b hb => hstep b (List.mem_cons_of_mem a hb)) g hrest

/-! ## the walk -/

/-- The walks of the children are those of the trees. -/
theorem slotWalks_eq (r : Registry) (board : Board) (children : Assoc Text (List Block)) :
    slotWalks r board children = Assoc.mapValues (List.map (walk r board)) children := by
  have hlist (bs : List Block) : listWalks r board bs = bs.map (walk r board) := by
    induction bs with
    | nil => rfl
    | cons b bs ih => rw [listWalks, ih, List.map_cons]
  induction children with
  | nil => rfl
  | cons slot rest ih =>
    rw [slotWalks, ih, hlist]
    rfl

/-- The walk of a tree, in terms of those of its children. -/
theorem walk_eq (r : Registry) (board : Board) (b : Block) :
    walk r board b = checkBlock r board b.id b.definition b.values
      (Assoc.mapValues (List.map (walk r board)) b.children) := by
  obtain ⟨id, definition, values, children⟩ := b
  rw [walk, slotWalks_eq]
  rfl

def unknownMessage : Text := "Неизвестный тип блока"

/-- The check of a visited block alone. -/
def checkVisit (r : Registry) (board : Board) (v : Visit) : Walk := fun f =>
  match v.definition? r with
  | none => .ok (f.complain unknownMessage v.block.id)
  | some d => runAll (d.parameters.map (checkParameter board v.block.id v.block.values))
      ((usedBy d).foldl Findings.use f)

/-- A walk checks the visits of its tree one after the other. -/
theorem walk_eq_runAll (r : Registry) (board : Board) (b : Block) (surrounding : Option Section) :
    walk r board b = runAll ((visits r b surrounding).map (checkVisit r board)) := by
  induction b using children_induction generalizing surrounding with | step b ih
  funext f
  rw [walk_eq, Sketch.visits_eq, List.map_cons, runAll_cons]
  unfold checkBlock checkVisit Visit.definition?
  cases hd : Assoc.get? r.definitions b.definition with
  | none =>
    rw [Sketch.inside, hd]
    rfl
  | some d =>
    have hchildren : runAll (d.containers.flatMap fun c =>
        (Assoc.getD b.children c.name []).map (walk r board)) =
        runAll (d.containers.flatMap fun c => (Assoc.getD b.children c.name []).flatMap fun child =>
          (visits r child (Sketch.innerSection d c)).map (checkVisit r board)) :=
      runAll_flatMap_congr fun c _ => runAll_map_congr fun child hchild => ih c.name child hchild _
    simp only [Sketch.getD_children, Sketch.inside_of_some hd, Sketch.within_map, List.map_flatMap]
    rw [hchildren]
    rfl

/-- The complaints about a program are those of the walk from its root and the closing ones. -/
theorem walk_of_validate {r : Registry} {board : Board} {p : Program} {complaints : List Complaint}
    {root : Block} (h : validate r board p = .ok complaints) (hroot : p.root = some root) :
    ∃ f, walk r board root {} = .ok f ∧ complaints = f.complaints ++ closing f.used := by
  unfold validate at h
  rw [hroot] at h
  obtain ⟨f, hf, hcomplaints⟩ := Outcome.bind_eq_ok_iff.mp h
  exact ⟨f, hf, (Except.ok.inj hcomplaints).symm⟩

/-! ## the sections in use -/

theorem complaints_foldl_use (used : List Section) (f : Findings) :
    (used.foldl Findings.use f).complaints = f.complaints := by
  induction used generalizing f with
  | nil => rfl
  | cons s used ih =>
    rw [List.foldl_cons, ih]
    unfold Findings.use
    split <;> rfl

/-- Using sections adds those and no other. -/
theorem mem_used_foldl_use (used : List Section) (f : Findings) (s : Section) :
    s ∈ (used.foldl Findings.use f).used ↔ s ∈ f.used ∨ s ∈ used := by
  induction used generalizing f with
  | nil => simp
  | cons t used ih =>
    have huse : s ∈ (f.use t).used ↔ s ∈ f.used ∨ s = t := by
      unfold Findings.use
      split
      · next ht =>
        have hmem : t ∈ f.used := List.contains_iff_mem.mp ht
        exact ⟨.inl, fun h => h.elim id fun hst => hst ▸ hmem⟩
      · simp
    rw [List.foldl_cons, ih, huse, List.mem_cons, or_assoc]

/-! ## the values of parameters -/

/-- The beginnings of the complaints about the value of a parameter. -/
def valueOpenings : List Text :=
  ["Неверный формат пина", "Пин D", "Параметр '", "Не задан параметр '"]

/-- A step that ends well adds nothing, or one complaint about the value of a parameter. -/
def Objects (w : Walk) (id : Option Text) : Prop :=
  ∀ f f', w f = .ok f' → f' = f ∨ ∃ message,
    (∃ start ∈ valueOpenings, start.letters <+: message.letters) ∧ f' = f.complain message id

/-- The check of a pin makes at most one complaint, about its value. -/
theorem objects_checkPin (board : Board) (id : Option Text) (v : Value) :
    Objects (checkPin board id v) id := by
  intro f f' hok
  unfold checkPin at hok
  split at hok
  · split at hok
    · cases hok
      exact .inr ⟨_, ⟨"Неверный формат пина", by simp [valueOpenings], List.prefix_refl _⟩, rfl⟩
    · exact nomatch hok
  · split at hok
    · exact .inl (Except.ok.inj hok).symm
    · cases hok
      refine .inr ⟨_, ⟨"Пин D", by simp [valueOpenings], ?_⟩, rfl⟩
      simp only [Text.letters_append, List.append_assoc, List.prefix_append]

/-- So does the check of an integer. -/
theorem objects_checkInt (name : Text) (id : Option Text) (v : Value) :
    Objects (checkInt name id v) id := by
  intro f f' hok
  unfold checkInt at hok
  split at hok
  · split at hok
    · cases hok
      refine .inr ⟨_, ⟨"Параметр '", by simp [valueOpenings], ?_⟩, rfl⟩
      simp only [Text.letters_append, List.append_assoc, List.prefix_append]
    · exact nomatch hok
  · exact .inl (Except.ok.inj hok).symm

/-- So does the check of any parameter. -/
theorem objects_checkParameter (board : Board) (id : Option Text) (values : Fields)
    (p : Parameter) :
    Objects (checkParameter board id values p) id := by
  have hgiven (v : Value) : Objects (fun f =>
      if p.type = "digital_pin" then checkPin board id v f
      else if p.type = "int" then checkInt p.name id v f
      else .ok f) id := by
    by_cases hpin : p.type = "digital_pin"
    · simp only [if_pos hpin]
      exact objects_checkPin board id v
    · by_cases hint : p.type = "int"
      · simp only [if_neg hpin, if_pos hint]
        exact objects_checkInt p.name id v
      · simp only [if_neg hpin, if_neg hint]
        exact fun f f' hok => .inl (Except.ok.inj hok).symm
  unfold checkParameter
  cases values.get p.name p.default with
  | null =>
    intro f f' hok
    cases hok
    refine .inr ⟨_, ⟨"Не задан параметр '", by simp [valueOpenings], ?_⟩, rfl⟩
    simp only [Text.letters_append, List.append_assoc, List.prefix_append]
  | _ => exact hgiven _

end BlockSketch.Validation
