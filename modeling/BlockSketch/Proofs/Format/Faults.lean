import BlockSketch.Format.Template

/-!
# BlockSketch.Proofs.Format.Faults

The faults for which a template cannot be filled.  They are about values, names and
specifications; none of them is a complaint about a program, so such a complaint never
comes from a template.

* `Outcome.Foreign` — an outcome that is no complaint about a program;
* `foreign_render` — to fill a template gives only such outcomes.
-/

namespace BlockSketch

/-- The outcome is no complaint about a program. -/
def Outcome.Foreign {α : Type} (o : Outcome α) : Prop := ∀ cause, o ≠ .error (.generation cause)

namespace Outcome

variable {α β : Type} {o : Outcome α} {f : α → Outcome β}

@[simp] theorem foreign_ok (a : α) : Foreign (.ok a) := nofun

@[simp] theorem foreign_pure (a : α) : Foreign (pure a : Outcome α) := nofun

@[simp] theorem foreign_error (fault : Fault) :
    Foreign (.error fault : Outcome α) ↔ ∀ cause, fault ≠ .generation cause := by
  simp [Foreign]

/-- Outcomes in a row are foreign when each of them is. -/
theorem Foreign.bind (h : o.Foreign) (hf : ∀ a, (f a).Foreign) : (o >>= f).Foreign := by
  cases o with
  | error fault => exact fun cause heq => h cause (congrArg Except.error (Except.error.inj heq))
  | ok a => exact hf a

theorem Foreign.map {g : α → β} (h : o.Foreign) : Foreign (o.map g) := by
  cases o with
  | error fault => exact fun cause heq => h cause (congrArg Except.error (Except.error.inj heq))
  | ok a => exact foreign_ok (g a)

/-- A fold is foreign when all its steps are. -/
theorem foreign_foldlM {step : β → α → Outcome β} (h : ∀ b a, (step b a).Foreign) (as : List α)
    (b : β) :
    (as.foldlM step b).Foreign := by
  induction as generalizing b with
  | nil => exact foreign_pure b
  | cons a as ih =>
    rw [List.foldlM_cons]
    exact (h b a).bind ih

end Outcome

namespace Format

open Outcome

/-! ## specifications -/

/-- A count can be too large to read, which is no complaint about a program. -/
theorem foreign_takeCount (cs : List Letter) : (takeCount cs).Foreign := by
  unfold takeCount
  dsimp only
  split
  · simp
  · split <;> simp

theorem foreign_takeGrouping (cs : List Letter) : (takeGrouping cs).Foreign := by
  unfold takeGrouping
  dsimp only
  split
  · simp
  · split <;> simp

/-- A precision can be missing. -/
theorem foreign_takePrecision (cs : List Letter) : (takePrecision cs).Foreign := by
  unfold takePrecision
  split
  · refine (foreign_takeCount _).bind fun found => ?_
    dsimp only
    split <;> simp
  · simp

theorem foreign_takeType (cs : List Letter) : (takeType cs).Foreign := by
  unfold takeType
  split <;> simp

/-- What a specification is refused for is its own text. -/
theorem foreign_parse (usual : Align) (cs : List Letter) : (Spec.parse usual cs).Foreign := by
  unfold Spec.parse
  refine (foreign_takeCount _).bind fun width => (foreign_takeGrouping _).bind fun grouping => ?_
  refine (foreign_takePrecision _).bind fun precision => (foreign_takeType _).bind fun type => ?_
  dsimp only
  have hmalformed : ∀ cause, Fault.malformed ≠ .generation cause := nofun
  cases grouping.1 with
  | none => exact foreign_pure _
  | some g =>
    dsimp only
    by_cases hgroup : (!groupable g type) = true
    · rw [if_pos hgroup]
      exact (foreign_error _).mpr hmalformed
    · rw [if_neg hgroup]
      exact foreign_pure _

theorem foreign_checkWidth (spec : Spec) : (checkWidth spec).Foreign := by
  unfold checkWidth
  split <;> simp

/-- A text can be refused the signs and types of numbers. -/
theorem foreign_text (spec : Spec) (t : Text) : (text spec t).Foreign := by
  unfold text
  split
  · exact (foreign_error _).mpr nofun
  · exact (foreign_checkWidth spec).bind fun _ => foreign_pure _

/-- An integer can be refused a precision. -/
theorem foreign_integer (spec : Spec) (type : Char) (n : Int) : (integer spec type n).Foreign := by
  have hcharacter : (character spec n).Foreign := by
    unfold character
    split
    · simp
    · split <;> simp
  unfold integer
  dsimp only
  split
  · exact (foreign_error _).mpr nofun
  · split
    · exact (foreign_error _).mpr nofun
    · refine (foreign_checkWidth spec).bind fun _ => ?_
      repeat' split
      · exact hcharacter
      all_goals exact foreign_pure _

/-- A double can be refused too large a precision. -/
theorem foreign_float (spec : Spec) (x : Float) : (float spec x).Foreign := by
  unfold float
  dsimp only
  split
  · exact (foreign_error _).mpr nofun
  · exact (foreign_checkWidth spec).bind fun _ => foreign_pure _

/-! ## what a name reaches -/

namespace Reached

theorem foreign_boundFeature (r : Reached) (name : String) : (boundFeature r name).Foreign := by
  have hpart (v : Value) : (numberPart v name).Foreign := by
    unfold numberPart
    cases v <;> simp
  unfold boundFeature
  split
  · exact hpart _
  all_goals simp

theorem foreign_kindMember (k : Kind) (name : String) : (kindMember k name).Foreign := by
  unfold kindMember
  split
  all_goals try simp
  split
  · simp
  · split
    · simp
    · simp
    · exact foreign_boundFeature _ _

/-- A value can lack a member. -/
theorem foreign_member (r : Reached) (called : Text) : (member r called).Foreign := by
  have hfeature (owner : Kind) (called name : String) :
      (featureMember r owner called name).Foreign := by
    unfold featureMember
    split
    · simp
    · simp
    · exact foreign_boundFeature r name
  unfold member
  dsimp only
  split
  · simp
  · split
    · exact foreign_kindMember _ _
    · split
      · simp
      · exact foreign_kindMember _ _
    · split
      · simp
      · exact hfeature _ _ _
    · repeat' split
      all_goals try simp
      exact hfeature _ _ _
    · repeat' split
      all_goals try simp
      exact foreign_boundFeature _ _

theorem foreign_index? (name : List Letter) : (index? name).Foreign := by
  refine (foreign_takeCount name).bind fun found => ?_
  split <;> simp

theorem foreign_itemAt {α : Type} (xs : List α) (i : Nat) : (itemAt xs i).Foreign := by
  unfold itemAt
  split <;> simp

theorem foreign_need (fs : Fields) (key : Text) : (Fields.need fs key).Foreign := by
  unfold Fields.need
  split <;> simp

/-- A value can lack an item, or have none at all. -/
theorem foreign_item (r : Reached) (name : List Letter) : (item r name).Foreign := by
  refine (foreign_index? name).bind fun index => ?_
  split
  · exact (foreign_itemAt _ _).bind fun _ => foreign_pure _
  · exact (foreign_itemAt _ _).bind fun _ => foreign_pure _
  · simp
  · exact (foreign_need _ _).bind fun _ => foreign_pure _
  · exact (foreign_itemAt _ _).bind fun _ => foreign_pure _
  · split <;> simp
  · simp

end Reached

/-- A context can lack a name. -/
theorem foreign_lookup (context : Fields) (name : List Letter) : (lookup context name).Foreign := by
  have hfollow (r : Reached) (access : Access) : (access.follow r).Foreign := by
    cases access with
    | member name => exact Reached.foreign_member r _
    | item name => exact Reached.foreign_item r name
    | bad => simp [Access.follow]
  refine (Reached.foreign_index? _).bind fun index => ?_
  split
  · simp
  · exact (Reached.foreign_need _ _).bind fun v => foreign_foldlM hfollow _ _

/-! ## templates -/

/-- A conversion can be unknown. -/
theorem foreign_convert (r : Reached) (conversion : Option Letter) :
    (convert r conversion).Foreign := by
  unfold convert
  repeat' split
  all_goals simp

theorem foreign_formatInt (cs : List Letter) (n : Int) : (formatInt cs n).Foreign := by
  refine (foreign_parse _ _).bind fun spec => ?_
  dsimp only
  split
  · exact foreign_integer _ _ _
  · repeat' split
    · exact foreign_float _ _
    all_goals simp

theorem foreign_formatFloat (cs : List Letter) (x : Float) : (formatFloat cs x).Foreign := by
  refine (foreign_parse _ _).bind fun spec => ?_
  split
  · exact foreign_float _ _
  · split
    · exact foreign_float _ _
    · simp

/-- Whatever was reached, spelling it out makes no complaint about a program. -/
theorem foreign_formatReached (cs : List Letter) (r : Reached) : (formatReached cs r).Foreign := by
  unfold formatReached
  split
  · split <;> simp
  · split
    · exact (foreign_parse _ _).bind fun spec => foreign_text spec _
    · exact foreign_formatInt cs _
    · exact foreign_formatInt cs _
    · exact foreign_formatFloat cs _
    · exact foreign_formatFloat cs _
    · simp

/-- Nor do the fields of a template, one inside the other down to any depth. -/
theorem foreign_renderDepth (depth : Nat) (context : Fields) (cs : List Letter) :
    (renderDepth depth context cs).Foreign := by
  induction depth generalizing cs with
  | zero => simp [renderDepth]
  | succ depth ih =>
    refine foreign_foldlM (fun done segment => ?_) _ _
    cases segment with
    | plain c => exact foreign_ok _
    | bad => simp
    | field name conversion spec =>
      refine (foreign_lookup context name).bind fun found => ?_
      refine (foreign_convert found conversion).bind fun found => ?_
      have hlast (spec : List Letter) : (do
          return done ++ (← formatReached spec found).letters : Outcome (List Letter)).Foreign :=
        (foreign_formatReached spec found).bind fun _ => foreign_pure _
      -- a specification that holds fields is filled first, one level less deep
      dsimp only
      split
      · exact (ih spec).bind hlast
      · exact hlast spec

/-- Rendering a template never complains about a program. -/
theorem foreign_render (template : Text) (context : Fields) : (render template context).Foreign :=
  (foreign_renderDepth 2 context template.letters).map

end Format

end BlockSketch
