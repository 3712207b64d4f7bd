import BlockSketch.Proofs.Sketch.Walk

/-!
# BlockSketch.Proofs.Sketch.Complaints

What the checks of a program say, block by block and parameter by parameter.  What is said
about the value of a parameter does not depend on what was found before, so that the
complaints about a program are those about the blocks visited, one after the other.

* `steady_checkParameter` — a parameter is complained of whatever was found before;
* `complaints_walk` — the complaints of a walk are the objections to the blocks visited.
-/

namespace BlockSketch.Validation

open Sketch (Visit visits)

/-! ## what a check says -/

/-- What a step says when nothing was found before it. -/
def said (w : Walk) : List Complaint :=
  match w {} with
  | .ok f => f.complaints
  | .error _ => []

/-- A step that comes to an end says the same whatever was found before, and finds nothing else. -/
def Steady (w : Walk) : Prop :=
  ∀ f f', w f = .ok f' → f' = { f with complaints := f.complaints ++ said w }

/-- A step that adds nothing is steady. -/
theorem steady_of_ok {w : Walk} (h : ∀ f, w f = .ok f) : Steady w := by
  intro f f' hok
  rw [h f] at hok
  simp [said, h, ← Except.ok.inj hok]

/-- A step that adds always the same complaint is steady. -/
theorem steady_of_complain {w : Walk} {message : Text} {id : Option Text}
    (h : ∀ f, w f = .ok (f.complain message id)) : Steady w := by
  intro f f' hok
  rw [h f] at hok
  simp [said, h, ← Except.ok.inj hok, Findings.complain]

/-- So is a step that never comes to an end. -/
theorem steady_of_error {w : Walk} {fault : Fault} (h : ∀ f, w f = .error fault) : Steady w := by
  intro f f' hok
  rw [h f] at hok
  exact absurd hok (by simp)

/-- What is said about a pin depends on its value only. -/
theorem steady_checkPin (board : Board) (id : Option Text) (v : Value) :
    Steady (checkPin board id v) := by
  unfold checkPin
  cases pinNumber v with
  | error fault =>
    cases hform : isFormFault fault with
    | true => exact steady_of_complain fun f => by simp only [hform, if_true]; rfl
    | false => exact steady_of_error fun f => by simp only [hform]; rfl
  | ok pin =>
    cases hboard : board.digital.contains pin with
    | true => exact steady_of_ok fun f => by simp only [hboard, if_true]
    | false => exact steady_of_complain fun f => by simp only [hboard]; rfl

/-- So does what is said about an integer. -/
theorem steady_checkInt (name : Text) (id : Option Text) (v : Value) :
    Steady (checkInt name id v) := by
  unfold checkInt
  cases v.toInt with
  | error fault =>
    cases hform : isFormFault fault with
    | true => exact steady_of_complain fun f => by simp only [hform, if_true]; rfl
    | false => exact steady_of_error fun f => by simp only [hform]; rfl
  | ok n => exact steady_of_ok fun f => rfl

/-- What is said about the value of a parameter does not depend on what was found before. -/
theorem steady_checkParameter (board : Board) (id : Option Text) (values : Fields) (q : Parameter) :
    Steady (checkParameter board id values q) := by
  have hgiven (v : Value) : Steady (fun f =>
      if q.type = "digital_pin" then checkPin board id v f
      else if q.type = "int" then checkInt q.name id v f
      else .ok f) := by
    by_cases hpin : q.type = "digital_pin"
    · simp only [if_pos hpin]
      exact steady_checkPin board id v
    · by_cases hint : q.type = "int"
      · simp only [if_neg hpin, if_pos hint]
        exact steady_checkInt q.name id v
      · simp only [if_neg hpin, if_neg hint]
        exact steady_of_ok fun f => rfl
  unfold checkParameter
  cases values.get q.name q.default with
  | null => exact steady_of_complain fun f => rfl
  | _ => exact hgiven _

/-! ## what is said about a program -/

/-- What the checks say about the value of a parameter of a visited block. -/
def valueObjections (board : Board) (v : Visit) (q : Parameter) : List Complaint :=
  said (checkParameter board v.block.id v.block.values q)

def objections (r : Registry) (board : Board) (v : Visit) : List Complaint :=
  match v.definition? r with
  | none => [⟨unknownMessage, v.block.id⟩]
  | some d => d.parameters.flatMap (valueObjections board v)

def Adds (f f' : Findings) (complaints : List Complaint) : Prop :=
  f'.complaints = f.complaints ++ complaints

theorem Adds.refl (f : Findings) : Adds f f [] := (List.append_nil _).symm

theorem Adds.trans (f g f' : Findings) (cs cs' : List Complaint) (h : Adds f g cs)
    (h' : Adds g f' cs') :
    Adds f f' (cs ++ cs') := by
  unfold Adds at *
  rw [h', h, List.append_assoc]

/-- The checks of a visited block add what they say about it. -/
theorem adds_checkVisit (r : Registry) (board : Board) (v : Visit) (f f' : Findings)
    (hok : checkVisit r board v f = .ok f') : Adds f f' (objections r board v) := by
  unfold checkVisit at hok
  unfold objections
  cases hd : v.definition? r with
  | none =>
    rw [hd] at hok
    cases hok
    rfl
  | some d =>
    rw [hd] at hok
    have hparameter (q : Parameter) (_ : q ∈ d.parameters) (g g' : Findings)
        (hq : checkParameter board v.block.id v.block.values q g = .ok g') :
        Adds g g' (valueObjections board v q) :=
      congrArg Findings.complaints (steady_checkParameter board v.block.id v.block.values q g g' hq)
    have hparameters := runAll_adds Adds.refl Adds.trans hparameter _ f' hok
    unfold Adds at hparameters
    rwa [complaints_foldl_use] at hparameters

/-- A walk objects to the blocks visited, one after the other. -/
theorem complaints_walk (r : Registry) (board : Board) (b : Block) (surrounding : Option Section)
    {f f' : Findings} (hok : walk r board b f = .ok f') :
    f'.complaints = f.complaints ++ (visits r b surrounding).flatMap (objections r board) := by
  rw [walk_eq_runAll r board b surrounding] at hok
  exact runAll_adds Adds.refl Adds.trans (fun v _ => adds_checkVisit r board v) f f' hok

end BlockSketch.Validation
