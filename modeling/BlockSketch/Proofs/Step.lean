import BlockSketch.Fault

/-!
# BlockSketch.Proofs.Step

Steps on a state that may stop for a fault.  What was done before the fault stays, so a step
always gives a state, with a value or a fault beside it.

* `run_of_ok`, `run_of_error` — one step after the other;
* `exists_of_run_ok` — two steps that end without a fault;
* `run_tryCatch` — a fault that is caught;
* `run_ofExcept` — a step that only looks;
* `Meets` — what holds after a step, with rules for steps that are put together;
* `Keeps` — what holds after a step if it held before.
-/

namespace BlockSketch

variable {σ α β : Type} {x : ExceptT Fault (StateM σ) α} {f : α → ExceptT Fault (StateM σ) β}
    {i i' : σ}

/-- A step that follows one which gave a value goes on from its state. -/
theorem run_of_ok {a : α} (h : x.run i = (.ok a, i')) : (x >>= f).run i = (f a).run i' := by
  change (ExceptT.bindCont f (x.run i).1).run (x.run i).2 = _
  rw [h]
  rfl

/-- A step that follows one which stopped is not taken. -/
theorem run_of_error {fault : Fault} (h : x.run i = (.error fault, i')) :
    (x >>= f).run i = (.error fault, i') := by
  change (ExceptT.bindCont f (x.run i).1).run (x.run i).2 = _
  rw [h]
  rfl

/-- Steps that end without a fault, the one and then the other. -/
theorem exists_of_run_ok {b : β} {i'' : σ} (h : (x >>= f).run i = (.ok b, i'')) :
    ∃ a i', x.run i = (.ok a, i') ∧ (f a).run i' = (.ok b, i'') := by
  cases hx : x.run i with
  | mk o i' =>
    cases o with
    | error fault =>
      rw [run_of_error hx] at h
      cases h
    | ok a =>
      rw [run_of_ok hx] at h
      exact ⟨a, i', rfl, h⟩

/-- A fault is caught in the state that it left. -/
theorem run_tryCatch (x : ExceptT Fault (StateM σ) α) (g : Fault → ExceptT Fault (StateM σ) α)
    (i : σ) :
    (tryCatch x g).run i =
      match x.run i with
      | (.ok a, i') => (.ok a, i')
      | (.error fault, i') => (g fault).run i' := by
  have hbind (k : Except Fault α → StateM σ (Except Fault α)) :
      (x.run >>= k) i = k (x.run i).1 (x.run i).2 := rfl
  simp only [tryCatch, tryCatchThe, MonadExceptOf.tryCatch, ExceptT.tryCatch, ExceptT.mk]
  refine (hbind _).trans ?_
  cases x.run i with
  | mk o i' => cases o <;> rfl

/-- An outcome is a step that leaves the state as it is. -/
theorem run_ofExcept (o : Outcome α) (i : σ) :
    (MonadExcept.ofExcept o : ExceptT Fault (StateM σ) α).run i = (o, i) := by
  cases o <;> rfl

/-- A row of steps that began with an outcome and gave a value had a value to begin with. -/
theorem exists_of_ofExcept_ok {o : Outcome α} {b : β}
    (h : (MonadExcept.ofExcept o >>= f : ExceptT Fault (StateM σ) β).run i = (.ok b, i')) :
    ∃ a, o = .ok a ∧ (f a).run i = (.ok b, i') := by
  cases o with
  | error fault => cases h
  | ok a => exact ⟨a, rfl, h⟩

/-- Outcomes in a row are steps in a row. -/
theorem ofExcept_bind (o : Outcome α) (g : α → Outcome β) :
    (MonadExcept.ofExcept (o >>= g) : ExceptT Fault (StateM σ) β) =
      MonadExcept.ofExcept o >>= fun a => MonadExcept.ofExcept (g a) := by
  cases o <;> rfl

/-! ## what holds after a step -/

/-- The step `x`, begun in a state that has `P`, ends with a value and a state that have `Q`, or it
stops for a fault in a state that has `E`. -/
def Meets (P : σ → Prop) (x : ExceptT Fault (StateM σ) α) (Q : α → σ → Prop) (E : σ → Prop) :
    Prop :=
  ∀ i, P i → (∃ a i', x.run i = (.ok a, i') ∧ Q a i') ∨
    ∃ fault i', x.run i = (.error fault, i') ∧ E i'

/-- A step keeps a property, whether or not it stops for a fault. -/
abbrev Keeps (P : σ → Prop) (x : ExceptT Fault (StateM σ) α) : Prop := Meets P x (fun _ => P) P

section Meeting

variable {P P' E E' : σ → Prop} {Q Q' : α → σ → Prop} {R : β → σ → Prop}

/-- Steps in a row: what the first one leaves is what the second one begins with. -/
theorem Meets.bind (hx : Meets P x Q E) (hf : ∀ a, Meets (Q a) (f a) R E) :
    Meets P (x >>= f) R E := by
  intro i hi
  rcases hx i hi with ⟨a, i', hrun, hi'⟩ | ⟨fault, i', hrun, hi'⟩
  · rw [run_of_ok hrun]
    exact hf a i' hi'
  · exact .inr ⟨fault, i', run_of_error hrun, hi'⟩

/-- Less may be asked at the end, and more at the beginning. -/
theorem Meets.mono (hx : Meets P x Q E) (hP : ∀ i, P' i → P i) (hQ : ∀ a i, Q a i → Q' a i)
    (hE : ∀ i, E i → E' i) : Meets P' x Q' E' := by
  intro i hi
  rcases hx i (hP i hi) with ⟨a, i', hrun, hi'⟩ | ⟨fault, i', hrun, hi'⟩
  · exact .inl ⟨a, i', hrun, hQ a i' hi'⟩
  · exact .inr ⟨fault, i', hrun, hE i' hi'⟩

theorem Meets.pre (hx : Meets P x Q E) (hP : ∀ i, P' i → P i) : Meets P' x Q E :=
  hx.mono hP (fun _ _ h => h) fun _ h => h

theorem Meets.post (hx : Meets P x Q E) (hQ : ∀ a i, Q a i → Q' a i) : Meets P x Q' E :=
  hx.mono (fun _ h => h) hQ fun _ h => h

theorem Meets.fail (hx : Meets P x Q E) (hE : ∀ i, E i → E' i) : Meets P x Q E' :=
  hx.mono (fun _ h => h) (fun _ _ h => h) hE

/-- What is known of a step for two reasons. -/
theorem Meets.and (hx : Meets P x Q E) (hx' : Meets P' x Q' E') :
    Meets (fun i => P i ∧ P' i) x (fun a i => Q a i ∧ Q' a i) (fun i => E i ∧ E' i) := by
  intro i hi
  rcases hx i hi.1 with ⟨a, i', hrun, hQ⟩ | ⟨fault, i', hrun, hE⟩ <;>
    rcases hx' i hi.2 with ⟨a', i'', hrun', hQ'⟩ | ⟨fault', i'', hrun', hE'⟩ <;>
    cases hrun.symm.trans hrun'
  · exact .inl ⟨a, i', hrun, hQ, hQ'⟩
  · exact .inr ⟨fault, i', hrun, hE, hE'⟩

/-- A choice between two steps that both meet a specification. -/
theorem Meets.ite {c : Prop} [Decidable c] {y : ExceptT Fault (StateM σ) α} (hx : Meets P x Q E)
    (hy : Meets P y Q E) : Meets P (if c then x else y) Q E := by
  split
  · exact hx
  · exact hy

/-- A fault is caught where it left the state. -/
theorem Meets.tryCatch {g : Fault → ExceptT Fault (StateM σ) α} (hx : Meets P x Q E)
    (hg : ∀ fault, Meets E (g fault) Q E') : Meets P (tryCatch x g) Q E' := by
  intro i hi
  rw [run_tryCatch]
  rcases hx i hi with ⟨a, i', hrun, hi'⟩ | ⟨fault, i', hrun, hi'⟩
  · exact .inl ⟨a, i', by rw [hrun], hi'⟩
  · rw [hrun]
    exact hg fault i' hi'

/-- The state that is looked at is the one that is there. -/
theorem meets_get : Meets P (get : ExceptT Fault (StateM σ) σ) (fun a i => a = i ∧ P i) E :=
  fun i hi => .inl ⟨i, i, rfl, rfl, hi⟩

theorem meets_throw (fault : Fault) : Meets E (throw fault : ExceptT Fault (StateM σ) α) Q E :=
  fun i hi => .inr ⟨fault, i, rfl, hi⟩

/-- A change of the state leaves what it makes of it. -/
theorem meets_modify {g : σ → σ} (hg : ∀ i, P i → P' (g i)) :
    Meets P (modify g : ExceptT Fault (StateM σ) PUnit) (fun _ => P') E :=
  fun i hi => .inl ⟨_, g i, rfl, hg i hi⟩

/-- An outcome that gives a value leaves the state as it was, and so does one that gives none. -/
theorem meets_ofExcept (o : Outcome α) (hE : ∀ i, P i → E i) :
    Meets P (MonadExcept.ofExcept o : ExceptT Fault (StateM σ) α)
      (fun a i => o = .ok a ∧ P i) E := by
  intro i hi
  rw [run_ofExcept]
  cases o with
  | ok a => exact .inl ⟨a, i, rfl, rfl, hi⟩
  | error fault => exact .inr ⟨fault, i, rfl, hE i hi⟩

theorem meets_pure (a : α) : Meets P (pure a : ExceptT Fault (StateM σ) α) (fun _ => P) E :=
  fun i hi => .inl ⟨a, i, rfl, hi⟩

/-- Steps in a row keep what each of them keeps. -/
theorem Keeps.bind (hx : Keeps P x) (hf : ∀ a, Keeps P (f a)) : Keeps P (x >>= f) :=
  Meets.bind hx hf

/-- What a step leaves whether it stops or not, its run leaves. -/
theorem Meets.run (hx : Meets P x (fun _ => P') P') (hi : P i) : P' (x.run i).2 := by
  rcases hx i hi with ⟨a, i', hrun, hi'⟩ | ⟨fault, i', hrun, hi'⟩ <;> rwa [hrun]

/-- A step keeps what its run leaves. -/
theorem keeps_of_run (hx : ∀ i, P i → P (x.run i).2) : Keeps P x := by
  intro i hi
  have hi' := hx i hi
  cases hrun : x.run i with
  | mk o i' =>
    rw [hrun] at hi'
    cases o with
    | ok a => exact .inl ⟨a, i', rfl, hi'⟩
    | error fault => exact .inr ⟨fault, i', rfl, hi'⟩

/-- What a step leaves, and steps after it keep. -/
theorem Keeps.after (hf : ∀ a, Keeps P (f a)) (hx : P (x.run i).2) : P ((x >>= f).run i).2 := by
  cases hrun : x.run i with
  | mk o i' =>
    rw [hrun] at hx
    cases o with
    | error fault => rwa [run_of_error hrun]
    | ok a =>
      rw [run_of_ok hrun]
      exact (hf a).run hx

theorem Keeps.ite {c : Prop} [Decidable c] {y : ExceptT Fault (StateM σ) α} (hx : Keeps P x)
    (hy : Keeps P y) : Keeps P (if c then x else y) := Meets.ite hx hy

theorem keeps_pure (a : α) : Keeps P (pure a : ExceptT Fault (StateM σ) α) := meets_pure a

theorem Keeps.discard (hx : Keeps P x) : Keeps P (do let _ ← x) := hx.bind fun _ => keeps_pure _

theorem keeps_throw (fault : Fault) : Keeps P (throw fault : ExceptT Fault (StateM σ) α) :=
  meets_throw fault

theorem keeps_get : Keeps P (get : ExceptT Fault (StateM σ) σ) := fun i hi => .inl ⟨i, i, rfl, hi⟩

theorem keeps_modify {g : σ → σ} (hg : ∀ i, P i → P (g i)) :
    Keeps P (modify g : ExceptT Fault (StateM σ) PUnit) := meets_modify hg

theorem keeps_ofExcept (o : Outcome α) :
    Keeps P (MonadExcept.ofExcept o : ExceptT Fault (StateM σ) α) :=
  (meets_ofExcept o fun _ hi => hi).post fun _ _ h => h.2

/-- A loop keeps what every round keeps, and fails as a round fails. -/
theorem meets_forM {as : List α} {f : α → ExceptT Fault (StateM σ) PUnit}
    (hf : ∀ a ∈ as, Meets P (f a) (fun _ => P) E) : Meets P (as.forM f) (fun _ => P) E := by
  induction as with
  | nil => exact meets_pure _
  | cons a as ih =>
    obtain ⟨hfirst, hrest⟩ := List.forall_mem_cons.mp hf
    rw [List.forM_eq_forM, List.forM_cons]
    exact hfirst.bind fun _ => ih hrest

theorem keeps_forM {as : List α} {f : α → ExceptT Fault (StateM σ) PUnit}
    (hf : ∀ a ∈ as, Keeps P (f a)) : Keeps P (as.forM f) := meets_forM hf

/-- A loop that collects what its rounds give keeps what each of them keeps. -/
theorem keeps_mapM {as : List α} (hf : ∀ a, Keeps P (f a)) : Keeps P (as.mapM f) := by
  induction as with
  | nil =>
    rw [List.mapM_nil]
    exact keeps_pure _
  | cons a as ih =>
    rw [List.mapM_cons]
    exact (hf a).bind fun _ => ih.bind fun _ => keeps_pure _

end Meeting

end BlockSketch
