/-!
# Steps that may fail

When a computation succeeds or fails that takes one step after the other, and what it gives if its
steps also change a state.
-/

namespace DocumentDb

variable {ε α β : Type}

/-- Two steps succeed exactly if the first one does, and the second one with its result. -/
theorem bind_eq_ok_iff {r : Except ε α} {f : α → Except ε β} {b : β} :
    r >>= f = .ok b ↔ ∃ a, r = .ok a ∧ f a = .ok b := by
  cases r <;> simp [bind, Except.bind]

/-- If the first step can have one result only, then the second step begins with that. -/
theorem bind_eq_ok_iff_of {r : Except ε α} {f : α → Except ε β} {P : Prop} {a : α} {b : β}
    (h : ∀ a', r = .ok a' ↔ P ∧ a' = a) : r >>= f = .ok b ↔ P ∧ f a = .ok b := by
  rw [bind_eq_ok_iff]
  constructor
  · rintro ⟨a', ha, hf⟩
    obtain ⟨hP, rfl⟩ := (h a').1 ha
    exact ⟨hP, hf⟩
  · rintro ⟨hP, hf⟩
    exact ⟨a, (h a).2 ⟨hP, rfl⟩, hf⟩

theorem pure_eq_ok_iff {a b : α} : (pure a : Except ε α) = .ok b ↔ b = a := by
  simp [pure, Except.pure, eq_comm]

theorem bind_pure_eq_ok_iff {r : Except ε α} {f : α → β} {b : β} :
    (do return f (← r)) = .ok b ↔ ∃ a, r = .ok a ∧ b = f a := by
  simp only [bind_eq_ok_iff, pure_eq_ok_iff]

/-- A check and a further step succeed exactly if both do. -/
theorem check_eq_ok_iff {r : Except ε Unit} {x : Except ε β} {b : β} :
    (do r; x) = .ok b ↔ r = .ok () ∧ x = .ok b := by
  cases r <;> simp [bind, Except.bind]

/-- Two steps fail exactly if the first one does, or the second one with its result. -/
theorem bind_eq_error_iff {r : Except ε α} {f : α → Except ε β} {e : ε} :
    r >>= f = .error e ↔ r = .error e ∨ ∃ a, r = .ok a ∧ f a = .error e := by
  cases r <;> simp [bind, Except.bind]

theorem bind_pure_eq_error_iff {r : Except ε α} {f : α → β} {e : ε} :
    (do return f (← r)) = .error e ↔ r = .error e := by
  cases r <;> simp [bind, Except.bind, pure, Except.pure]

theorem map_eq_error_iff {r : Except ε α} {f : α → β} {e : ε} :
    f <$> r = .error e ↔ r = .error e := by
  cases r <;> simp [Functor.map, Except.map]

/-- The error that a computation ends in. -/
def failure? : Except ε α → Option ε
  | .ok _ => none
  | .error e => some e

theorem failure?_eq_some_iff {r : Except ε α} {e : ε} : failure? r = some e ↔ r = .error e := by
  cases r <;> simp [failure?]

theorem failure?_eq_none_iff {r : Except ε α} : failure? r = none ↔ ∃ a, r = .ok a := by
  cases r <;> simp [failure?]

theorem failure?_bind_pure (r : Except ε α) (f : α → β) :
    failure? (do return f (← r)) = failure? r := by
  cases r <;> rfl

/-- Of two steps the first one that fails gives the error. -/
theorem failure?_bind {r : Except ε α} {f : α → Except ε β} {o : Option ε}
    (h : ∀ a, failure? (f a) = o) : failure? (r >>= f) = (failure? r).or o := by
  cases r with
  | ok a => exact h a
  | error e => rfl

/-- A loop fails with the first of its steps that does. -/
theorem failure?_mapM (f : α → Except ε β) (as : List α) :
    failure? (as.mapM f) = as.findSome? fun a => failure? (f a) := by
  induction as with
  | nil => rfl
  | cons a as ih =>
    rw [List.mapM_cons, List.findSome?_cons, ← ih]
    cases f a with
    | error e => rfl
    | ok b => exact failure?_bind_pure (as.mapM f) (b :: ·)

/-- A computation gives no result. -/
def Fails (r : Except ε α) : Prop :=
  ∃ e, r = .error e

theorem Fails.bind {r : Except ε α} (h : Fails r) (f : α → Except ε β) : Fails (r >>= f) := by
  obtain ⟨e, rfl⟩ := h
  exact ⟨e, rfl⟩

theorem Fails.bind_right {f : α → Except ε β} (h : ∀ a, Fails (f a)) (r : Except ε α) :
    Fails (r >>= f) := by
  cases r with
  | ok a => exact h a
  | error e => exact ⟨e, rfl⟩

/-- A loop succeeds if all its steps do. -/
theorem mapM_eq_ok_map {f : α → Except ε β} {g : α → β} {as : List α}
    (h : ∀ a ∈ as, f a = .ok (g a)) : as.mapM f = .ok (as.map g) := by
  induction as with
  | nil => rfl
  | cons a as ih =>
    rw [List.mapM_cons, h a List.mem_cons_self, ih fun b hb => h b (List.mem_cons_of_mem a hb)]
    rfl

/-- A loop that carries a value along succeeds exactly if all its steps do. -/
theorem foldlM_eq_ok_iff {f : β → α → Except ε β} {P : α → Prop} {g : β → α → β}
    (h : ∀ b a b', f b a = .ok b' ↔ P a ∧ b' = g b a) {as : List α} {b b' : β} :
    as.foldlM f b = .ok b' ↔ (∀ a ∈ as, P a) ∧ b' = as.foldl g b := by
  induction as generalizing b with
  | nil => simp [pure_eq_ok_iff]
  | cons a as ih =>
    rw [List.foldlM_cons, bind_eq_ok_iff_of (h b a), ih, List.forall_mem_cons, and_assoc,
      List.foldl_cons]

/-! ## Steps with a state -/

variable {σ : Type}

theorem run_bind (x : ExceptT ε (StateM σ) α) (f : α → ExceptT ε (StateM σ) β) (s : σ) :
    (x >>= f).run.run s =
      match x.run.run s with
      | (.ok a, t) => (f a).run.run t
      | (.error e, t) => (.error e, t) := by
  rw [ExceptT.run_bind, StateT.run_bind]
  obtain ⟨_ | a, t⟩ := x.run.run s <;> rfl

theorem run_bind_of_ok {x : ExceptT ε (StateM σ) α} {s t : σ} {a : α}
    (h : x.run.run s = (.ok a, t)) (f : α → ExceptT ε (StateM σ) β) :
    (x >>= f).run.run s = (f a).run.run t := by
  rw [run_bind, h]

theorem run_bind_pure (x : ExceptT ε (StateM σ) α) (f : α → β) (s : σ) :
    (do return f (← x) : ExceptT ε (StateM σ) β).run.run s =
      ((x.run.run s).1.map f, (x.run.run s).2) := by
  rw [run_bind]
  obtain ⟨_ | a, t⟩ := x.run.run s <;> rfl

theorem run_tryCatch (x : ExceptT ε (StateM σ) α) (f : ε → ExceptT ε (StateM σ) α) (s : σ) :
    (tryCatch x f).run.run s =
      match x.run.run s with
      | (.ok a, t) => (.ok a, t)
      | (.error e, t) => (f e).run.run t := by
  have hcatch : (tryCatch x f).run.run s = (ExceptT.tryCatch x f).run.run s := rfl
  rw [hcatch, ExceptT.tryCatch, ExceptT.run_mk]
  show (StateT.run (x.run >>= _) s) = _
  rw [StateT.run_bind]
  obtain ⟨_ | a, t⟩ := x.run.run s <;> rfl

end DocumentDb
