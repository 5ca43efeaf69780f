import Mathlib.Order.Defs.Unbundled

/-!
# Programs with a state and exceptions

A program reads and writes a state and either returns or throws. A throw does not undo anything: the
state it was thrown in is the state its handler starts from, which is what an exception does to the
world outside the program. Undoing is for the program itself to do, by putting an earlier state back.

Two ways of reasoning are used throughout. `Steps R x` says that every run of `x`, returning or
throwing, takes the state along a relation `R`; for a reflexive and transitive `R` it follows from the
parts of `x`. The inversion lemmas (`bind_ok` and its companions) take a run that returned apart into
the runs of its parts.
-/

namespace Effect

/-- A program over states `σ` that returns an `α` or throws an `ε`. -/
def Prog (ε σ α : Type) : Type := σ → Except ε α × σ

namespace Prog

variable {ε σ α β : Type}

instance : Monad (Prog ε σ) where
  pure a := fun s => (.ok a, s)
  bind x f := fun s =>
    match x s with
    | (.ok a, t) => f a t
    | (.error e, t) => (.error e, t)

instance : MonadExcept ε (Prog ε σ) where
  throw e := fun s => (.error e, s)
  tryCatch x handler := fun s =>
    match x s with
    | (.ok a, t) => (.ok a, t)
    | (.error e, t) => handler e t

instance : MonadStateOf σ (Prog ε σ) where
  get := fun s => (.ok s, s)
  set t := fun _ => (.ok (), t)
  modifyGet f := fun s => (.ok (f s).1, (f s).2)

/-- The outcome of `x` as a value, so that the caller can act on a failure and throw it again. -/
def attempt (x : Prog ε σ α) : Prog ε σ (Except ε α) := fun s => (.ok (x s).1, (x s).2)

/-- Return or throw what an earlier `attempt` caught. -/
def resume (r : Except ε α) : Prog ε σ α := fun s => (r, s)

/-! ### Running the combinators -/

theorem pure_run (a : α) (s : σ) : (pure a : Prog ε σ α) s = (.ok a, s) := rfl

theorem throw_run (e : ε) (s : σ) : (throw e : Prog ε σ α) s = (.error e, s) := rfl

theorem attempt_run (x : Prog ε σ α) (s : σ) : attempt x s = (.ok (x s).1, (x s).2) := rfl

theorem resume_run (r : Except ε α) (s : σ) : (resume r : Prog ε σ α) s = (r, s) := rfl

theorem get_run (s : σ) : (get : Prog ε σ σ) s = (.ok s, s) := rfl

theorem modify_run (f : σ → σ) (s : σ) : (modify f : Prog ε σ Unit) s = (.ok (), f s) := rfl

theorem bind_run (x : Prog ε σ α) (f : α → Prog ε σ β) (s : σ) :
    (x >>= f) s = match x s with
      | (.ok a, t) => f a t
      | (.error e, t) => (.error e, t) := rfl

theorem bind_run_ok {x : Prog ε σ α} {s t : σ} {a : α} (h : x s = (.ok a, t)) (f : α → Prog ε σ β) :
    (x >>= f) s = f a t := by
  rw [bind_run, h]

theorem bind_run_error {x : Prog ε σ α} {s t : σ} {e : ε} (h : x s = (.error e, t))
    (f : α → Prog ε σ β) : (x >>= f) s = (.error e, t) := by
  rw [bind_run, h]

theorem tryCatch_run (x : Prog ε σ α) (handler : ε → Prog ε σ α) (s : σ) :
    (tryCatch x handler) s = match x s with
      | (.ok a, t) => (.ok a, t)
      | (.error e, t) => handler e t := rfl

/-! ### Taking a returning run apart -/

theorem pure_ok {a b : α} {s t : σ} (h : (pure a : Prog ε σ α) s = (.ok b, t)) : a = b ∧ s = t := by
  cases h
  exact ⟨rfl, rfl⟩

theorem throw_ok {e : ε} {b : α} {s t : σ} (h : (throw e : Prog ε σ α) s = (.ok b, t)) : False := by
  cases h

theorem bind_ok {x : Prog ε σ α} {f : α → Prog ε σ β} {s t : σ} {b : β}
    (h : (x >>= f) s = (.ok b, t)) : ∃ a u, x s = (.ok a, u) ∧ f a u = (.ok b, t) := by
  rw [bind_run] at h
  match hx : x s with
  | (.ok a, u) => exact ⟨a, u, rfl, by rw [hx] at h; exact h⟩
  | (.error e, u) => rw [hx] at h; cases h

theorem get_ok {s t a : σ} (h : (get : Prog ε σ σ) s = (.ok a, t)) : a = s ∧ t = s := by
  cases h
  exact ⟨rfl, rfl⟩

/-! ### What every run preserves -/

/-- Every run of `x` takes the state along `R`, whether it returns or throws. -/
def Steps (R : σ → σ → Prop) (x : Prog ε σ α) : Prop := ∀ s, R s (x s).2

variable {R : σ → σ → Prop}

theorem Steps.of_ok {x : Prog ε σ α} (hx : Steps R x) {s t : σ} {a : α} (h : x s = (.ok a, t)) :
    R s t := by
  have := hx s
  rwa [h] at this

theorem Steps.of_error {x : Prog ε σ α} (hx : Steps R x) {s t : σ} {e : ε} (h : x s = (.error e, t)) :
    R s t := by
  have := hx s
  rwa [h] at this

theorem Steps.mono {S : σ → σ → Prop} {x : Prog ε σ α} (hx : Steps R x) (h : ∀ s t, R s t → S s t) :
    Steps S x := fun s => h _ _ (hx s)

theorem Steps.modify {f : σ → σ} (h : ∀ s, R s (f s)) : Steps R (modify f : Prog ε σ Unit) := h

variable [Std.Refl R]

theorem Steps.pure (a : α) : Steps R (pure a : Prog ε σ α) := fun s => refl_of R s

theorem Steps.throw (e : ε) : Steps R (throw e : Prog ε σ α) := fun s => refl_of R s

theorem Steps.get : Steps R (get : Prog ε σ σ) := fun s => refl_of R s

theorem Steps.resume (r : Except ε α) : Steps R (resume r : Prog ε σ α) := fun s => refl_of R s

omit [Std.Refl R] in
variable [IsTrans σ R] in
theorem Steps.bind {x : Prog ε σ α} {f : α → Prog ε σ β} (hx : Steps R x) (hf : ∀ a, Steps R (f a)) :
    Steps R (x >>= f) := by
  intro s
  rw [bind_run]
  match h : x s with
  | (.ok a, t) => exact trans_of R (hx.of_ok h) (hf a t)
  | (.error e, t) => exact hx.of_error h

omit [Std.Refl R] in
variable [IsTrans σ R] in
theorem Steps.tryCatch {x : Prog ε σ α} {handler : ε → Prog ε σ α} (hx : Steps R x)
    (hh : ∀ e, Steps R (handler e)) : Steps R (tryCatch x handler) := by
  intro s
  rw [tryCatch_run]
  match h : x s with
  | (.ok a, t) => exact hx.of_ok h
  | (.error e, t) => exact trans_of R (hx.of_error h) (hh e t)

end Prog

end Effect
