import NetboxOpenbao.Effect.Dialogue

/-!
# What is ahead of a program

Whether a program may still make one request without making one of another kind first, and what holds of what is left
of it whenever a request has been answered. Both look at the program alone, so they stay true of a program that waits
while others go on.
-/

namespace Effect

namespace Dialogue

variable {ε ρ : Type} {val : ρ → Type} {α β : Type}

/-- Some answers lead to the request `target`, and no request of the kind `skips` comes before it. -/
def Comes (skips : ρ → Prop) (target : ρ) : Dialogue ε ρ val α → Prop
  | .done _ => False
  | .ask r next => r = target ∨ (¬ skips r ∧ ∃ answer, (next answer).Comes skips target)

variable {skips : ρ → Prop} {target : ρ} {d : Dialogue ε ρ val α} {f : α → Dialogue ε ρ val β}

theorem Comes.pending {r : ρ} (h : d.pending = some r) : d.Comes skips r := by
  cases d with
  | done result => cases h
  | ask r' next => exact .inl (Option.some.inj h)

/-- What comes after an answer came before it, if the answered request is not of the kind. -/
theorem Comes.answered {r : ρ} {next : Except ε (val r) → Dialogue ε ρ val α} {answer : Except ε (val r)}
    (hr : ¬ skips r) (h : (next answer).Comes skips target) : (ask r next).Comes skips target :=
  .inr ⟨hr, answer, h⟩

theorem not_comes_of_avoids (hd : d.Avoids (· = target)) : ¬ d.Comes skips target := by
  induction d with
  | done result => exact id
  | ask r next ih =>
      rintro (hsame | ⟨-, answer, hcomes⟩)
      · exact hd.1 hsame
      · exact ih answer (hd.2 answer) hcomes

theorem Comes.bind (h : (d >>= f).Comes skips target) : d.Comes skips target ∨ ∃ a, (f a).Comes skips target := by
  induction d with
  | done result =>
      cases result with
      | ok a => exact .inr ⟨a, h⟩
      | error err => exact absurd h id
  | ask r next ih =>
      rcases h with hsame | ⟨hr, answer, hcomes⟩
      · exact .inl (.inl hsame)
      · rcases ih answer hcomes with hfirst | hsecond
        · exact .inl (.inr ⟨hr, answer, hfirst⟩)
        · exact .inr hsecond

/-- A first part that does not make the request is over when it comes. -/
theorem Comes.after_avoids (h : (d >>= f).Comes skips target) (hd : d.Avoids (· = target)) :
    ∃ a, (f a).Comes skips target := by
  rcases h.bind with hfirst | hsecond
  · exact absurd hfirst (not_comes_of_avoids hd)
  · exact hsecond

theorem Comes.done_bind {a : α} (h : (done (.ok a) >>= f : Dialogue ε ρ val β).Comes skips target) :
    (f a).Comes skips target := h

theorem Comes.attempt (h : d.attempt.Comes skips target) : d.Comes skips target := by
  induction d with
  | done result => exact absurd h id
  | ask r next ih =>
      rcases h with hsame | ⟨hr, answer, hcomes⟩
      · exact .inl hsame
      · exact .inr ⟨hr, answer, ih answer hcomes⟩

/-- A request of the kind stands before whatever is after it. -/
theorem not_comes_of_skips {r : ρ} {g : val r → Dialogue ε ρ val β} (hr : skips r) (hne : r ≠ target) :
    ¬ (request r >>= g).Comes skips target := by
  rintro (hsame | ⟨hnot, -⟩)
  · exact hne hsame
  · exact hnot hr

/-! ### After an answer -/

/-- Whenever the request `r₀` is answered, `C` holds of the answer and of what is left. -/
def After (r₀ : ρ) (C : Except ε (val r₀) → Dialogue ε ρ val α → Prop) : Dialogue ε ρ val α → Prop
  | .done _ => True
  | .ask r next => (∀ (same : r₀ = r) (answer : Except ε (val r₀)), C answer (next (same ▸ answer))) ∧
      ∀ answer, (next answer).After r₀ C

variable {r₀ : ρ} {C : Except ε (val r₀) → Dialogue ε ρ val α → Prop}

theorem After.of_avoids (hd : d.Avoids (· = r₀)) : d.After r₀ C := by
  induction d with
  | done result => trivial
  | ask r next ih => exact ⟨fun same _ => absurd same.symm hd.1, fun answer => ih answer (hd.2 answer)⟩

theorem After.bind {D : Except ε (val r₀) → Dialogue ε ρ val β → Prop} (hd : d.After r₀ C)
    (hCD : ∀ answer left, C answer left → D answer (left >>= f)) (hf : ∀ a, (f a).After r₀ D) :
    (d >>= f).After r₀ D := by
  induction d with
  | done result =>
      cases result with
      | ok a => exact hf a
      | error err => trivial
  | ask r next ih => exact ⟨fun same answer => hCD _ _ (hd.1 same answer), fun answer => ih answer (hd.2 answer)⟩

/-- A first part that does not make the request. -/
theorem After.bind_avoids {D : Except ε (val r₀) → Dialogue ε ρ val β → Prop} (hd : d.Avoids (· = r₀))
    (hf : ∀ a, (f a).After r₀ D) : (d >>= f).After r₀ D :=
  After.bind (C := fun _ _ => False) (.of_avoids hd) (fun _ _ hnever => hnever.elim) hf

theorem After.attempt {D : Except ε (val r₀) → Dialogue ε ρ val (Except ε α) → Prop} (hd : d.After r₀ C)
    (hCD : ∀ answer left, C answer left → D answer left.attempt) : d.attempt.After r₀ D := by
  induction d with
  | done result => trivial
  | ask r next ih => exact ⟨fun same answer => hCD _ _ (hd.1 same answer), fun answer => ih answer (hd.2 answer)⟩

/-- The request itself, and a program that does not make it again. -/
theorem After.request {g : val r₀ → Dialogue ε ρ val α} (hok : ∀ a, C (.ok a) (g a))
    (herror : ∀ err, C (.error err) (raise err)) (hg : ∀ a, (g a).Avoids (· = r₀)) :
    (Dialogue.request r₀ >>= g).After r₀ C := by
  refine ⟨fun same answer => ?_, fun answer => ?_⟩
  · cases same
    cases answer with
    | ok a => exact hok a
    | error err => exact herror err
  · cases answer with
    | ok a => exact .of_avoids (hg a)
    | error err => trivial

end Dialogue

end Effect
