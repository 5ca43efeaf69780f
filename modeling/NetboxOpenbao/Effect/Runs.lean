/-!
# Runs of a step function

A run is a list of inputs fed to a step function one after another. `Throughout` says what holds of
every state a run reaches, `Along` what holds of every step it takes, each step read together with the
state it starts from. The rules turn a fact about one step into a fact about whole runs.
-/

namespace Effect

namespace Runs

variable {σ ι : Type} (step : σ → ι → σ)

/-- The state a run ends in. -/
def final (s : σ) (is : List ι) : σ := is.foldl step s

/-- `P` holds of every state of the run, the first and the last included. -/
def Throughout (P : σ → Prop) : σ → List ι → Prop
  | s, [] => P s
  | s, i :: is => P s ∧ Throughout P (step s i) is

/-- `C` holds of every step of the run, at the state the step starts from. -/
def Along (C : σ → ι → Prop) : σ → List ι → Prop
  | _, [] => True
  | s, i :: is => C s i ∧ Along C (step s i) is

variable {step} {P Q : σ → Prop} {C D : σ → ι → Prop}

@[simp] theorem final_nil (s : σ) : final step s [] = s := rfl

@[simp] theorem final_cons (s : σ) (i : ι) (is : List ι) :
    final step s (i :: is) = final step (step s i) is := rfl

theorem final_append (s : σ) (is js : List ι) :
    final step s (is ++ js) = final step (final step s is) js := by
  simp [final]

theorem Throughout.head {s : σ} {is : List ι} (h : Throughout step P s is) : P s := by
  cases is with
  | nil => exact h
  | cons i is => exact h.1

theorem Throughout.final {s : σ} {is : List ι} (h : Throughout step P s is) : P (final step s is) := by
  induction is generalizing s with
  | nil => exact h
  | cons i is ih => exact ih h.2

theorem Throughout.mono (hPQ : ∀ s, P s → Q s) {s : σ} {is : List ι} (h : Throughout step P s is) :
    Throughout step Q s is := by
  induction is generalizing s with
  | nil => exact hPQ s h
  | cons i is ih => exact ⟨hPQ s h.1, ih h.2⟩

theorem Along.mono (hCD : ∀ s i, C s i → D s i) {s : σ} {is : List ι} (h : Along step C s is) :
    Along step D s is := by
  induction is generalizing s with
  | nil => trivial
  | cons i is ih => exact ⟨hCD s i h.1, ih h.2⟩

theorem Along.and {s : σ} {is : List ι} (h : Along step C s is) (h' : Along step D s is) :
    Along step (fun s i => C s i ∧ D s i) s is := by
  induction is generalizing s with
  | nil => trivial
  | cons i is ih => exact ⟨⟨h.1, h'.1⟩, ih h.2 h'.2⟩

theorem along_congr (hCD : ∀ s i, C s i ↔ D s i) {s : σ} {is : List ι} : Along step C s is ↔ Along step D s is :=
  ⟨Along.mono fun s i => (hCD s i).mp, Along.mono fun s i => (hCD s i).mpr⟩

theorem along_of_forall (hC : ∀ s i, C s i) (s : σ) (is : List ι) : Along step C s is := by
  induction is generalizing s with
  | nil => trivial
  | cons i is ih => exact ⟨hC s i, ih (step s i)⟩

/-- A condition on the inputs alone. -/
theorem along_of_mem {A : ι → Prop} {is : List ι} (hA : ∀ i ∈ is, A i) (s : σ) :
    Along step (fun _ i => A i) s is := by
  induction is generalizing s with
  | nil => trivial
  | cons i is ih => exact ⟨hA i List.mem_cons_self, ih (fun j hj => hA j (List.mem_cons_of_mem i hj)) (step s i)⟩

theorem along_append {s : σ} {is js : List ι} :
    Along step C s (is ++ js) ↔ Along step C s is ∧ Along step C (final step s is) js := by
  induction is generalizing s with
  | nil => simp [Along]
  | cons i is ih => simp [Along, ih, and_assoc]

/-- The invariant rule: what one admissible step preserves, a run of admissible steps keeps. -/
theorem throughout_of_along (hstep : ∀ s i, P s → C s i → P (step s i)) {s : σ} {is : List ι}
    (hs : P s) (h : Along step C s is) : Throughout step P s is := by
  induction is generalizing s with
  | nil => exact hs
  | cons i is ih => exact ⟨hs, ih (hstep s i hs h.1) h.2⟩

/-- What every step preserves, every run keeps. -/
theorem throughout_of_step (hstep : ∀ s i, P s → P (step s i)) {s : σ} (hs : P s) (is : List ι) :
    Throughout step P s is := by
  induction is generalizing s with
  | nil => exact hs
  | cons i is ih => exact ⟨hs, ih (hstep s i hs)⟩

/-- An invariant of the states turns a fact about single steps into one about every step of a run. -/
theorem along_of_throughout (hCD : ∀ s i, P s → C s i → D s i) {s : σ} {is : List ι}
    (hs : Throughout step P s is) (h : Along step C s is) : Along step D s is := by
  induction is generalizing s with
  | nil => trivial
  | cons i is ih => exact ⟨hCD s i hs.1 h.1, ih hs.2 h.2⟩

/-- When an admissible step from a good state is good exactly if it meets `C`, a run of admissible steps stays
good exactly if every step of it meets `C`. -/
theorem throughout_iff_along {I : σ → Prop} {A : σ → ι → Prop}
    (hkeep : ∀ s i, I s → A s i → I (step s i))
    (hstep : ∀ s i, I s → A s i → P s → (P (step s i) ↔ C s i)) {s : σ} {is : List ι} (hI : I s) (hs : P s)
    (hA : Along step A s is) : Throughout step P s is ↔ Along step C s is := by
  induction is generalizing s with
  | nil => exact iff_of_true hs trivial
  | cons i is ih =>
      have hnext : I (step s i) := hkeep s i hI hA.1
      constructor
      · intro h
        exact ⟨(hstep s i hI hA.1 hs).mp h.2.head, (ih hnext h.2.head hA.2).mp h.2⟩
      · intro h
        have hgood : P (step s i) := (hstep s i hI hA.1 hs).mpr h.1
        exact ⟨hs, (ih hnext hgood hA.2).mpr h.2⟩

/-- Two conditions that agree on admissible steps from states of an invariant agree on runs of such steps. -/
theorem along_iff_along {I : σ → Prop} {A : σ → ι → Prop} (hkeep : ∀ s i, I s → A s i → I (step s i))
    (hstep : ∀ s i, I s → A s i → (C s i ↔ D s i)) {s : σ} {is : List ι} (hI : I s) (hA : Along step A s is) :
    Along step C s is ↔ Along step D s is := by
  induction is generalizing s with
  | nil => exact Iff.rfl
  | cons i is ih => exact and_congr (hstep s i hI hA.1) (ih (hkeep s i hI hA.1) hA.2)

/-- It is enough that a step that meets the conditions keeps the invariant. -/
theorem along_iff_along_of_kept {I : σ → Prop} {A : σ → ι → Prop}
    (hkeep : ∀ s i, I s → A s i → C s i → I (step s i)) (hstep : ∀ s i, I s → A s i → (C s i ↔ D s i)) {s : σ}
    {is : List ι} (hI : I s) (hA : Along step A s is) : Along step C s is ↔ Along step D s is := by
  induction is generalizing s with
  | nil => exact Iff.rfl
  | cons i is ih =>
      have hrest : C s i → (Along step C (step s i) is ↔ Along step D (step s i) is) :=
        fun hC => ih (hkeep s i hI hA.1 hC) hA.2
      exact (and_congr_right hrest).trans (and_congr_left' (hstep s i hI hA.1))

end Runs

end Effect
