/-!
# Exclusive locks held by sessions

A table of locks, each free or held by one session. A session may take a lock it holds already, and gives locks
up only by itself, which is what a transaction-scoped lock is for as long as the transaction lasts.
-/

namespace Effect

variable {κ σ : Type} [DecidableEq κ] [DecidableEq σ]

/-- Who holds which lock. -/
structure Locks (κ σ : Type) where
  holder : κ → Option σ

namespace Locks

def free : Locks κ σ := ⟨fun _ => none⟩

/-- Take the lock on `k`, unless another session holds it. -/
def acquire (locks : Locks κ σ) (k : κ) (s : σ) : Option (Locks κ σ) :=
  if locks.holder k = none ∨ locks.holder k = some s then
    some ⟨fun k' => if k' = k then some s else locks.holder k'⟩
  else none

/-- Session `s` gives up the locks outside `keeps`. -/
def release (locks : Locks κ σ) (s : σ) (keeps : κ → Bool) : Locks κ σ :=
  ⟨fun k => if locks.holder k = some s ∧ keeps k = false then none else locks.holder k⟩

variable {locks locks' : Locks κ σ} {k k' : κ} {s t : σ}

theorem acquire_self (h : locks.acquire k s = some locks') : locks'.holder k = some s := by
  unfold acquire at h
  split at h
  · obtain rfl := Option.some.inj h
    simp
  · cases h

/-- Taking a lock takes none from anybody. -/
theorem acquire_kept (h : locks.acquire k s = some locks') (hheld : locks.holder k' = some t) :
    locks'.holder k' = some t := by
  unfold acquire at h
  split at h
  · next hopen =>
      obtain rfl := Option.some.inj h
      by_cases hk : k' = k
      · subst hk
        rcases hopen with hfree | hown
        · rw [hfree] at hheld
          cases hheld
        · simpa using hown.symm.trans hheld
      · simpa [hk] using hheld
  · cases h

omit [DecidableEq κ] in
/-- Giving locks up takes none from another session. -/
theorem release_other {keeps : κ → Bool} (hne : t ≠ s) (hheld : locks.holder k = some t) :
    (locks.release s keeps).holder k = some t := by
  have hother : ¬ (locks.holder k = some s ∧ keeps k = false) := by
    rintro ⟨hs, -⟩
    exact hne (Option.some.inj (hheld.symm.trans hs))
  simpa [release, hother] using hheld

omit [DecidableEq κ] in
/-- A session keeps what it says it keeps. -/
theorem release_kept {keeps : κ → Bool} (hkeeps : keeps k = true) :
    (locks.release s keeps).holder k = locks.holder k := by
  simp [release, hkeeps]

end Locks

end Effect
