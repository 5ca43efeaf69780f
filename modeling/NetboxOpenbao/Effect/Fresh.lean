import Mathlib.Data.List.Nodup
import Mathlib.Data.List.Perm.Subperm
import Mathlib.Data.List.Range

/-!
# Names that nobody has taken

A search through numbered candidates for one that is not taken. Candidates that differ in their number are different,
so of one more than there are taken names one is free, and the search finds it.
-/

namespace Effect

namespace Fresh

variable {α : Type} [DecidableEq α] (candidate : Nat → α) (taken : List α)

/-- The first candidate from a number on that is not taken, if it is among the next `fuel` ones. -/
def search : Nat → Nat → Option α
  | 0, _ => none
  | fuel + 1, attempt =>
      if candidate attempt ∈ taken then search fuel (attempt + 1) else some (candidate attempt)

variable {candidate taken}

/-- What is found is free, and everything before it was taken. -/
theorem search_some {fuel attempt : Nat} {a : α} (h : search candidate taken fuel attempt = some a) :
    ∃ n, n < fuel ∧ a = candidate (attempt + n) ∧ a ∉ taken ∧ ∀ m, m < n → candidate (attempt + m) ∈ taken := by
  induction fuel generalizing attempt with
  | zero => cases h
  | succ fuel ih =>
      unfold search at h
      split at h
      · next htaken =>
          obtain ⟨n, hn, ha, hfree, hbefore⟩ := ih h
          refine ⟨n + 1, Nat.succ_lt_succ hn, by rw [ha]; congr 1; omega, hfree, fun m hm => ?_⟩
          cases m with
          | zero => exact htaken
          | succ m =>
              have hearlier := hbefore m (Nat.lt_of_succ_lt_succ hm)
              rwa [Nat.add_right_comm, Nat.add_assoc] at hearlier
      · next hfree =>
          refine ⟨0, Nat.succ_pos fuel, (Option.some.inj h).symm, ?_, fun m hm => absurd hm (Nat.not_lt_zero m)⟩
          rwa [← Option.some.inj h]

theorem search_none {fuel attempt : Nat} (h : search candidate taken fuel attempt = none) :
    ∀ n, n < fuel → candidate (attempt + n) ∈ taken := by
  induction fuel generalizing attempt with
  | zero => exact fun n hn => absurd hn (Nat.not_lt_zero n)
  | succ fuel ih =>
      unfold search at h
      split at h
      · next htaken =>
          intro n hn
          cases n with
          | zero => exact htaken
          | succ n =>
              have hlater := ih h n (Nat.lt_of_succ_lt_succ hn)
              rwa [Nat.add_right_comm, Nat.add_assoc] at hlater
      · cases h

/-- One of the candidates is free, at most as many as there are taken names come before it. -/
theorem search_exists {candidate : Nat → α} (hdistinct : ∀ m n, candidate m = candidate n → m = n) (taken : List α) :
    ∃ n, n ≤ taken.length ∧ candidate n ∉ taken ∧ search candidate taken (taken.length + 1) 0 = some (candidate n) := by
  cases hsearch : search candidate taken (taken.length + 1) 0 with
  | some a =>
      obtain ⟨n, hn, ha, hfree, -⟩ := search_some hsearch
      rw [Nat.zero_add] at ha
      exact ⟨n, Nat.le_of_lt_succ hn, ha ▸ hfree, ha ▸ rfl⟩
  | none =>
      have hall := search_none hsearch
      have hnodup : ((List.range (taken.length + 1)).map candidate).Nodup :=
        List.nodup_range.map fun m n hsame => hdistinct m n hsame
      have hsubset : (List.range (taken.length + 1)).map candidate ⊆ taken := by
        intro a ha
        obtain ⟨n, hn, rfl⟩ := List.mem_map.mp ha
        exact Nat.zero_add n ▸ hall n (List.mem_range.mp hn)
      have hlength := (List.subperm_of_subset hnodup hsubset).length_le
      rw [List.length_map, List.length_range] at hlength
      exact absurd hlength (Nat.not_succ_le_self _)

end Fresh

end Effect
