import NetboxOpenbao.Effect.Dialogue

/-!
# Dialogues side by side

Sessions that each run a program of their own, and take turns in any order. A turn is one exchange of one session, with
the time of its answer. What a session has done is its own history, and between its turns the others can have done
anything.
-/

namespace Effect

structure Turn (ι ε ρ : Type) (val : ρ → Type) where
  session : ι
  time : Nat
  exchange : Exchange ε ρ val

namespace Dialogue

variable {ι ε ρ α : Type} {val : ρ → Type} [DecidableEq ι]

/-- The exchanges of one session. -/
def ownHistory (i : ι) : List (Turn ι ε ρ val) → List (Exchange ε ρ val)
  | [] => []
  | turn :: turns => if turn.session = i then turn.exchange :: ownHistory i turns else ownHistory i turns

/-- The turns that sessions with these programs have taken, and what is left of each. -/
inductive Interleaved (programs : ι → Dialogue ε ρ val α) :
    List (Turn ι ε ρ val) → (ι → Dialogue ε ρ val α) → Prop
  | start : Interleaved programs [] programs
  | turn {rest : ι → Dialogue ε ρ val α} {turns : List (Turn ι ε ρ val)} (earlier : Interleaved programs turns rest)
      (i : ι) (time : Nat) {r : ρ}
      {next : Except ε (val r) → Dialogue ε ρ val α} (waiting : rest i = .ask r next) (answer : Except ε (val r)) :
      Interleaved programs (turns ++ [⟨i, time, ⟨r, answer⟩⟩]) fun j => if j = i then next answer else rest j

variable {programs rest : ι → Dialogue ε ρ val α} {turns : List (Turn ι ε ρ val)} {i : ι}

theorem ownHistory_append (turns more : List (Turn ι ε ρ val)) :
    ownHistory i (turns ++ more) = ownHistory i turns ++ ownHistory i more := by
  induction turns with
  | nil => rfl
  | cons turn turns ih =>
      rw [List.cons_append, ownHistory, ownHistory, ih]
      split <;> rfl

theorem mem_ownHistory {x : Exchange ε ρ val} :
    x ∈ ownHistory i turns ↔ ∃ turn ∈ turns, turn.session = i ∧ turn.exchange = x := by
  induction turns with
  | nil => simp [ownHistory]
  | cons turn turns ih =>
      rw [ownHistory]
      split
      · next hown => simp [ih, hown, eq_comm]
      · next hother => simp [ih, hother]

/-- A session's own history is one of its program. -/
theorem Interleaved.talks (h : Interleaved programs turns rest) (i : ι) :
    Talks (programs i) (ownHistory i turns) (rest i) := by
  induction h with
  | start => exact .start _
  | turn earlier j time waiting answer ih =>
      rw [ownHistory_append]
      by_cases hj : j = i
      · subst hj
        rw [waiting] at ih
        simpa [ownHistory] using ih.next answer
      · have hi : ¬ i = j := fun hij => hj hij.symm
        simpa [ownHistory, hj, hi] using ih

/-- One session goes on alone, its answers all at one time. -/
theorem Interleaved.alone (h : Interleaved programs turns rest) {history : List (Exchange ε ρ val)}
    {e : Dialogue ε ρ val α} (i : ι) (time : Nat) (ht : Talks (rest i) history e) :
    ∃ rest', Interleaved programs (turns ++ history.map fun x => ⟨i, time, x⟩) rest' ∧ rest' i = e ∧
      ∀ j, j ≠ i → rest' j = rest j := by
  generalize hrest : rest i = d at ht
  induction ht generalizing turns rest with
  | start d => exact ⟨rest, by simpa using h, hrest, fun _ _ => rfl⟩
  | answered answer later ih =>
      obtain ⟨rest', hrun, hlast, hothers⟩ := ih (h.turn i time hrest answer) (if_pos rfl)
      refine ⟨rest', by simpa using hrun, hlast, fun j hj => ?_⟩
      rw [hothers j hj, if_neg hj]

/-- Before a turn its session waits for the answer it gets. -/
theorem Interleaved.before {earlier later : List (Turn ι ε ρ val)} {turn : Turn ι ε ρ val}
    (h : Interleaved programs turns rest) (hturns : turns = earlier ++ turn :: later) :
    ∃ rest', Interleaved programs earlier rest' ∧ (rest' turn.session).pending = some turn.exchange.request := by
  induction h generalizing later with
  | start => cases earlier <;> cases hturns
  | @turn rest turns past i time r next waiting answer ih =>
      rcases List.eq_nil_or_concat later with rfl | ⟨more, last, rfl⟩
      · obtain ⟨rfl, hlast⟩ := List.append_inj' hturns rfl
        obtain rfl := List.singleton_inj.mp hlast
        refine ⟨rest, past, ?_⟩
        show (rest i).pending = some r
        rw [waiting]
        rfl
      · have hsplit : turns ++ [⟨i, time, ⟨r, answer⟩⟩] = (earlier ++ turn :: more) ++ [last] := by
          rw [hturns]
          simp
        exact ih (List.append_inj' hsplit rfl).1

end Dialogue

end Effect
