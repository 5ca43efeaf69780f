import NetboxOpenbao.Effect.Runs

/-!
# Refinement by replay

A machine is described by a smaller one when every step either counts as nothing or as a move the smaller machine
allows, and what relates the two is kept. A run then comes with the moves it counted as, and the smaller machine
replays them. The register with a second slot is one such machine: what is live, and a candidate beside it.
-/

namespace Effect

/-! ### Machines that allow some moves -/

section

variable {ρ μ : Type} (move : ρ → μ → Option ρ)

/-- Play the moves one after another, each from where the one before it led. -/
def replay : ρ → List μ → Option ρ
  | r, [] => some r
  | r, m :: ms => (move r m).bind fun r' => replay r' ms

variable {move}

theorem replay_cons {r r' : ρ} {m : μ} (h : move r m = some r') (ms : List μ) :
    replay move r (m :: ms) = replay move r' ms := by
  rw [replay, h]
  rfl

theorem replay_cons_eq_some {r r' : ρ} {m : μ} {ms : List μ} :
    replay move r (m :: ms) = some r' ↔ ∃ next, move r m = some next ∧ replay move next ms = some r' := by
  rw [replay, Option.bind_eq_some_iff]

end

namespace Runs

variable {σ ι ρ μ : Type} (step : σ → ι → σ) (counts : σ → ι → Option μ → Prop)

/-- The moves a run counts as, leaving out the steps that count as nothing. -/
inductive Traced : σ → List ι → List μ → Prop
  | nil (s : σ) : Traced s [] []
  | quiet {s : σ} {i : ι} {is : List ι} {ms : List μ} (h : counts s i none) (hrest : Traced (step s i) is ms) :
      Traced s (i :: is) ms
  | moved {s : σ} {i : ι} {is : List ι} {m : μ} {ms : List μ} (h : counts s i (some m))
      (hrest : Traced (step s i) is ms) : Traced s (i :: is) (m :: ms)

variable {step counts} {move : ρ → μ → Option ρ} {R : σ → ρ → Prop} {C : σ → ι → Prop}

/-- The refinement rule: what one step counts as is allowed and keeps the relation, so the moves of a whole run
replay, and lead to what its last state is related to. -/
theorem refines_of_step
    (hstep : ∀ s i r, R s r → C s i →
      (counts s i none ∧ R (step s i) r) ∨
        ∃ m r', counts s i (some m) ∧ move r m = some r' ∧ R (step s i) r')
    {s : σ} {r : ρ} {is : List ι} (hs : R s r) (his : Along step C s is) :
    ∃ ms r', Traced step counts s is ms ∧ replay move r ms = some r' ∧ R (final step s is) r' := by
  induction is generalizing s r with
  | nil => exact ⟨[], r, .nil s, rfl, hs⟩
  | cons i is ih =>
      rcases hstep s i r hs his.1 with ⟨hquiet, hkept⟩ | ⟨m, next, hmoved, hmove, hkept⟩
      · obtain ⟨ms, r', htraced, hreplay, hfinal⟩ := ih hkept his.2
        exact ⟨ms, r', .quiet hquiet htraced, hreplay, hfinal⟩
      · obtain ⟨ms, r', htraced, hreplay, hfinal⟩ := ih hkept his.2
        exact ⟨m :: ms, r', .moved hmoved htraced, (replay_cons hmove ms).trans hreplay, hfinal⟩

end Runs

/-! ### A register with a second slot -/

variable {α : Type}

structure Register (α : Type) where
  live : α
  staged : Option α

namespace Register

inductive Move (α : Type) where
  | replace (value : α)
  | stage (value : α)
  | promote
  | discard

/-- A replacement drops the candidate; there is one candidate at a time. -/
def move (r : Register α) : Move α → Option (Register α)
  | .replace value => some ⟨value, none⟩
  | .stage value => if r.staged.isSome then none else some ⟨r.live, some value⟩
  | .promote => r.staged.map fun value => ⟨value, none⟩
  | .discard => r.staged.map fun _ => ⟨r.live, none⟩

theorem move_stage {r : Register α} (h : r.staged = none) (value : α) :
    r.move (.stage value) = some ⟨r.live, some value⟩ := by
  simp [move, h]

theorem move_promote {r : Register α} {value : α} (h : r.staged = some value) :
    r.move .promote = some ⟨value, none⟩ := by
  simp [move, h]

theorem move_discard {r : Register α} {value : α} (h : r.staged = some value) :
    r.move .discard = some ⟨r.live, none⟩ := by
  simp [move, h]

/-- Where the live value comes from. -/
inductive Origin (r : Register α) (ms : List (Move α)) (value : α) : Prop
  | kept (h : r.live = value)
  | promoted (hstaged : r.staged = some value) (hfirst : ms.head? = some .promote)
  | replaced (h : .replace value ∈ ms)
  | vetted (h : [.stage value, .promote] <:+: ms)

/-- A later origin is still one after a move that did not start from it. -/
theorem Origin.cons {r next : Register α} {m : Move α} {ms : List (Move α)} {value : α}
    (h : Origin next ms value) (hkept : next.live = value → Origin r (m :: ms) value)
    (hpromoted : next.staged = some value → ms.head? = some .promote → Origin r (m :: ms) value) :
    Origin r (m :: ms) value := by
  cases h with
  | kept h => exact hkept h
  | promoted hstaged hfirst => exact hpromoted hstaged hfirst
  | replaced h => exact .replaced (List.mem_cons_of_mem m h)
  | vetted h => exact .vetted (h.trans (List.suffix_cons m ms).isInfix)

/-- What is live after a replay was live before it, replaced what was, or was a candidate that was promoted by the
very next move after the one that staged it. -/
theorem origin_of_replay {r r' : Register α} {ms : List (Move α)} (h : replay move r ms = some r') :
    Origin r ms r'.live := by
  induction ms generalizing r with
  | nil => exact .kept (congrArg live (Option.some.inj h))
  | cons m ms ih =>
      obtain ⟨next, hmove, hreplay⟩ := replay_cons_eq_some.mp h
      refine (ih hreplay).cons ?_ ?_
      · intro hlive
        cases m with
        | replace value =>
            obtain rfl := Option.some.inj hmove
            obtain rfl : value = r'.live := hlive
            exact .replaced List.mem_cons_self
        | stage value =>
            unfold move at hmove
            dsimp only at hmove
            split at hmove
            · cases hmove
            · obtain rfl := Option.some.inj hmove
              exact .kept hlive
        | promote =>
            obtain ⟨value, hstaged, rfl⟩ := Option.map_eq_some_iff.mp hmove
            obtain rfl : value = r'.live := hlive
            exact .promoted hstaged rfl
        | discard =>
            obtain ⟨value, -, rfl⟩ := Option.map_eq_some_iff.mp hmove
            exact .kept hlive
      · intro hstaged hfirst
        cases m with
        | replace value =>
            obtain rfl := Option.some.inj hmove
            cases hstaged
        | stage value =>
            unfold move at hmove
            dsimp only at hmove
            split at hmove
            · cases hmove
            · obtain rfl := Option.some.inj hmove
              obtain rfl : value = r'.live := Option.some.inj hstaged
              obtain ⟨rest, rfl⟩ := List.head?_eq_some_iff.mp hfirst
              exact .vetted (List.prefix_append [.stage r'.live, .promote] rest).isInfix
        | promote | discard =>
            obtain ⟨value, -, rfl⟩ := Option.map_eq_some_iff.mp hmove
            cases hstaged

end Register

end Effect
