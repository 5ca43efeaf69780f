import Mathlib.Data.List.Pairwise
import Mathlib.Logic.Function.Basic

/-!
# Claims of open sessions

Claims that may clash with one another, as the entries of a unique index do. A session holds at most one, which it gives
up or commits; a claim is taken when it clashes with none that is committed and none another session holds.
-/

namespace Effect

structure Claims (σ κ : Type) where
  committed : List κ
  held : σ → Option κ

namespace Claims

variable {σ κ : Type} {clash : κ → κ → Prop}

/-- Nothing but the session's own claim clashes with `k`. -/
structure Free (clash : κ → κ → Prop) (claims : Claims σ κ) (session : σ) (k : κ) : Prop where
  committed : ∀ c ∈ claims.committed, ¬clash c k
  held : ∀ other c, other ≠ session → claims.held other = some c → ¬clash c k

/-- No two claims clash. -/
structure Exclusive (clash : κ → κ → Prop) (claims : Claims σ κ) : Prop where
  committed : claims.committed.Pairwise fun c d => ¬clash c d
  held : ∀ session k, claims.held session = some k → claims.Free clash session k

/-- What a session can make of the table: the committed claims, and the one it holds. -/
inductive Move (clash : κ → κ → Prop) (claims : Claims σ κ) (session : σ) : List κ → Option κ → Prop
  | stay : Move clash claims session claims.committed (claims.held session)
  | take (k : κ) (free : claims.Free clash session k) : Move clash claims session claims.committed (some k)
  | drop : Move clash claims session claims.committed none
  | commit (k : κ) (holds : claims.held session = some k) : Move clash claims session (claims.committed ++ [k]) none

section Moves

variable [DecidableEq σ] {claims : Claims σ κ} {session : σ}

def moved (claims : Claims σ κ) (session : σ) (committed : List κ) (claim : Option κ) : Claims σ κ :=
  ⟨committed, Function.update claims.held session claim⟩

theorem moved_held {committed : List κ} {claim : Option κ} :
    (claims.moved session committed claim).held session = claim := Function.update_self _ _ _

theorem moved_other {committed : List κ} {claim : Option κ} {other : σ} (h : other ≠ session) :
    (claims.moved session committed claim).held other = claims.held other := Function.update_of_ne h _ _

/-- Giving a claim up, or keeping it, leaves every other one free. -/
theorem Exclusive.drop (h : claims.Exclusive clash) : (claims.moved session claims.committed none).Exclusive clash := by
  refine ⟨h.committed, fun other k hheld => ?_⟩
  have hother : other ≠ session := by
    rintro rfl
    rw [moved_held] at hheld
    cases hheld
  rw [moved_other hother] at hheld
  refine ⟨(h.held other k hheld).committed, fun third c hthird hc => ?_⟩
  have hne : third ≠ session := by
    rintro rfl
    rw [moved_held] at hc
    cases hc
  rw [moved_other hne] at hc
  exact (h.held other k hheld).held third c hthird hc

theorem Exclusive.take (hsymm : ∀ c d, clash c d → clash d c) (h : claims.Exclusive clash) {k : κ}
    (hfree : claims.Free clash session k) : (claims.moved session claims.committed (some k)).Exclusive clash := by
  refine ⟨h.committed, fun other c hheld => ?_⟩
  by_cases hsame : other = session
  · rw [hsame, moved_held] at hheld
    obtain rfl := Option.some.inj hheld
    rw [hsame]
    refine ⟨hfree.committed, fun third d hthird hd => ?_⟩
    rw [moved_other hthird] at hd
    exact hfree.held third d hthird hd
  · rw [moved_other hsame] at hheld
    refine ⟨(h.held other c hheld).committed, fun third d hthird hd => ?_⟩
    by_cases hown : third = session
    · rw [hown, moved_held] at hd
      obtain rfl := Option.some.inj hd
      exact fun hclash => hfree.held other c hsame hheld (hsymm _ _ hclash)
    · rw [moved_other hown] at hd
      exact (h.held other c hheld).held third d hthird hd

theorem Exclusive.commit (hsymm : ∀ c d, clash c d → clash d c) (h : claims.Exclusive clash) {k : κ}
    (hholds : claims.held session = some k) : (claims.moved session (claims.committed ++ [k]) none).Exclusive clash := by
  have hdropped : (claims.moved session claims.committed none).Exclusive clash := h.drop
  constructor
  · refine List.pairwise_append.mpr ⟨h.committed, List.pairwise_singleton _ _, fun c hc d hd => ?_⟩
    rw [List.mem_singleton.mp hd]
    exact (h.held session k hholds).committed c hc
  · intro other c hheld
    refine ⟨fun d hd => ?_, (hdropped.held other c hheld).held⟩
    rcases List.mem_append.mp hd with hd | hd
    · exact (hdropped.held other c hheld).committed d hd
    · rw [List.mem_singleton.mp hd]
      have hother : other ≠ session := by
        rintro rfl
        rw [moved_held] at hheld
        cases hheld
      rw [moved_other hother] at hheld
      exact fun hclash => (h.held session k hholds).held other c hother hheld (hsymm _ _ hclash)

/-- The invariant of the table: whatever a session does, no two claims clash. -/
theorem Exclusive.move (hsymm : ∀ c d, clash c d → clash d c) (h : claims.Exclusive clash) {committed : List κ}
    {claim : Option κ} (hmove : claims.Move clash session committed claim) :
    (claims.moved session committed claim).Exclusive clash := by
  cases hmove with
  | stay =>
      rw [moved, Function.update_eq_self]
      exact h
  | take k free => exact h.take hsymm free
  | drop => exact h.drop
  | commit k holds => exact h.commit hsymm holds

end Moves

/-! ### Sessions in a list -/

section Lists

variable {α : Type} {committed : List κ} {sessions : List α} {claim : α → Option κ}

/-- The table of sessions that are numbered. -/
def ofList (committed : List κ) (sessions : List α) (claim : α → Option κ) : Claims Nat κ :=
  ⟨committed, fun i => sessions[i]?.bind claim⟩

theorem ofList_held {i : Nat} {session : α} (h : sessions[i]? = some session) :
    (ofList committed sessions claim).held i = claim session := by
  rw [ofList]
  dsimp only
  rw [h]
  rfl

/-- Without a session, the committed claims are all there is. -/
theorem ofList_nil (h : committed.Pairwise fun c d => ¬clash c d) :
    (ofList committed ([] : List α) claim).Exclusive clash := by
  refine ⟨h, fun session k hheld => ?_⟩
  rw [ofList] at hheld
  dsimp only at hheld
  rw [List.getElem?_nil] at hheld
  cases hheld

theorem ofList_set {i : Nat} {session next : α} (h : sessions[i]? = some session) (after : List κ) :
    ofList after (sessions.set i next) claim = (ofList committed sessions claim).moved i after (claim next) := by
  rw [moved, ofList, ofList]
  congr 1
  funext j
  obtain ⟨hi, -⟩ := List.getElem?_eq_some_iff.mp h
  by_cases hj : j = i
  · rw [hj, Function.update_self, List.getElem?_set_self hi]
    rfl
  · rw [Function.update_of_ne hj, List.getElem?_set_ne (Ne.symm hj)]

/-- A session that comes without a claim. -/
theorem ofList_append {session : α} (h : claim session = none) :
    ofList committed (sessions ++ [session]) claim = ofList committed sessions claim := by
  rw [ofList, ofList]
  congr 1
  funext i
  rcases Nat.lt_trichotomy i sessions.length with hi | hi | hi
  · rw [List.getElem?_append_left hi]
  · rw [hi, List.getElem?_append_right (Nat.le_refl _), Nat.sub_self, List.getElem?_eq_none (Nat.le_refl _)]
    exact h
  · rw [List.getElem?_eq_none (Nat.le_of_lt hi), List.getElem?_eq_none]
    rw [List.length_append]
    exact hi

end Lists

end Claims

end Effect
