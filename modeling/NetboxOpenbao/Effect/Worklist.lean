import Mathlib.Algebra.Order.BigOperators.Group.List
import Mathlib.Algebra.Order.Ring.Nat

/-!
# Trees visited in any order

A worklist takes one node after another from a bag, checks it, counts what it weighs against a limit, and puts its
children in the bag. Whichever node is taken next, the bag is emptied exactly when every node of the trees in it passes
its check and all of them together weigh no more than the limit allows.
-/

namespace Effect

/-- A kind of finite trees, by the children of each node. -/
structure Rose (α : Type) where
  children : α → List α
  nodes : α → Nat
  nodes_eq : ∀ a, nodes a = 1 + ((children a).map nodes).sum

namespace Rose

variable {α : Type} (r : Rose α)

theorem nodes_child {a c : α} (hc : c ∈ r.children a) : r.nodes c < r.nodes a := by
  have hle := List.single_le_sum (fun _ _ => Nat.zero_le _) (r.nodes c) (List.mem_map_of_mem hc)
  rw [r.nodes_eq a]
  omega

/-- An induction from the leaves. -/
theorem induct {motive : α → Prop} (node : ∀ a, (∀ c ∈ r.children a, motive c) → motive a) (a : α) : motive a := by
  induction hn : r.nodes a using Nat.strong_induction_on generalizing a with
  | _ n ih =>
      subst hn
      exact node a fun c hc => ih (r.nodes c) (r.nodes_child hc) c rfl

/-- `P` holds of every node, at its depth. -/
inductive All (P : α → Nat → Prop) : α → Nat → Prop
  | node {a : α} {depth : Nat} (here : P a depth) (below : ∀ c ∈ r.children a, All P c (depth + 1)) : All P a depth

theorem all_iff {P : α → Nat → Prop} {a : α} {depth : Nat} :
    r.All P a depth ↔ P a depth ∧ ∀ c ∈ r.children a, r.All P c (depth + 1) := by
  constructor
  · rintro (⟨here, below⟩)
    exact ⟨here, below⟩
  · exact fun h => .node h.1 h.2

theorem All.mono {P Q : α → Nat → Prop} (hPQ : ∀ a depth, P a depth → Q a depth) {a : α} {depth : Nat}
    (h : r.All P a depth) : r.All Q a depth := by
  induction h with
  | node here _ ih => exact .node (hPQ _ _ here) ih

theorem All.and {P Q : α → Nat → Prop} {a : α} {depth : Nat} (hP : r.All P a depth) (hQ : r.All Q a depth) :
    r.All (fun a depth => P a depth ∧ Q a depth) a depth := by
  induction hP with
  | node here _ ih =>
      obtain ⟨hq, hbelow⟩ := r.all_iff.mp hQ
      exact .node ⟨here, hq⟩ fun c hc => ih c hc (hbelow c hc)

/-- `total` adds up `weight` over all nodes. -/
def Totals (weight total : α → Nat) : Prop := ∀ a, total a = weight a + ((r.children a).map total).sum

/-- The nodes of a bag pass their checks and weigh no more than is left. -/
def Fits (P : α → Nat → Prop) (total : α → Nat) (limit : Nat) (bag : List (α × Nat)) (counted : Nat) : Prop :=
  (∀ entry ∈ bag, r.All P entry.1 entry.2) ∧ counted + (bag.map fun entry => total entry.1).sum ≤ limit

/-- The runs of a worklist that may take any node next, with what has been counted before; they end with the bag empty
or with a node refused. -/
inductive Visits (P : α → Nat → Prop) (weight : α → Nat) (limit : Nat) : List (α × Nat) → Nat → Bool → Prop
  | done (counted : Nat) : Visits P weight limit [] counted true
  | refused {bag rest : List (α × Nat)} {counted depth : Nat} {a : α} (taken : bag.Perm ((a, depth) :: rest))
      (failed : ¬ (P a depth ∧ counted + weight a ≤ limit)) : Visits P weight limit bag counted false
  | next {bag rest : List (α × Nat)} {counted depth : Nat} {a : α} {accepted : Bool}
      (taken : bag.Perm ((a, depth) :: rest)) (passed : P a depth) (room : counted + weight a ≤ limit)
      (later : Visits P weight limit (((r.children a).map fun c => (c, depth + 1)) ++ rest) (counted + weight a) accepted) :
      Visits P weight limit bag counted accepted

variable {r} {P : α → Nat → Prop} {weight total : α → Nat} {limit : Nat}

theorem Fits.perm {bag other : List (α × Nat)} {counted : Nat} (hperm : bag.Perm other) :
    r.Fits P total limit bag counted ↔ r.Fits P total limit other counted := by
  unfold Fits
  rw [(hperm.map fun entry => total entry.1).sum_nat]
  exact and_congr_left' (forall_congr' fun entry => imp_congr_left hperm.mem_iff)

/-- What a bag holds of a node is the node and its children. -/
theorem fits_cons (htotal : r.Totals weight total) {a : α} {depth counted : Nat} {rest : List (α × Nat)} :
    r.Fits P total limit ((a, depth) :: rest) counted ↔ P a depth ∧
      r.Fits P total limit (((r.children a).map fun c => (c, depth + 1)) ++ rest) (counted + weight a) := by
  have hsum : (((r.children a).map fun c => (c, depth + 1)).map fun entry : α × Nat => total entry.1).sum =
      ((r.children a).map total).sum := by
    rw [List.map_map]
    rfl
  unfold Fits
  rw [List.forall_mem_cons, r.all_iff, List.forall_mem_append, List.forall_mem_map, List.map_cons, List.sum_cons,
    List.map_append, List.sum_append, hsum, htotal a]
  constructor
  · rintro ⟨⟨⟨here, below⟩, hrest⟩, hle⟩
    exact ⟨here, ⟨below, hrest⟩, by omega⟩
  · rintro ⟨here, ⟨below, hrest⟩, hle⟩
    exact ⟨⟨⟨here, below⟩, hrest⟩, by omega⟩

theorem Visits.perm {bag other : List (α × Nat)} {counted : Nat} {accepted : Bool} (hperm : other.Perm bag)
    (h : r.Visits P weight limit bag counted accepted) : r.Visits P weight limit other counted accepted := by
  cases h with
  | done => exact hperm.eq_nil ▸ .done counted
  | refused taken failed => exact .refused (hperm.trans taken) failed
  | next taken passed room later => exact .next (hperm.trans taken) passed room later

/-- Every order of visits ends the same way. -/
theorem visits_iff (htotal : r.Totals weight total) {bag : List (α × Nat)} {counted : Nat} {accepted : Bool}
    (hvisits : r.Visits P weight limit bag counted accepted) (hcounted : counted ≤ limit) :
    accepted = true ↔ r.Fits P total limit bag counted := by
  induction hvisits with
  | done counted =>
      exact iff_of_true rfl ⟨fun _ hmem => absurd hmem List.not_mem_nil, hcounted⟩
  | refused taken failed =>
      refine iff_of_false Bool.false_ne_true fun hfits => failed ?_
      rw [Fits.perm taken, fits_cons htotal] at hfits
      exact ⟨hfits.1, le_trans (Nat.le_add_right _ _) hfits.2.2⟩
  | next taken passed room _ ih =>
      rw [ih room, Fits.perm taken, fits_cons htotal]
      exact (and_iff_right passed).symm

end Rose

end Effect
