import Mathlib.Logic.Relation

/-!
# Searches with a list of what is left

A search visits one node after another and keeps those it has still to visit. As long as every child of a visited node
is visited or kept, and nothing else is, the nodes visited at the end are those that the root leads to. The graph need
not be known beforehand: the children of a node may be learned when it is visited.
-/

namespace Effect

open Relation

variable {α : Type} {child : α → α → Prop} {root : α} {visited pending : List α}

/-- What holds between two visits. -/
structure Explored (child : α → α → Prop) (root : α) (visited pending : List α) : Prop where
  start : root ∈ visited ∨ root ∈ pending
  closed : ∀ a ∈ visited, ∀ b, child a b → b ∈ visited ∨ b ∈ pending
  reached : ∀ a, a ∈ visited ∨ a ∈ pending → ReflTransGen child root a

namespace Explored

theorem init (root : α) : Explored (fun _ _ => False) root [] [root] where
  start := .inr List.mem_cons_self
  closed := fun _ hmem => absurd hmem List.not_mem_nil
  reached := by
    intro a ha
    obtain rfl := List.mem_singleton.mp (ha.resolve_left List.not_mem_nil)
    exact .refl

/-- The next node is visited, and its children are learned. -/
theorem visit {current : α} {rest found : List α} {learned : α → α → Prop}
    (h : Explored child root visited (current :: rest)) (hold : ∀ a b, child a b → learned a b)
    (hnew : ∀ a b, learned a b → child a b ∨ a = current)
    (hfound : ∀ b, b ∈ found ↔ learned current b ∨ b ∈ rest) : Explored learned root (current :: visited) found where
  start := by
    rcases h.start with hvisited | hpending
    · exact .inl (List.mem_cons_of_mem _ hvisited)
    · rcases List.mem_cons.mp hpending with rfl | hrest
      · exact .inl List.mem_cons_self
      · exact .inr ((hfound root).mpr (.inr hrest))
  closed := by
    intro a ha b hab
    have hkept : ∀ b, b ∈ visited ∨ b ∈ current :: rest → b ∈ current :: visited ∨ b ∈ found := by
      intro b hb
      rcases hb with hvisited | hpending
      · exact .inl (List.mem_cons_of_mem _ hvisited)
      · rcases List.mem_cons.mp hpending with rfl | hrest
        · exact .inl List.mem_cons_self
        · exact .inr ((hfound b).mpr (.inr hrest))
    rcases List.mem_cons.mp ha with rfl | hvisited
    · exact .inr ((hfound b).mpr (.inl hab))
    · rcases hnew a b hab with hknown | rfl
      · exact hkept b (h.closed a hvisited b hknown)
      · exact .inr ((hfound b).mpr (.inl hab))
  reached := by
    have hmono : ∀ a, a ∈ visited ∨ a ∈ current :: rest → ReflTransGen learned root a :=
      fun a ha => ReflTransGen.mono (fun a b => hold a b) _ _ (h.reached a ha)
    intro a ha
    rcases ha with hvisited | hpending
    · rcases List.mem_cons.mp hvisited with rfl | hbefore
      · exact hmono _ (.inr List.mem_cons_self)
      · exact hmono a (.inl hbefore)
    · rcases (hfound a).mp hpending with hchild | hrest
      · exact (hmono current (.inr List.mem_cons_self)).tail hchild
      · exact hmono a (.inr (List.mem_cons_of_mem _ hrest))

/-- A search that has nothing left has visited what the root leads to. -/
theorem complete (h : Explored child root visited []) (a : α) : a ∈ visited ↔ ReflTransGen child root a := by
  constructor
  · exact fun hmem => h.reached a (.inl hmem)
  · intro hreach
    induction hreach with
    | refl => exact h.start.resolve_right List.not_mem_nil
    | tail _ hstep ih => exact (h.closed _ ih _ hstep).resolve_right List.not_mem_nil

end Explored

end Effect
