import Mathlib.Data.List.Nodup
import Mathlib.Data.List.Perm.Basic

/-!
# The first of each slot

A table filled by `setdefault`: of a sequence of rows, the first to come to a slot takes it, and a later row of that
slot is compared with the one that has it. Either the two agree and the later one is a repeat, or they conflict.
-/

namespace Effect

structure Slots (α : Type) where
  taken : List α
  repeated : List α
  conflicts : List (α × α)

namespace Slots

variable {α σ β : Type} [DecidableEq σ] [DecidableEq β] (slot : α → σ) (value : α → β)

def empty : Slots α := ⟨[], [], []⟩

/-- The row that has the slot of `row`, when one has. -/
def holder (slots : Slots α) (row : α) : Option α := slots.taken.find? fun first => slot first = slot row

def offer (slots : Slots α) (row : α) : Slots α :=
  match slots.holder slot row with
  | none => { slots with taken := slots.taken ++ [row] }
  | some first =>
      if value first = value row then { slots with repeated := slots.repeated ++ [row] }
      else { slots with conflicts := slots.conflicts ++ [(first, row)] }

def fill (rows : List α) : Slots α := rows.foldl (offer slot value) empty

/-- What the table says of the rows it has been offered. -/
structure Holds (slots : Slots α) (rows : List α) : Prop where
  /-- Every row went to exactly one place. -/
  perm : (slots.taken ++ slots.repeated ++ slots.conflicts.map Prod.snd).Perm rows
  distinct : (slots.taken.map slot).Nodup
  repeats : ∀ row ∈ slots.repeated, ∃ first ∈ slots.taken, slot first = slot row ∧ value first = value row

variable {slot value}

theorem holder_eq_none {slots : Slots α} {row : α} (h : slots.holder slot row = none) :
    ∀ first ∈ slots.taken, slot first ≠ slot row := by
  intro first hfirst hslot
  have hnone := List.find?_eq_none.mp h first hfirst
  exact hnone (decide_eq_true hslot)

theorem holder_eq_some {slots : Slots α} {row first : α} (h : slots.holder slot row = some first) :
    first ∈ slots.taken ∧ slot first = slot row :=
  ⟨List.mem_of_find?_eq_some h, of_decide_eq_true (List.find?_some (p := fun first => slot first = slot row) h)⟩

theorem perm_of_inserted (before row after : List α) : (before ++ row ++ after).Perm (before ++ after ++ row) := by
  rw [List.append_assoc, List.append_assoc]
  exact List.Perm.append_left before List.perm_append_comm

theorem Holds.offer {slots : Slots α} {rows : List α} (h : slots.Holds slot value rows) (row : α) :
    (slots.offer slot value row).Holds slot value (rows ++ [row]) := by
  unfold Slots.offer
  cases hholder : slots.holder slot row with
  | none =>
      have hfree := holder_eq_none hholder
      refine ⟨?_, ?_, fun other hother => ?_⟩
      · have hmoved := perm_of_inserted slots.taken [row] (slots.repeated ++ slots.conflicts.map Prod.snd)
        simp only [← List.append_assoc] at hmoved
        exact hmoved.trans (h.perm.append_right [row])
      · rw [List.map_append, List.map_singleton]
        refine h.distinct.append (List.nodup_singleton _) (List.disjoint_singleton.mpr fun hmem => ?_)
        obtain ⟨first, hfirst, hslot⟩ := List.mem_map.mp hmem
        exact hfree first hfirst hslot
      · obtain ⟨first, hfirst, hsame⟩ := h.repeats other hother
        exact ⟨first, List.mem_append_left _ hfirst, hsame⟩
  | some first =>
      obtain ⟨hfirst, hslot⟩ := holder_eq_some hholder
      dsimp only
      by_cases hvalue : value first = value row
      · rw [if_pos hvalue]
        refine ⟨?_, h.distinct, fun other hother => ?_⟩
        · have hmoved := perm_of_inserted (slots.taken ++ slots.repeated) [row] (slots.conflicts.map Prod.snd)
          rw [List.append_assoc slots.taken] at hmoved
          exact hmoved.trans (h.perm.append_right [row])
        · rcases List.mem_append.mp hother with hother | hother
          · exact h.repeats other hother
          · rw [List.mem_singleton.mp hother]
            exact ⟨first, hfirst, hslot, hvalue⟩
      · rw [if_neg hvalue]
        refine ⟨?_, h.distinct, h.repeats⟩
        simp only [List.map_append, List.map_cons, List.map_nil, ← List.append_assoc]
        exact h.perm.append_right [row]

theorem foldl_offer_holds (rows : List α) :
    ∀ (slots : Slots α) (earlier : List α), slots.Holds slot value earlier →
      (rows.foldl (offer slot value) slots).Holds slot value (earlier ++ rows) := by
  induction rows with
  | nil =>
      intro slots earlier h
      rw [List.append_nil]
      exact h
  | cons row rows ih =>
      intro slots earlier h
      have hnext := ih (slots.offer slot value row) (earlier ++ [row]) (h.offer row)
      rw [List.append_assoc, List.singleton_append] at hnext
      exact hnext

variable (slot value) in
theorem fill_holds (rows : List α) : (fill slot value rows).Holds slot value rows :=
  foldl_offer_holds rows empty [] ⟨List.Perm.nil, List.nodup_nil, nofun⟩

omit [DecidableEq σ] [DecidableEq β] in
/-- Without a conflict every row has its slot held by a row that agrees with it. -/
theorem Holds.agreed {slots : Slots α} {rows : List α} (h : slots.Holds slot value rows) (hnone : slots.conflicts = [])
    {row : α} (hrow : row ∈ rows) : ∃ first ∈ slots.taken, slot first = slot row ∧ value first = value row := by
  have hplace := h.perm.mem_iff.mpr hrow
  rw [hnone, List.map_nil, List.append_nil] at hplace
  rcases List.mem_append.mp hplace with htaken | hrepeated
  · exact ⟨row, htaken, rfl, rfl⟩
  · exact h.repeats row hrepeated

omit [DecidableEq σ] [DecidableEq β] in
/-- No two rows of the table have one slot. -/
theorem Holds.unique {slots : Slots α} {rows : List α} (h : slots.Holds slot value rows) {a b : α}
    (ha : a ∈ slots.taken) (hb : b ∈ slots.taken) (hslot : slot a = slot b) : a = b :=
  List.inj_on_of_nodup_map h.distinct ha hb hslot

omit [DecidableEq σ] [DecidableEq β] in
/-- Without a conflict two rows of one slot agree. -/
theorem Holds.value_eq {slots : Slots α} {rows : List α} (h : slots.Holds slot value rows)
    (hnone : slots.conflicts = []) {a b : α} (ha : a ∈ rows) (hb : b ∈ rows) (hslot : slot a = slot b) :
    value a = value b := by
  obtain ⟨first, hfirst, hfirstSlot, hfirstValue⟩ := h.agreed hnone ha
  obtain ⟨other, hother, hotherSlot, hotherValue⟩ := h.agreed hnone hb
  have hsame : first = other := h.unique hfirst hother ((hfirstSlot.trans hslot).trans hotherSlot.symm)
  rw [← hfirstValue, ← hotherValue, hsame]

end Slots

end Effect
