/-!
# Columns written one save after another

A save gives some columns of a row a value and leaves the others as they are. What a sequence of saves makes of a row
is, column by column, the value of the last save that gave one. A transaction is a stack of such saves on top of the
row it began with, of which it can drop the newest ones again.
-/

namespace Effect

variable {κ : Type} {V : κ → Type}

/-- The values a save gives, with none for a column it leaves. -/
abbrev Sets (κ : Type) (V : κ → Type) : Type := (c : κ) → Option (V c)

def overlay (base : (c : κ) → V c) (sets : Sets κ V) : (c : κ) → V c := fun c => (sets c).getD (base c)

def overlays (base : (c : κ) → V c) (log : List (Sets κ V)) : (c : κ) → V c := log.foldl overlay base

variable {base : (c : κ) → V c} {sets : Sets κ V} {c : κ} {v : V c}

theorem overlay_some (h : sets c = some v) : overlay base sets c = v := by rw [overlay, h, Option.getD_some]

theorem overlay_none (h : sets c = none) : overlay base sets c = base c := by rw [overlay, h, Option.getD_none]

@[simp] theorem overlays_nil (base : (c : κ) → V c) : overlays base [] = base := rfl

theorem overlays_append (base : (c : κ) → V c) (log more : List (Sets κ V)) :
    overlays base (log ++ more) = overlays (overlays base log) more := List.foldl_append

/-- A column that no save gives a value keeps the one it has. -/
theorem overlays_untouched {log : List (Sets κ V)} (h : ∀ sets ∈ log, sets c = none) :
    overlays base log c = base c := by
  induction log generalizing base with
  | nil => rfl
  | cons sets rest ih =>
      have hrest := @ih (overlay base sets) fun later hlater => h later (List.mem_cons_of_mem _ hlater)
      exact hrest.trans (overlay_none (h sets List.mem_cons_self))

/-- A column has the value of the last save that gave one. -/
theorem overlays_last {before after : List (Sets κ V)} (hset : sets c = some v)
    (hafter : ∀ later ∈ after, later c = none) : overlays base (before ++ sets :: after) c = v := by
  rw [overlays_append]
  have hrest : overlays (overlay (overlays base before) sets) after c = overlay (overlays base before) sets c :=
    overlays_untouched hafter
  exact hrest.trans (overlay_some hset)

/-! ### The saves of one transaction, the newest first -/

section

variable {ρ ω : Type} (row : ω → ρ)

/-- The row on top of a stack of saves, which is the row below it when there are none. -/
def top (base : ρ) (stack : List ω) : ρ := (stack.head?.map row).getD base

/-- Each save is in the relation `R` to the row below it. -/
def Stacked (R : ρ → ω → Prop) (base : ρ) : List ω → Prop
  | [] => True
  | save :: rest => R (top row base rest) save ∧ Stacked R base rest

variable {row} {R S : ρ → ω → Prop} {bottom : ρ} {stack : List ω}

@[simp] theorem top_nil (bottom : ρ) : top row bottom [] = bottom := rfl

@[simp] theorem top_cons (bottom : ρ) (save : ω) (rest : List ω) : top row bottom (save :: rest) = row save := rfl

theorem Stacked.drop (h : Stacked row R bottom stack) (n : Nat) : Stacked row R bottom (stack.drop n) := by
  induction stack generalizing n with
  | nil => simpa using h
  | cons save rest ih =>
      cases n with
      | zero => exact h
      | succ n => exact ih h.2 n

theorem Stacked.mono (hRS : ∀ below save, R below save → S below save) (h : Stacked row R bottom stack) :
    Stacked row S bottom stack := by
  induction stack with
  | nil => trivial
  | cons save rest ih => exact ⟨hRS _ _ h.1, ih h.2⟩

/-- What the saves of a stack add up to: a measure that each of them takes one further. -/
theorem Stacked.count (measure : ρ → Nat)
    (h : Stacked row (fun below save => measure (row save) = measure below + 1) bottom stack) :
    measure (top row bottom stack) = measure bottom + stack.length := by
  induction stack with
  | nil => rfl
  | cons save rest ih =>
      have hbelow := ih h.2
      have hstep := h.1
      rw [top_cons, List.length_cons]
      omega

/-- A column that no save of the stack gives a value is as below it. -/
theorem Stacked.untouched {columns : ρ → (c : κ) → V c} {sets : ω → Sets κ V} {c : κ}
    (h : Stacked row (fun below save => ∀ c, sets save c = none → columns (row save) c = columns below c) bottom stack)
    (hnone : ∀ save ∈ stack, sets save c = none) : columns (top row bottom stack) c = columns bottom c := by
  induction stack with
  | nil => rfl
  | cons save rest ih =>
      rw [top_cons, h.1 c (hnone save List.mem_cons_self)]
      exact ih h.2 fun earlier hearlier => hnone earlier (List.mem_cons_of_mem _ hearlier)

/-- When every save lays its own values over the row below it, so does the whole stack. -/
theorem Stacked.overlays (columns : ρ → (c : κ) → V c) (sets : ω → Sets κ V)
    (h : Stacked row (fun below save => columns (row save) = overlay (columns below) (sets save)) bottom stack) :
    columns (top row bottom stack) = Effect.overlays (columns bottom) (stack.reverse.map sets) := by
  induction stack with
  | nil => rfl
  | cons save rest ih =>
      rw [top_cons, List.reverse_cons, List.map_append, overlays_append, ← ih h.2, h.1]
      rfl

end

end Effect
