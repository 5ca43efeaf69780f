/-!
# Texts with holes

A text whose holes have names. Filling the holes of one name after those of another never looks at what has been filled
in before, so the order does not matter: at the end every hole has the first value its name was given.
-/

namespace Coding

inductive Piece (σ ν : Type) where
  | text (symbols : List σ)
  | hole (name : ν)

namespace Piece

variable {σ ν : Type}

/-- The symbols of a piece; `write` is how an empty hole is written. -/
def symbols (write : ν → List σ) : Piece σ ν → List σ
  | text symbols => symbols
  | hole name => write name

/-- Every hole that has a value filled with it. -/
def fill (values : ν → Option (List σ)) : Piece σ ν → Piece σ ν
  | text symbols => text symbols
  | hole name => match values name with
      | some value => text value
      | none => hole name

@[simp] theorem fill_text (values : ν → Option (List σ)) (symbols : List σ) :
    (text symbols).fill values = text symbols := rfl

theorem fill_hole_some {values : ν → Option (List σ)} {name : ν} {value : List σ} (h : values name = some value) :
    (hole name).fill values = text value := by
  simp only [fill, h]

theorem fill_hole_none {values : ν → Option (List σ)} {name : ν} (h : values name = none) :
    (hole name).fill values = hole name := by
  simp only [fill, h]

/-- Nothing to fill in. -/
@[simp] theorem fill_none (p : Piece σ ν) : p.fill (fun _ => none) = p := by
  cases p with
  | text symbols => rfl
  | hole name => rfl

variable [DecidableEq ν]

/-- The holes called `name` filled with `value`. -/
def fillOne (name : ν) (value : List σ) (p : Piece σ ν) : Piece σ ν :=
  p.fill fun other => if other = name then some value else none

theorem fillOne_hole_self (name : ν) (value : List σ) :
    (hole name : Piece σ ν).fillOne name value = text value :=
  fill_hole_some (if_pos rfl)

theorem fillOne_hole_ne {name other : ν} (h : other ≠ name) (value : List σ) :
    (hole other : Piece σ ν).fillOne name value = hole other :=
  fill_hole_none (if_neg h)

@[simp] theorem fillOne_text (name : ν) (value symbols : List σ) :
    (text symbols : Piece σ ν).fillOne name value = text symbols := rfl

/-- What one name has not filled, the values of the others may. -/
theorem fill_fillOne (name : ν) (value : List σ) (values : List (ν × List σ)) (p : Piece σ ν) :
    (p.fillOne name value).fill (fun other => values.lookup other) =
      p.fill fun other => ((name, value) :: values).lookup other := by
  cases p with
  | text symbols => rfl
  | hole other =>
      by_cases hsame : other = name
      · subst hsame
        rw [fillOne_hole_self, fill_text, fill_hole_some]
        exact List.lookup_cons_self
      · have hne : (other == name) = false := beq_eq_false_iff_ne.mpr hsame
        rw [fillOne_hole_ne hsame]
        unfold fill
        dsimp only
        rw [List.lookup_cons, hne]

/-- One name after another comes to all of them at once. -/
theorem foldl_fillOne (values : List (ν × List σ)) (ps : List (Piece σ ν)) :
    values.foldl (fun ps entry => ps.map (fillOne entry.1 entry.2)) ps =
      ps.map (fill fun name => values.lookup name) := by
  induction values generalizing ps with
  | nil => exact (List.map_id'' (fun p => fill_none p) ps).symm
  | cons entry values ih =>
      rw [List.foldl_cons, ih, List.map_map]
      exact List.map_congr_left fun p _ => fill_fillOne entry.1 entry.2 values p

end Piece

/-- What a sequence of pieces reads as. -/
def written {σ ν : Type} (write : ν → List σ) (ps : List (Piece σ ν)) : List σ := ps.flatMap (Piece.symbols write)

end Coding
