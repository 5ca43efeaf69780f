/-!
# Nested atomic blocks

One open transaction with blocks nested in it, the work done in it so far, and the callbacks that wait for its
commit. A block with a savepoint that fails takes both back to where they were; a block without one passes its
failure on to the block around it.
-/

namespace Effect

variable {ω η : Type}

/-- What a rollback to a savepoint brings back. -/
structure Saved (ω η : Type) where
  work : List ω
  hooks : List η

/-- An open transaction. `blocks` are the blocks inside the outermost one, innermost first, each with its
savepoint if it has one. -/
structure Nesting (ω η : Type) where
  work : List ω
  hooks : List η
  blocks : List (Option (Saved ω η))
  needsRollback : Bool
  aborted : Bool
  broken : Bool

namespace Nesting

def begun : Nesting ω η := ⟨[], [], [], false, false, false⟩

/-- No statement can be run: the transaction waits for a rollback, or is lost. -/
def refuses (t : Nesting ω η) : Bool := t.needsRollback || t.aborted || t.broken

/-- Enter a block inside. A block entered while a rollback is due gets no savepoint; where the savepoint cannot be
made, no block is entered. -/
def enter (t : Nesting ω η) (savepoint : Bool) : Nesting ω η :=
  if savepoint = false ∨ t.needsRollback = true then { t with blocks := none :: t.blocks }
  else if t.refuses then t
  else { t with blocks := some ⟨t.work, t.hooks⟩ :: t.blocks }

/-- Leave the innermost of the blocks inside, by an exception or not. -/
def leave (t : Nesting ω η) (failed : Bool) : Nesting ω η :=
  match t.blocks with
  | [] => t
  | none :: rest => { t with blocks := rest, needsRollback := t.needsRollback || failed }
  | some saved :: rest =>
    if failed = false ∧ t.refuses = false then { t with blocks := rest }
    else if t.broken then { t with blocks := rest, needsRollback := true }
    else ⟨saved.work, saved.hooks, rest, false, false, false⟩

def abort (t : Nesting ω η) : Nesting ω η := { t with aborted := true }

def lose (t : Nesting ω η) : Nesting ω η := { t with broken := true }

/-- `R` holds between the work and the callbacks, and held at every savepoint. -/
structure All (R : List ω → List η → Prop) (t : Nesting ω η) : Prop where
  now : R t.work t.hooks
  saved : ∀ s, some s ∈ t.blocks → R s.work s.hooks

variable {R : List ω → List η → Prop} {t : Nesting ω η}

theorem All.begun (h : R [] []) : (begun : Nesting ω η).All R :=
  ⟨h, fun _ hs => nomatch hs⟩

theorem All.enter (h : t.All R) (savepoint : Bool) : (t.enter savepoint).All R := by
  unfold Nesting.enter
  split
  · exact ⟨h.now, fun s hs => h.saved s (by simpa using hs)⟩
  · split
    · exact h
    · refine ⟨h.now, fun s hs => ?_⟩
      rcases List.mem_cons.mp hs with hsame | hold
      · obtain rfl := Option.some.inj hsame
        exact h.now
      · exact h.saved s hold

theorem All.leave (h : t.All R) (failed : Bool) : (t.leave failed).All R := by
  unfold Nesting.leave
  split
  · exact h
  · next rest hblocks =>
      exact ⟨h.now, fun s hs => h.saved s (by rw [hblocks]; exact List.mem_cons_of_mem _ hs)⟩
  · next saved rest hblocks =>
      have hrest : ∀ s, some s ∈ rest → R s.work s.hooks :=
        fun s hs => h.saved s (by rw [hblocks]; exact List.mem_cons_of_mem _ hs)
      split
      · exact ⟨h.now, hrest⟩
      · split
        · exact ⟨h.now, hrest⟩
        · exact ⟨h.saved saved (by rw [hblocks]; exact List.mem_cons_self), hrest⟩

theorem All.abort (h : t.All R) : t.abort.All R := ⟨h.now, h.saved⟩

theorem All.lose (h : t.All R) : t.lose.All R := ⟨h.now, h.saved⟩

theorem All.mono {S : List ω → List η → Prop} (hRS : ∀ work hooks, R work hooks → S work hooks) (h : t.All R) :
    t.All S :=
  ⟨hRS _ _ h.now, fun s hs => hRS _ _ (h.saved s hs)⟩

/-- More work in the innermost block. -/
theorem All.works (h : t.All R) {more : List ω} (hmore : R (t.work ++ more) t.hooks) :
    { t with work := t.work ++ more }.All R :=
  ⟨hmore, h.saved⟩

/-- A callback more in the innermost block. -/
theorem All.hooked (h : t.All R) {hook : η} (hhook : R t.work (t.hooks ++ [hook])) :
    { t with hooks := t.hooks ++ [hook] }.All R :=
  ⟨hhook, h.saved⟩

end Nesting

end Effect
