import NetboxOpenbao.Configuration

/-!
# What a read of the configuration can return

A memo is only ever filled with a row that is committed: while a write is open its mark keeps reads from the memo, and
a mark that has outlived its transaction only keeps them from it for longer.
-/

namespace NetboxOpenbao

open Effect

variable {κ ν : Type}

/-- What holds of a thread between two events. -/
structure ConfigThread.Sound (thread : ConfigThread κ ν) : Prop where
  committed : thread.committed ∈ thread.history
  memo : ∀ snapshot, thread.threadLocals.config = some snapshot → snapshot ∈ thread.history
  marked : ∀ transaction, thread.transaction = some transaction → transaction.wrote = true →
    thread.threadLocals = ⟨none, true⟩
  unwritten : ∀ transaction, thread.transaction = some transaction → transaction.wrote = false →
    transaction.current = thread.committed ∧ ∀ saved ∈ transaction.savepoints, saved = thread.committed

namespace ConfigThread

theorem start_sound (committed : Snapshot κ ν) : (start committed).Sound where
  committed := List.mem_singleton_self _
  memo := nofun
  marked := nofun
  unwritten := nofun

/-- The row as the connection sees it is committed unless the open transaction has written it. -/
theorem visible_mem {thread : ConfigThread κ ν} (h : thread.Sound)
    (hwrote : ∀ transaction, thread.transaction = some transaction → transaction.wrote = false) :
    thread.visible ∈ thread.history := by
  unfold visible
  cases htransaction : thread.transaction with
  | none => exact h.committed
  | some transaction =>
      dsimp only
      rw [(h.unwritten transaction htransaction (hwrote transaction htransaction)).1]
      exact h.committed

/-- The snapshot of a read, and what the read leaves: the same thread, with a memo or without a mark. -/
theorem currentConfig_cases (thread : ConfigThread κ ν) :
    (thread.threadLocals.settingsWriteTransaction = true ∧ thread.inAtomicBlock = true ∧
        thread.currentConfig = (thread.visible, thread)) ∨
      ((thread.threadLocals.settingsWriteTransaction = false ∨ thread.inAtomicBlock = false) ∧
        ((∃ config, thread.threadLocals.config = some config ∧
            thread.currentConfig = (config, { thread with threadLocals := ⟨some config, false⟩ })) ∨
          (thread.threadLocals.config = none ∧
            thread.currentConfig =
              (thread.visible, { thread with threadLocals := ⟨some thread.visible, false⟩ })))) := by
  obtain ⟨committed, transaction, ⟨config, mark⟩, history⟩ := thread
  unfold currentConfig settingsWriteIsUncommitted
  cases mark with
  | false =>
      refine .inr ⟨.inl rfl, ?_⟩
      cases config with
      | none => exact .inr ⟨rfl, rfl⟩
      | some config => exact .inl ⟨config, rfl, rfl⟩
  | true =>
      cases transaction with
      | some transaction => exact .inl ⟨rfl, rfl, rfl⟩
      | none =>
          refine .inr ⟨.inr rfl, ?_⟩
          cases config with
          | none => exact .inr ⟨rfl, rfl⟩
          | some config => exact .inl ⟨config, rfl, rfl⟩

/-- A read that does not go past the memo is not made in a transaction that has written the row. -/
theorem unwritten_of_unmarked {thread : ConfigThread κ ν} (h : thread.Sound)
    (hmark : thread.threadLocals.settingsWriteTransaction = false ∨ thread.inAtomicBlock = false) :
    ∀ transaction, thread.transaction = some transaction → transaction.wrote = false := by
  intro transaction htransaction
  cases hwrote : transaction.wrote with
  | false => rfl
  | true =>
      rcases hmark with hmark | hblock
      · rw [h.marked transaction htransaction hwrote] at hmark
        cases hmark
      · rw [inAtomicBlock, htransaction] at hblock
        cases hblock

theorem currentConfig_sound {thread : ConfigThread κ ν} (h : thread.Sound) : thread.currentConfig.2.Sound := by
  have hfill : ∀ snapshot, (∀ transaction, thread.transaction = some transaction → transaction.wrote = false) →
      snapshot ∈ thread.history → ({ thread with threadLocals := ⟨some snapshot, false⟩ } : ConfigThread κ ν).Sound := by
    intro snapshot hwrote hmem
    refine ⟨h.committed, fun _ hsame => ?_, fun transaction htransaction hwritten => ?_, h.unwritten⟩
    · obtain rfl := Option.some.inj hsame
      exact hmem
    · rw [hwrote transaction htransaction] at hwritten
      cases hwritten
  rcases currentConfig_cases thread with ⟨-, -, hread⟩ | ⟨hmark, ⟨config, hmemo, hread⟩ | ⟨-, hread⟩⟩
  · rw [hread]
    exact h
  · rw [hread]
    exact hfill config (unwritten_of_unmarked h hmark) (h.memo config hmemo)
  · rw [hread]
    exact hfill thread.visible (unwritten_of_unmarked h hmark) (visible_mem h (unwritten_of_unmarked h hmark))

/-! ### Writes -/

theorem begin_sound {thread : ConfigThread κ ν} (h : thread.Sound) : thread.begin.Sound where
  committed := h.committed
  memo := h.memo
  marked := by
    rintro _ ⟨⟩ hwrote
    cases hwrote
  unwritten := by
    rintro _ ⟨⟩ -
    exact ⟨rfl, nofun⟩

theorem rollback_sound {thread : ConfigThread κ ν} (h : thread.Sound) : thread.rollback.Sound where
  committed := h.committed
  memo := h.memo
  marked := nofun
  unwritten := nofun

theorem commit_sound {thread : ConfigThread κ ν} (h : thread.Sound) : thread.commit.Sound := by
  unfold commit
  cases thread.transaction with
  | none => exact h
  | some transaction =>
      exact ⟨List.mem_append_right _ (List.mem_singleton_self _),
        fun snapshot hmemo => List.mem_append_left _ (h.memo snapshot hmemo), nofun, nofun⟩

theorem writeInside_sound {thread : ConfigThread κ ν} (h : thread.Sound) (transaction : SettingsTransaction κ ν)
    (row : Snapshot κ ν) (outcome : WriteOutcome) : (thread.writeInside transaction row outcome).Sound := by
  cases outcome with
  | refused => exact h
  | undone =>
      refine ⟨h.committed, nofun, fun _ _ _ => rfl, ?_⟩
      rintro _ ⟨⟩ hwrote
      cases hwrote
  | done =>
      refine ⟨h.committed, nofun, fun _ _ _ => rfl, ?_⟩
      rintro _ ⟨⟩ hwrote
      cases hwrote

theorem write_sound {thread : ConfigThread κ ν} (h : thread.Sound) (row : Snapshot κ ν) (outcome : WriteOutcome) :
    (thread.write row outcome).Sound := by
  unfold write
  cases thread.transaction with
  | some transaction => exact writeInside_sound h transaction row outcome
  | none =>
      have hinside := writeInside_sound (begin_sound h) ⟨thread.committed, [], false⟩ row outcome
      cases outcome with
      | refused => exact rollback_sound hinside
      | undone => exact rollback_sound hinside
      | done => exact commit_sound hinside

/-- Every event keeps it. -/
theorem step_sound (fieldDefault : κ → Option ν) (thread : ConfigThread κ ν) (event : ConfigEvent κ ν)
    (h : thread.Sound) : (thread.step fieldDefault event).Sound := by
  unfold step
  cases event with
  | save row outcome => exact write_sound h _ outcome
  | delete outcome => exact write_sound h none outcome
  | getConfig key default => exact currentConfig_sound h
  | begin =>
      cases htransaction : thread.transaction with
      | none => exact begin_sound h
      | some transaction => exact h
  | rollback =>
      cases htransaction : thread.transaction with
      | none => exact h
      | some transaction => exact rollback_sound h
  | commit =>
      cases htransaction : thread.transaction with
      | none => exact h
      | some transaction => exact commit_sound h
  | clearConfig =>
      cases htransaction : thread.transaction with
      | none =>
          refine ⟨h.committed, nofun, fun transaction hsome => ?_, fun transaction hsome => ?_⟩
          · rw [clearConfig, htransaction] at hsome
            cases hsome
          · rw [clearConfig, htransaction] at hsome
            cases hsome
      | some transaction => exact h
  | savepoint =>
      cases htransaction : thread.transaction with
      | none => exact h
      | some transaction =>
          refine ⟨h.committed, h.memo, ?_, ?_⟩
          · rintro _ ⟨⟩ hwrote
            exact h.marked transaction htransaction hwrote
          · rintro _ ⟨⟩ hwrote
            obtain ⟨hcurrent, hsaved⟩ := h.unwritten transaction htransaction hwrote
            refine ⟨hcurrent, fun saved hmem => ?_⟩
            rcases List.mem_cons.mp hmem with rfl | hmem
            · exact hcurrent
            · exact hsaved saved hmem
  | releaseSavepoint =>
      cases htransaction : thread.transaction with
      | none => exact h
      | some transaction =>
          refine ⟨h.committed, h.memo, ?_, ?_⟩
          · rintro _ ⟨⟩ hwrote
            exact h.marked transaction htransaction hwrote
          · rintro _ ⟨⟩ hwrote
            obtain ⟨hcurrent, hsaved⟩ := h.unwritten transaction htransaction hwrote
            exact ⟨hcurrent, fun saved hmem => hsaved saved (List.mem_of_mem_tail hmem)⟩
  | rollbackToSavepoint =>
      cases htransaction : thread.transaction with
      | none => exact h
      | some transaction =>
          dsimp only
          cases hsavepoints : transaction.savepoints with
          | nil => exact h
          | cons saved earlier =>
              refine ⟨h.committed, h.memo, ?_, ?_⟩
              · rintro _ ⟨⟩ hwrote
                exact h.marked transaction htransaction hwrote
              · rintro _ ⟨⟩ hwrote
                obtain ⟨-, hsaved⟩ := h.unwritten transaction htransaction hwrote
                rw [hsavepoints] at hsaved
                exact ⟨hsaved saved List.mem_cons_self, fun other hmem => hsaved other (List.mem_cons_of_mem _ hmem)⟩

/-- The thread after a run. -/
abbrev after (fieldDefault : κ → Option ν) (committed : Snapshot κ ν) (events : List (ConfigEvent κ ν)) :
    ConfigThread κ ν :=
  Runs.final (step fieldDefault) (start committed) events

theorem after_sound (fieldDefault : κ → Option ν) (committed : Snapshot κ ν) (events : List (ConfigEvent κ ν)) :
    (after fieldDefault committed events).Sound :=
  (Runs.throughout_of_step (P := Sound) (step_sound fieldDefault) (start_sound committed) events).final

end ConfigThread

open ConfigThread

/-- After any run, a read outside a transaction returns the value of a row that has been committed, and a read in a
transaction that has written the row returns the value of the row as that transaction sees it. -/
theorem config_reads_are_committed (fieldDefault : κ → Option ν) (committed : Snapshot κ ν)
    (events : List (ConfigEvent κ ν)) (key : κ) (default : Option ν) :
    ((after fieldDefault committed events).transaction = none →
      ∃ snapshot ∈ (after fieldDefault committed events).history,
        ((after fieldDefault committed events).getConfig fieldDefault key default).1 =
          valueIn fieldDefault snapshot key default) ∧
      ∀ transaction, (after fieldDefault committed events).transaction = some transaction →
        transaction.wrote = true →
          ((after fieldDefault committed events).getConfig fieldDefault key default).1 =
            valueIn fieldDefault transaction.current key default := by
  have h := after_sound fieldDefault committed events
  generalize after fieldDefault committed events = thread at h ⊢
  constructor
  · intro hnone
    have hwrote : ∀ transaction, thread.transaction = some transaction → transaction.wrote = false := by
      rw [hnone]
      exact nofun
    unfold getConfig
    rcases currentConfig_cases thread with ⟨-, hblock, -⟩ | ⟨-, ⟨config, hmemo, hread⟩ | ⟨-, hread⟩⟩
    · rw [inAtomicBlock, hnone] at hblock
      cases hblock
    · rw [hread]
      exact ⟨config, h.memo config hmemo, rfl⟩
    · rw [hread]
      exact ⟨thread.visible, visible_mem h hwrote, rfl⟩
  · intro transaction htransaction hwrote
    have hlocals := h.marked transaction htransaction hwrote
    have hvisible : thread.visible = transaction.current := by rw [visible, htransaction]
    unfold getConfig
    rcases currentConfig_cases thread with ⟨-, -, hread⟩ | ⟨hmark | hblock, -⟩
    · rw [hread]
      exact congrArg (valueIn fieldDefault · key default) hvisible
    · rw [hlocals] at hmark
      cases hmark
    · rw [inAtomicBlock, htransaction] at hblock
      cases hblock

end NetboxOpenbao
