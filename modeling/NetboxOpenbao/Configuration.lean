import NetboxOpenbao.Effect.Runs

/-!
# The settings row and its memo

One thread with its database connection: the settings row as it is committed and as the open transaction sees it, and
the two thread locals the configuration is read through, the memo and the mark of a write that may be rolled back. A
snapshot is `none` for the answer that there is no row.
-/

namespace NetboxOpenbao

/-- The values of the settings row by their keys; `none` is a null. -/
abbrev SettingsRow (κ ν : Type) : Type := κ → Option ν

/-- `Config().values`. -/
abbrev Snapshot (κ ν : Type) : Type := Option (SettingsRow κ ν)

/-- The open transaction: the row as it sees it, what each open savepoint would restore, and whether a save or a delete
of the row has been signalled in it. The last is for the statements. -/
structure SettingsTransaction (κ ν : Type) where
  current : Snapshot κ ν
  savepoints : List (Snapshot κ ν)
  wrote : Bool

/-- `_thread_locals`. -/
structure ThreadLocals (κ ν : Type) where
  config : Option (Snapshot κ ν)
  settingsWriteTransaction : Bool

/-- The thread. The history lists what has been committed, oldest first; it is for the statements. -/
structure ConfigThread (κ ν : Type) where
  committed : Snapshot κ ν
  transaction : Option (SettingsTransaction κ ν)
  threadLocals : ThreadLocals κ ν
  history : List (Snapshot κ ν)

/-- How a save or a delete of the row ends: refused before its signal is sent, undone after it (by a later receiver or
at the commit), or done. -/
inductive WriteOutcome where
  | refused
  | undone
  | done
deriving DecidableEq, Repr

inductive ConfigEvent (κ ν : Type) where
  | begin
  | savepoint
  | releaseSavepoint
  | rollbackToSavepoint
  | rollback
  | commit
  | save (row : SettingsRow κ ν) (outcome : WriteOutcome)
  | delete (outcome : WriteOutcome)
  | getConfig (key : κ) (default : Option ν)
  | clearConfig

namespace ConfigThread

variable {κ ν : Type}

def start (committed : Snapshot κ ν) : ConfigThread κ ν where
  committed
  transaction := none
  threadLocals := ⟨none, false⟩
  history := [committed]

def inAtomicBlock (thread : ConfigThread κ ν) : Bool := thread.transaction.isSome

/-- The row as the connection sees it. -/
def visible (thread : ConfigThread κ ν) : Snapshot κ ν :=
  match thread.transaction with
  | some transaction => transaction.current
  | none => thread.committed

/-! ### Reading -/

/-- `_settings_write_is_uncommitted()`: a mark that has outlived its transaction is removed. -/
def settingsWriteIsUncommitted (thread : ConfigThread κ ν) : Bool × ConfigThread κ ν :=
  if !thread.threadLocals.settingsWriteTransaction then (false, thread)
  else if thread.inAtomicBlock then (true, thread)
  else (false, { thread with threadLocals := { thread.threadLocals with settingsWriteTransaction := false } })

/-- `_current_config()`. -/
def currentConfig (thread : ConfigThread κ ν) : Snapshot κ ν × ConfigThread κ ν :=
  let (uncommitted, thread) := thread.settingsWriteIsUncommitted
  if uncommitted then (thread.visible, thread)
  else match thread.threadLocals.config with
    | some config => (config, thread)
    | none =>
        (thread.visible,
          { thread with threadLocals := { thread.threadLocals with config := some thread.visible } })

/-- The value of a key in a snapshot. A snapshot without a row has the defaults of the model's fields. -/
def valueIn (fieldDefault : κ → Option ν) (snapshot : Snapshot κ ν) (key : κ) (default : Option ν) : Option ν :=
  let value := match snapshot with
    | some row => row key
    | none => fieldDefault key
  match value with
  | some value => some value
  | none => default

/-- `get_config(key, default)`. -/
def getConfig (fieldDefault : κ → Option ν) (thread : ConfigThread κ ν) (key : κ) (default : Option ν) :
    Option ν × ConfigThread κ ν :=
  let (snapshot, thread) := thread.currentConfig
  (valueIn fieldDefault snapshot key default, thread)

/-! ### Writing -/

/-- `clear_config(pending_write=pending_write)`. -/
def clearConfig (thread : ConfigThread κ ν) (pendingWrite : Bool) : ConfigThread κ ν :=
  { thread with threadLocals := ⟨none, pendingWrite && thread.inAtomicBlock⟩ }

def begin (thread : ConfigThread κ ν) : ConfigThread κ ν :=
  { thread with transaction := some ⟨thread.committed, [], false⟩ }

def rollback (thread : ConfigThread κ ν) : ConfigThread κ ν := { thread with transaction := none }

def commit (thread : ConfigThread κ ν) : ConfigThread κ ν :=
  match thread.transaction with
  | some transaction =>
      { thread with
        committed := transaction.current
        transaction := none
        history := thread.history ++ [transaction.current] }
  | none => thread

/-- A write of the row inside the open transaction, with the signal it sends. -/
def writeInside (thread : ConfigThread κ ν) (transaction : SettingsTransaction κ ν) (row : Snapshot κ ν)
    (outcome : WriteOutcome) : ConfigThread κ ν :=
  let written := { thread with transaction := some { transaction with current := row, wrote := true } }
  match outcome with
  | .refused => thread
  | .undone => { written.clearConfig true with transaction := some { transaction with wrote := true } }
  | .done => written.clearConfig true

/-- `save()` and `delete()` of the row open a block of their own, which outside a transaction is one. -/
def write (thread : ConfigThread κ ν) (row : Snapshot κ ν) (outcome : WriteOutcome) : ConfigThread κ ν :=
  match thread.transaction with
  | some transaction => thread.writeInside transaction row outcome
  | none =>
      let inside := thread.begin.writeInside ⟨thread.committed, [], false⟩ row outcome
      match outcome with
      | .done => inside.commit
      | _ => inside.rollback

/-- The next event. One that cannot come now changes nothing; a plain `clear_config()` comes outside any transaction. -/
def step (fieldDefault : κ → Option ν) (thread : ConfigThread κ ν) (event : ConfigEvent κ ν) : ConfigThread κ ν :=
  match event, thread.transaction with
  | .begin, none => thread.begin
  | .savepoint, some transaction =>
      { thread with
        transaction := some { transaction with savepoints := transaction.current :: transaction.savepoints } }
  | .releaseSavepoint, some transaction =>
      { thread with transaction := some { transaction with savepoints := transaction.savepoints.tail } }
  | .rollbackToSavepoint, some transaction =>
      match transaction.savepoints with
      | [] => thread
      | saved :: earlier =>
          { thread with transaction := some { transaction with current := saved, savepoints := earlier } }
  | .rollback, some _ => thread.rollback
  | .commit, some _ => thread.commit
  | .save row outcome, _ => thread.write (some row) outcome
  | .delete outcome, _ => thread.write none outcome
  | .getConfig key default, _ => (thread.getConfig fieldDefault key default).2
  | .clearConfig, none => thread.clearConfig false
  | _, _ => thread

end ConfigThread

end NetboxOpenbao
