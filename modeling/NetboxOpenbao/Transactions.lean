import NetboxOpenbao.World

/-!
# Material transactions

The outermost owner of a material change: its commit witness, what it does when its transaction rolls
back, and the staged cleanup that waits for the commit. A nested owner block only reports to the
outermost one.
-/

namespace NetboxOpenbao

open Effect

/-! ### The current owner -/

/-- `current_material_transaction`. -/
def currentMaterialTransaction : M MaterialTransaction := do
  match (← get).owner with
  | some owner => return owner
  | none => throw (.openbao .base "An outer material transaction is required.")

def modifyOwner (f : MaterialTransaction → MaterialTransaction) : M Unit :=
  modify fun w => { w with owner := w.owner.map f }

inductive GraphKind where
  | credential | policy | engine
deriving DecidableEq, Repr

def GraphIds.get (ids : GraphIds) : GraphKind → List Nat
  | .credential => ids.credential
  | .policy => ids.policy
  | .engine => ids.engine

/-- `known.update(requested)`. -/
def GraphIds.update (ids : GraphIds) (kind : GraphKind) (requested : List Nat) : GraphIds :=
  let merge (known : List Nat) := known ++ requested.filter fun id => !known.contains id
  match kind with
  | .credential => { ids with credential := merge ids.credential }
  | .policy => { ids with policy := merge ids.policy }
  | .engine => { ids with engine := merge ids.engine }

/-- `declare_graph`: once the graph is frozen only participants it already has may be named. -/
def declareGraph : List (GraphKind × List Nat) → M Unit
  | [] => pure ()
  | (kind, requested) :: rest => do
    let owner ← currentMaterialTransaction
    raiseIf (owner.graphFrozen && !requested.all fun id => (owner.graphIds.get kind).contains id)
      (.openbao .base "All material participants must be locked before the first write.")
    modifyOwner fun o => { o with graphIds := o.graphIds.update kind requested }
    declareGraph rest

/-- `attempt.audit_id and CredentialAccessLog.objects.filter(pk=attempt.audit_id).exists()`. -/
def retains (attempt : MaterialAttempt) : M Bool :=
  match attempt.auditId with
  | some id => query fun db => .ok (db.hasLog id)
  | none => pure false

/-- `witness`: every attempt and every deletion must still have its audit row. -/
def witness : List MaterialAttempt → M Unit
  | [] => pure ()
  | attempt :: rest => do
    let retained ← retains attempt
    raiseIf (!retained) (.openbao .base "The material transaction did not retain its commit witness.")
    witness rest

/-! ### After the transaction -/

/-- `record_recovery`: an audit row without a foreign key, written outside any transaction. -/
def recordRecovery (owner : MaterialTransaction) (attempt : MaterialAttempt) (message : String) : M Unit := do
  try
    saving fun db => .ok ((), db.insertLog {
      id := 0
      credential := none
      credentialUuidSnapshot := attempt.credential.uuid
      usernameSnapshot := (attempt.user.map (·.username)).getD ""
      action := attempt.action
      success := false
      reason := ""
      message
      requestId := some owner.operationId
      resolvedVersion := attempt.version })
  catch _ => pure ()

/-- What `recover` does for one attempt, and what it reports. The exact version is deleted only after a
rollback that is known, and only when the backend told which version it wrote. -/
def compensate (owner : MaterialTransaction) (unknown : Bool) (attempt : MaterialAttempt) : M String := do
  if owner.committed then
    pure "Material transaction committed; post-commit processing requires reconciliation."
  else match unknown, attempt.version with
    | false, some version =>
      try
        backendDelete (.recovery owner.operationId) attempt.backend attempt.path version
        pure "Material transaction rolled back; its exact version was removed."
      catch _ => pure "Material transaction rolled back; version cleanup requires reconciliation."
    | _, _ => pure "Material transaction outcome unknown; reconciliation required."

def recoverAttempts (owner : MaterialTransaction) (unknown : Bool) : List MaterialAttempt → M Unit
  | [] => pure ()
  | attempt :: rest => do
    let outcome ← compensate owner unknown attempt
    recordRecovery owner attempt outcome
    recoverAttempts owner unknown rest

def discardRecoveryMessage (owner : MaterialTransaction) (unknown : Bool) : String :=
  if owner.committed then "Discard committed; cleanup was not performed and requires reconciliation."
  else if unknown then "Discard outcome unknown; cleanup was not performed and requires reconciliation."
  else "Discard rolled back; no discard deletion was performed."

def recordDeletions (owner : MaterialTransaction) (unknown : Bool) : List MaterialAttempt → M Unit
  | [] => pure ()
  | deletion :: rest => do
    recordRecovery owner deletion (discardRecoveryMessage owner unknown)
    recordDeletions owner unknown rest

/-- `recover`. -/
def recover (owner : MaterialTransaction) (unknown : Bool) : M Unit := do
  recoverAttempts owner unknown owner.attempts.reverse
  recordDeletions owner unknown owner.deletions

def deleteStaged (owner : MaterialTransaction) (deletion : MaterialAttempt) : M Unit :=
  match deletion.version with
  | some version => backendDelete (.cleanup owner.operationId) deletion.backend deletion.path version
  | none => pure ()

/-- `filter(pk=deletion.audit_id).update(…)`: whether the audit row of the discard was there. -/
def updateDeletionLog (deletion : MaterialAttempt) (db : Database) : Except Error (Bool × Database) :=
  match deletion.auditId with
  | some id => .ok (db.hasLog id, db.updateLog id true
      "Discard committed; its exact staged version was removed.")
  | none => .ok (false, db)

/-- Delete the exact staged version, then update the audit row of its discard. -/
def removeDeletion (owner : MaterialTransaction) (deletion : MaterialAttempt) : M Unit := do
  deleteStaged owner deletion
  let updated ← statement (updateDeletionLog deletion)
  raiseIf (!updated) (.openbao .base "The committed discard audit is unavailable.")

/-- One staged cleanup; the result tells whether it is incomplete. -/
def finishDeletion (owner : MaterialTransaction) (deletion : MaterialAttempt) : M Bool := do
  try
    removeDeletion owner deletion
    pure false
  catch _ =>
    recordRecovery owner deletion "Discard committed; cleanup or its audit requires reconciliation."
    pure true

def finishEach (owner : MaterialTransaction) : List MaterialAttempt → M Bool
  | [] => pure false
  | deletion :: rest => do
    let incomplete ← finishDeletion owner deletion
    let others ← finishEach owner rest
    return incomplete || others

/-- `finish_deletions`: run irreversible staged cleanup only after the owner exits successfully. -/
def finishDeletions (owner : MaterialTransaction) : M Unit := do
  raiseIf (!owner.deletions.isEmpty && !owner.committed)
    (.openbao .base "Staged cleanup requires a confirmed material transaction commit.")
  let incomplete ← finishEach owner owner.deletions
  raiseIf incomplete
    (.openbao .base "Discard committed; cleanup is incomplete and requires reconciliation.")

/-! ### The transaction itself -/

/-- `_unknown_rollback`, asked after the atomic block has been left. -/
def unknownRollback (failure : AtomicFailure) (conn : Connection) : Bool :=
  match failure with
  | .body _ => !conn.present || conn.closed
  | .exit error => !error.rejected

/-- How an outermost owner left its transaction, before recovery or staged cleanup. -/
structure Exit (α : Type) where
  owner : MaterialTransaction
  result : Except Error α
  unknown : Bool

/-- The body of an outermost owner's atomic block. The commit marker is registered first, so a later
callback that raises cannot hide the commit. -/
def ownedBody {α : Type} (body : M α) : M α := do
  modify fun w => { w with onCommit := w.onCommit ++ [.markCommitted] }
  let a ← body
  let owner ← currentMaterialTransaction
  raiseIf owner.failed (.openbao .base "The material transaction was refused.")
  witness (owner.attempts ++ owner.deletions)
  return a

/-- The outermost owner up to the point where it has left its transaction and its context variable. -/
def ownedTransaction {α : Type} (body : M α) : M (Exit α) := do
  let operationId := (← get).operations
  modify fun w => { w with
    owner := some (MaterialTransaction.fresh operationId)
    operations := w.operations + 1 }
  let left ← outermostAtomic (ownedBody body)
  let w ← get
  let owner := w.owner.getD (MaterialTransaction.fresh operationId)
  modify fun w => { w with owner := none }
  match left with
  | .ok a => return ⟨owner, .ok a, false⟩
  | .error failure => return ⟨owner, .error failure.error, unknownRollback failure w.conn⟩

/-- What follows the transaction: staged cleanup after success, recovery after a failure. -/
def settle {α : Type} (exit : Exit α) : M α := do
  match exit.result with
  | .ok a => do
    finishDeletions exit.owner
    return a
  | .error error => do
    recover exit.owner exit.unknown
    throw error

/-- `with material_transaction():`. A nested block joins the owner there is and marks it failed when it
raises, whoever catches the exception. -/
def materialTransaction {α : Type} (body : M α) : M α := do
  match (← get).owner with
  | some _ => do
    try body
    catch error => do
      modifyOwner fun o => { o with failed := true }
      modify fun w => w.note .blockRaised
      throw error
  | none => do
    raiseIf (← get).conn.inAtomic (.openbao .base
      "An outer material transaction requires autocommit before application transactions.")
    let exit ← ownedTransaction body
    settle exit

/-- The backend deletes `settle` issues, in its order. -/
def Exit.deletes {α : Type} (exit : Exit α) : List PendingDelete :=
  let pending (issuer : Issuer) (a : MaterialAttempt) : Option PendingDelete :=
    a.version.map fun version => ⟨issuer, a.backend, a.path, version⟩
  match exit.result with
  | .ok _ =>
    if exit.owner.committed then
      exit.owner.deletions.filterMap (pending (.cleanup exit.owner.operationId))
    else []
  | .error _ =>
    if exit.owner.committed || exit.unknown then []
    else exit.owner.attempts.reverse.filterMap (pending (.recovery exit.owner.operationId))

end NetboxOpenbao
