import NetboxOpenbao.Backends
import NetboxOpenbao.Effect.Locks

/-!
# Publishing and deleting

The sessions that publish a credential's custom metadata after a commit, and those that delete credentials. Both
take the advisory lock of the credential inside a transaction and hold it to its end. Every statement of a
session sees what has been committed by then, and its own transaction.

A move of a session that cannot be made, for a lock that is held or in another phase, leaves everything as it
is: the session waits.
-/

namespace NetboxOpenbao

open Effect

/-- What a deleting transaction has done so far: the lock its `pre_delete` handler took, and a row deleted. -/
inductive DeletionWork where
  | lock (id : Nat)
  | delete (id : Nat)
deriving DecidableEq, Repr

/-- Where a session is. `deferred` to `published` are the steps of `_publish_custom_metadata`. -/
inductive Session where
  | idle
  | deferred (id : Nat)
  | reloaded (id : Nat)
  | locked (id : Nat)
  | selected (id : Nat) (row : Credential)
  | published (id : Nat)
  | deleting (work : List DeletionWork)
  | destroying (ids : List Nat)
deriving DecidableEq, Repr

inductive ProjectionEvent where
  | setMetadata (id : Nat) (location : Location)
  | deleted (id : Nat)
  | destroyed (id : Nat)
deriving DecidableEq, Repr

/-- The committed rows, the advisory locks, the sessions, and what became visible outside, oldest first. -/
structure Projection where
  rows : Nat → Option Credential
  nextId : Nat
  locks : Locks Nat Nat
  sessions : Nat → Session
  log : List ProjectionEvent

/-- What a session does next. `insert` and `save` are commits of any other kind of transaction. -/
inductive ProjectionMove where
  | insert (row : Credential)
  | save (id : Nat) (row : Credential)
  | deferCustomMetadata (id : Nat)
  | reloadSource
  | lockCustomMetadataProjection
  | selectCredential
  | setMetadata
  | leaveAtomic
  | begin
  | serializeMaterialDelete (id : Nat)
  | delete (id : Nat)
  | rollbackTo (count : Nat)
  | commit
  | rollback
  | deleteMaterial
deriving DecidableEq, Repr

namespace Projection

def put (p : Projection) (s : Nat) (session : Session) : Projection :=
  { p with sessions := fun t => if t = s then session else p.sessions t }

def record (p : Projection) (events : List ProjectionEvent) : Projection := { p with log := p.log ++ events }

/-- The end of a transaction, or a rollback to a savepoint, gives advisory locks back. -/
def releasing (p : Projection) (s : Nat) (keeps : Nat → Bool) : Projection :=
  { p with locks := p.locks.release s keeps }

/-- `lock_custom_metadata_projection`. -/
def locking (p : Projection) (s id : Nat) (session : Session) : Projection :=
  match p.locks.acquire id s with
  | some locks => { p with locks }.put s session
  | none => p

def deletedIds (work : List DeletionWork) : List Nat :=
  work.reverse.filterMap fun entry => match entry with
    | .delete id => some id
    | .lock _ => none

/-- The deletions of a transaction become visible, and `post_delete` has left a callback for each. -/
def committing (p : Projection) (s : Nat) (work : List DeletionWork) : Projection :=
  let ids := deletedIds work
  (({ p with rows := fun id => if id ∈ ids then none else p.rows id }.releasing s fun _ => false).put s
    (.destroying ids)).record (ids.map .deleted)

/-- One move of session `s`. -/
def step (p : Projection) : Nat × ProjectionMove → Projection
  | (s, move) => match move, p.sessions s with
    | .insert row, _ => { p with
        rows := fun id => if id = p.nextId then some row else p.rows id
        nextId := p.nextId + 1 }
    | .save id row, _ =>
      if (p.rows id).isSome then { p with rows := fun k => if k = id then some row else p.rows k } else p
    | .deferCustomMetadata id, .idle => p.put s (.deferred id)
    | .reloadSource, .deferred id => p.put s (if (p.rows id).isSome then .reloaded id else .idle)
    | .lockCustomMetadataProjection, .reloaded id => p.locking s id (.locked id)
    | .selectCredential, .locked id =>
      match p.rows id with
      | some row => p.put s (.selected id row)
      | none => (p.releasing s fun _ => false).put s .idle
    | .setMetadata, .selected id row =>
      (p.put s (.published id)).record [.setMetadata id ⟨row.engineId, row.path⟩]
    | .leaveAtomic, .locked _ => (p.releasing s fun _ => false).put s .idle
    | .leaveAtomic, .selected _ _ => (p.releasing s fun _ => false).put s .idle
    | .leaveAtomic, .published _ => (p.releasing s fun _ => false).put s .idle
    | .begin, .idle => p.put s (.deleting [])
    | .serializeMaterialDelete id, .deleting work => p.locking s id (.deleting (.lock id :: work))
    | .delete id, .deleting work =>
      if .lock id ∈ work ∧ (p.rows id).isSome then p.put s (.deleting (.delete id :: work)) else p
    | .rollbackTo count, .deleting work =>
      let rest := work.drop count
      (p.releasing s fun id => rest.contains (.lock id)).put s (.deleting rest)
    | .commit, .deleting work => p.committing s work
    | .rollback, .deleting _ => (p.releasing s fun _ => false).put s .idle
    | .deleteMaterial, .destroying (id :: ids) => (p.put s (.destroying ids)).record [.destroyed id]
    | .deleteMaterial, .destroying [] => p.put s .idle
    | _, _ => p

end Projection

end NetboxOpenbao
