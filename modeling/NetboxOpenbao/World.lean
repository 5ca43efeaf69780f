import NetboxOpenbao.Backends
import NetboxOpenbao.Effect.Prog

/-!
# The world an operation runs in

One process, its database connection, the secret servers, and everybody else. An operation is a program
over `World`. At each interaction with the outside `Env` says what goes wrong, and `acts` what other
parties do to the servers just before; both are arbitrary, so a statement about every `Env` and every
`acts` is a statement about a failure at any point and any interleaving.

The database part follows Django's `Atomic.__enter__` and `Atomic.__exit__`. Rows other operations
change are not modelled here: an operation holds the row locks of what it writes until it ends.
-/

namespace NetboxOpenbao

open Effect

/-! ### Faults and other parties -/

/-- An error out of `COMMIT`, and whether the server made the transaction durable all the same. A
server that reports an integrity violation has rolled the transaction back. -/
structure CommitFailure where
  error : DatabaseFailure
  applied : Bool
  law : error.rejected = true → applied = false

/-- What goes wrong at one interaction: nothing; the other side refuses and does nothing; the other
side acts but the answer never arrives; or, at `COMMIT`, the given failure. -/
inductive Fault where
  | none
  | refused
  | lost
  | commitFailed (failure : CommitFailure)

/-- The other side does what it is asked, outside a `COMMIT`. -/
def Fault.carriedOut : Fault → Bool
  | .none | .lost => true
  | .refused | .commitFailed _ => false

/-- Who asked for a version to be deleted: the recovery or the cleanup of the owner with this
operation number. -/
inductive Issuer where
  | recovery (operation : Nat)
  | cleanup (operation : Nat)
deriving DecidableEq, Repr

/-- A version-scoped delete an owner that has left its transaction still has to issue. -/
structure PendingDelete where
  issuer : Issuer
  backend : Backend
  path : String
  version : Nat
deriving DecidableEq, Repr

/-- A request that reached a server, in the order the servers saw them. `wrote` is a write whose
version came back to the owner that asked for it; a write whose answer was lost and a write of another
party are `foreign` to every owner. -/
inductive BackendCall where
  | wrote (operation : Nat) (location : Location) (version : Nat)
  | foreign (location : Location) (version : Nat)
  | delete (issuer : Issuer) (location : Location) (version : Nat)
deriving DecidableEq, Repr

/-- What another party does: writes a version, deletes a version, or carries out the pending delete
numbered `index`, which the server may refuse. -/
inductive Act where
  | write (location : Location) (data : Payload) (cas : Option Nat)
  | delete (location : Location) (version : Nat)
  | fire (index : Nat) (accepted : Bool)

structure Env where
  fault : Nat → Fault
  now : Time

/-- The servers, with the deletes still to come, the record of what reached them, and that of the versions they
deleted for an owner. -/
structure Ext where
  store : Location → Cell
  pending : List PendingDelete
  calls : List BackendCall
  deleted : List (Location × Nat)

namespace Ext

def put (e : Ext) (location : Location) (cell : Cell) : Ext :=
  { e with store := fun l => if l = location then cell else e.store l }

def record (e : Ext) (call : BackendCall) : Ext := { e with calls := e.calls ++ [call] }

/-- An owner's delete is carried out. -/
def remove (e : Ext) (location : Location) (version : Nat) (cell : Cell) : Ext :=
  { e.put location cell with deleted := e.deleted ++ [(location, version)] }

/-- A version-scoped delete reaches the server, which carries it out or does not. -/
def issue (e : Ext) (d : PendingDelete) (accepted : Bool) : Ext :=
  let location := d.backend.location d.path
  let asked := e.record (.delete d.issuer location d.version)
  match accepted, d.backend.deleteCell (e.store location) d.version with
  | true, .ok cell => asked.remove location d.version cell
  | _, _ => asked

def act (e : Ext) : Act → Ext
  | .write location data cas =>
    let cell := e.store location
    match cell.secret.write cas data with
    | some (version, secret) => (e.put location { cell with secret }).record (.foreign location version)
    | none => e
  | .delete location version =>
    let cell := e.store location
    e.put location { cell with secret := cell.secret.delete version }
  | .fire index accepted =>
    match e.pending[index]? with
    | none => e
    | some d => ({ e with pending := e.pending.eraseIdx index } : Ext).issue d accepted

end Ext

/-! ### The owner and its attempts -/

structure MaterialAttempt where
  credential : Credential
  backend : Backend
  path : String
  user : Option User
  action : AccessAction
  version : Option Nat
  auditId : Option Nat

def MaterialAttempt.location (a : MaterialAttempt) : Location := a.backend.location a.path

/-- The participants an owner has declared, by kind. -/
structure GraphIds where
  credential : List Nat
  policy : List Nat
  engine : List Nat

structure MaterialTransaction where
  operationId : Nat
  attempts : List MaterialAttempt
  deletions : List MaterialAttempt
  failed : Bool
  committed : Bool
  graphIds : GraphIds
  graphFrozen : Bool

def MaterialTransaction.fresh (operationId : Nat) : MaterialTransaction :=
  ⟨operationId, [], [], false, false, ⟨[], [], []⟩, false⟩

/-! ### The world -/

/-- What Django knows of its connection. `aborted` and `broken` are the server's side of it: it refuses
every statement up to the next rollback, or it is gone. -/
structure Connection where
  inAtomic : Bool
  needsRollback : Bool
  closed : Bool
  present : Bool
  aborted : Bool
  broken : Bool
deriving DecidableEq, Repr

namespace Connection

/-- Autocommit, no transaction. -/
def idle : Connection := ⟨false, false, false, true, false, false⟩

/-- Inside the outermost atomic block. -/
def begun : Connection := ⟨true, false, false, true, false, false⟩

/-- After leaving an outermost block whose connection was closed inside it. -/
def gone : Connection := ⟨false, false, true, false, false, false⟩

/-- A statement on this connection raises whatever it asks. -/
def refuses (c : Connection) : Bool := c.inAtomic && (c.needsRollback || c.closed || c.aborted || c.broken)

end Connection

/-- A callback registered with `transaction.on_commit`. -/
inductive Callback where
  | markCommitted
  | projectMetadata (credential : Nat)
  | foreign (raises : Option Error)
deriving DecidableEq, Repr

/-- What the model records for the reader and no code reads: a nested owner block that raised, the audit
rows a savepoint rollback removed, and whether an outermost transaction became durable. -/
inductive Event where
  | blockRaised
  | rolledBack (auditIds : List Nat)
  | ended (durable : Bool)
deriving DecidableEq, Repr

structure World where
  db : Database
  ext : Ext
  conn : Connection
  owner : Option MaterialTransaction
  onCommit : List Callback
  operations : Nat
  journal : List Event
  env : Env
  acts : Nat → List Act
  clock : Nat

/-- A program over the world. -/
abbrev M := Prog Error World

namespace World

/-- The next interaction: the other parties act first. -/
def ticked (w : World) : World :=
  { w with ext := (w.acts w.clock).foldl Ext.act w.ext, clock := w.clock + 1 }

def note (w : World) (event : Event) : World := { w with journal := w.journal ++ [event] }

end World

def tick : M Fault := fun w => (.ok (w.env.fault w.clock), w.ticked)

/-- `if condition: raise error`. -/
def raiseIf (condition : Bool) (error : Error) : M Unit := if condition then throw error else pure ()

/-- `timezone.now()`. -/
def now : M Time := do return (← get).env.now

/-! ### The database -/

/-- One statement. A statement the server refuses aborts the surrounding transaction; one whose answer
is lost was carried out, and leaves a broken connection. Errors `q` itself raises abort nothing. -/
def statement {α : Type} (q : Database → Except Error (α × Database)) : M α := fun w =>
  let fault := w.env.fault w.clock
  let w := w.ticked
  if w.conn.refuses then (.error .operational, w)
  else match fault with
    | .none => match q w.db with
      | .ok (a, db) => (.ok a, { w with db })
      | .error e => (.error e, w)
    | .lost => (.error .operational, { w with
        db := match q w.db with
          | .ok (_, db) => db
          | .error _ => w.db
        conn := { w.conn with broken := w.conn.inAtomic } })
    | .refused | .commitFailed _ =>
      (.error .operational, { w with conn := { w.conn with aborted := w.conn.inAtomic } })

/-- A statement that only reads. -/
def query {α : Type} (q : Database → Except Error α) : M α :=
  statement fun db => (q db).map fun a => (a, db)

/-- A statement of `Model.save`: `mark_for_rollback_on_error` makes any failure of it roll back the
atomic block around it. -/
def saving {α : Type} (q : Database → Except Error (α × Database)) : M α := do
  try statement q
  catch e => do
    modify fun w => { w with conn := { w.conn with needsRollback := w.conn.needsRollback || w.conn.inAtomic } }
    throw e

/-- The audit rows `db` has and `snapshot` has not. -/
def lostRows (db snapshot : Database) : List Nat :=
  (db.accessLog.map (·.id)).filter fun id => !(snapshot.accessLog.map (·.id)).contains id

/-- `savepoint_rollback`: callbacks registered since are dropped with the rows. When the rollback itself
fails the enclosing block is marked for rollback instead. -/
def rollbackSavepoint (before : World) : M Unit := fun w =>
  let fault := w.env.fault w.clock
  let w := w.ticked
  match w.conn.broken, fault with
  | false, .none =>
    (.ok (), ({ w with
      db := w.db.rollbackTo before.db
      onCommit := before.onCommit
      conn := { w.conn with needsRollback := false, aborted := false } }).note
        (.rolledBack (lostRows w.db before.db)))
  | _, _ => (.ok (), { w with conn := { w.conn with needsRollback := true } })

/-- `with transaction.atomic():` inside another atomic block. A block entered while a rollback is due
opens no savepoint and leaves the flag as it is. -/
def savepoint {α : Type} (body : M α) : M α := do
  let before ← get
  if before.conn.needsRollback then body
  else
    query fun _ => .ok ()
    let result ← Prog.attempt body
    let after ← get
    if after.conn.closed then Prog.resume result
    else match result with
      | .ok a =>
        if after.conn.needsRollback then
          rollbackSavepoint before
          return a
        else
          try query fun _ => .ok ()
          catch e => do
            rollbackSavepoint before
            throw e
          return a
      | .error e =>
        rollbackSavepoint before
        throw e

/-- An exception that leaves an outermost atomic block: raised by its body and passed on, or raised on
the way in or out. -/
inductive AtomicFailure where
  | body (error : Error)
  | exit (error : Error)

def AtomicFailure.error : AtomicFailure → Error
  | .body e => e
  | .exit e => e

/-- `run_and_clear_commit_hooks`: the first callback that raises keeps the later ones from running. -/
def runHooks : List Callback → M Unit
  | [] => pure ()
  | .markCommitted :: rest => do
    modify fun w => { w with owner := w.owner.map fun o => { o with committed := true } }
    runHooks rest
  | .projectMetadata _ :: rest => runHooks rest
  | .foreign (some error) :: _ => throw error
  | .foreign none :: rest => runHooks rest

/-- Inside the outermost block. -/
def World.begun (w : World) : World := { w with conn := Connection.begun, onCommit := [] }

/-- Leave the outermost block with the transaction durable or not. -/
def World.ending (w start : World) (durable : Bool) : World :=
  ({ w with
    db := if durable then w.db else w.db.rollbackTo start.db
    conn := Connection.idle }).note (.ended durable)

/-- Leave the outermost block without a connection: the server rolls back by itself. -/
def World.dropped (w start : World) : World := { w.ending start false with conn := Connection.gone }

/-- `COMMIT`. PostgreSQL answers `COMMIT` in an aborted transaction with a rollback and no error. -/
def commit (start : World) : M Unit := fun w =>
  let fault := w.env.fault w.clock
  let w := w.ticked
  if w.conn.broken then (.error .operational, w.ending start false)
  else match fault with
    | .none => (.ok (), w.ending start !w.conn.aborted)
    | .refused => (.error .operational, w.ending start false)
    | .lost => (.error .operational, w.ending start !w.conn.aborted)
    | .commitFailed f => (.error (.database f.error), w.ending start (f.applied && !w.conn.aborted))

/-- `set_autocommit(True)` on the way out, which runs the callbacks of a committed transaction. -/
def leaveAtomic (hooks : List Callback) : M Unit := do
  match ← tick with
  | .none => runHooks hooks
  | _ => throw .operational

/-- Leave with an outcome, unless leaving itself raises. -/
def finishing {α : Type} (hooks : List Callback) (outcome : Except AtomicFailure α) :
    M (Except AtomicFailure α) := do
  try
    leaveAtomic hooks
    pure outcome
  catch error => pure (.error (.exit error))

/-- `Atomic.__exit__` of an outermost block whose body ended in `result`. -/
def leaveOutermost {α : Type} (start : World) (result : Except Error α) :
    M (Except AtomicFailure α) := do
  let after ← get
  if after.conn.closed then do
    modify fun w => w.dropped start
    pure (result.mapError AtomicFailure.body)
  else match result with
    | .error e => do
      modify fun w => w.ending start false
      finishing [] (.error (.body e))
    | .ok a =>
      if after.conn.needsRollback then do
        modify fun w => w.ending start false
        finishing [] (.ok a)
      else do
        let committed ← Prog.attempt (commit start)
        match committed with
        | .error e => finishing [] (.error (.exit e))
        | .ok _ => finishing after.onCommit (.ok a)

/-- `with transaction.atomic(durable=True):` outside any other atomic block. -/
def outermostAtomic {α : Type} (body : M α) : M (Except AtomicFailure α) := do
  match ← tick with
  | .none => do
    modify World.begun
    let start ← get
    let result ← Prog.attempt body
    leaveOutermost start result
  | _ => return .error (.exit .operational)

/-- `with transaction.atomic():`, wherever it stands. -/
def atomic {α : Type} (body : M α) : M α := do
  if (← get).conn.inAtomic then savepoint body
  else
    match ← outermostAtomic body with
    | .ok a => return a
    | .error failure => throw failure.error

/-! ### The servers -/

/-- `get_backend`: the handle for an engine. Resolving the tier's authentication material is one more
query. -/
def getBackend (engineId : Nat) : M Backend := do
  query fun db => match db.config.engines engineId with
    | some engine => .ok ⟨engineId, engine.slug, engine.backend, engine.kvVersion⟩
    | none => .error .doesNotExist

def backendRead (b : Backend) (path : String) (version : Option Nat) : M Payload := do
  match ← tick with
  | .none => do
    let cell := (← get).ext.store (b.location path)
    Prog.resume (b.readCell cell version)
  | _ => throw .unavailable

def listVersions (b : Backend) (path : String) : M (List (Nat × Bool)) := do
  match ← tick with
  | .none => do
    let cell := (← get).ext.store (b.location path)
    Prog.resume (b.listCell cell)
  | _ => throw .unavailable

/-- `backend.write`. The record tells a write whose version came back from one whose answer was lost. -/
def backendWrite (operation : Nat) (b : Backend) (path : String) (data : Payload) (cas : Option Nat) :
    M Nat := fun w =>
  let fault := w.env.fault w.clock
  let w := w.ticked
  let location := b.location path
  match fault, b.writeCell (w.ext.store location) data cas with
  | .refused, _ | .commitFailed _, _ => (.error .unavailable, w)
  | _, .error e => (.error e, w)
  | .none, .ok (version, cell) =>
    (.ok version, { w with ext := (w.ext.put location cell).record (.wrote operation location version) })
  | .lost, .ok (version, cell) =>
    (.error .unavailable, { w with ext := (w.ext.put location cell).record (.foreign location version) })

/-- `delete(path, versions=[version])`. -/
def backendDelete (issuer : Issuer) (b : Backend) (path : String) (version : Nat) : M Unit := fun w =>
  let fault := w.env.fault w.clock
  let w := w.ticked
  let asked (accepted : Bool) := { w with ext := w.ext.issue ⟨issuer, b, path, version⟩ accepted }
  match b.deleteCell (w.ext.store (b.location path)) version with
  | .error e => (.error e, asked false)
  | .ok _ => match fault with
    | .none => (.ok (), asked true)
    | .lost => (.error .unavailable, asked true)
    | .refused | .commitFailed _ => (.error .unavailable, asked false)

end NetboxOpenbao
