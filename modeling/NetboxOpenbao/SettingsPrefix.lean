import NetboxOpenbao.Administration.Json
import NetboxOpenbao.Effect.Locks
import NetboxOpenbao.Effect.Work
import NetboxOpenbao.Errors

/-!
# The path prefix and the credentials stamped under it

The transactions that save and delete the settings row and those that create credentials, statement by statement, under
READ COMMITTED: a statement sees what is committed when it starts and the transaction's own writes. All of them go
through `_lock_for_prefix_write`. A `SELECT … FOR UPDATE` picks its row when it starts, waits for the row's lock, and
then returns the row as it is by then, or nothing if the row is gone.

A move that cannot be made, for a lock that is held or in another phase, leaves everything as it is.
-/

namespace NetboxOpenbao

open Effect

/-- The columns of the singleton that decide where credentials are kept. -/
structure OpenBaoSettings where
  pk : Nat
  pathPrefix : String
deriving DecidableEq, Repr

/-- A credential with the path it was given at its creation. -/
structure StampedCredential where
  uuid : String
  path : String
deriving DecidableEq, Repr

structure PrefixTables where
  settings : Option OpenBaoSettings
  credentials : List StampedCredential
deriving DecidableEq, Repr

/-! ### Validation -/

/-- The test of `validate_path_prefix`. -/
def malformedPathPrefix (pathPrefix : String) : Bool :=
  let characters := pathPrefix.toList
  characters.isEmpty || characters.head? == some '/' || characters.getLast? == some '/' ||
    characters.any Text.space ||
    (Text.segments characters).any fun segment => segment == [] || segment == ['.'] || segment == ['.', '.']

def validatePathPrefix (pathPrefix : String) : Except Error Unit :=
  if malformedPathPrefix pathPrefix then
    .error (.validation "path_prefix" ("The effective netbox_openbao path_prefix configuration must be a non-empty " ++
      "relative path without leading or trailing slashes, empty or traversal segments, or whitespace."))
  else .ok ()

/-- The path of a credential under a prefix. -/
def stampedPath (pathPrefix uuid : String) : String := pathPrefix ++ "/credentials/" ++ uuid

/-- `Credential._path_for_prefix`. -/
def pathForPrefix (uuid pathPrefix : String) : Except Error String := do
  validatePathPrefix pathPrefix
  return stampedPath pathPrefix uuid

/-- A credential whose path is not the one under the prefix. -/
def mismatched (pathPrefix : String) : List StampedCredential → Except Error Bool
  | [] => .ok false
  | credential :: rest => do
      let path ← pathForPrefix credential.uuid pathPrefix
      if credential.path != path then return true else mismatched pathPrefix rest

/-- `_validate_prefix_change`. -/
def validatePrefixChange (tables : PrefixTables) (pathPrefix : String) : Option String → Except Error Unit
  | none => do
      if ← mismatched pathPrefix tables.credentials then
        throw (.validation "path_prefix" (s!"Path prefix cannot be set to '{pathPrefix}' because existing Credential " ++
          "rows are stamped under a different path prefix. Create the settings row with the prefix already encoded " ++
          "in their stored paths."))
  | some previous =>
      if pathPrefix = previous ∨ tables.credentials = [] then .ok ()
      else .error (.validation "path_prefix" ("Path prefix cannot be changed while credentials exist. The AppRole's " ++
        s!"OpenBao policy is scoped to secret/data/{previous}/credentials/*; changing the prefix would make OpenBao " ++
        "refuse new credential writes with a permission error that looks like a vault outage, while every existing " ++
        "credential keeps working."))

/-- `_ensure_deletable`, on an instance with this prefix. -/
def ensureDeletable (tables : PrefixTables) (pathPrefix : String) : Except Error Unit :=
  if tables.credentials = [] then .ok ()
  else .error (.raised ("OpenBao settings cannot be deleted while credentials exist. The AppRole's OpenBao policy is " ++
    s!"scoped to secret/data/{pathPrefix}/credentials/*; deleting the row could change the effective path prefix and " ++
    "make OpenBao refuse new credential writes with a permission error that looks like a vault outage, while every " ++
    "existing credential keeps working."))

/-! ### Writes and operations -/

inductive PrefixEffect where
  | insert (row : OpenBaoSettings)
  | setPrefix (pk : Nat) (pathPrefix : String)
  | deleteSettings (pk : Nat)
  | createCredential (credential : StampedCredential)
  | deleteCredential (uuid : String)
deriving DecidableEq, Repr

def PrefixEffect.apply : PrefixEffect → PrefixTables → PrefixTables
  | .insert row, tables => { tables with settings := some row }
  | .setPrefix pk pathPrefix, tables =>
      { tables with settings := tables.settings.map fun row => if row.pk = pk then { row with pathPrefix } else row }
  | .deleteSettings pk, tables => { tables with settings := tables.settings.filter fun row => row.pk != pk }
  | .createCredential credential, tables => { tables with credentials := tables.credentials ++ [credential] }
  | .deleteCredential uuid, tables =>
      { tables with credentials := tables.credentials.filter fun credential => credential.uuid != uuid }

/-- What takes the lock: a save of a new settings instance, a save of a stored one, a deletion by `delete()` or by
`QuerySet.delete()`, and the first save of a credential, with the prefix `get_config` would give it. -/
inductive PrefixOperation where
  | saveNew (pathPrefix : String)
  | save (row : OpenBaoSettings) (updatesPrefix : Bool)
  | delete (row : OpenBaoSettings) (queryset : Bool)
  | createCredential (uuid configured : String)
deriving DecidableEq, Repr

/-- What `save()` checks before it opens its block. -/
def PrefixOperation.validate : PrefixOperation → Except Error Unit
  | .saveNew pathPrefix => validatePathPrefix pathPrefix
  | .save row _ => validatePathPrefix row.pathPrefix
  | .delete _ _ | .createCredential _ _ => .ok ()

/-- The statement an operation ends with. -/
inductive PrefixStatement where
  | insert (pathPrefix : String)
  | update (pk : Nat) (pathPrefix : Option String)
  | delete (pk : Nat)
  | insertCredential (credential : StampedCredential)
deriving DecidableEq, Repr

def settingsExist : Error :=
  .raised "OpenBao settings already exist. Edit the existing configuration instead of creating a second one."

def staleSettings : Error :=
  .validation "__all__" "OpenBao settings cannot be saved because this row no longer exists."

/-- The unique constraint on `singleton_key`. -/
def singletonKeyTaken : Error := .database ⟨true, some ⟨true, ['2', '3', '5', '0', '5']⟩⟩

/-- What an operation does with the row `_lock_for_prefix_write` gave it. -/
def PrefixOperation.check (tables : PrefixTables) :
    PrefixOperation → Option OpenBaoSettings → Except Error PrefixStatement
  | .saveNew pathPrefix, none => do
      validatePrefixChange tables pathPrefix none
      return .insert pathPrefix
  | .saveNew _, some _ => throw settingsExist
  | .save _ _, none => throw staleSettings
  | .save row updatesPrefix, some locked =>
      if locked.pk ≠ row.pk then throw staleSettings
      else if updatesPrefix then do
        validatePrefixChange tables row.pathPrefix (some locked.pathPrefix)
        return .update row.pk (some row.pathPrefix)
      else return .update row.pk none
  | .delete row false, none => return .delete row.pk
  | .delete row false, some locked => do
      ensureDeletable tables locked.pathPrefix
      return .delete row.pk
  | .delete row true, _ => do
      ensureDeletable tables row.pathPrefix
      return .delete row.pk
  | .createCredential uuid configured, locked => do
      let path ← pathForPrefix uuid ((locked.map (·.pathPrefix)).getD configured)
      return .insertCredential ⟨uuid, path⟩

/-! ### Sessions -/

/-- The row lock, the advisory lock, and the entry in the unique index of an insertion that is not committed. -/
inductive PrefixLock where
  | row (pk : Nat)
  | advisory
  | singletonKey
deriving DecidableEq, Repr

/-- Where an operation is. `selecting` is inside a `_lock_for_write` that has picked its row, the first or, with
`advised`, the one after the advisory lock; `locked` is after `_lock_for_prefix_write`. -/
inductive PrefixPhase where
  | ready
  | selecting (operation : PrefixOperation) (advised : Bool) (candidate : Option Nat)
  | advising (operation : PrefixOperation)
  | advised (operation : PrefixOperation)
  | locked (operation : PrefixOperation) (row : Option OpenBaoSettings)
  | checked (statement : PrefixStatement)
deriving DecidableEq, Repr

/-- A session: what its transaction has done, and how much of that an operation under way began with. -/
structure PrefixSession where
  work : Work PrefixLock PrefixEffect
  phase : PrefixPhase
  mark : Nat
deriving DecidableEq, Repr

structure PrefixWrites (σ : Type) where
  committed : PrefixTables
  nextPk : Nat
  locks : Locks PrefixLock σ
  sessions : σ → PrefixSession
  refusals : List (σ × Error)

/-- `proceed` is the next statement of the operation under way. A transaction without work is one that has not begun.
An exception unwinds to a savepoint or to the beginning, wherever it is raised. -/
inductive PrefixMove where
  | start (operation : PrefixOperation)
  | proceed
  | deleteCredential (uuid : String)
  | rollbackTo (count : Nat)
  | commit
deriving DecidableEq, Repr

namespace PrefixWrites

variable {σ : Type} [DecidableEq σ]

def start (committed : PrefixTables) (nextPk : Nat) : PrefixWrites σ where
  committed
  nextPk
  locks := Locks.free
  sessions := fun _ => ⟨[], .ready, 0⟩
  refusals := []

/-- What the session sees. -/
def view (p : PrefixWrites σ) (s : σ) : PrefixTables := Work.view PrefixEffect.apply p.committed (p.sessions s).work

def put (p : PrefixWrites σ) (s : σ) (session : PrefixSession) : PrefixWrites σ :=
  { p with sessions := fun t => if t = s then session else p.sessions t }

def turn (p : PrefixWrites σ) (s : σ) (phase : PrefixPhase) : PrefixWrites σ :=
  p.put s { p.sessions s with phase }

/-- The newest entries of the transaction are undone, and the locks among them given back. -/
def unwinding (p : PrefixWrites σ) (s : σ) (count : Nat) : PrefixWrites σ :=
  let session := p.sessions s
  let rest := session.work.drop count
  { p with locks := p.locks.release s fun key => rest.contains (.lock key) }.put s { session with
    work := rest
    phase := .ready }

/-- The operation raises, and its block undoes what the operation has done. -/
def refusing (p : PrefixWrites σ) (s : σ) (error : Error) : PrefixWrites σ :=
  let session := p.sessions s
  { p with refusals := p.refusals ++ [(s, error)] }.unwinding s (session.work.length - session.mark)

/-- The session takes a lock and goes on, or waits. -/
def locking (p : PrefixWrites σ) (s : σ) (key : PrefixLock) (phase : PrefixPhase) : PrefixWrites σ :=
  match p.locks.acquire key s with
  | some locks =>
      let session := p.sessions s
      { p with locks }.put s { session with
        work := .lock key :: session.work
        phase }
  | none => p

def writing (p : PrefixWrites σ) (s : σ) (effect : PrefixEffect) : PrefixWrites σ :=
  let session := p.sessions s
  p.put s { session with
    work := .write effect :: session.work
    phase := .ready }

def starting (p : PrefixWrites σ) (s : σ) (operation : PrefixOperation) : PrefixWrites σ :=
  match operation.validate with
  | .error error => { p with refusals := p.refusals ++ [(s, error)] }
  | .ok _ =>
      let session := p.sessions s
      p.put s { session with
        phase := .selecting operation false ((p.view s).settings.map (·.pk))
        mark := session.work.length }

/-- `_lock_for_write` has found no row. -/
def absent (p : PrefixWrites σ) (s : σ) (operation : PrefixOperation) (advised : Bool) : PrefixWrites σ :=
  p.turn s (if advised then .locked operation none else .advising operation)

/-- The end of `_lock_for_write`. -/
def selecting (p : PrefixWrites σ) (s : σ) (operation : PrefixOperation) (advised : Bool) :
    Option Nat → PrefixWrites σ
  | none => p.absent s operation advised
  | some pk =>
      match p.locks.acquire (.row pk) s, (p.view s).settings with
      | none, _ => p
      | some _, none => p.absent s operation advised
      | some _, some row =>
          if row.pk = pk then p.locking s (.row pk) (.locked operation (some row)) else p.absent s operation advised

/-- The row is inserted once no other insertion is under way. -/
def inserting (p : PrefixWrites σ) (s : σ) (pathPrefix : String) : PrefixWrites σ :=
  match p.locks.acquire .singletonKey s, (p.view s).settings with
  | none, _ => p
  | some _, some _ => p.refusing s singletonKeyTaken
  | some _, none =>
      { (p.locking s .singletonKey .ready).writing s (.insert ⟨p.nextPk, pathPrefix⟩) with nextPk := p.nextPk + 1 }

def executing (p : PrefixWrites σ) (s : σ) : PrefixStatement → PrefixWrites σ
  | .insert pathPrefix => p.inserting s pathPrefix
  | .update pk (some pathPrefix) => p.writing s (.setPrefix pk pathPrefix)
  | .update _ none => p.turn s .ready
  | .delete pk => p.writing s (.deleteSettings pk)
  | .insertCredential credential => p.writing s (.createCredential credential)

def proceeding (p : PrefixWrites σ) (s : σ) : PrefixPhase → PrefixWrites σ
  | .ready => p
  | .selecting operation advised candidate => p.selecting s operation advised candidate
  | .advising operation => p.locking s .advisory (.advised operation)
  | .advised operation => p.turn s (.selecting operation true ((p.view s).settings.map (·.pk)))
  | .locked operation row =>
      match operation.check (p.view s) row with
      | .error error => p.refusing s error
      | .ok statement => p.turn s (.checked statement)
  | .checked statement => p.executing s statement

/-- The transaction's writes become visible, and its locks are given back. -/
def committing (p : PrefixWrites σ) (s : σ) : PrefixWrites σ :=
  { p with
    committed := p.view s
    locks := p.locks.release s fun _ => false }.put s ⟨[], .ready, 0⟩

/-- One move of session `s`. -/
def step (p : PrefixWrites σ) : σ × PrefixMove → PrefixWrites σ
  | (s, move) => match move, (p.sessions s).phase with
    | .start operation, .ready => p.starting s operation
    | .proceed, phase => p.proceeding s phase
    | .deleteCredential uuid, .ready => p.writing s (.deleteCredential uuid)
    | .rollbackTo count, _ => p.unwinding s count
    | .commit, .ready => p.committing s
    | _, _ => p

end PrefixWrites

end NetboxOpenbao
