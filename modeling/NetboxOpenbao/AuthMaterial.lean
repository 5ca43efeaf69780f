import Mathlib.Logic.Function.Basic
import NetboxOpenbao.Effect.Overlay

/-!
# Engine authentication material

One row of encrypted service identities, and the saves of it from instances that any number of sessions have loaded
from it at any time. A save takes the row's lock inside a transaction, merges what its instance has changed into the
row as it is then, and counts the revision up.
-/

namespace NetboxOpenbao

open Effect

/-- `AUTH_MATERIAL_FIELDS`. -/
inductive AuthField where
  | roleId
  | secretId
  | token
  | k8sRole
  | k8sJwtPath
  | clientCert
  | clientKey
deriving DecidableEq, Repr

/-- The concrete fields a save can submit: all but the key, the revision and the two timestamps. -/
inductive MaterialColumn where
  | engine
  | policy
  | cluster
  | ciphertext (field : AuthField)
deriving DecidableEq, Repr

abbrev MaterialColumn.Value : MaterialColumn → Type
  | .engine => Option Nat
  | .policy => Option Nat
  | .cluster => Option Nat
  | .ciphertext _ => String

instance : (c : MaterialColumn) → DecidableEq c.Value
  | .engine => inferInstanceAs (DecidableEq (Option Nat))
  | .policy => inferInstanceAs (DecidableEq (Option Nat))
  | .cluster => inferInstanceAs (DecidableEq (Option Nat))
  | .ciphertext _ => inferInstanceAs (DecidableEq String)

abbrev MaterialColumns : Type := (c : MaterialColumn) → c.Value

/-- `_encrypt(value)`, where `token` is what Fernet makes of the value this time. -/
def encrypt (value token : String) : String := if value = "" then "" else "v1:" ++ token

structure EngineAuthMaterial where
  columns : MaterialColumns
  revision : Nat

/-- `cache_identity` of the row with key `pk`. -/
def EngineAuthMaterial.cacheIdentity (pk : Nat) (material : EngineAuthMaterial) : String := s!"{pk}:{material.revision}"

/-! ### Instances -/

/-- What became of the value an instance has for a column: it was read, or it was set and is not saved yet, or it is
in a save of the open transaction that was the `depth`th of it. -/
inductive Mark where
  | read
  | set
  | saved (depth : Nat)
deriving DecidableEq, Repr

/-- An instance in memory. Its marks are for the statements about it; no code reads them. -/
structure MaterialInstance where
  columns : MaterialColumns
  revision : Nat
  loadedAuthValues : MaterialColumns
  marks : MaterialColumn → Mark

namespace MaterialInstance

/-- An instance as `from_db` and `refresh_from_db` leave it. -/
def fromDb (row : EngineAuthMaterial) : MaterialInstance where
  columns := row.columns
  revision := row.revision
  loadedAuthValues := row.columns
  marks _ := .read

def assign (material : MaterialInstance) (c : MaterialColumn) (value : c.Value) : MaterialInstance :=
  { material with
    columns := Function.update material.columns c value
    marks := Function.update material.marks c .set }

/-- `_submitted_fields(update_fields)`. -/
def submittedFields (material : MaterialInstance) (updateFields : Option (List MaterialColumn)) (c : MaterialColumn) :
    Bool :=
  match updateFields with
  | some names => names.contains c
  | none => material.columns c != material.loadedAuthValues c

/-- Whether the caller of `save(update_fields=…)` asks it to write the column: the ones it names, or the ones set. -/
def asks (material : MaterialInstance) (updateFields : Option (List MaterialColumn)) (c : MaterialColumn) : Bool :=
  match updateFields with
  | some names => names.contains c
  | none => material.marks c != .read

def sets (material : MaterialInstance) (updateFields : Option (List MaterialColumn)) :
    Sets MaterialColumn MaterialColumn.Value :=
  fun c => if material.asks updateFields c then some (material.columns c) else none

/-- The locked row with the submitted fields of the instance. -/
def merge (material : MaterialInstance) (submitted : MaterialColumn → Bool) (locked : EngineAuthMaterial) :
    EngineAuthMaterial where
  columns c := if submitted c then material.columns c else locked.columns c
  revision := locked.revision + 1

/-- The instance after a save of it, which was the `depth`th of its transaction. -/
def saved (material : MaterialInstance) (updateFields : Option (List MaterialColumn)) (row : EngineAuthMaterial)
    (depth : Nat) : MaterialInstance where
  columns := row.columns
  revision := row.revision
  loadedAuthValues := row.columns
  marks c :=
    match material.marks c with
    | .saved earlier => .saved earlier
    | _ => if material.asks updateFields c then .saved depth else .read

/-- The instance after the commit of the transaction. -/
def committed (material : MaterialInstance) : MaterialInstance :=
  { material with marks := fun c => if material.marks c = .set then .set else .read }

/-- The instance after all but the first `depth` saves of the transaction have been rolled back. In memory it stays as
it is. -/
def rolledBack (material : MaterialInstance) (depth : Nat) : MaterialInstance :=
  { material with
    marks := fun c => match material.marks c with
      | .saved earlier => if earlier ≤ depth then .saved earlier else .set
      | mark => mark }

end MaterialInstance

/-! ### Sessions -/

/-- A save that has submitted its fields, and the row once it has locked it. -/
structure Saving (ν : Type) where
  name : ν
  updateFields : Option (List MaterialColumn)
  submitted : MaterialColumn → Bool
  locked : Option EngineAuthMaterial

/-- A row that a save has written, and what the save was to set. -/
structure SavedMaterial where
  row : EngineAuthMaterial
  sets : Sets MaterialColumn MaterialColumn.Value

/-- A database session with its instances of the row, the save it is in, and the saves of its open transaction, the
newest first. -/
structure MaterialSession (ν : Type) where
  instances : ν → MaterialInstance
  saving : Option (Saving ν)
  pending : List SavedMaterial

/-- The committed row, who has it locked, and every session. The log and the contents are for the statements. -/
structure MaterialSystem (σ ν : Type) where
  row : EngineAuthMaterial
  holder : Option σ
  sessions : σ → MaterialSession ν
  log : List (Sets MaterialColumn MaterialColumn.Value)
  contents : List EngineAuthMaterial

/-- What a session does next. The steps of one call of `save` are `save`, `selectForUpdate` and `write`, or `fail` in
place of the last two. A save whose `COMMIT` or `RELEASE` fails after the write is not among them: it leaves an instance
with the columns of the row and with what it was loaded with before. -/
inductive MaterialEvent (ν : Type) where
  | load (name : ν)
  | assign (name : ν) (c : MaterialColumn) (value : c.Value)
  | save (name : ν) (updateFields : Option (List MaterialColumn))
  | selectForUpdate
  | write
  | fail
  | commit
  | rollback (depth : Nat)

namespace MaterialEvent

variable {ν : Type}

/-- `instance.set_secret(field, value)`. -/
def setSecret (name : ν) (field : AuthField) (value token : String) : MaterialEvent ν :=
  .assign name (.ciphertext field) (encrypt value token)

/-- `instance.clear_secret(field)`. -/
def clearSecret (name : ν) (field : AuthField) : MaterialEvent ν := setSecret name field "" ""

end MaterialEvent

namespace MaterialSystem

variable {σ ν : Type} [DecidableEq σ] [DecidableEq ν]

/-- The row as session `s` sees it: its own last save, or the committed one. -/
def visible (system : MaterialSystem σ ν) (s : σ) : EngineAuthMaterial :=
  top SavedMaterial.row system.row (system.sessions s).pending

def setSession (system : MaterialSystem σ ν) (s : σ) (session : MaterialSession ν) : MaterialSystem σ ν :=
  { system with sessions := Function.update system.sessions s session }

def release (system : MaterialSystem σ ν) (s : σ) : MaterialSystem σ ν :=
  { system with holder := if system.holder = some s then none else system.holder }

/-- A session between two saves. -/
def idle (system : MaterialSystem σ ν) (s : σ) (event : MaterialEvent ν) : MaterialSystem σ ν :=
  let session := system.sessions s
  match event with
  | .load name =>
      system.setSession s
        { session with instances := Function.update session.instances name (.fromDb (system.visible s)) }
  | .assign name c value =>
      system.setSession s
        { session with instances := Function.update session.instances name ((session.instances name).assign c value) }
  | .save name updateFields =>
      system.setSession s
        { session with
          saving := some ⟨name, updateFields, (session.instances name).submittedFields updateFields, none⟩ }
  | .commit =>
      match session.pending with
      | [] => system
      | newest :: earlier =>
          ({ system with
              row := newest.row
              log := system.log ++ (newest :: earlier).reverse.map SavedMaterial.sets
              contents := system.contents ++ [newest.row] }.setSession s
            { session with instances := fun name => (session.instances name).committed, pending := [] }).release s
  | .rollback depth =>
      let kept := session.pending.drop (session.pending.length - depth)
      let after := system.setSession s
        { session with instances := fun name => (session.instances name).rolledBack depth, pending := kept }
      if kept.isEmpty then after.release s else after
  | _ => system

/-- A session inside a call of `save`. -/
def inSave (system : MaterialSystem σ ν) (s : σ) (saving : Saving ν) (event : MaterialEvent ν) : MaterialSystem σ ν :=
  let session := system.sessions s
  match event, saving.locked with
  | .selectForUpdate, none =>
      if system.holder = none ∨ system.holder = some s then
        { system with holder := some s }.setSession s
          { session with saving := some { saving with locked := some (system.visible s) } }
      else system
  | .write, some locked =>
      let material := session.instances saving.name
      let row := material.merge saving.submitted locked
      system.setSession s
        { instances := Function.update session.instances saving.name
            (material.saved saving.updateFields row (session.pending.length + 1))
          saving := none
          pending := ⟨row, material.sets saving.updateFields⟩ :: session.pending }
  | .fail, _ =>
      let after := system.setSession s { session with saving := none }
      if session.pending.isEmpty then after.release s else after
  | _, _ => system

def step (system : MaterialSystem σ ν) (action : σ × MaterialEvent ν) : MaterialSystem σ ν :=
  match (system.sessions action.1).saving with
  | none => system.idle action.1 action.2
  | some saving => system.inSave action.1 saving action.2

end MaterialSystem

end NetboxOpenbao
