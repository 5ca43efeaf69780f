import NetboxOpenbao.World
import NetboxOpenbao.Registry
import NetboxOpenbao.Services.Access

/-!
# Saving a credential row

`full_clean` and `save` of the credential model, whole or restricted to `update_fields`, and the persist
callbacks callers hand to `store_credential`.
-/

namespace NetboxOpenbao

open Effect

/-! ### `update_fields` -/

/-- The columns material operations name in `update_fields`. -/
inductive MaterialField where
  | kvVersion | lastVerified | liveKvVersion | stagedKvVersion
  | liveKeyFingerprint | liveKeyVersion | stagedKeyFingerprint | stagedKeyVersion
  | lastRotated | status
deriving DecidableEq, Repr

/-- The row with one column taken from the in-memory instance. -/
def MaterialField.copy (held row : Credential) : MaterialField → Credential
  | .kvVersion => { row with kvVersion := held.kvVersion }
  | .lastVerified => { row with lastVerified := held.lastVerified }
  | .liveKvVersion => { row with liveKvVersion := held.liveKvVersion }
  | .stagedKvVersion => { row with stagedKvVersion := held.stagedKvVersion }
  | .liveKeyFingerprint => { row with liveKeyFingerprint := held.liveKeyFingerprint }
  | .liveKeyVersion => { row with liveKeyVersion := held.liveKeyVersion }
  | .stagedKeyFingerprint => { row with stagedKeyFingerprint := held.stagedKeyFingerprint }
  | .stagedKeyVersion => { row with stagedKeyVersion := held.stagedKeyVersion }
  | .lastRotated => { row with lastRotated := held.lastRotated }
  | .status => { row with status := held.status }

/-- The row after an `UPDATE` of `fields` from the in-memory instance. -/
def copyFields (held row : Credential) (fields : List MaterialField) : Credential :=
  fields.foldl (fun row field => field.copy held row) row

/-- `save(update_fields=fields)`, which must find the row. -/
def saveFields (held : Credential) (fields : List MaterialField) : M Unit :=
  saving fun db => match held.pk with
    | none => .error (.database ⟨false, none⟩)
    | some pk => match db.credentials pk with
      | none => .error (.database ⟨false, none⟩)
      | some row => .ok ((), db.putCredential pk (copyFields held row fields))

/-! ### Validation -/

/-- `_apply_defaults`: the engine defaults to the policy's. -/
def applyDefaults (db : Database) (credential : Credential) : Except Error Credential := do
  if credential.policyId != 0 && credential.engineId == 0 then
    let policy ← policyOf db credential
    pure { credential with engineId := policy.engineId }
  else pure credential

/-- `SSH_CREDENTIAL_TYPES`. -/
def sshCredentialTypes : List String := ["ssh-keypair", "ssh-password"]

/-- `_reject_ssh_type_with_direct_assignments`. -/
def rejectSshTypeWithDirectAssignments (db : Database) (credential : Credential) : Except Error Unit :=
  match credential.pk with
  | none => .ok ()
  | some pk =>
    let persisted := (db.credentials pk).map (·.credentialType)
    if sshCredentialTypes.contains credential.credentialType &&
        !persisted.any sshCredentialTypes.contains && db.config.directAssignments pk then
      .error (.validation "credential_type" ("This credential is assigned directly to a device or virtual " ++
        "machine; move it to an SSH Application Service before making it an SSH credential."))
    else .ok ()

/-- `clean`, after the field checks on the relations. -/
def clean (db : Database) (credential : Credential) : Except Error Unit := do
  if credential.credentialType != "" && !isKnownCredentialType db.config credential.credentialType then
    .error (.validation "credential_type"
      ("Unknown credential type: " ++ credential.credentialType ++ "."))
  let policy ← policyOf db credential
  if policy.engineId != credential.engineId then
    let engine := ((db.config.engines policy.engineId).map (·.name)).getD ""
    .error (.validation "engine" ("Engine must match the policy's engine (" ++ engine ++ ")."))
  match credential.columns.validFrom, credential.columns.validUntil with
  | some validFrom, some validUntil =>
    if validFrom > validUntil then
      .error (.validation "valid_until" "Validity window ends before it begins.")
  | _, _ => pure ()
  rejectSshTypeWithDirectAssignments db credential

/-- `full_clean`: the instance with its defaults applied. -/
def fullClean (credential : Credential) : M Credential := do
  let credential ← query fun db => applyDefaults db credential
  query fun db => do
    clean db credential
    if db.occupied credential.pk credential then
      .error (.validation "__all__" "A credential already occupies this path on this engine.")
  return credential

/-! ### `save` -/

/-- PostgreSQL's answer to a row that violates a unique constraint. -/
def uniqueViolation : Error := .database ⟨true, some ⟨true, ['2', '3', '5', '0', '5']⟩⟩

/-- `derived_path`. -/
def derivedPath (config : Config) (credential : Credential) : String :=
  config.pathPrefix ++ "/credentials/" ++ credential.uuid

/-- The row an `INSERT` makes: the path is stamped once, and the database chooses the primary key. -/
def insertedRow (db : Database) (credential : Credential) : Credential := { credential with
  pk := some db.nextId
  path := if credential.path = "" then derivedPath db.config credential else credential.path }

def insertCredential (db : Database) (credential : Credential) : Except Error (Credential × Database) :=
  let row := insertedRow db credential
  if db.occupied none row then .error uniqueViolation
  else .ok (row, db.drawId.putCredential db.nextId row)

theorem insertCredential_ok {db db' : Database} {c row : Credential}
    (h : insertCredential db c = .ok (row, db')) :
    row = insertedRow db c ∧ db' = db.drawId.putCredential db.nextId row := by
  unfold insertCredential at h
  simp only at h
  split at h
  · cases h
  · cases h
    exact ⟨rfl, rfl⟩

/-- `save()`: the whole instance becomes the row. -/
def saveCredential (credential : Credential) : M Credential := do
  let credential ← query fun db => applyDefaults db credential
  match credential.pk with
  | some pk =>
    saving fun db =>
      if db.occupied (some pk) credential then .error uniqueViolation
      else .ok (credential, db.putCredential pk credential)
  | none => atomic do
    query fun _ => .ok ()
    saving fun db => insertCredential db credential

/-! ### Persist callbacks -/

/-- A persist callback: the instance it saves, given the subject as the lock left it; whether it
validates the instance first; and the permission check it makes on the saved row. -/
structure Persist where
  build : Option Credential → Credential
  validates : Bool
  conforms : Database → Credential → Except Error Unit

def Persist.validate (persist : Persist) (credential : Credential) : M Credential :=
  if persist.validates then fullClean credential else pure credential

/-- Run a persist callback on the extracted metadata. -/
def Persist.run (persist : Persist) (subject : Option Credential) (metadata : Metadata) : M Credential := do
  let built := persist.build subject
  let credential := { built with columns := metadata.apply built.columns }
  let credential ← persist.validate credential
  let saved ← saveCredential credential
  query fun db => persist.conforms db saved
  return saved

/-- The callback of `write_material`: validate and save the instance itself. -/
def Persist.write (credential : Credential) : Persist where
  build subject := subject.getD credential
  validates := true
  conforms _ _ := .ok ()

/-- The dates a request sets to null. -/
structure Nulls where
  validFrom : Bool
  validUntil : Bool
  lastRotated : Bool
deriving DecidableEq, Repr

def Nulls.none : Nulls := ⟨false, false, false⟩

/-- What a serializer or a form may set on a credential. -/
structure Edits where
  username : Option String
  credentialType : Option String
  policyId : Option Nat
  engineId : Option Nat
  columns : Metadata
  status : Option CredentialStatus
  lastRotated : Option Time
  nulls : Nulls := .none

/-- The extracted columns with the requested values. -/
def Edits.setColumns (edits : Edits) (columns : PublicColumns) : PublicColumns :=
  let set := edits.columns.apply columns
  { set with
    validFrom := if edits.nulls.validFrom then none else set.validFrom
    validUntil := if edits.nulls.validUntil then none else set.validUntil }

/-- `setattr` of every requested attribute. -/
def Edits.apply (edits : Edits) (c : Credential) : Credential := { c with
  username := edits.username.getD c.username
  credentialType := edits.credentialType.getD c.credentialType
  policyId := edits.policyId.getD c.policyId
  engineId := edits.engineId.getD c.engineId
  columns := edits.setColumns c.columns
  status := edits.status.getD c.status
  lastRotated := if edits.nulls.lastRotated then none else edits.lastRotated <|> c.lastRotated }

/-- A new instance with the model's defaults. -/
def Credential.new (uuid : String) : Credential where
  pk := none
  uuid := uuid
  credentialType := ""
  policyId := 0
  engineId := 0
  path := ""
  username := ""
  columns := PublicColumns.blank
  status := .active
  lastRotated := none
  kvVersion := none
  liveKvVersion := none
  stagedKvVersion := none
  liveKeyFingerprint := ""
  liveKeyVersion := none
  stagedKeyFingerprint := ""
  stagedKeyVersion := none
  lastVerified := none

/-- The callback of a create: a new instance from the validated attributes. -/
def Persist.create (uuid : String) (attributes : Edits)
    (conforms : Database → Credential → Except Error Unit) : Persist where
  build _ := attributes.apply (Credential.new uuid)
  validates := false
  conforms := conforms

/-- The callback of an update: the requested edits on the subject. -/
def Persist.update (credential : Credential) (edits : Edits)
    (conforms : Database → Credential → Except Error Unit) : Persist where
  build subject := edits.apply (subject.getD credential)
  validates := false
  conforms := conforms

end NetboxOpenbao
