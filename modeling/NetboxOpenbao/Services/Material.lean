import NetboxOpenbao.Synchronization
import NetboxOpenbao.Services.Persistence

/-!
# The material services

Storing, rotating, staging, promoting, discarding and revealing material: the service layer, operation
by operation in the source's order. Which key version an operation records, and which columns it saves,
are pure functions of the instance it holds.
-/

namespace NetboxOpenbao

open Effect

variable [library : MaterialLibrary]

/-! ### Version-bound key identity on an instance -/

/-- `clear_staged_key`. -/
def clearStagedKey (c : Credential) : Credential × List MaterialField :=
  ({ c with stagedKeyFingerprint := "", stagedKeyVersion := none },
    [.stagedKeyFingerprint, .stagedKeyVersion])

/-- `record_key_version`: a fingerprint is bound to the version it was derived for; recording the live
one clears the staged one. -/
def recordKeyVersion (c : Credential) (fingerprint : String) (version : Option Nat) (promote : Bool) :
    Credential × List MaterialField :=
  let keyVersion := if fingerprint = "" then none else version
  if promote then
    let (c, cleared) := clearStagedKey { c with
      liveKeyFingerprint := fingerprint, liveKeyVersion := keyVersion }
    (c, [.liveKeyFingerprint, .liveKeyVersion] ++ cleared)
  else ({ c with stagedKeyFingerprint := fingerprint, stagedKeyVersion := keyVersion },
    [.stagedKeyFingerprint, .stagedKeyVersion])

/-- `promote_key_identity`: the staged fingerprint moves only when it belongs to the staged version. -/
def promoteKeyIdentity (c : Credential) : Credential × List MaterialField :=
  let fingerprint := if c.stagedKeyVersion = c.stagedKvVersion then c.stagedKeyFingerprint else ""
  recordKeyVersion c fingerprint c.stagedKvVersion true

/-! ### Storing -/

structure StoreRequest where
  persist : Persist
  credentialType : String
  payload : Payload
  cas : Option Nat
  user : Option User
  request : Option Nat
  action : AccessAction
  subject : Option Credential
  promote : Bool
  targetPolicy : Option Nat
  prelocked : Bool

/-- Append an attempt to the owner, and return where it stands. -/
def openAttempt (attempt : MaterialAttempt) : M Nat := do
  let owner ← currentMaterialTransaction
  modifyOwner fun o => { o with attempts := o.attempts ++ [attempt] }
  return owner.attempts.length

def updateAttempt (index : Nat) (f : MaterialAttempt → MaterialAttempt) : M Unit :=
  modifyOwner fun o => { o with attempts := o.attempts.modify index f }

/-- `backend.write` on behalf of the attempt at `index`, which records the version. -/
def writeAttempt (index : Nat) (b : Backend) (path : String) (data : Payload) (cas : Option Nat) : M Nat := do
  let owner ← currentMaterialTransaction
  let version ← backendWrite owner.operationId b path data cas
  updateAttempt index fun a => { a with version := some version }
  return version

/-- `defer_custom_metadata` for one credential. -/
def deferCustomMetadata (pk : Nat) : M Unit :=
  modify fun w => { w with onCommit := w.onCommit ++ [.projectMetadata pk] }

/-- What a completed write leaves on the instance, and the columns it saves. -/
def written (c : Credential) (fingerprint : String) (version : Nat) (promote : Bool)
    (action : AccessAction) (time : Time) : Credential × List MaterialField :=
  let c := { c with kvVersion := some version, lastVerified := some time }
  let (c, keyFields) := recordKeyVersion c fingerprint (some version) promote
  let (c, pointers) : Credential × List MaterialField :=
    if promote then ({ c with liveKvVersion := some version, stagedKvVersion := none },
      [.liveKvVersion, .stagedKvVersion])
    else ({ c with stagedKvVersion := some version }, [.stagedKvVersion])
  let (c, rotated) : Credential × List MaterialField :=
    if action = .rotate then ({ c with lastRotated := some time }, [.lastRotated]) else (c, [])
  let (c, staged) : Credential × List MaterialField :=
    if action = .stage then ({ c with status := .staged }, [.status]) else (c, [])
  (c, [.kvVersion, .lastVerified] ++ keyFields ++ pointers ++ rotated ++ staged)

/-- Write the audit row of the attempt at `index`, and keep its primary key as the commit witness. -/
def auditAttempt (index : Nat) (credential : Credential) (user : Option User) (action : AccessAction)
    (request : Option Nat) : M Unit := do
  let audit ← logAccess credential user action true "" "" request
  updateAttempt index fun a => { a with auditId := audit }

/-- What follows the write: the row, the deferred projection and the audit. -/
def recordWrite (r : StoreRequest) (index : Nat) (credential : Credential) (fingerprint : String)
    (version : Nat) : M (Credential × Nat) := do
  let time ← now
  let (credential, fields) := written credential fingerprint version r.promote r.action time
  saveFields credential fields
  deferCustomMetadata (credential.pk.getD 0)
  auditAttempt index credential r.user r.action r.request
  return (credential, version)

/-- The write and what follows it, once the row has been saved. -/
def storeMaterial (r : StoreRequest) (credential : Credential) (payload : Payload) (fingerprint : String) :
    M (Credential × Nat) := do
  let backend ← getBackend credential.engineId
  let index ← openAttempt ⟨credential, backend, credential.path, r.user, r.action, none, none⟩
  let version ← writeAttempt index backend credential.path payload r.cas
  recordWrite r index credential fingerprint version

/-- A bulk operation has locked the complete graph before its first write. -/
def lockSubject (r : StoreRequest) : M (Option Credential) :=
  if r.prelocked then pure r.subject else lockMaterialSubject r.subject r.targetPolicy

/-- The body of `store_credential`. -/
def storeBody (r : StoreRequest) : M (Credential × Nat) := do
  let config ← query fun db => .ok db.config
  let (payload, metadata) ← Prog.resume (prepareMaterial config r.credentialType r.payload)
  let fingerprint ← Prog.resume (deriveKeyFingerprint config r.credentialType payload)
  let subject ← lockSubject r
  let credential ← r.persist.run subject metadata
  refreshMaterialSelectors credential
  modifyOwner fun o => { o with graphIds := o.graphIds.update .credential credential.pk.toList }
  storeMaterial r credential payload fingerprint

/-- `store_credential`. -/
def storeCredential (r : StoreRequest) : M (Credential × Nat) := materialTransaction (storeBody r)

/-- `write_material`. -/
def writeMaterial (credential : Credential) (payload : Payload) (cas : Option Nat) (user : Option User)
    (request : Option Nat) (action : AccessAction) (promote : Bool) : M (Credential × Nat) :=
  storeCredential {
    persist := .write credential
    credentialType := credential.credentialType
    payload, cas, user, request, action
    subject := some credential
    promote
    targetPolicy := none
    prelocked := false }

/-! ### Rotating and staging -/

def rotateBody (payload : Payload) (user : Option User) (request : Option Nat) (credential : Credential) :
    M (Credential × Nat) := do
  enforcePolicyAccess credential user (some .rotate) request
  writeMaterial credential payload credential.kvVersion user request .rotate true

/-- `rotate_material`. -/
def rotateMaterial (credential : Credential) (payload : Payload) (user : Option User)
    (request : Option Nat) : M (Credential × Nat) :=
  synchronized credential user .rotate request (rotateBody payload user request)

/-- Staging under a pointer that says "latest" would serve the candidate, so what is live now is pinned
first. -/
def pinLiveVersion (credential : Credential) : M Credential := do
  if credential.liveKvVersion.isNone && credential.kvVersion.isSome then
    let pinned := { credential with liveKvVersion := credential.kvVersion }
    saveFields pinned [.liveKvVersion]
    pure pinned
  else pure credential

def stageBody (payload : Payload) (user : Option User) (request : Option Nat) (credential : Credential) :
    M (Credential × Nat) := do
  enforcePolicyAccess credential user (some .stage) request
  raiseIf credential.hasStagedVersion (.validation "status"
    "This credential already has a staged version. Promote or discard it first.")
  let credential ← pinLiveVersion credential
  writeMaterial credential payload credential.kvVersion user request .stage false

/-- `stage_material`. -/
def stageMaterial (credential : Credential) (payload : Payload) (user : Option User)
    (request : Option Nat) : M (Credential × Nat) :=
  synchronized credential user .stage request (stageBody payload user request)

/-! ### Promoting -/

/-- `except OpenBaoError`: a backend's refusal is recorded under its own message. -/
def auditBackendError (credential : Credential) (user : Option User) (action : AccessAction)
    (reason : String) (request : Option Nat) : Error → M Unit
  | .openbao _ message => do
    let _ ← logAccess credential user action false reason message request
  | _ => pure ()

/-- `str.strip()`. -/
def stripped (s : String) : String :=
  String.ofList ((s.toList.dropWhile Char.isWhitespace).reverse.dropWhile Char.isWhitespace).reverse

/-- `str.rstrip(':')`. -/
def withoutColons (s : String) : String :=
  String.ofList (s.toList.reverse.dropWhile fun c => c == ':').reverse

/-- The reason a promotion is logged with. -/
def promotionReason (verified : Bool) (note : String) : String :=
  if verified then withoutColons (stripped ("verified: " ++ note)) else note

/-- The instance after a promotion, and the columns it saves. -/
def promoted (c : Credential) (time : Time) : Credential × List MaterialField :=
  let (c, identityFields) := promoteKeyIdentity c
  ({ c with
      liveKvVersion := c.stagedKvVersion
      stagedKvVersion := none
      status := .active
      lastRotated := some time },
    [.liveKvVersion, .stagedKvVersion, .status, .lastRotated] ++ identityFields)

/-- The versions at a path; a backend that cannot list them is recorded. -/
def listStaged (credential : Credential) (backend : Backend) (user : Option User)
    (request : Option Nat) : M (List (Nat × Bool)) := do
  try listVersions backend credential.path
  catch error => do
    auditBackendError credential user .promote "" request error
    throw error

/-- `staged is None or staged.get('destroyed') or staged.get('deletion_time')`. -/
def stagedMissing (credential : Credential) (versions : List (Nat × Bool)) : Bool :=
  match credential.stagedKvVersion.bind fun version => versions.lookup version with
  | some readable => !readable
  | none => true

/-- Promotion commits consumers to a version, so the version must still be there. -/
def confirmStaged (credential : Credential) (versions : List (Nat × Bool)) (user : Option User)
    (request : Option Nat) : M Unit := do
  if stagedMissing credential versions then do
    let _ ← logAccess credential user .promote false "" "Staged version is no longer present." request
    throw (.validation "status" ("Version " ++ toString (credential.stagedKvVersion.getD 0) ++
      " is no longer present in OpenBao and cannot be promoted."))
  else pure ()

def promoteBody (user : Option User) (request : Option Nat) (verified : Bool) (note : String)
    (credential : Credential) : M Credential := do
  enforcePolicyAccess credential user (some .promote) request
  raiseIf (!credential.hasStagedVersion) (.validation "status"
    "This credential has no staged version to promote.")
  let backend ← getBackend credential.engineId
  let versions ← listStaged credential backend user request
  confirmStaged credential versions user request
  let (credential, fields) := promoted credential (← now)
  saveFields credential fields
  let _ ← logAccess credential user .promote true (promotionReason verified note) "" request
  return credential

/-- `promote_staged`. -/
def promoteStaged (credential : Credential) (user : Option User) (request : Option Nat) (verified : Bool)
    (note : String) : M Credential :=
  synchronized credential user .promote request (promoteBody user request verified note)

/-! ### Discarding -/

/-- The instance after a discard, and the columns it saves. `kv_version` stays where it is. -/
def discarded (c : Credential) : Credential × List MaterialField :=
  let (c, identityFields) := clearStagedKey c
  ({ c with stagedKvVersion := none, status := .active },
    [.stagedKvVersion, .status] ++ identityFields)

def deferDeletion (deletion : MaterialAttempt) : M Unit :=
  modifyOwner fun o => { o with deletions := o.deletions ++ [deletion] }

/-- Record the discard, and leave the deletion of the staged version to the owner, who runs it after the
commit. -/
def deferDiscard (credential : Credential) (backend : Backend) (staged : Option Nat) (user : Option User)
    (request : Option Nat) : M Unit := do
  let audit ← logAccess credential user .discard false
    ("discarded version " ++ toString (staged.getD 0))
    "Staged pointer cleared; exact-version cleanup is pending commit." request
  deferDeletion ⟨credential, backend, credential.path, user, .discard, staged, audit⟩

def discardBody (user : Option User) (request : Option Nat) (credential : Credential) : M Credential := do
  enforcePolicyAccess credential user (some .discard) request
  raiseIf (!credential.hasStagedVersion) (.validation "status"
    "This credential has no staged version to discard.")
  let staged := credential.stagedKvVersion
  let backend ← getBackend credential.engineId
  let (credential, fields) := discarded credential
  saveFields credential fields
  deferDiscard credential backend staged user request
  return credential

/-- `discard_staged`. -/
def discardStaged (credential : Credential) (user : Option User) (request : Option Nat) : M Credential :=
  synchronized credential user .discard request (discardBody user request)

/-! ### Revealing -/

def readMaterial (credential : Credential) (backend : Backend) (user : Option User) (request : Option Nat)
    (reason : String) (version : Option Nat) : M Payload := do
  try backendRead backend credential.path version
  catch error => do
    auditBackendError credential user .reveal reason request error
    throw error

/-- `int(get_config('reveal_ttl') or 300)` under the tier's ceiling. -/
def revealTtlOf (config : Config) (policy : CredentialPolicy) : Nat :=
  min (if config.revealTtl = 0 then 300 else config.revealTtl) policy.maxRevealTtl

/-- A reveal without a reason the policy asks for is recorded and refused. -/
def requireReason (credential : Credential) (policy : CredentialPolicy) (user : Option User)
    (request : Option Nat) (reason : String) : M Unit := do
  if policy.requireReason && stripped reason == "" then do
    let _ ← logAccess credential user .reveal false "" "Reason required by policy." request
    throw (.validation "reason" "This credential's policy requires a reason for every reveal.")
  else pure ()

/-- `reveal_material`: an explicitly requested version, then the promoted one, then the latest. -/
def revealMaterial (credential : Credential) (user : Option User) (request : Option Nat) (reason : String)
    (version : Option Nat) : M (Payload × Nat) := do
  enforcePolicyAccess credential user (some .reveal) request
  let policy ← query fun db => policyOf db credential
  requireReason credential policy user request reason
  let effectiveVersion := version <|> credential.liveKvVersion
  let backend ← getBackend credential.engineId
  let data ← readMaterial credential backend user request reason effectiveVersion
  let _ ← logAccess credential user .reveal true reason "" request
  let config ← query fun db => .ok db.config
  return (data, revealTtlOf config policy)

end NetboxOpenbao
