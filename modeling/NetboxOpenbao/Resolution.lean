import NetboxOpenbao.Automation
import NetboxOpenbao.Services.Material
import NetboxOpenbao.Effect.Dialogue

/-!
# Resolving a reference for automation

`resolve_automation` and what it calls, as a dialogue with the database, the RPC authority and the backend. Between
any two of its requests other transactions may commit, so every statement is answered with the inventory as it is
by then; a locking statement is answered once the lock is granted. Any request may raise.
-/

namespace NetboxOpenbao

open Effect

/-! ### What a call works with -/

/-- The digests that go into a receipt or an identity. -/
class Hashing where
  nonceSha256 : String → String
  engineSha256 : SecretEngine → String → String
  schemaSha256 : List (String × FieldSpec) → Option Value → Option String → String

structure CredentialAssignment where
  pk : Nat
  credentialId : Nat
  assignedObjectType : String
  assignedObjectId : Nat
  purpose : String
  enabled : Bool
deriving DecidableEq, Repr

/-- An application service: the device or virtual machine it runs on. -/
structure ApplicationService where
  parentObjectType : String
  parentObjectId : Nat
deriving DecidableEq, Repr

/-- The database as one statement sees it. `assignments` are in the order of their keys; `restricts` tells what an
object permission lets a user do with a row. -/
structure Inventory where
  config : Config
  credentials : Nat → Option Credential
  assignments : List CredentialAssignment
  services : Nat → Option ApplicationService
  activeUsers : Nat → Option User
  assignableModels : List String
  restricts : Nat → String → String → Nat → Bool

/-- `reference`: what the frozen authorization names. `pinned` is the number of a pinned version policy. -/
structure AutomationReference where
  objectType : String
  objectId : Nat
  purpose : String
  assignmentId : Option Nat
  credentialUuid : String
  pinned : Option Nat
  fields : List String
deriving DecidableEq, Repr

/-- What `_identity` returns. -/
structure ProviderIdentity where
  credentialUuid : String
  assignment : AssignmentIdentity
  username : String
  fingerprint : String
  credentialType : String
  policyId : Nat
  engineId : Nat
  engineIdentitySha256 : String
  schemaSha256 : String
deriving DecidableEq, Repr

/-- The signed execution authority. `targetObjectType` and `targetObjectId` are those of the object itself. -/
structure Authority where
  executionId : Nat
  dispatchNonce : String
  stepId : String
  referenceName : String
  initiatingActor : Nat
  initiatingUsername : String
  targetObjectType : String
  targetObjectId : Nat
  reference : AutomationReference
  reason : String
  correlationId : String
  intentRunId : Option Nat
  providerIdentity : ProviderIdentity
deriving DecidableEq, Repr

structure AutomationParams where
  executionId : Nat
  dispatchLease : String
  stepId : String
  referenceName : String
deriving DecidableEq, Repr

/-- `request.user`. -/
structure Executor where
  isAuthenticated : Bool
  username : String
deriving DecidableEq, Repr

/-- The columns of `openbao_automation_once`. -/
structure ReceiptKey where
  executionId : Nat
  dispatchNonceDigest : String
  stepId : String
  referenceName : String
deriving DecidableEq, Repr

structure AutomationResolutionReceipt where
  key : ReceiptKey
  credentialUuid : String
  assignmentId : Nat
  resolvedVersion : Nat
deriving DecidableEq, Repr

/-- The access log row of a resolution. -/
structure AutomationAccessLog where
  credentialUuidSnapshot : Option String
  executorSnapshot : String
  executionId : Nat
  stepId : String
  referenceName : String
  success : Bool
  message : String
  usernameSnapshot : String
  reason : String
  requestId : String
  intentRunId : Option Nat
  purpose : String
  dispatchNonceDigest : String
  assignmentId : Option Nat
  resolvedVersion : Option Nat
deriving DecidableEq, Repr

/-- The response. -/
structure AutomationBundle where
  schemaVersion : Nat
  credentialUuid : String
  assignmentId : Nat
  resolvedVersion : Nat
  ttl : Nat
  secret : Bool
  fields : List (String × String)
  accessLogId : Nat
deriving DecidableEq, Repr

/-! ### Requests -/

/-- The rows of a `select_for_update`. -/
inductive LockedRows where
  | service (pk : Nat)
  | policies (pks : List Nat)
  | engines (pks : List Nat)
  | credential (pk : Nat)
  | assignment (pk : Nat)
  | storedSchema (slug : String)
deriving DecidableEq, Repr

inductive Request where
  | authorizeDispatch (executor : Executor) (params : AutomationParams)
  | checkLifetime (authority : Authority)
  | checkPermissions (authority : Authority)
  | statement
  | lock (rows : LockedRows)
  | now
  | begin
  | commit
  | rollback
  | createReceipt (receipt : AutomationResolutionReceipt)
  | createLog (log : AutomationAccessLog)
  | updateLog (id : Nat) (success : Bool) (message : String)
  | getBackend (engineId policyId : Nat)
  | read (location : Location) (version : Nat)
deriving DecidableEq, Repr

/-- What an answer carries. -/
@[reducible] def Request.Carries : Request → Type
  | .authorizeDispatch _ _ => Authority
  | .statement | .lock _ => Inventory
  | .now => Time
  | .createLog _ => Nat
  | .read _ _ => Value
  | _ => Unit

/-- A program of this module. -/
abbrev Talk := Dialogue Error Request Request.Carries

namespace Automation

def send (request : Request) : Talk request.Carries := Dialogue.request request

def statement : Talk Inventory := send .statement

def lock (rows : LockedRows) : Talk Inventory := send (.lock rows)

def ofExcept {α : Type} (result : Except Error α) : Talk α := .done result

/-- `AutomationResolutionDenied`. -/
def denied : Error := .raised "AutomationResolutionDenied"

/-- `if condition: raise error`. -/
def raiseIf (condition : Bool) (error : Error) : Talk Unit := if condition then Dialogue.raise error else pure ()

def denyUnless (condition : Bool) : Talk Unit := raiseIf (!condition) denied

/-- `with transaction.atomic():` on a connection that is in autocommit. An exception of the rollback is dropped. -/
def atomically {α : Type} (body : Talk α) : Talk α := do
  send .begin
  match ← Dialogue.attempt body with
  | .ok a =>
    send .commit
    return a
  | .error e =>
    let _ ← Dialogue.attempt (send .rollback)
    Dialogue.raise e

/-! ### Authority -/

def authorizeDispatch (executor : Executor) (params : AutomationParams) : Talk Authority := do
  match ← Dialogue.attempt (send (.authorizeDispatch executor params)) with
  | .ok authority => return authority
  | .error _ => Dialogue.raise denied

/-- `_check_lifetime` and `_check_rpc_permissions`: any exception of the check is a refusal. -/
def check (request : Talk Unit) : Talk Unit := do
  match ← Dialogue.attempt request with
  | .ok _ => pure ()
  | .error _ => Dialogue.raise denied

def checkLifetime (authority : Authority) : Talk Unit := check (send (.checkLifetime authority))

def checkRpcPermissions (authority : Authority) : Talk Unit := check (send (.checkPermissions authority))

def checkDispatch (authority : Authority) : Talk Unit := do
  checkLifetime authority
  checkRpcPermissions authority
  checkLifetime authority

/-- `_actor`: the initiating user, if still active. -/
def actorOf (authority : Authority) : Talk User := do
  let inventory ← statement
  match inventory.activeUsers authority.initiatingActor with
  | some user => return user
  | none => Dialogue.raise denied

/-- `_target`. -/
def target (authority : Authority) : Talk Unit := do
  let reference := authority.reference
  denyUnless (authority.targetObjectType == reference.objectType && authority.targetObjectId == reference.objectId)
  let inventory ← statement
  denyUnless (inventory.assignableModels.contains authority.targetObjectType)
  let inventory ← statement
  denyUnless (inventory.restricts authority.initiatingActor "view" authority.targetObjectType authority.targetObjectId)

/-! ### Assignments and credentials -/

def serviceType : String := "ipam.service"

/-- `_assignment_rows`. -/
def assignmentRows (inventory : Inventory) (authority : Authority) : List CredentialAssignment :=
  let reference := authority.reference
  let bound (row : CredentialAssignment) : Bool :=
    (row.assignedObjectType == authority.targetObjectType && row.assignedObjectId == reference.objectId) ||
      (row.assignedObjectType == serviceType && (inventory.services row.assignedObjectId).any fun service =>
        service.parentObjectType == authority.targetObjectType && service.parentObjectId == reference.objectId)
  let named (row : CredentialAssignment) : Bool :=
    match reference.assignmentId with
    | some pk => row.pk == pk
    | none => (inventory.credentials row.credentialId).any fun c => c.uuid == reference.credentialUuid
  inventory.assignments.filter fun row => bound row && row.purpose == reference.purpose && row.enabled && named row

/-- `_check_service_visible`. -/
def checkServiceVisible (authority : Authority) (assignment : CredentialAssignment) : Talk Unit := do
  if assignment.assignedObjectType == serviceType then
    let inventory ← statement
    denyUnless ((inventory.services assignment.assignedObjectId).isSome &&
      inventory.restricts authority.initiatingActor "view" serviceType assignment.assignedObjectId)

/-- `_lock_candidate_service`: whether the assignment is bound to a service, which is then locked. -/
def lockCandidateService (assignment : CredentialAssignment) : Talk Bool := do
  if assignment.assignedObjectType == serviceType then
    let inventory ← lock (.service assignment.assignedObjectId)
    denyUnless (inventory.services assignment.assignedObjectId).isSome
    return true
  else return false

/-- A credential with its related objects, as they were when they were locked. -/
structure LockedCredential where
  pk : Nat
  row : Credential
  policy : CredentialPolicy
  engine : SecretEngine

/-- The configuration as the related objects at hand have it. -/
def LockedCredential.config (credential : LockedCredential) (config : Config) : Config :=
  { config with policies := fun _ => some credential.policy, engines := fun _ => some credential.engine }

/-- `lock_credential_graph`. -/
def lockCredentialGraph (credentialId : Nat) : Talk LockedCredential := do
  let inventory ← statement
  let selectors ← ofExcept ((inventory.credentials credentialId).elim (.error .doesNotExist) .ok)
  let policies := (← lock (.policies [selectors.policyId])).config.policies
  let policyEngine := ((policies selectors.policyId).map (·.engineId)).toList
  let engines := (← lock (.engines (policyEngine ++ [selectors.engineId]))).config.engines
  let inventory ← lock (.credential credentialId)
  let row ← ofExcept ((inventory.credentials credentialId).elim (.error .doesNotExist) .ok)
  raiseIf ((row.policyId, row.engineId) != (selectors.policyId, selectors.engineId))
    (.validation "__all__" "Credential relationships changed during authorization.")
  let policy ← ofExcept ((policies row.policyId).elim (.error (.keyError "policy_id")) .ok)
  let engine ← ofExcept ((engines row.engineId).elim (.error (.keyError "engine_id")) .ok)
  return ⟨credentialId, row, policy, engine⟩

/-- A service-bound assignment is looked up again once every lock is held. -/
def revalidateService (authority : Authority) (assignment : CredentialAssignment) (bound : Bool) : Talk Unit := do
  if bound then
    let inventory ← statement
    denyUnless ((assignmentRows inventory authority).any fun row => row.pk == assignment.pk)

/-- The row of an operator-defined type is locked like the others. -/
def lockStoredSchema (credentialType : String) : Talk Unit := do
  let inventory ← statement
  let schema ← ofExcept (getSchema inventory.config credentialType)
  match schema.stored with
  | none => pure ()
  | some stored =>
    let inventory ← lock (.storedSchema stored.slug)
    raiseIf (!inventory.config.schemas.any fun s => s.slug == stored.slug) .doesNotExist

/-- `_lock_metadata`: policy, engine, credential, assignment, in this order. -/
def lockMetadata (authority : Authority) : Talk (CredentialAssignment × LockedCredential) := do
  let inventory ← statement
  match (assignmentRows inventory authority).take 2 with
  | [candidate] =>
    let bound ← lockCandidateService candidate
    let credential ← lockCredentialGraph candidate.credentialId
    let inventory ← lock (.assignment candidate.pk)
    let assignment ← ofExcept
      ((inventory.assignments.find? fun row => row.pk == candidate.pk).elim (.error .doesNotExist) .ok)
    denyUnless (assignment.credentialId == credential.pk)
    revalidateService authority assignment bound
    lockStoredSchema credential.row.credentialType
    return (assignment, credential)
  | _ => Dialogue.raise denied

/-- `_check_credential`. -/
def checkCredential (authority : Authority) (actor : User) (credential : LockedCredential) : Talk Unit := do
  let inventory ← statement
  denyUnless ((inventory.credentials credential.pk).isSome &&
    inventory.restricts authority.initiatingActor "reveal" "netbox_openbao.credential" credential.pk)
  let now ← send .now
  denyUnless (credential.row.status == .active || credential.row.status == .staged)
  denyUnless (withinWindow credential.row now)
  let inventory ← statement
  let groups := (inventory.config.policies credential.row.policyId).elim [] (·.groups)
  denyUnless (groups.isEmpty || actor.isSuperuser || actor.groups.any fun group => groups.contains group)

/-- `_version`: the live version, unless it is also the staged one or not the pinned one. -/
def version (authority : Authority) (credential : Credential) : Except Error Nat :=
  match credential.liveKvVersion with
  | none | some 0 => .error denied
  | some version =>
    if credential.stagedKvVersion = some version then .error denied
    else if authority.reference.pinned.any (· != version) then .error denied
    else .ok version

/-- `_fields`: the requested fields with their declarations, as a dict has them. -/
def fields (authority : Authority) (credential : Credential) : Talk (List (String × FieldSpec)) := do
  let inventory ← statement
  let schema ← ofExcept (getSchema inventory.config credential.credentialType)
  let declared := schema.vaultFields
  let requested := authority.reference.fields
  denyUnless (!requested.isEmpty && requested.all fun field => (declared.lookup field).isSome)
  return requested.eraseDups.filterMap fun field => (declared.lookup field).map fun spec => (field, spec)

structure ResolvedMetadata where
  assignment : CredentialAssignment
  credential : LockedCredential
  version : Nat
  fields : List (String × FieldSpec)

/-- `_resolve_metadata`. -/
def resolveMetadata (authority : Authority) : Talk ResolvedMetadata := do
  let (assignment, credential) ← lockMetadata authority
  let actor ← actorOf authority
  target authority
  let inventory ← statement
  denyUnless (((assignmentRows inventory authority).any fun row => row.pk == assignment.pk) &&
    inventory.restricts authority.initiatingActor "view" "netbox_openbao.credentialassignment" assignment.pk)
  checkServiceVisible authority assignment
  checkCredential authority actor credential
  denyUnless (!(credential.policy.requireReason && stripped authority.reason == ""))
  let version ← ofExcept (version authority credential.row)
  let fields ← fields authority credential.row
  return { assignment, credential, version, fields }

section Digests

variable [hashing : Hashing]

def nonceDigest (authority : Authority) : String := hashing.nonceSha256 authority.dispatchNonce

def receiptKey (authority : Authority) : ReceiptKey where
  executionId := authority.executionId
  dispatchNonceDigest := nonceDigest authority
  stepId := authority.stepId
  referenceName := authority.referenceName

/-- The dict of `_identity`, with the digests of its selectors and of its schema. -/
def digested (r : ReferenceIdentity) : ProviderIdentity where
  credentialUuid := r.credentialUuid
  assignment := r.assignment
  username := r.username
  fingerprint := r.fingerprint
  credentialType := r.credentialType
  policyId := r.policyId
  engineId := r.engineId
  engineIdentitySha256 := hashing.engineSha256 r.selectors r.credentialPath
  schemaSha256 := hashing.schemaSha256 r.vaultFields r.jsonSchema r.extractor

/-- `_identity`. -/
def identityOf (authority : Authority) (assignment : CredentialAssignment) (credential : LockedCredential) :
    Talk ProviderIdentity := do
  let inventory ← statement
  let reference := authority.reference
  let snapshot ← ofExcept (identity (credential.config inventory.config)
    ⟨assignment.pk, assignment.purpose, reference.objectType, reference.objectId⟩ credential.row)
  return digested snapshot

/-- `_require_identity`. -/
def requireIdentity (authority : Authority) (assignment : CredentialAssignment) (credential : LockedCredential) :
    Talk Unit := do
  let identity ← identityOf authority assignment credential
  denyUnless (identity == authority.providerIdentity)

/-! ### Receipt, delivery and evidence -/

/-- The values of `record_automation_access`. -/
def accessLog (executor : Executor) (params : AutomationParams) (authority : Option Authority)
    (credentialUuid : Option String) (receipt : Option AutomationResolutionReceipt) (success : Bool) :
    AutomationAccessLog where
  credentialUuidSnapshot := credentialUuid
  executorSnapshot := String.ofList (executor.username.toList.take 150)
  executionId := params.executionId
  stepId := params.stepId
  referenceName := params.referenceName
  success := success
  message := if success then "Automation bundle delivered." else "Automation bundle refused or outcome unknown."
  usernameSnapshot := (authority.map fun a => String.ofList (a.initiatingUsername.toList.take 150)).getD ""
  reason := (authority.map fun a => String.ofList (a.reason.toList.take 500)).getD ""
  requestId := (authority.map fun a => String.ofList (a.correlationId.toList.take 64)).getD ""
  intentRunId := authority.bind (·.intentRunId)
  purpose := (authority.map (·.reference.purpose)).getD ""
  dispatchNonceDigest := (authority.map nonceDigest).getD ""
  assignmentId := receipt.map (·.assignmentId)
  resolvedVersion := receipt.map (·.resolvedVersion)

/-- `record_automation_access`. -/
def recordAutomationAccess (executor : Executor) (params : AutomationParams) (authority : Option Authority)
    (credentialUuid : Option String) (receipt : Option AutomationResolutionReceipt) (success : Bool) : Talk Nat :=
  send (.createLog (accessLog executor params authority credentialUuid receipt success))

/-- The block of `_reserve`. -/
def reserveBody (authority : Authority) : Talk AutomationResolutionReceipt := do
  let metadata ← resolveMetadata authority
  checkDispatch authority
  requireIdentity authority metadata.assignment metadata.credential
  let receipt : AutomationResolutionReceipt := {
    key := receiptKey authority
    credentialUuid := metadata.credential.row.uuid
    assignmentId := metadata.assignment.pk
    resolvedVersion := metadata.version }
  send (.createReceipt receipt)
  return receipt

/-- `_reserve`: commit the selected version before any possible read. -/
def reserve (authority : Authority) : Talk AutomationResolutionReceipt := do
  match ← Dialogue.attempt (atomically (reserveBody authority)) with
  | .ok receipt => return receipt
  | .error (.database failure) => Dialogue.raise (if failure.integrity then denied else .database failure)
  | .error error => Dialogue.raise error

variable [library : MaterialLibrary]

/-- Whether the bundle must match its authorization: an SSH identity was frozen, or the type has one. -/
def mustVerify (credential : LockedCredential) (expected : String) : Talk Bool := do
  if isSshFingerprint expected then return true
  else
    let inventory ← statement
    let schema ← ofExcept (getSchema inventory.config credential.row.credentialType)
    return schema.extractor == some "ssh"

def bundleMatches (payload : Payload) (expected : String) : Bool :=
  match extractSshMetadata ((payload.lookup "private_key").getD (.str "")) (payload.lookup "passphrase") with
  | .ok metadata => expected != "" && metadata.fingerprint == some expected
  | .error _ => false

/-- `verify_bundle_identity`. -/
def verifyBundleIdentity (credential : LockedCredential) (payload : Payload) (expected : String) : Talk Unit := do
  let verifies ← mustVerify credential expected
  raiseIf (verifies && !bundleMatches payload expected)
    (.openbao .base "The credential bundle identity does not match its authorization.")

def invalidPayload : Error := .openbao .base "The credential payload is invalid."

/-- The loop over the fields: an absent one is left out unless it is required, and every other one is a string of
bounded size. -/
def projectFields (payload : Payload) : List (String × FieldSpec) → Except Error (List (String × String))
  | [] => .ok []
  | (field, specification) :: rest =>
    match payload.lookup field with
    | none => if specification.required then .error invalidPayload else projectFields payload rest
    | some (.str value) =>
      if value.utf8ByteSize > 262144 then .error invalidPayload
      else (projectFields payload rest).map fun result => (field, value) :: result
    | some _ => .error invalidPayload

/-- `read_automation_bundle`. -/
def readAutomationBundle (credential : LockedCredential) (version : Nat) (fields : List (String × FieldSpec))
    (expectedFingerprint : String) : Talk (List (String × String) × Nat) := do
  send (.getBackend credential.row.engineId credential.row.policyId)
  let data ← send (.read ⟨credential.row.engineId, credential.row.path⟩ version)
  match data with
  | .dict payload =>
    verifyBundleIdentity credential payload expectedFingerprint
    let result ← ofExcept (projectFields payload fields)
    let inventory ← statement
    return (result, revealTtlOf inventory.config credential.policy)
  | _ => Dialogue.raise invalidPayload

/-- What `_deliver` has established before it reads. -/
structure Cleared where
  authority : Authority
  metadata : ResolvedMetadata
  audit : Nat

/-- The block of `_deliver` up to the read. -/
def clear (executor : Executor) (params : AutomationParams) (receipt : AutomationResolutionReceipt) :
    Talk Cleared := do
  let authority ← authorizeDispatch executor params
  let metadata ← resolveMetadata authority
  checkDispatch authority
  requireIdentity authority metadata.assignment metadata.credential
  denyUnless ((metadata.credential.row.uuid, metadata.assignment.pk, metadata.version, nonceDigest authority) ==
    (receipt.credentialUuid, receipt.assignmentId, receipt.resolvedVersion, receipt.key.dispatchNonceDigest))
  let audit ← recordAutomationAccess executor params (some authority) (some metadata.credential.row.uuid)
    (some receipt) false
  checkDispatch authority
  return { authority, metadata, audit }

/-- The block of `_deliver` from the read on. -/
def handOut (cleared : Cleared) : Talk AutomationBundle := do
  let authority := cleared.authority
  let metadata := cleared.metadata
  let (material, ttl) ← readAutomationBundle metadata.credential metadata.version metadata.fields
    authority.providerIdentity.fingerprint
  let final ← resolveMetadata authority
  requireIdentity authority final.assignment final.credential
  denyUnless (final.version == metadata.version)
  checkDispatch authority
  send (.updateLog cleared.audit true "Automation bundle delivered.")
  return {
    schemaVersion := 1
    credentialUuid := metadata.credential.row.uuid
    assignmentId := metadata.assignment.pk
    resolvedVersion := metadata.version
    ttl
    secret := true
    fields := material
    accessLogId := cleared.audit }

/-- `_deliver`. -/
def deliver (executor : Executor) (params : AutomationParams) (receipt : AutomationResolutionReceipt) :
    Talk AutomationBundle :=
  atomically do
    let cleared ← clear executor params receipt
    handOut cleared

/-- The handler of `resolve_automation`: the refusal is recorded if it can be. -/
def refuse {α : Type} (executor : Executor) (params : AutomationParams) (authority : Option Authority)
    (receipt : Option AutomationResolutionReceipt) : Talk α := do
  let _ ← Dialogue.attempt (recordAutomationAccess executor params authority none receipt false)
  Dialogue.raise denied

/-- `resolve_automation`, on a connection that is in an atomic block or in autocommit, or neither. -/
def resolveAutomation (inAtomicBlock autocommit : Bool) (executor : Executor) (params : AutomationParams) :
    Talk AutomationBundle := do
  if inAtomicBlock || !autocommit then Dialogue.raise denied
  else
    match ← Dialogue.attempt (authorizeDispatch executor params) with
    | .error _ => refuse executor params none none
    | .ok authority =>
      match ← Dialogue.attempt (reserve authority) with
      | .error _ => refuse executor params (some authority) none
      | .ok receipt =>
        match ← Dialogue.attempt (deliver executor params receipt) with
        | .error _ => refuse executor params (some authority) (some receipt)
        | .ok bundle => return bundle

end Digests

end Automation

end NetboxOpenbao
