import NetboxOpenbao.Administration.Backends
import NetboxOpenbao.Administration.Capabilities

/-!
# The administration plane

An administrative view as a dialogue with the database and with the administration backend of one cluster. Any request
may raise. What a view writes it writes through `log_administration`; whether that is a commit depends on the
connection the view is called on.
-/

namespace NetboxOpenbao

open Effect

/-- One audit row. Its texts are already cut to the lengths of their columns. -/
structure AdministrationLog where
  requestId : String
  username : String
  clusterSlug : String
  action : String
  operationId : String
  riskLevel : String
  method : String
  pathTemplate : String
  reason : String
  capabilityDigest : String
  targetIdentifiers : List String
  outcome : String
  success : Bool
  statusCode : Option Nat
  message : String
deriving DecidableEq, Repr

/-- The HTTP request a view answers. -/
structure PlaneRequest where
  id : String
  username : String
  isAuthenticated : Bool
deriving DecidableEq, Repr

/-- How the connection is when the view is called: inside an atomic block of its caller or not, and in autocommit mode
or not. -/
structure ConnectionMode where
  inAtomicBlock : Bool
  autocommit : Bool
deriving DecidableEq, Repr

/-- The arguments of `execute_mounted_operation`. -/
structure MountedCall where
  method : String
  path : String
  query : JsonObject
  body : JsonObject
  mountPath : String
  operationId : String
  pathTemplate : String
  mountParameter : String

/-- The arguments of `execute_access_operation` and `execute_final_operation`. -/
structure ReviewedCall where
  method : String
  path : String
  payload : JsonObject
  material : Bool

inductive AdminAsk where
  | cluster (permission : String)
  | hasPerm (permission : String)
  | mountInUse (mountPath : String)
  | begin
  | savepoint
  | insertLog (row : AdministrationLog)
  | commit
  | releaseSavepoint
  | rollback
  | rollbackToSavepoint
  | backend
  | sealStatus
  | leaderStatus
  | raftConfiguration
  | discoverCapabilities
  | listSecretEngines
  | removeRaftPeer (serverId : String)
  | enableSecretEngine (mountPath : String) (configuration : JsonObject)
  | tuneSecretEngine (mountPath : String) (configuration : JsonObject)
  | remountSecretEngine (source destination : String)
  | disableSecretEngine (mountPath : String)
  | executeMountedOperation (call : MountedCall)
  | executeAccessOperation (call : ReviewedCall)
  | executeFinalOperation (call : ReviewedCall)

abbrev AdminAsk.Answer : AdminAsk → Type
  | .cluster _ => OpenBaoCluster
  | .hasPerm _ => Bool
  | .mountInUse _ => Bool
  | .sealStatus => SealStatus
  | .leaderStatus => LeaderStatus
  | .raftConfiguration => RaftConfiguration
  | .discoverCapabilities => CapabilityDocument
  | .listSecretEngines => List SecretEngineMount
  | .remountSecretEngine _ _ => Json
  | .executeMountedOperation _ => JsonObject
  | .executeAccessOperation _ => Json
  | .executeFinalOperation _ => Json
  | _ => Unit

abbrev Admin (α : Type) : Type := Dialogue Error AdminAsk AdminAsk.Answer α

namespace Admin

def ask (r : AdminAsk) : Admin r.Answer := Dialogue.request r

def raise {α : Type} (error : Error) : Admin α := .done (.error error)

def ofExcept {α : Type} (result : Except Error α) : Admin α := .done result

/-- Raise `error` if `condition` holds. -/
def raiseIf (condition : Bool) (error : Error) : Admin Unit := if condition then raise error else pure ()

end Admin

/-- `OpenBaoConflict(message)`. -/
def conflictOf (message : String) : Error := .openbao .conflict message

/-! ### Audit rows -/

def auditError : Error := .audit "OpenBao administration access could not be audited."

/-- What a view hands to `log_administration`. -/
structure AuditEntry where
  action : String
  operationId : String := ""
  riskLevel : String := "read"
  method : String := ""
  pathTemplate : String := ""
  reason : String := ""
  capabilityDigest : String := ""
  targetIdentifiers : List String := []
  outcome : String := ""
  success : Bool := true
  statusCode : Option Nat := none
  message : String := ""

/-- `_text(value, maximum)`. -/
def clipped (s : String) (maximum : Nat) : String := String.ofList (s.toList.take maximum)

def AuditEntry.row (entry : AuditEntry) (cluster : OpenBaoCluster) (request : PlaneRequest) : AdministrationLog where
  requestId := clipped request.id 64
  username := clipped request.username 150
  clusterSlug := clipped cluster.slug 100
  action := clipped entry.action 100
  operationId := clipped entry.operationId 200
  riskLevel := clipped entry.riskLevel 32
  method := clipped entry.method 16
  pathTemplate := clipped entry.pathTemplate 500
  reason := clipped entry.reason 10000
  capabilityDigest := clipped entry.capabilityDigest 64
  targetIdentifiers := entry.targetIdentifiers.map fun value => clipped value 500
  outcome := clipped (if entry.outcome != "" then entry.outcome else if entry.success then "succeeded" else "failed") 32
  success := entry.success
  statusCode := entry.statusCode
  message := clipped entry.message 500

/-- `transaction.atomic(durable=durable)` around `body`. Outside autocommit the block is only a savepoint of whatever
transaction the connection's user has open. -/
def atomicBlock (mode : ConnectionMode) (durable : Bool) (body : Admin Unit) : Admin Unit :=
  if durable && mode.inAtomicBlock then
    Admin.raise (.raised "A durable atomic block cannot be nested within another atomic block.")
  else if mode.inAtomicBlock || !mode.autocommit then do
    Admin.ask .savepoint
    match ← body.attempt with
    | .ok _ => Admin.ask .releaseSavepoint
    | .error error => do
      let _ ← (Admin.ask .rollbackToSavepoint).attempt
      Admin.raise error
  else do
    Admin.ask .begin
    match ← (do body; Admin.ask .commit : Admin Unit).attempt with
    | .ok _ => pure ()
    | .error error => do
      let _ ← (Admin.ask .rollback).attempt
      Admin.raise error

/-- Append one record, or fail closed. -/
def logAdministration (mode : ConnectionMode) (cluster : OpenBaoCluster) (request : PlaneRequest) (entry : AuditEntry)
    (requireDurable : Bool) : Admin Unit := do
  let insert : Admin Unit :=
    if entry.targetIdentifiers.length > 256 then Admin.raise auditError
    else Admin.ask (.insertLog (entry.row cluster request))
  match ← (atomicBlock mode requireDurable insert).attempt with
  | .ok _ => pure ()
  | .error _ => Admin.raise auditError

/-! ### Responses and failures -/

structure PlaneResponse where
  status : Nat
  payload : JsonObject
  headers : List (String × String)

def noStore : List (String × String) :=
  [("Cache-Control", "no-store, no-cache, must-revalidate, max-age=0"), ("Pragma", "no-cache"), ("Expires", "0")]

def mutationResponse (payload : JsonObject) (auditComplete : Bool) : PlaneResponse :=
  if auditComplete then ⟨200, payload, noStore⟩
  else
    ⟨200, payload.filter (fun entry => entry.1 != "outcome" && entry.1 != "audit_status") ++
        [("outcome", .str "accepted-audit-incomplete"), ("audit_status", .str "preflight-only")],
      noStore ++ [("X-OpenBao-Operation-Outcome", "accepted-audit-incomplete"),
        ("X-OpenBao-Audit-Status", "preflight-only")]⟩

def unknownResponse (auditStatus : String) : PlaneResponse where
  status := 503
  payload := [("outcome", .str "unknown"), ("audit_status", .str auditStatus),
    ("message", .str "OpenBao may have accepted the request. Do not retry; verify current state first.")]
  headers := noStore ++ [("X-OpenBao-Operation-Outcome", "unknown"), ("X-OpenBao-Audit-Status", auditStatus)]

/-- `isinstance(exc, (AdministrationAuditError, OpenBaoError))`. -/
def Error.isPlaneFailure : Error → Bool
  | .openbao _ _ => true
  | .audit _ => true
  | _ => false

/-- `isinstance(exc, OpenBaoMutationUnknown)`. -/
def Error.isUnknown : Error → Bool
  | .openbao .mutationUnknown _ => true
  | _ => false

def Error.isAudit : Error → Bool
  | .audit _ => true
  | _ => false

def Error.isDatabase : Error → Bool
  | .database _ => true
  | _ => false

/-- An audit row that is written if it can be. -/
def logBestEffort (mode : ConnectionMode) (cluster : OpenBaoCluster) (request : PlaneRequest) (entry : AuditEntry) :
    Admin Bool := do
  match ← (logAdministration mode cluster request entry false).attempt with
  | .ok _ => return true
  | .error error => if error.isAudit then return false else Admin.raise error

/-- `_backend_failure`: record the refusal if that can be, and answer with a conflict or an outage. -/
def backendFailure {α : Type} (mode : ConnectionMode) (cluster : OpenBaoCluster) (request : PlaneRequest)
    (action reason riskLevel : String) (error : Error) : Admin α := do
  let isConflict := match error with
    | .openbao .conflict _ => true
    | _ => false
  let _ ← logBestEffort mode cluster request
    { action, riskLevel, reason, success := false, statusCode := some (if isConflict then 409 else 503)
      message := if isConflict then "OpenBao administrative state changed; the operation was refused."
        else "OpenBao administration is unavailable." }
  Admin.raise (.raised (if isConflict then "OpenBaoAdministrationConflict" else "OpenBaoAdministrationUnavailable"))

/-! ### Preparing -/

/-- `packaging.version`. A text without a version raises `InvalidVersion`. -/
class Packaging where
  Version : Type
  parse : String → Option Version
  lt : Version → Version → Bool
  release : Version → List Nat

variable [Packaging]

/-- The text of one of the 2.6 releases, from 2.6.2 on. -/
def Packaging.supported (text : String) : Bool :=
  match parse text, parse "2.6.2" with
  | some version, some baseline => !lt version baseline && (release version).take 2 == [2, 6]
  | _, _ => false

def requireBaseline (status : SealStatus) : Admin Unit :=
  Admin.raiseIf (!Packaging.supported status.version) Error.conflict

end NetboxOpenbao
