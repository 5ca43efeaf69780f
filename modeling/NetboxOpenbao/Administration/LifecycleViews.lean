import NetboxOpenbao.Administration.ClusterViews
import NetboxOpenbao.Administration.Downloads
import NetboxOpenbao.Effect.Guarded

/-!
# Cluster lifecycle actions

The views that initialize a server, join it to a Raft cluster, unseal and seal it and restore a snapshot into it. Each
of them checks its confirmation and reads the state of the server in the same request, records that the call is
authorized, makes it and records how it went. The attributes of a request are those its serializer has admitted field
by field.
-/

namespace NetboxOpenbao

open Effect

/-- `plane` stands for the requests of every administrative view; the stream of an upload is not part of its request. -/
inductive LifecycleAsk where
  | plane (request : AdminAsk)
  | initializationStatus
  | initializeCluster (payload : JsonObject)
  | joinRaft (payload : JsonObject)
  | unsealCluster (key : String) (reset migrate : Bool)
  | sealCluster
  | restoreRaftSnapshot (size : Nat) (force : Bool)
  | downloadRaftSnapshot

abbrev LifecycleAsk.Answer : LifecycleAsk → Type
  | .plane request => request.Answer
  | .initializationStatus => Bool
  | .initializeCluster _ => InitializationResult
  | .joinRaft _ => JsonObject
  | .unsealCluster _ _ _ => SealStatus
  | .sealCluster | .restoreRaftSnapshot _ _ => Unit
  | .downloadRaftSnapshot => Cluster.SnapshotDownload

abbrev ClusterAdmin (α : Type) : Type := Dialogue Error LifecycleAsk LifecycleAsk.Answer α

namespace ClusterAdmin

def ask (r : LifecycleAsk) : ClusterAdmin r.Answer := Dialogue.request r

def raise {α : Type} (error : Error) : ClusterAdmin α := .done (.error error)

def ofExcept {α : Type} (result : Except Error α) : ClusterAdmin α := .done result

def raiseIf (condition : Bool) (error : Error) : ClusterAdmin Unit := if condition then raise error else pure ()

/-- A part that every administrative view has. -/
def plane {α : Type} (d : Admin α) : ClusterAdmin α := d.embed LifecycleAsk.plane fun _ answer => answer

end ClusterAdmin

/-! ### Payloads -/

def InitializationResult.asDict (result : InitializationResult) : JsonObject :=
  [("keys", .list (result.keys.map .str)), ("keys_base64", .list (result.keysBase64.map .str)),
    ("recovery_keys", .list (result.recoveryKeys.map .str)),
    ("recovery_keys_base64", .list (result.recoveryKeysBase64.map .str)), ("root_token", .str result.rootToken)]

def SealStatus.asDict (status : SealStatus) : JsonObject :=
  [("initialized", .bool status.initialized), ("sealed", .bool status.isSealed), ("threshold", .int status.threshold),
    ("shares", .int status.shares), ("progress", .int status.progress), ("version", .str status.version),
    ("seal_type", .str status.sealType), ("migration", .bool status.migration),
    ("recovery_seal", .bool status.recoverySeal), ("storage_type", .str status.storageType),
    ("cluster_name", .str status.clusterName), ("cluster_id", .str status.clusterId)]

/-- A member of a payload, if it was given. -/
def member (name : String) (value : Option Json) : JsonObject := (value.map fun given => (name, given)).toList

/-! ### Serializers -/

/-- `_ClusterConfirmationSerializer.validate`. -/
def validateConfirmation (expected given : String) : Except Error Unit :=
  if given != expected then .error (.validation "confirmation" s!"Type exactly: {expected}") else .ok ()

structure InitializeClusterAttrs where
  reason : String
  confirmation : String
  secretShares : Option Nat := none
  secretThreshold : Option Nat := none
  recoveryShares : Option Nat := none
  recoveryThreshold : Option Nat := none
  pgpKeys : Option (List String) := none
  recoveryPgpKeys : Option (List String) := none
  rootTokenPgpKey : Option String := none

/-- A pair of share count and threshold, and the keys that go with it. -/
def validateShares (thresholdKey pgpKey : String) (shares threshold : Option Nat) (keys : Option (List String)) :
    Except Error Unit :=
  match shares, threshold with
  | some shares, some threshold =>
      if threshold > shares then .error (.validation thresholdKey "Threshold cannot exceed the share count.")
      else if keys.any fun given => given.length != shares then
        .error (.validation pgpKey "Provide exactly one PGP key for every share.")
      else .ok ()
  | _, _ => .error (.validation "" "Both share count and threshold are required.")

namespace InitializeClusterAttrs

/-- The rest of `InitializeClusterSerializer.validate`. -/
def validateSecrets (attrs : InitializeClusterAttrs) : Except Error Unit :=
  let shamir := attrs.secretShares.isSome || attrs.secretThreshold.isSome
  let recovery := attrs.recoveryShares.isSome || attrs.recoveryThreshold.isSome
  if shamir == recovery then
    .error (.validation "" "Specify either a complete Shamir share pair or a complete recovery share pair.")
  else if shamir then
    validateShares "secret_threshold" "pgp_keys" attrs.secretShares attrs.secretThreshold attrs.pgpKeys
  else
    validateShares "recovery_threshold" "recovery_pgp_keys" attrs.recoveryShares attrs.recoveryThreshold
      attrs.recoveryPgpKeys

/-- `openbao_payload`. -/
def openbaoPayload (attrs : InitializeClusterAttrs) : JsonObject :=
  let number (value : Option Nat) : Option Json := value.map fun n => .int n
  let texts (value : Option (List String)) : Option Json := value.map fun items => .list (items.map .str)
  member "secret_shares" (number attrs.secretShares) ++ member "secret_threshold" (number attrs.secretThreshold) ++
    member "recovery_shares" (number attrs.recoveryShares) ++
    member "recovery_threshold" (number attrs.recoveryThreshold) ++ member "pgp_keys" (texts attrs.pgpKeys) ++
    member "recovery_pgp_keys" (texts attrs.recoveryPgpKeys) ++
    member "root_token_pgp_key" (attrs.rootTokenPgpKey.map .str)

def validate (attrs : InitializeClusterAttrs) (slug : String) : Except Error InitializeClusterAttrs := do
  validateConfirmation ("INITIALIZE " ++ slug) attrs.confirmation
  attrs.validateSecrets
  return attrs

end InitializeClusterAttrs

/-- What `urlsplit` finds in a URL; `portValid` is whether reading its port raises nothing. -/
structure UrlParts where
  scheme : String
  hostname : Option String
  username : Option String
  password : Option String
  query : String
  fragmentText : String
  portValid : Bool

/-- `URLField.run_validation` and `urlsplit`. -/
class UrlParsing where
  runValidation : String → Except Error String
  urlsplit : String → UrlParts

structure JoinRaftAttrs where
  reason : String
  confirmation : String
  leaderApiAddr : Option String := none
  retry : Bool := false
  leaderCaCert : Option String := none
  leaderClientCert : Option String := none
  leaderClientKey : Option String := none
  leaderTlsServername : Option String := none
  autoJoin : Option String := none
  autoJoinScheme : Option String := none
  autoJoinPort : Option Nat := none
  nonVoter : Bool := false

/-- `bool(attrs.get(name))`. -/
def given (value : Option String) : Bool := value.getD "" != ""

namespace JoinRaftAttrs

/-- `expected_confirmation`. -/
def expectedConfirmation (attrs : JoinRaftAttrs) (slug : String) : String :=
  if given attrs.leaderApiAddr then "JOIN RAFT " ++ slug ++ " VIA DIRECT " ++ attrs.leaderApiAddr.getD ""
  else "JOIN RAFT " ++ slug ++ " VIA AUTO " ++ attrs.autoJoin.getD ""

/-- `_validate_direct_address`. -/
def validateDirectAddress [UrlParsing] (attrs : JoinRaftAttrs) (direct : String) : Except Error JoinRaftAttrs := do
  let direct ← UrlParsing.runValidation direct
  let parsed := UrlParsing.urlsplit direct
  if !parsed.portValid then .error (.validation "leader_api_addr" "Use a valid TCP port.")
  else if !(["http", "https"].contains parsed.scheme) || !given parsed.hostname || given parsed.username ||
      given parsed.password then
    .error (.validation "leader_api_addr" "Use an http(s) URL without user information.")
  else if parsed.query != "" || parsed.fragmentText != "" then
    .error (.validation "leader_api_addr" "Query strings and fragments are not accepted.")
  else .ok { attrs with leaderApiAddr := some direct, autoJoinScheme := none, autoJoinPort := none }

/-- `_validate_join_certificates`. -/
def validateJoinCertificates (attrs : JoinRaftAttrs) : Except Error Unit :=
  let certificate (value : Option String) : Bool :=
    !given value || Text.startsWith (value.getD "") "-----BEGIN CERTIFICATE-----"
  if !certificate attrs.leaderCaCert then .error (.validation "leader_ca_cert" "Provide one PEM certificate.")
  else if !certificate attrs.leaderClientCert then
    .error (.validation "leader_client_cert" "Provide one PEM certificate.")
  else if given attrs.leaderClientKey && !Text.startsWith (attrs.leaderClientKey.getD "") "-----BEGIN " then
    .error (.validation "leader_client_key" "Provide one PEM private key.")
  else if given attrs.leaderClientCert != given attrs.leaderClientKey then
    .error (.validation "" "The leader client certificate and private key must be supplied together.")
  else .ok ()

/-- One leader, by its address or by an expression. -/
def locate [UrlParsing] (attrs : JoinRaftAttrs) : Except Error JoinRaftAttrs :=
  if given attrs.leaderApiAddr == given attrs.autoJoin then
    .error (.validation "" "Specify exactly one leader API address or auto-join expression.")
  else if given attrs.leaderApiAddr then attrs.validateDirectAddress (attrs.leaderApiAddr.getD "")
  else
    .ok { attrs with
      leaderApiAddr := none
      autoJoinScheme := some (attrs.autoJoinScheme.getD "https")
      autoJoinPort := some (attrs.autoJoinPort.getD 8200) }

def validate [UrlParsing] (attrs : JoinRaftAttrs) (slug : String) : Except Error JoinRaftAttrs := do
  let located ← attrs.locate
  validateConfirmation (located.expectedConfirmation slug) located.confirmation
  located.validateJoinCertificates
  return located

/-- `openbao_payload`. -/
def openbaoPayload (attrs : JoinRaftAttrs) : JsonObject :=
  let text (value : Option String) : Option Json := value.map .str
  member "leader_api_addr" (text attrs.leaderApiAddr) ++ [("retry", .bool attrs.retry)] ++
    member "leader_ca_cert" (text attrs.leaderCaCert) ++ member "leader_client_cert" (text attrs.leaderClientCert) ++
    member "leader_client_key" (text attrs.leaderClientKey) ++
    member "leader_tls_servername" (text attrs.leaderTlsServername) ++ member "auto_join" (text attrs.autoJoin) ++
    member "auto_join_scheme" (text attrs.autoJoinScheme) ++
    member "auto_join_port" (attrs.autoJoinPort.map fun port => .int port) ++ [("non_voter", .bool attrs.nonVoter)]

end JoinRaftAttrs

structure UnsealClusterAttrs where
  reason : String
  confirmation : String
  key : Option String
  reset : Bool
  migrate : Bool

def UnsealClusterAttrs.validate (attrs : UnsealClusterAttrs) (slug : String) : Except Error UnsealClusterAttrs := do
  validateConfirmation ((if attrs.reset then "RESET UNSEAL " else "UNSEAL ") ++ slug) attrs.confirmation
  if attrs.reset then return { attrs with key := none }
  else if !given attrs.key then .error (.validation "key" "One unseal share is required.")
  else return attrs

structure ConfirmClusterAttrs where
  reason : String
  confirmation : String

/-- The headers of an upload that `RestoreRaftSnapshotSerializer` admits. -/
structure RestoreRaftSnapshotAttrs where
  reason : String
  confirmation : String
  clusterId : String
  configurationIndex : Nat

/-- The headers `_snapshot_upload_size` reads; `contentLength` is what `int` makes of the length, if it is a number. -/
structure SnapshotUpload where
  contentType : String
  contentEncoding : Option String
  contentLength : Option Int

/-- `_snapshot_upload_size`. -/
def SnapshotUpload.size (upload : SnapshotUpload) : Except Error Nat :=
  if upload.contentType != "application/octet-stream" then
    .error (.validation "content_type" "Use application/octet-stream.")
  else if given upload.contentEncoding then
    .error (.validation "content_encoding" "Encoded snapshot uploads are not accepted.")
  else
    match upload.contentLength with
    | none => .error (.validation "content_length" "A valid Content-Length is required.")
    | some size =>
        if 0 < size ∧ size ≤ Cluster.maxSnapshotBytes then .ok size.toNat
        else .error (.validation "content_length" "Snapshot size is outside the allowed range.")

/-! ### What the views have in common -/

/-- What one view hands to its audit rows and what it calls, with what it answers for the state it has checked and the
answer it got. -/
structure LifecycleView (State : Type) where
  action : String
  operationId : String
  riskLevel : String
  pathTemplate : String
  authorized : String
  completed : String
  check : ClusterAdmin State
  call : LifecycleAsk
  payload : State → call.Answer → JsonObject
  status : Nat := 200

namespace LifecycleView

variable {State : Type} (view : LifecycleView State) (reason : String)

def entry : AuditEntry where
  action := view.action
  operationId := view.operationId
  riskLevel := view.riskLevel
  method := "POST"
  pathTemplate := view.pathTemplate
  reason

def authorizedEntry : AuditEntry :=
  { view.entry reason with action := view.action ++ "-authorized", message := view.authorized }

def completedEntry : AuditEntry :=
  { view.entry reason with statusCode := some view.status, message := view.completed }

end LifecycleView

/-- What is inside the `try`. -/
def runLifecycle {State : Type} (mode : ConnectionMode) (cluster : OpenBaoCluster) (request : PlaneRequest)
    (view : LifecycleView State) (reason : String) : ClusterAdmin (State × view.call.Answer) := do
  ClusterAdmin.ask (.plane .backend)
  let state ← view.check
  ClusterAdmin.plane (logAdministration mode cluster request (view.authorizedEntry reason) true)
  let result ← ClusterAdmin.ask view.call
  return (state, result)

/-- The `except` clauses, or what follows the `try`. -/
def answerLifecycle {State : Type} (mode : ConnectionMode) (cluster : OpenBaoCluster) (request : PlaneRequest)
    (view : LifecycleView State) (reason : String) :
    Except Error (State × view.call.Answer) → ClusterAdmin PlaneResponse
  | .error error =>
      if error.isUnknown then
        ClusterAdmin.plane (mutationUnknownResponse mode cluster request (view.entry reason))
      else if error.isPlaneFailure || error.isDatabase then
        ClusterAdmin.plane (backendFailure mode cluster request view.action reason view.riskLevel error)
      else ClusterAdmin.raise error
  | .ok (state, result) => do
      let complete ← ClusterAdmin.plane (logBestEffort mode cluster request (view.completedEntry reason))
      return { mutationResponse (view.payload state result) complete with status := view.status }

def lifecycleMutation {State : Type} (mode : ConnectionMode) (cluster : OpenBaoCluster) (request : PlaneRequest)
    (view : LifecycleView State) (reason : String) : ClusterAdmin PlaneResponse := do
  let outcome ← (runLifecycle mode cluster request view reason).attempt
  answerLifecycle mode cluster request view reason outcome

/-! ### What the views check -/

section

variable [Packaging]

/-- `_require_baseline`. -/
def requireBaselineOf (status : SealStatus) : ClusterAdmin Unit :=
  ClusterAdmin.raiseIf (!Packaging.supported status.version) Error.conflict

/-- The server has not been initialized, by either of its answers. -/
def checkUninitialized : ClusterAdmin Unit := do
  let before ← ClusterAdmin.ask (.plane .sealStatus)
  requireBaselineOf before
  if before.initialized then ClusterAdmin.raise Error.conflict
  else do
    let initialized ← ClusterAdmin.ask .initializationStatus
    ClusterAdmin.raiseIf initialized Error.conflict

def checkSealed : ClusterAdmin Unit := do
  let before ← ClusterAdmin.ask (.plane .sealStatus)
  requireBaselineOf before
  ClusterAdmin.raiseIf (!before.initialized || !before.isSealed) Error.conflict

/-- What the server says of its leader, which has to be itself. -/
def checkLeader : ClusterAdmin Unit := do
  let leader ← ClusterAdmin.ask (.plane .leaderStatus)
  ClusterAdmin.raiseIf (leader.haEnabled && !leader.isSelf) Error.conflict

def checkUnsealed : ClusterAdmin Unit := do
  let before ← ClusterAdmin.ask (.plane .sealStatus)
  requireBaselineOf before
  ClusterAdmin.raiseIf (!before.initialized || before.isSealed) Error.conflict
  checkLeader

def checkRaft : ClusterAdmin SealStatus := do
  let status ← ClusterAdmin.ask (.plane .sealStatus)
  requireBaselineOf status
  ClusterAdmin.raiseIf (!status.initialized || status.isSealed || status.storageType != "raft") Error.conflict
  checkLeader
  return status

/-- `_fresh_raft_state`. -/
def freshRaftState (expectedClusterId : String) (expectedIndex : Nat) : ClusterAdmin RaftConfiguration := do
  let status ← checkRaft
  let config ← ClusterAdmin.ask (.plane .raftConfiguration)
  ClusterAdmin.raiseIf (status.clusterId != expectedClusterId || config.index != expectedIndex) Error.conflict
  return config

/-! ### The views -/

def initializeClusterView (payload : JsonObject) : LifecycleView Unit where
  action := "initialize"
  operationId := "sys-init"
  riskLevel := "sensitive"
  pathTemplate := "/sys/init"
  authorized := "Authorized cluster initialization."
  completed := "Initialized cluster; custody material was returned once."
  check := checkUninitialized
  call := .initializeCluster payload
  payload _ result := InitializationResult.asDict result
  status := 201

def OpenBaoClusterViewSet.initializeCluster (mode : ConnectionMode) (request : PlaneRequest)
    (attrs : InitializeClusterAttrs) : ClusterAdmin PlaneResponse := do
  let cluster ← ClusterAdmin.ask (.plane (.cluster "initialize"))
  let data ← ClusterAdmin.ofExcept (attrs.validate cluster.slug)
  lifecycleMutation mode cluster request (initializeClusterView data.openbaoPayload) data.reason

def joinRaftView (payload : JsonObject) : LifecycleView Unit where
  action := "join-raft"
  operationId := "raft-join"
  riskLevel := "sensitive"
  pathTemplate := "/sys/storage/raft/join"
  authorized := "Authorized joining the uninitialized node to a Raft cluster."
  completed := "Submitted the request-scoped Raft join configuration."
  check := checkUninitialized
  call := .joinRaft payload
  payload _ result := result

def OpenBaoClusterViewSet.joinRaft [UrlParsing] (mode : ConnectionMode) (request : PlaneRequest)
    (attrs : JoinRaftAttrs) : ClusterAdmin PlaneResponse := do
  let cluster ← ClusterAdmin.ask (.plane (.cluster "join_raft"))
  let data ← ClusterAdmin.ofExcept (attrs.validate cluster.slug)
  lifecycleMutation mode cluster request (joinRaftView data.openbaoPayload) data.reason

def unsealClusterView (data : UnsealClusterAttrs) : LifecycleView Unit where
  action := if data.reset then "reset-unseal" else "unseal"
  operationId := "sys-unseal"
  riskLevel := "sensitive"
  pathTemplate := "/sys/unseal"
  authorized := "Authorized an unseal state transition."
  completed := "Updated unseal progress."
  check := checkSealed
  call := .unsealCluster (data.key.getD "") data.reset data.migrate
  payload _ result := SealStatus.asDict result

def OpenBaoClusterViewSet.unsealCluster (mode : ConnectionMode) (request : PlaneRequest) (attrs : UnsealClusterAttrs) :
    ClusterAdmin PlaneResponse := do
  let cluster ← ClusterAdmin.ask (.plane (.cluster "unseal"))
  let data ← ClusterAdmin.ofExcept (attrs.validate cluster.slug)
  lifecycleMutation mode cluster request (unsealClusterView data) data.reason

def sealClusterView : LifecycleView Unit where
  action := "seal"
  operationId := "sys-seal"
  riskLevel := "destructive"
  pathTemplate := "/sys/seal"
  authorized := "Authorized cluster seal."
  completed := "Sealed cluster."
  check := checkUnsealed
  call := .sealCluster
  payload _ _ := [("sealed", .bool true)]

def OpenBaoClusterViewSet.sealCluster (mode : ConnectionMode) (request : PlaneRequest) (attrs : ConfirmClusterAttrs) :
    ClusterAdmin PlaneResponse := do
  let cluster ← ClusterAdmin.ask (.plane (.cluster "seal"))
  ClusterAdmin.ofExcept (validateConfirmation ("SEAL " ++ cluster.slug) attrs.confirmation)
  lifecycleMutation mode cluster request sealClusterView attrs.reason

def restoreRaftSnapshotView (data : RestoreRaftSnapshotAttrs) (size : Nat) (force : Bool) :
    LifecycleView RaftConfiguration where
  action := if force then "force-restore-raft-snapshot" else "restore-raft-snapshot"
  operationId := if force then "force-restore-raft-snapshot" else "restore-raft-snapshot"
  riskLevel := "destructive"
  pathTemplate := if force then "/sys/storage/raft/snapshot-force" else "/sys/storage/raft/snapshot"
  authorized := "Authorized a bounded streaming Raft snapshot restore."
  completed := "Accepted a streamed Raft snapshot restore."
  check := freshRaftState data.clusterId data.configurationIndex
  call := .restoreRaftSnapshot size force
  payload config _ :=
    [("restored", .bool true), ("forced", .bool force), ("configuration_index", .int config.index)]

/-- `_restore_raft_snapshot`. -/
def OpenBaoClusterViewSet.restoreRaftSnapshot (mode : ConnectionMode) (request : PlaneRequest)
    (attrs : RestoreRaftSnapshotAttrs) (upload : SnapshotUpload) (force : Bool) : ClusterAdmin PlaneResponse := do
  let cluster ← ClusterAdmin.ask
    (.plane (.cluster (if force then "force_restore_raft_snapshot" else "restore_raft_snapshot")))
  ClusterAdmin.ofExcept (validateConfirmation
    ((if force then "FORCE RESTORE SNAPSHOT " else "RESTORE SNAPSHOT ") ++ cluster.slug) attrs.confirmation)
  let size ← ClusterAdmin.ofExcept upload.size
  lifecycleMutation mode cluster request (restoreRaftSnapshotView attrs size force) attrs.reason

/-! ### Downloads -/

/-- The audit rows of a download, before it is authorized. -/
def downloadEntry (method reason : String) : AuditEntry where
  action := "download-raft-snapshot"
  operationId := "raft-snapshot-download"
  riskLevel := "sensitive"
  method
  pathTemplate := "/sys/storage/raft/snapshot"
  reason

def downloadAuthorized (method reason : String) : AuditEntry :=
  { downloadEntry method reason with
    action := "download-raft-snapshot-authorized"
    message := "Authorized a streamed Raft snapshot download." }

/-- What is inside the `try`. -/
def runDownload (mode : ConnectionMode) (cluster : OpenBaoCluster) (request : PlaneRequest) (method reason : String) :
    ClusterAdmin Cluster.SnapshotDownload := do
  ClusterAdmin.ask (.plane .backend)
  let _ ← checkRaft
  ClusterAdmin.plane (logAdministration mode cluster request (downloadAuthorized method reason) true)
  ClusterAdmin.ask .downloadRaftSnapshot

/-- The `except` clause, or what follows the `try`. -/
def answerDownload (mode : ConnectionMode) (cluster : OpenBaoCluster) (request : PlaneRequest) (reason : String) :
    Except Error Cluster.SnapshotDownload → ClusterAdmin Cluster.SnapshotDownload
  | .error error =>
      if error.isPlaneFailure || error.isDatabase then
        ClusterAdmin.plane (backendFailure mode cluster request "download-raft-snapshot" reason "sensitive" error)
      else ClusterAdmin.raise error
  | .ok snapshot => return snapshot

/-- A GET has no body, so it gives neither a reason nor a confirmation; a session has to confirm. -/
def OpenBaoClusterViewSet.downloadRaftSnapshot (mode : ConnectionMode) (request : PlaneRequest) (method : String)
    (sessionAuthenticated : Bool) (attrs : ConfirmClusterAttrs) : ClusterAdmin Cluster.SnapshotDownload := do
  ClusterAdmin.raiseIf (method == "GET" && sessionAuthenticated) (.raised "MethodNotAllowed")
  let cluster ← ClusterAdmin.ask (.plane (.cluster "download_raft_snapshot"))
  ClusterAdmin.ofExcept
    (if method == "POST" then validateConfirmation ("DOWNLOAD SNAPSHOT " ++ cluster.slug) attrs.confirmation
      else .ok ())
  let reason := if method == "POST" then attrs.reason else ""
  let outcome ← (runDownload mode cluster request method reason).attempt
  answerDownload mode cluster request reason outcome

end

namespace Cluster

/-- Where `stream()` stands: not begun, inside its `yield from`, or over. -/
inductive BodyFrame where
  | created
  | suspended (chunks : ChunksFrame)
  | finished
deriving DecidableEq, Repr

/-- The body of the response to a download. -/
structure SnapshotBody where
  download : SnapshotDownload
  frame : BodyFrame
deriving DecidableEq, Repr

namespace SnapshotBody

/-- The `try` and the `finally` around it, with the `success` of the row that the `finally` tries to write. -/
def proceed (stream : SnapshotBody) (chunks : ChunksFrame) : Resumed × Option Bool × SnapshotBody :=
  let (resumed, chunks, download) := stream.download.resume chunks
  match resumed with
  | .yielded _ => (resumed, none, ⟨download, .suspended chunks⟩)
  | .returned => (resumed, some true, ⟨download.close, .finished⟩)
  | .raised _ => (resumed, some false, ⟨download.close, .finished⟩)

/-- `next` on the body. -/
def resume (stream : SnapshotBody) : Resumed × Option Bool × SnapshotBody :=
  match stream.frame with
  | .created => stream.proceed .created
  | .suspended chunks => stream.proceed chunks
  | .finished => (.returned, none, stream)

/-- The server closes the body: at the `yield` the `finally` clauses run, before the first `next` nothing does. -/
def close (stream : SnapshotBody) : Option Bool × SnapshotBody :=
  match stream.frame with
  | .suspended chunks => (some false, ⟨(stream.download.abandon chunks).close, .finished⟩)
  | .created | .finished => (none, { stream with frame := .finished })

end SnapshotBody

/-- The bytes a `next` gave. -/
def Resumed.chunk : Resumed → List UInt8
  | .yielded chunk => chunk
  | .returned | .raised _ => []

/-- How a `next` ended a generator, if it did. -/
def Resumed.ending : Resumed → Option (Except Error Unit)
  | .yielded _ => none
  | .returned => some (.ok ())
  | .raised error => some (.error error)

/-- The row of a stream that is over, which is written if it can be. -/
def streamedEntry (method reason : String) (success : Bool) : AuditEntry :=
  { downloadEntry method reason with
    success
    statusCode := some (if success then 200 else 499)
    message := if success then "Streamed a Raft snapshot to the authenticated operator."
      else "The Raft snapshot stream did not complete." }

/-- A body with what the server took from it, how it ended, if it did, and the rows it tried to write. -/
structure BodyUse where
  stream : SnapshotBody
  given : List UInt8
  ended : Option (Except Error Unit)
  rows : List AuditEntry

inductive BodyAction where
  | next
  | close

namespace BodyUse

/-- The body of a response that has just been built. -/
def init (download : SnapshotDownload) : BodyUse := ⟨⟨download, .created⟩, [], none, []⟩

def step (method reason : String) (s : BodyUse) : BodyAction → BodyUse
  | .next =>
      let (resumed, row, stream) := s.stream.resume
      { stream
        given := s.given ++ resumed.chunk
        ended := if s.stream.frame = .finished then s.ended else resumed.ending
        rows := s.rows ++ (row.map (streamedEntry method reason)).toList }
  | .close =>
      let (row, stream) := s.stream.close
      { s with stream, rows := s.rows ++ (row.map (streamedEntry method reason)).toList }

end BodyUse

end Cluster

end NetboxOpenbao
