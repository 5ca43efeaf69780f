import NetboxOpenbao.Administration.Journeys
import NetboxOpenbao.Administration.Plane

/-!
# Secret-engine actions

The views that change a mount, run an operation of the explorer or run a journey. Each of them prepares against the
live server, records that it is authorized, calls the backend and records how that went.
-/

namespace NetboxOpenbao

open Effect Engines EngineJourneys

variable [Packaging]

/-- `_engine_document`: the live capability document of a ready cluster. -/
def engineDocument : Admin CapabilityDocument := do
  Admin.ask .backend
  let status ← Admin.ask .sealStatus
  requireBaseline status
  Admin.raiseIf (!status.initialized || status.isSealed)
    (conflictOf "The OpenBao cluster is not ready for secret-engine administration.")
  let document ← Admin.ask .discoverCapabilities
  Admin.raiseIf (!Packaging.supported document.productVersion)
    (conflictOf "OpenBao returned an unsupported capability version.")
  return document

/-- `_audit`. -/
def auditCompleted (mode : ConnectionMode) (cluster : OpenBaoCluster) (request : PlaneRequest)
    (operation risk method path digest reason : String) : Admin Bool :=
  logBestEffort mode cluster request
    { action := operation, operationId := operation, riskLevel := risk, method, pathTemplate := path, reason
      capabilityDigest := digest, success := true, statusCode := some 200
      message := "Completed a reviewed OpenBao secrets-engine operation." }

/-- `_record_unknown`, and the answer after it. -/
def recordUnknown (mode : ConnectionMode) (cluster : OpenBaoCluster) (request : PlaneRequest)
    (operation risk method path digest reason : String) : Admin PlaneResponse := do
  let _ ← logBestEffort mode cluster request
    { action := s!"{operation}-outcome-unknown", operationId := operation, riskLevel := risk, method
      pathTemplate := path, reason, capabilityDigest := digest, outcome := "unknown", success := false
      statusCode := some 503
      message := "OpenBao may have accepted the request; state verification is required before retry." }
  return unknownResponse "preflight-only"

/-! ### Payloads -/

def Json.texts (items : List String) : Json := .list (items.map .str)

def Json.pairs (items : List (String × String)) : Json := .list (items.map fun item => Json.texts [item.1, item.2])

def ExplorerOperation.asDict (operation : ExplorerOperation) : JsonObject :=
  [("operation_key", .str operation.operationKey), ("operation_id", .str operation.operationId),
    ("method", .str operation.method), ("path_template", .str operation.pathTemplate),
    ("mount_parameter", .str operation.mountParameter), ("summary", .str operation.summary),
    ("risk_level", .str operation.riskLevel), ("response_class", .str operation.responseClass),
    ("required_permission", .str operation.requiredPermission), ("executable", .bool operation.executable),
    ("query_parameters", Json.texts operation.queryParameters),
    ("required_query_parameters", Json.texts operation.requiredQueryParameters),
    ("path_parameters", Json.texts operation.pathParameters),
    ("required_path_parameters", Json.texts operation.requiredPathParameters),
    ("path_parameter_types", Json.pairs operation.pathParameterTypes),
    ("body_fields", Json.texts operation.bodyFields),
    ("required_body_fields", Json.texts operation.requiredBodyFields),
    ("query_parameter_types", Json.pairs operation.queryParameterTypes),
    ("body_field_types", Json.pairs operation.bodyFieldTypes)]

def EngineJourney.asDict (journey : EngineJourney) : JsonObject :=
  [("journey_id", .str journey.journeyId), ("engine_type", .str journey.engineType), ("group", .str journey.group),
    ("label", .str journey.label), ("method", .str journey.method), ("path_template", .str journey.pathTemplate),
    ("operation_id", .str journey.operationId), ("required_permission", .str journey.requiredPermission),
    ("risk_level", .str journey.riskLevel), ("response_class", .str journey.responseClass),
    ("confirmation_prefix", .str journey.confirmationPrefix),
    ("kv_versions", .list (journey.kvVersions.map fun version => .int version)),
    ("fixed_query", Json.pairs journey.fixedQuery),
    ("path_parameter_choices", .list (journey.pathParameterChoices.map fun choice =>
      .list [.str choice.1, Json.texts choice.2])),
    ("download_filename", .str journey.downloadFilename)]

/-! ### Mounts -/

/-- The validated data of the four mount actions. -/
inductive EngineMutation where
  | enable (mountPath : String) (configuration : JsonObject)
  | tune (mountPath : String) (configuration : JsonObject)
  | remount (source destination : String)
  | disable (mountPath : String)

namespace EngineMutation

def permission : EngineMutation → String
  | .disable _ => "disable_secret_engines"
  | _ => "manage_secret_engines"

def operation : EngineMutation → String
  | .enable _ _ => "secret-engine-enable"
  | .tune _ _ => "secret-engine-tune"
  | .remount _ _ => "secret-engine-remount"
  | .disable _ => "secret-engine-disable"

def method : EngineMutation → String
  | .disable _ => "DELETE"
  | _ => "POST"

def template : EngineMutation → String
  | .tune _ _ => "/sys/mounts/{path}/tune"
  | .remount _ _ => "/sys/remount"
  | _ => "/sys/mounts/{path}"

def risk : EngineMutation → String
  | .disable _ => "destructive"
  | _ => "write"

/-- `ENGINE_LIFECYCLE_OPERATIONS` for these actions. -/
def operationId : EngineMutation → String
  | .enable _ _ => "mounts-enable-secrets-engine"
  | .tune _ _ => "mounts-tune-configuration-parameters"
  | .remount _ _ => "remount"
  | .disable _ => "mounts-disable-secrets-engine"

/-- Whether the live mounts allow it. -/
def checkMounts (mutation : EngineMutation) (mountPaths : List String) : Except Error Unit :=
  match mutation with
  | .enable mountPath _ =>
      if mountPaths.contains mountPath then .error (conflictOf "The secret-engine mount already exists.") else .ok ()
  | .tune mountPath _ | .disable mountPath =>
      if mountPaths.contains mountPath then .ok () else .error (conflictOf "The secret-engine mount is unavailable.")
  | .remount source destination =>
      if !mountPaths.contains source || mountPaths.contains destination then
        .error (conflictOf "The remount source or destination changed.")
      else .ok ()

def produce : EngineMutation → Admin JsonObject
  | .enable mountPath configuration => do
      Admin.ask (.enableSecretEngine mountPath configuration)
      return []
  | .tune mountPath configuration => do
      Admin.ask (.tuneSecretEngine mountPath configuration)
      return []
  | .remount source destination => do
      match ← Admin.ask (.remountSecretEngine source destination) with
      | .dict entries => return entries
      | _ => return []
  | .disable mountPath => do
      Admin.ask (.disableSecretEngine mountPath)
      return []

/-- The audit row before the mutation. -/
def authorized (mutation : EngineMutation) (reason digest : String) : AuditEntry where
  action := mutation.operation ++ "-authorized"
  operationId := mutation.operation
  riskLevel := mutation.risk
  method := mutation.method
  pathTemplate := mutation.template
  reason
  capabilityDigest := digest
  outcome := "authorized"
  success := true
  statusCode := some 202
  message := "Authorized a reviewed OpenBao secrets-engine mutation."

end EngineMutation

def prepareEngineOperation (mutation : EngineMutation) : Admin CapabilityDocument := do
  let document ← engineDocument
  Admin.raiseIf (!document.operations.any fun item => item.method == mutation.method &&
      item.pathTemplate == mutation.template && item.operationId == mutation.operationId)
    (conflictOf "OpenBao does not advertise the reviewed operation.")
  return document

/-- What is inside the `try` of `_engine_mutation`. -/
def runEngineMutation (mode : ConnectionMode) (cluster : OpenBaoCluster) (request : PlaneRequest)
    (mutation : EngineMutation) (reason : String) (document : CapabilityDocument) : Admin JsonObject := do
  let mounts ← Admin.ask .listSecretEngines
  Admin.ofExcept (mutation.checkMounts (mounts.map SecretEngineMount.path))
  logAdministration mode cluster request (mutation.authorized reason document.digest) true
  mutation.produce

/-- A view's `except` clauses after it has prepared. -/
def answerEngineFailure (mode : ConnectionMode) (cluster : OpenBaoCluster) (request : PlaneRequest)
    (action operation risk method path digest reason : String) (error : Error) : Admin PlaneResponse :=
  if error.isUnknown then recordUnknown mode cluster request operation risk method path digest reason
  else if error.isPlaneFailure then backendFailure mode cluster request action reason risk error
  else Admin.raise error

/-- The same clauses while it prepares, when the document that the first of them records is not bound yet. -/
def answerUnprepared (mode : ConnectionMode) (cluster : OpenBaoCluster) (request : PlaneRequest)
    (action risk reason : String) (error : Error) : Admin PlaneResponse :=
  if error.isUnknown then Admin.raise (.raised "UnboundLocalError")
  else if error.isPlaneFailure then backendFailure mode cluster request action reason risk error
  else Admin.raise error

def engineMutation (mode : ConnectionMode) (request : PlaneRequest) (mutation : EngineMutation) (reason : String) :
    Admin PlaneResponse := do
  let cluster ← Admin.ask (.cluster mutation.permission)
  let inUse ← match mutation with
    | .disable mountPath => Admin.ask (.mountInUse mountPath)
    | _ => pure false
  Admin.raiseIf inUse
    (.validation "" "The mount still contains NetBox credential inventory and cannot be disabled.")
  match ← (prepareEngineOperation mutation).attempt with
  | .error error => answerUnprepared mode cluster request mutation.operation mutation.risk reason error
  | .ok document =>
      match ← (runEngineMutation mode cluster request mutation reason document).attempt with
      | .error error =>
          answerEngineFailure mode cluster request mutation.operation mutation.operation mutation.risk mutation.method
            mutation.template document.digest reason error
      | .ok result => do
          let complete ← auditCompleted mode cluster request mutation.operation mutation.risk mutation.method
            mutation.template document.digest reason
          return mutationResponse result complete

/-! ### The explorer -/

/-- The validated data of `ExplorerExecuteSerializer`; a journey's names the journey in place of the key. -/
structure ExplorerData where
  operationKey : String
  journeyId : String
  capabilityDigest : String
  mountPath : String
  resourcePath : String
  pathParameters : JsonObject
  query : JsonObject
  body : JsonObject
  reason : String
  confirmation : String

def keys (entries : JsonObject) : List String := entries.map Prod.fst

def requestError (message : String) : Error := .validation "" message

/-- `_validate_journey_fields`, and the same checks of the explorer. -/
def validateFields (operation : ExplorerOperation) (query body pathParameters : JsonObject) : Except Error Unit := do
  if !(keys query).all operation.queryParameters.contains then
    .error (requestError "The request contains an undeclared query parameter.")
  else if !operation.requiredQueryParameters.all (keys query).contains then
    .error (requestError "The request omits a required query parameter.")
  else if !(keys body).all operation.bodyFields.contains then
    .error (requestError "The request contains an undeclared body field.")
  else if !operation.requiredBodyFields.all (keys body).contains then
    .error (requestError "The request omits a required body field.")
  else do
    validateDeclaredFieldTypes query operation.queryParameterTypes
    validateDeclaredFieldTypes body operation.bodyFieldTypes
    validateDeclaredFieldTypes pathParameters operation.pathParameterTypes

/-- What an explorer request needs of the live mounts: the mount is there, and the operation names its parameter. -/
def checkMount (operation : ExplorerOperation) (mountPath : String) (mounts : List String) : Except Error Unit := do
  if !mounts.contains mountPath || reservedMountPaths.contains mountPath then
    .error (requestError "The selected live secret-engine mount is unavailable.")
  else do
    let parameter ← mountParameterForPath mountPath
    if operation.mountParameter != parameter then
      .error (requestError "The selected operation was not advertised by this live mount.")
    else .ok ()

structure PreparedOperation where
  document : CapabilityDocument
  operation : ExplorerOperation
  path : String

def prepareExplorerExecution (cluster : OpenBaoCluster) (data : ExplorerData) : Admin PreparedOperation := do
  let document ← engineDocument
  Admin.raiseIf (data.capabilityDigest != document.digest)
    (conflictOf "The OpenBao capability document changed; reload the operation catalog.")
  let operation ← Admin.ofExcept (resolveExplorerOperation document data.operationKey)
  Admin.ofExcept (validateFields operation data.query data.body data.pathParameters)
  let permitted ← Admin.ask (.hasPerm operation.requiredPermission)
  Admin.raiseIf (!permitted) (.permissionDenied "The reviewed operation permission is required.")
  let mounts ← Admin.ask .listSecretEngines
  Admin.ofExcept (checkMount operation data.mountPath (mounts.map SecretEngineMount.path))
  let path ← Admin.ofExcept
    (compileOperationPath operation.pathTemplate data.mountPath data.resourcePath data.pathParameters)
  Admin.raiseIf (operation.riskLevel == "destructive" &&
      data.confirmation != operation.method ++ " " ++ path ++ " ON " ++ cluster.slug)
    (requestError "The exact destructive-operation confirmation is required.")
  return ⟨document, operation, path⟩

def explorerAuthorized (prepared : PreparedOperation) (reason : String) : AuditEntry where
  action := "secret-operation-authorized"
  operationId := prepared.operation.operationId
  riskLevel := prepared.operation.riskLevel
  method := prepared.operation.method
  pathTemplate := prepared.operation.pathTemplate
  reason
  capabilityDigest := prepared.document.digest
  outcome := "authorized"
  success := true
  statusCode := some 202
  message := "Authorized a classified mounted OpenBao operation."

/-- `execute_mounted_operation` for a prepared operation. -/
def mountedCall (prepared : PreparedOperation) (mountPath method : String) (query body : JsonObject) : MountedCall where
  method
  path := prepared.path
  query
  body
  mountPath
  operationId := prepared.operation.operationId
  pathTemplate := prepared.operation.pathTemplate
  mountParameter := prepared.operation.mountParameter

def runExplorer (mode : ConnectionMode) (cluster : OpenBaoCluster) (request : PlaneRequest) (data : ExplorerData)
    (prepared : PreparedOperation) : Admin JsonObject := do
  logAdministration mode cluster request (explorerAuthorized prepared data.reason) true
  Admin.ask (.executeMountedOperation
    (mountedCall prepared data.mountPath prepared.operation.method data.query data.body))

/-- `except CapabilitySchemaError`, before a view's other clauses. -/
def answerSchemaError (handler : Error → Admin PlaneResponse) : Error → Admin PlaneResponse
  | .schema message => Admin.raise (requestError message)
  | error => handler error

def executeSecretOperation (mode : ConnectionMode) (request : PlaneRequest) (data : ExplorerData) :
    Admin PlaneResponse := do
  let cluster ← Admin.ask (.cluster "explore_secret_operations")
  match ← (prepareExplorerExecution cluster data).attempt with
  | .error error =>
      -- the operation is not known here, so the refusal is recorded as that of a write
      answerSchemaError (answerUnprepared mode cluster request "secret-operation-execute" "write" data.reason) error
  | .ok prepared =>
      let operation := prepared.operation
      match ← (runExplorer mode cluster request data prepared).attempt with
      | .error error =>
          answerSchemaError (answerEngineFailure mode cluster request "secret-operation-execute" operation.operationId
            operation.riskLevel operation.method operation.pathTemplate prepared.document.digest data.reason) error
      | .ok result => do
          let complete ← auditCompleted mode cluster request operation.operationId operation.riskLevel operation.method
            operation.pathTemplate prepared.document.digest data.reason
          return mutationResponse [("operation", .dict operation.asDict), ("data", .dict result)] complete

/-! ### Journeys -/

structure PreparedJourney where
  journey : EngineJourney
  prepared : PreparedOperation

def validateKvDiffQuery (query : JsonObject) : Except Error Unit :=
  if !sameSet (keys query) ["from_version", "to_version"] then
    .error (requestError "KV diff requires exactly from_version and to_version.")
  else match query.get "from_version" .null, query.get "to_version" .null with
    | .int source, .int target =>
        if source < 1 || target < 1 then .error (requestError "KV diff versions must be positive integers.")
        else if source == target then .error (requestError "KV diff versions must be different.")
        else .ok ()
    | _, _ => .error (requestError "KV diff versions must be positive integers.")

def prepareEngineJourney (cluster : OpenBaoCluster) (data : ExplorerData) : Admin PreparedJourney := do
  let document ← engineDocument
  Admin.raiseIf (data.capabilityDigest != document.digest)
    (conflictOf "The OpenBao capability document changed; reload the journey catalog.")
  let mounts ← Admin.ask .listSecretEngines
  let (journey, operation) ← Admin.ofExcept (resolveEngineJourney document mounts data.mountPath data.journeyId)
  let permitted ← Admin.ask (.hasPerm journey.requiredPermission)
  Admin.raiseIf (!permitted) (.permissionDenied "The first-class engine journey permission is required.")
  Admin.raiseIf ((keys data.query).any fun key => (journey.fixedQuery.map Prod.fst).contains key)
    (requestError "The request cannot override a fixed first-class journey query parameter.")
  let pathParameters ← Admin.ofExcept (normalizeJourneyPathParameters journey data.pathParameters)
  let path ← Admin.ofExcept
    (compileOperationPath operation.pathTemplate data.mountPath data.resourcePath pathParameters)
  Admin.ofExcept <|
    if journey.journeyId == "kv2.diff" then do
      validateFields operation [] data.body pathParameters
      validateKvDiffQuery data.query
    else validateFields operation data.query data.body pathParameters
  Admin.raiseIf (journey.confirmationPrefix != "" &&
      data.confirmation != journey.confirmationPrefix ++ " " ++ path ++ " ON " ++ cluster.slug)
    (requestError "The exact first-class journey confirmation is required.")
  return ⟨journey, document, operation, path⟩

def journeyAuthorized (journey : EngineJourney) (reason digest : String) : AuditEntry where
  action := s!"engine-journey-{journey.journeyId}-authorized"
  operationId := journey.journeyId
  riskLevel := journey.riskLevel
  method := journey.method
  pathTemplate := journey.pathTemplate
  reason
  capabilityDigest := digest
  outcome := "authorized"
  success := true
  statusCode := some 202
  message := "Authorized a reviewed first-class OpenBao engine journey."

/-- `{**query, **fixed}`. -/
def withFixed (query : JsonObject) (fixed : List (String × String)) : JsonObject :=
  query.filter (fun entry => !(fixed.map Prod.fst).contains entry.1) ++ fixed.map fun entry => (entry.1, .str entry.2)

/-- Run a journey: two reads for a comparison of versions, one operation for any other. -/
def runEngineJourney (data : ExplorerData) (prepared : PreparedJourney) : Admin JsonObject := do
  let call := mountedCall prepared.prepared data.mountPath
  if prepared.journey.journeyId == "kv2.diff" then do
    let source := data.query.get "from_version" .null
    let target := data.query.get "to_version" .null
    let before ← Admin.ask (.executeMountedOperation (call "GET" [("version", source)] []))
    let after ← Admin.ask (.executeMountedOperation (call "GET" [("version", target)] []))
    return [("from_version", source), ("to_version", target), ("before", .dict before), ("after", .dict after)]
  else
    Admin.ask (.executeMountedOperation (call prepared.prepared.operation.method
      (withFixed data.query prepared.journey.fixedQuery) data.body))

def runJourney (mode : ConnectionMode) (cluster : OpenBaoCluster) (request : PlaneRequest) (data : ExplorerData)
    (prepared : PreparedJourney) : Admin JsonObject := do
  logAdministration mode cluster request
    (journeyAuthorized prepared.journey data.reason prepared.prepared.document.digest) true
  runEngineJourney data prepared

def executeSecretEngineJourney (mode : ConnectionMode) (request : PlaneRequest) (data : ExplorerData) :
    Admin PlaneResponse := do
  let cluster ← Admin.ask (.cluster "view_secret_engines")
  match ← (prepareEngineJourney cluster data).attempt with
  | .error error =>
      answerSchemaError (answerUnprepared mode cluster request "secret-engine-journey-execute" "write" data.reason)
        error
  | .ok prepared =>
      let journey := prepared.journey
      let digest := prepared.prepared.document.digest
      match ← (runJourney mode cluster request data prepared).attempt with
      | .error error =>
          answerSchemaError (answerEngineFailure mode cluster request "secret-engine-journey-execute"
            journey.journeyId journey.riskLevel journey.method journey.pathTemplate digest data.reason) error
      | .ok result => do
          let action := s!"engine-journey-{journey.journeyId}"
          let complete ← auditCompleted mode cluster request action journey.riskLevel journey.method
            journey.pathTemplate digest data.reason
          return mutationResponse [("journey", .dict journey.asDict), ("data", .dict result)] complete

end NetboxOpenbao
