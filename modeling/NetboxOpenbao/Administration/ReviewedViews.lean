import NetboxOpenbao.Administration.Finalization
import NetboxOpenbao.Administration.Plane
import NetboxOpenbao.Administration.Schema
import NetboxOpenbao.Effect.Guarded

/-!
# Confirmed operations

The views that run a reviewed operation on an access-control resource or on a final one. A destructive operation is
previewed first: the preview reads what the operation is about, and gives out the digest of it. The execution has to be
given that digest, reads the same again and refuses if the digest has become another.
-/

namespace NetboxOpenbao

open Effect

/-- `_digest` and `_canonical_digest`. -/
def impactDigest [DocumentHashing] (impact : JsonObject) : String :=
  DocumentHashing.sha256 (Json.dict impact).canonical

/-- The fields of a request that its serializers have read, before `validate`. -/
structure ReviewedAttrs where
  resource : String
  operation : String
  identifier : Option String
  payload : Json
  reason : String
  capabilityDigest : String
  impactDigest : Option String
  confirmation : Option String
  preview : Bool

/-- The request does not match a reviewed contract, or it is malformed in another way. -/
def invalidRequest (message : String) : Error := .validation "" message

/-- `except (CapabilitySchemaError, KeyError, TypeError, ValueError)`. -/
def contracted {α : Type} (result : Except Error α) : Except Error α :=
  match result with
  | .ok a => .ok a
  | .error (.schema _) | .error (.keyError _) | .error (.raised _) =>
      .error (invalidRequest "The request does not match a reviewed OpenBao 2.6.2 contract.")
  | .error error => .error error

/-- What has to be confirmed, and the two fields that confirm it. -/
def checkConfirmation (destructive : Bool) (expected : String) (attrs : ReviewedAttrs) : Except Error Unit :=
  if destructive then
    if (attrs.impactDigest.getD "") == "" then
      .error (.validation "impact_digest" "Preview the current impact before continuing.")
    else if attrs.confirmation != some expected then .error (.validation "confirmation" s!"Type exactly: {expected}")
    else .ok ()
  else if (attrs.impactDigest.getD "") != "" || (attrs.confirmation.getD "") != "" then
    .error (invalidRequest "This operation does not accept destructive confirmation fields.")
  else .ok ()

variable [Packaging] [DocumentHashing]

/-- The status and the document of a server that is ready for reviewed operations, and still the one the request was
written for. -/
def reviewedDocument (notReady changed : String) (suppliedDigest : String) : Admin CapabilityDocument := do
  Admin.ask .backend
  let status ← Admin.ask .sealStatus
  requireBaseline status
  Admin.raiseIf (!status.initialized || status.isSealed) (conflictOf notReady)
  let document ← Admin.ask .discoverCapabilities
  Admin.raiseIf (!Packaging.supported document.productVersion)
    (conflictOf "OpenBao returned an unsupported capability version.")
  Admin.raiseIf (document.digest != suppliedDigest) (conflictOf changed)
  return document

/-! ### Final operations -/

namespace Finalization

/-- The validated data of `FinalOperationSerializer`. -/
structure FinalData where
  resource : FinalResource
  operationName : String
  operation : FinalOperation
  identifier : String
  payload : JsonObject
  reason : String
  capabilityDigest : String
  impactDigest : String
  preview : Bool
  expectedConfirmation : String

/-- `identifier or payload.get("lease_id", resource.key)`. -/
def finalTarget (resource : FinalResource) (identifier : String) (payload : JsonObject) : String :=
  if identifier != "" then identifier
  else match JsonObject.get payload "lease_id" (.str resource.key) with
    | .str s => s
    | _ => resource.key

def finalIdentifier (resource : FinalResource) (operationName : String) (operation : FinalOperation)
    (identifier : String) : Except Error String :=
  if Text.contains operation.pathTemplate "{identifier}" then
    if resource.key == "leases" && operationName == "list" && identifier == "" then .ok ""
    else normalizeFinalIdentifier identifier operation.identifierKind
  else if identifier != "" then .error (.schema "This operation does not accept an identifier.")
  else .ok ""

/-- `FinalOperationSerializer.validate`. -/
def validateFinal (slug : String) (attrs : ReviewedAttrs) : Except Error FinalData := do
  let (resource, operation, identifier, payload) ← contracted (do
    let (resource, operation) ← operationContract attrs.resource attrs.operation
    let identifier ← finalIdentifier resource attrs.operation operation (attrs.identifier.getD "")
    let payload ← validatePayload attrs.payload operation
    return (resource, operation, identifier, payload))
  let target := finalTarget resource identifier payload
  let expected := Text.format operation.confirmation [("target", target), ("cluster", slug)]
  -- a preview of a destructive operation is given neither field, and may carry both
  (if operation.confirmation != "" && attrs.preview then .ok ()
    else checkConfirmation (operation.confirmation != "") expected attrs)
  return {
    resource, operationName := attrs.operation, operation, identifier, payload, reason := attrs.reason
    capabilityDigest := attrs.capabilityDigest, impactDigest := attrs.impactDigest.getD "", preview := attrs.preview
    expectedConfirmation := expected }

/-- `_prepare_final`. -/
def prepareFinal (operation : FinalOperation) (suppliedDigest : String) : Admin CapabilityDocument := do
  let document ← reviewedDocument "The OpenBao cluster is not ready for this operation."
    "OpenBao capabilities changed; reload the operations workspace." suppliedDigest
  Admin.raiseIf (!(conformanceReport document).conformant || !advertised document operation)
    (conflictOf "OpenBao does not advertise the reviewed operation.")
  return document

/-- The LIST calls of `_lease_set`. -/
def leaseSetOf (under : String) : Admin (List String) :=
  (leaseSet under).embed (fun listing => .executeFinalOperation ⟨"LIST", listing.path, [], false⟩)
    fun _ answer => answer

/-- Equality with a text. -/
def sameText : Json → Json → Bool
  | .str s, .str t => s == t
  | _, _ => false

/-- `current`, in `_impact`. -/
def finalCurrent (resource : FinalResource) (operationName identifier : String) (payload : JsonObject) :
    Admin JsonObject :=
  if resource.key == "leases" then
    if operationName == "revoke" then do
      let leaseId := JsonObject.get payload "lease_id" .null
      match ← Admin.ask (.executeFinalOperation ⟨"POST", "/sys/leases/lookup", [("lease_id", leaseId)], false⟩) with
      | .dict response =>
          match JsonObject.get response "data" .null with
          | .dict current =>
              Admin.raiseIf (!sameText (JsonObject.get current "id" .null) leaseId)
                (conflictOf "OpenBao returned an invalid lease identity.")
              return current.filter fun entry => entry.1 != "ttl"
          | _ => Admin.raise (conflictOf "OpenBao returned an invalid lease identity.")
      | _ => Admin.raise (conflictOf "OpenBao returned an invalid lease identity.")
    else do
      let leases ← leaseSetOf identifier
      return [("leases", .list (leases.map .str))]
  else if resource.key == "ui-headers" then
    match resource.operations.lookup "read" with
    | none => Admin.raise (.keyError "read")
    | some read => do
        match ← (Admin.ask (.executeFinalOperation ⟨"GET", read.path identifier, [], false⟩)).attempt with
        | .ok (.dict response) =>
            return [("state", .str "present"), ("data", JsonObject.get response "data" (.dict response))]
        | .ok _ => Admin.raise (.raised "AttributeError")
        | .error (.openbao .notFound _) => return [("state", .str "absent")]
        | .error error => Admin.raise error
  else Admin.raise (conflictOf "The selected operation has no reviewed impact preview.")

/-- `_impact`. -/
def finalImpact (data : FinalData) : Admin JsonObject := do
  let current ← finalCurrent data.resource data.operationName data.identifier data.payload
  return [("resource", .str data.resource.key), ("operation", .str data.operationName),
    ("identifier", .str data.identifier), ("payload", .dict data.payload), ("current", .dict current)]

/-- `final:` and what the operation is. -/
def FinalData.operationId (data : FinalData) : String := s!"final:{data.resource.key}:{data.operationName}"

def FinalData.target (data : FinalData) : String := finalTarget data.resource data.identifier data.payload

/-- The call of an execution. -/
def FinalData.call (data : FinalData) : ReviewedCall where
  method := data.operation.method
  path := data.operation.path data.identifier
  payload := data.payload
  material := data.operation.responseKind == .material

namespace FinalData

def previewed (data : FinalData) (digest : String) : AuditEntry where
  action := "preview-final-resource-impact"
  operationId := data.operationId ++ ":preview"
  riskLevel := "read"
  method := "GET"
  pathTemplate := data.operation.pathTemplate
  capabilityDigest := digest
  targetIdentifiers := [data.target]
  success := true
  statusCode := some 200
  message := "Previewed final-operation impact without retaining response data."

/-- A row about the execution. -/
def entry (data : FinalData) (digest : String) : AuditEntry where
  action := "execute-final-resource"
  operationId := data.operationId
  riskLevel := data.operation.risk
  method := data.operation.method
  pathTemplate := data.operation.pathTemplate
  reason := data.reason
  capabilityDigest := digest
  targetIdentifiers := [data.target]
  success := true
  statusCode := some 200
  message := "Completed a reviewed final parity operation."

def authorized (data : FinalData) (digest : String) : AuditEntry :=
  { data.entry digest with
    action := "execute-final-resource-authorized", outcome := "authorized", statusCode := none
    message := "Authorized a reviewed final parity operation." }

def unknown (data : FinalData) : AuditEntry :=
  { data.entry data.capabilityDigest with
    outcome := "unknown", success := false, statusCode := some 503
    message := "The final operation outcome is unknown; no request material was retained." }

end FinalData

/-- The preview, and the answer to it. -/
def previewFinal (mode : ConnectionMode) (cluster : OpenBaoCluster) (request : PlaneRequest) (data : FinalData) :
    Admin PlaneResponse := do
  let document ← prepareFinal data.operation data.capabilityDigest
  let impact ← finalImpact data
  logAdministration mode cluster request (data.previewed document.digest) false
  return ⟨200, [("impact", .dict impact), ("impact_digest", .str (NetboxOpenbao.impactDigest impact)),
    ("confirmation", .str data.expectedConfirmation)], noStore⟩

/-- Prepare an execution, and see that the impact is still the one that was previewed. -/
def checkFinal (data : FinalData) : Admin String := do
  let document ← prepareFinal data.operation data.capabilityDigest
  (if data.operation.confirmation != "" then do
    let impact ← finalImpact data
    Admin.raiseIf (NetboxOpenbao.impactDigest impact != data.impactDigest)
      (conflictOf "The operation impact changed; preview it again.")
  else pure ())
  return document.digest

/-- The execution inside the `try`, and the digest of the document it was prepared against. -/
def runFinal (mode : ConnectionMode) (cluster : OpenBaoCluster) (request : PlaneRequest) (data : FinalData) :
    Admin (String × Json) := do
  let digest ← checkFinal data
  logAdministration mode cluster request (data.authorized digest) true
  let result ← Admin.ask (.executeFinalOperation data.call)
  return (digest, result)

/-- The `except` clauses of `final_resource_operate`. -/
def answerFinalFailure (mode : ConnectionMode) (cluster : OpenBaoCluster) (request : PlaneRequest) (data : FinalData)
    (error : Error) : Admin PlaneResponse :=
  if error.isUnknown then do
    let written ← logBestEffort mode cluster request data.unknown
    return unknownResponse (if written then "best-effort" else "failed")
  else if error.isPlaneFailure || error.isDatabase then
    backendFailure mode cluster request "execute-final-resource" data.reason data.operation.risk error
  else Admin.raise error

def finalResourceOperate (mode : ConnectionMode) (request : PlaneRequest) (attrs : ReviewedAttrs) :
    Admin PlaneResponse := do
  let viewed ← Admin.ask (.cluster "view_operations")
  let data ← Admin.ofExcept (validateFinal viewed.slug attrs)
  let cluster ← Admin.ask (.cluster (permissionAction data.operation.permission))
  if data.preview then
    match ← (previewFinal mode cluster request data).attempt with
    | .ok response => return response
    | .error error => answerFinalFailure mode cluster request data error
  else
    match ← (runFinal mode cluster request data).attempt with
    | .error error => answerFinalFailure mode cluster request data error
    | .ok (digest, result) => do
        let complete ← logBestEffort mode cluster request (data.entry digest)
        match result with
        | .dict entries => return mutationResponse entries complete
        | _ => Admin.raise (.raised "TypeError")

end Finalization

/-! ### Access-control resources -/

namespace Access

/-- The validated data of `AccessPreviewSerializer` and `AccessExecuteSerializer`. -/
structure AccessData where
  resource : AccessResourceSpec
  operationName : String
  operation : AccessOperationSpec
  identifier : String
  payload : JsonObject
  reason : String
  capabilityDigest : String
  impactDigest : String

def accessIdentifier (resource : AccessResourceSpec) (operation : AccessOperationSpec) (identifier : String) :
    Except Error String :=
  if AccessOperationSpec.identifierRequired operation then
    contracted (normalizeIdentifier (.str identifier) resource.identifierKind)
  else if identifier != "" then .error (.validation "identifier" "This operation does not accept an identifier.")
  else .ok ""

/-- What both serializers make of a request. -/
def accessData (attrs : ReviewedAttrs) (resource : AccessResourceSpec) (operation : AccessOperationSpec) :
    Except Error AccessData := do
  let identifier ← accessIdentifier resource operation (attrs.identifier.getD "")
  let payload ← contracted (validateAccessPayload attrs.payload operation.fields)
  return {
    resource, operationName := attrs.operation, operation, identifier, payload, reason := attrs.reason
    capabilityDigest := attrs.capabilityDigest, impactDigest := attrs.impactDigest.getD "" }

/-- `operation.confirmation.format(…)`. -/
def AccessData.expectedConfirmation (data : AccessData) (slug : String) : String :=
  Text.format data.operation.confirmation
    [("resource", data.resource.key), ("identifier", data.identifier), ("cluster", slug)]

/-- `AccessPreviewSerializer.validate`; `operation` is one of its choices. -/
def validateAccessPreview (attrs : ReviewedAttrs) : Except Error AccessData := do
  let (resource, operation) ← contracted (operationContract attrs.resource attrs.operation)
  (if operation.confirmation == "" then
    .error (invalidRequest "The selected operation does not have an impact preview.")
  else .ok ())
  accessData attrs resource operation

/-- `AccessExecuteSerializer.validate`. -/
def validateAccessExecute (slug : String) (attrs : ReviewedAttrs) : Except Error AccessData := do
  let (resource, operation) ← contracted (operationContract attrs.resource attrs.operation)
  let data ← accessData attrs resource operation
  checkConfirmation (operation.confirmation != "") (data.expectedConfirmation slug) attrs
  return data

/-- `_prepare_access_operation`. -/
def prepareAccess (operation : AccessOperationSpec) (suppliedDigest : String) : Admin CapabilityDocument := do
  let document ← reviewedDocument "The OpenBao cluster is not ready for access administration."
    "OpenBao capabilities changed; reload the access workspace." suppliedDigest
  Admin.raiseIf (!runtimeAdvertises document operation)
    (conflictOf "OpenBao does not advertise the reviewed operation.")
  return document

/-- `_stable_resource_state`, of what a read returns. -/
def readState (method path : String) : Admin Json := do
  match ← Admin.ask (.executeAccessOperation ⟨method, path, [], false⟩) with
  | .dict response =>
      match JsonObject.get response "data" .null with
      | .dict state => return .dict state
      | _ => Admin.raise (.openbao .unavailable "OpenBao returned an invalid resource state.")
  | _ => Admin.raise (.raised "AttributeError")

/-- The texts of a payload's list. -/
def texts : Json → List String
  | .list items => items.filterMap fun item => match item with
      | .str s => some s
      | _ => none
  | _ => []

def textOf : Json → String
  | .str s => s
  | _ => ""

/-- The entities of a merge, the one that is kept first. -/
def mergedIds (payload : JsonObject) : List String :=
  textOf (JsonObject.get payload "to_entity_id" .null) :: texts (JsonObject.get payload "from_entity_ids" .null)

/-- The states of a list of entities, one after another. -/
def readEntities : List String → Admin (List Json)
  | [] => pure []
  | id :: rest => do
      let state ← readState "GET" ("/identity/entity/id/" ++ Text.quote [] id)
      let others ← readEntities rest
      return state :: others

/-- `_impact_state`. -/
def accessImpact (data : AccessData) : Admin JsonObject :=
  if data.operationName == "merge" then do
    let entities ← readEntities (mergedIds data.payload)
    return [("resource", .str data.resource.key), ("operation", .str data.operationName),
      ("payload", .dict data.payload), ("entities", .list entities)]
  else match data.resource.operations.lookup "read" with
    | none => Admin.raise (conflictOf "The selected operation has no reviewed impact preview.")
    | some read => do
        let current ← readState read.method (AccessOperationSpec.path read data.identifier)
        return [("resource", .str data.resource.key), ("operation", .str data.operationName),
          ("identifier", .str data.identifier), ("current", current)]

/-- `_audit_targets`. -/
def auditTargets (data : AccessData) : List String :=
  if data.operationName == "merge" then mergedIds data.payload
  else
    let id := textOf (JsonObject.get data.payload "id" .null)
    let first := if data.identifier != "" then data.identifier else if id != "" then id
      else textOf (JsonObject.get data.payload "name" (.str ""))
    let canonicalId := textOf (JsonObject.get data.payload "canonical_id" .null)
    ([first] ++ (if canonicalId != "" && canonicalId != first then [canonicalId] else [])).filter (· != "")

/-- `_completion_targets`. -/
def completionTargets (targets : List String) (result : JsonObject) : List String :=
  match JsonObject.get result "data" (.dict []) with
  | .dict entries =>
      match JsonObject.get entries "id" .null with
      | .str id => if targets.contains id then targets else targets ++ [id]
      | _ => targets
  | _ => targets

def AccessData.operationId (data : AccessData) : String := s!"access:{data.resource.key}:{data.operationName}"

/-- The call of an execution. -/
def AccessData.call (data : AccessData) : ReviewedCall where
  method := data.operation.method
  path := AccessOperationSpec.path data.operation data.identifier
  payload := data.payload
  material := data.operation.responseKind == .material

namespace AccessData

def previewed (data : AccessData) (digest : String) : AuditEntry where
  action := "preview-access-impact"
  operationId := data.operationId ++ ":preview"
  riskLevel := "read"
  method := "GET"
  pathTemplate := data.operation.pathTemplate
  capabilityDigest := digest
  success := true
  statusCode := some 200
  message := "Previewed current access-control impact without retaining response data."

def entry (data : AccessData) (digest : String) (targets : List String) : AuditEntry where
  action := "execute-access-resource"
  operationId := data.operationId
  riskLevel := data.operation.risk
  method := data.operation.method
  pathTemplate := data.operation.pathTemplate
  reason := data.reason
  capabilityDigest := digest
  targetIdentifiers := targets
  success := true
  statusCode := some 200
  message := "Completed a reviewed access-control operation."

def authorized (data : AccessData) (digest : String) : AuditEntry :=
  { data.entry digest (auditTargets data) with
    action := "execute-access-resource-authorized", outcome := "authorized", statusCode := none
    message := "Authorized a reviewed access-control operation." }

end AccessData

/-- `_can_access`: the cluster is there under the permission. -/
def canAccess (permission : String) : Admin Bool := do
  match ← (Admin.ask (.cluster (permissionAction permission))).attempt with
  | .ok _ => return true
  | .error .doesNotExist => return false
  | .error error => Admin.raise error

def previewAccess (mode : ConnectionMode) (cluster : OpenBaoCluster) (request : PlaneRequest) (data : AccessData) :
    Admin PlaneResponse := do
  let document ← prepareAccess data.operation data.capabilityDigest
  let impact ← accessImpact data
  logAdministration mode cluster request (data.previewed document.digest) false
  return ⟨200, [("impact", .dict impact), ("impact_digest", .str (NetboxOpenbao.impactDigest impact)),
    ("confirmation", .str (data.expectedConfirmation cluster.slug))], noStore⟩

def accessResourcePreview (mode : ConnectionMode) (request : PlaneRequest) (attrs : ReviewedAttrs) :
    Admin PlaneResponse := do
  let viewed ← Admin.ask (.cluster "view_access")
  let data ← Admin.ofExcept (validateAccessPreview attrs)
  let can ← canAccess data.operation.permission
  let cluster ← (if can then pure viewed else Admin.ask (.cluster (permissionAction data.operation.permission)))
  match ← (previewAccess mode cluster request data).attempt with
  | .ok response => return response
  | .error error =>
      if error.isPlaneFailure || error.isDatabase then
        backendFailure mode cluster request "preview-access-impact" "" "read" error
      else Admin.raise error

/-- Prepare an execution, and see that the impact is still the one that was previewed. -/
def checkAccess (data : AccessData) : Admin String := do
  let document ← prepareAccess data.operation data.capabilityDigest
  (if data.operation.confirmation != "" then do
    let impact ← accessImpact data
    Admin.raiseIf (NetboxOpenbao.impactDigest impact != data.impactDigest)
      (conflictOf "The access-control impact changed; preview it again.")
  else pure ())
  return document.digest

def runAccess (mode : ConnectionMode) (cluster : OpenBaoCluster) (request : PlaneRequest) (data : AccessData) :
    Admin (String × JsonObject) := do
  let digest ← checkAccess data
  logAdministration mode cluster request (data.authorized digest) true
  match ← Admin.ask (.executeAccessOperation data.call) with
  | .dict result => return (digest, result)
  | _ => Admin.raise (.raised "AttributeError")

/-- The `except` clauses of `access_resource_execute`. -/
def answerAccessFailure (mode : ConnectionMode) (cluster : OpenBaoCluster) (request : PlaneRequest) (data : AccessData)
    (error : Error) : Admin PlaneResponse :=
  if error.isUnknown then return unknownResponse "preflight-only"
  else
    backendFailure mode cluster request "execute-access-resource" data.reason data.operation.risk <|
      if error.isPlaneFailure || error.isDatabase then error
      else .openbao .unavailable "OpenBao access administration failed."

def accessResourceExecute (mode : ConnectionMode) (request : PlaneRequest) (attrs : ReviewedAttrs) :
    Admin PlaneResponse := do
  let viewed ← Admin.ask (.cluster "view_access")
  let data ← Admin.ofExcept (validateAccessExecute viewed.slug attrs)
  let cluster ← Admin.ask (.cluster (permissionAction data.operation.permission))
  match ← (runAccess mode cluster request data).attempt with
  | .error error => answerAccessFailure mode cluster request data error
  | .ok (digest, result) => do
      let complete ← logBestEffort mode cluster request
        (data.entry digest (completionTargets (auditTargets data) result))
      return mutationResponse result complete

end Access

end NetboxOpenbao
