import NetboxOpenbao.Administration.Plane
import NetboxOpenbao.Administration.Schema
import NetboxOpenbao.Effect.Guarded

/-!
# Authentication actions

The views that administer authentication and MFA. Each of them looks its cluster up under a permission, may resolve the
mount it is about, and then hands one call of the backend to `_auth_mutation`, which prepares against the live server,
records that the call is authorized, makes it and records how it went. The validated data of a request are the arguments
of its action.
-/

namespace NetboxOpenbao

open Effect Authentication

/-- The cluster a request is about, with its primary key. -/
structure ClusterRow where
  pk : Nat
  cluster : OpenBaoCluster
deriving DecidableEq, Repr

structure AuthMount where
  path : String
  methodType : String
deriving DecidableEq, Repr

structure OIDCStartResult where
  authUrl : String
  state : String
  pollInterval : Nat
deriving DecidableEq, Repr

/-- What is signed under the salt of the OIDC envelopes. -/
structure OidcEnvelope where
  cluster : Nat
  user : Nat
  mount : String
  state : String
  nonce : String
deriving DecidableEq, Repr

/-- Who asks, and on what connection. -/
structure AuthRequest where
  plane : PlaneRequest
  userPk : Nat
  mode : ConnectionMode
deriving DecidableEq, Repr

/-- `plane` stands for the requests of every administrative view. An answer to `loadsEnvelope` without an envelope is
`BadSignature`. -/
inductive AuthAsk where
  | plane (request : AdminAsk)
  | cluster (permission : String)
  | listAuthMethods
  | readDirectOidcRole (mountPath role : String)
  | tokenUrlsafe
  | dumpsEnvelope (envelope : OidcEnvelope)
  | loadsEnvelope (token : String)
  | perform (operation : MutatingOperation)
  | startOidc (mountPath role redirectUri clientNonce : String)
  | lookupApproleSecretId (mountPath roleName accessor : String)
  | lookupToken (payload : JsonObject)

abbrev AuthAsk.Answer : AuthAsk → Type
  | .plane request => request.Answer
  | .cluster _ => ClusterRow
  | .listAuthMethods => List AuthMount
  | .tokenUrlsafe => String
  | .dumpsEnvelope _ => String
  | .loadsEnvelope _ => Option OidcEnvelope
  | .startOidc _ _ _ _ => OIDCStartResult
  | .readDirectOidcRole _ _ => Unit
  | .perform _ | .lookupApproleSecretId _ _ _ | .lookupToken _ => JsonObject

abbrev Auth (α : Type) : Type := Dialogue Error AuthAsk AuthAsk.Answer α

namespace Auth

def ask (r : AuthAsk) : Auth r.Answer := Dialogue.request r

def raise {α : Type} (error : Error) : Auth α := .done (.error error)

def ofExcept {α : Type} (result : Except Error α) : Auth α := .done result

def raiseIf (condition : Bool) (error : Error) : Auth Unit := if condition then raise error else pure ()

/-- A part that every administrative view has. -/
def plane {α : Type} (d : Admin α) : Auth α := d.embed AuthAsk.plane fun _ answer => answer

end Auth

/-! ### Texts -/

def canonicalUuid (value fieldName : String) : Except Error String :=
  if uuidRe value then .ok (Text.lower value) else .error (.validation fieldName "Enter a canonical UUID.")

def unrepresentable : Error :=
  .validation "" "The OpenBao namespace cannot be represented in an OIDC callback URL."

def namespaceCallbackPath (namespaceName : String) : Except Error String :=
  if namespaceName == "" then .ok ""
  else
    let normalized := Text.stripSlashes namespaceName
    if normalized == "" then .error unrepresentable
    else
      let segments := Text.segments normalized.toList
      if segments.any fun segment => segment == [] || segment == ['.'] || segment == ['.', '.'] then
        .error unrepresentable
      else
        let quoted := segments.map fun segment => Text.quote ['-', '.', '_', '~'] (String.ofList segment)
        .ok ("/".intercalate quoted ++ "/")

/-- `_hash_challenge`. -/
def hashChallenge [DocumentHashing] (value : String) : String := DocumentHashing.sha256 value

/-- `urlsplit`: the scheme and the host name of a URL. -/
class UrlSplit where
  scheme : String → String
  hostname : String → Option String

/-- `_oidc_callback`. -/
def oidcCallback [UrlSplit] (cluster : OpenBaoCluster) (mountPath : String) : Except Error String := do
  let loopback := (UrlSplit.hostname cluster.apiUrl).any ["127.0.0.1", "::1", "localhost"].contains
  if UrlSplit.scheme cluster.apiUrl != "https" && !loopback then
    .error (.validation "" "OIDC direct callbacks require a secure OpenBao API URL.")
  else
    let path ← namespaceCallbackPath cluster.namespaceName
    return Text.rstripSlashes cluster.apiUrl ++ "/v1/" ++ path ++ "auth/" ++ mountPath ++ "/oidc/callback"

/-! ### Preparing -/

variable [Packaging]

/-- `_prepare_auth_operation`, which returns the digest of the live capability document. -/
def prepareAuthOperation (operationId : String) (requiredOperationIds : List String) : Auth String := do
  Auth.ask (.plane .backend)
  let status ← Auth.ask (.plane .sealStatus)
  Auth.raiseIf (!Packaging.supported status.version) Error.conflict
  Auth.raiseIf (!status.initialized || status.isSealed)
    (conflictOf "The OpenBao cluster is not ready for authentication administration.")
  let document ← Auth.ask (.plane .discoverCapabilities)
  Auth.raiseIf (!Packaging.supported document.productVersion)
    (conflictOf "OpenBao returned an unsupported capability version.")
  let discovered := document.operations.map DiscoveredOperation.operationId
  Auth.raiseIf (!(operationId :: requiredOperationIds).all discovered.contains)
    (conflictOf "OpenBao does not advertise the reviewed operation.")
  return document.digest

def Error.isSchema : Error → Bool
  | .schema _ => true
  | _ => false

/-- `auth_mount`. -/
def authMount (mounts : List AuthMount) (path : String) : Except Error AuthMount := do
  let normalized ← normalizeMountPath path
  match mounts.find? fun mount => mount.path == normalized with
  | some mount => .ok mount
  | none => .error (.schema "OpenBao auth mount does not exist.")

/-- `_mounted_method`. -/
def mountedMethod (mountPath : String) : Auth AuthMount := do
  match ← (do
      let mounts ← Auth.ask .listAuthMethods
      Auth.ofExcept (authMount mounts mountPath) : Auth AuthMount).attempt with
  | .ok mount => return mount
  | .error error =>
      if error.isSchema then Auth.raise (conflictOf "The selected auth mount is unavailable.") else Auth.raise error

def resolvedEntry (digest : String) : AuditEntry where
  action := "resolve-auth-mount"
  operationId := "auth-list-enabled-methods"
  riskLevel := "read"
  method := "GET"
  pathTemplate := "/sys/auth"
  capabilityDigest := digest
  success := true
  statusCode := some 200
  message := "Resolved an auth mount through the reviewed mount registry."

/-- `_resolve_auth_mount`. -/
def resolveAuthMount (request : AuthRequest) (cluster : OpenBaoCluster) (mountPath : String) : Auth AuthMount := do
  match ← (do
      let digest ← prepareAuthOperation "auth-list-enabled-methods" []
      let mount ← mountedMethod mountPath
      Auth.plane (logAdministration request.mode cluster request.plane (resolvedEntry digest) false)
      return mount : Auth AuthMount).attempt with
  | .ok mount => return mount
  | .error error =>
      if error.isPlaneFailure || error.isDatabase then
        Auth.plane (backendFailure request.mode cluster request.plane "resolve-auth-mount" "" "read" error)
      else Auth.raise error

/-! ### `_auth_mutation` -/

/-- The arguments of `_auth_mutation`. -/
structure AuthMutation where
  actionName : String
  operationId : String
  pathTemplate : String
  riskLevel : String
  statusCode : Nat := 200
  method : String := "POST"
  requiredOperationIds : List String := []
  producer : Auth JsonObject

namespace AuthMutation

def authorized (mutation : AuthMutation) (reason digest : String) : AuditEntry where
  action := mutation.actionName ++ "-authorized"
  operationId := mutation.operationId
  riskLevel := mutation.riskLevel
  method := mutation.method
  pathTemplate := mutation.pathTemplate
  reason
  capabilityDigest := digest
  outcome := "authorized"
  success := true
  message := "Authorized a reviewed authentication administration operation."

def unknown (mutation : AuthMutation) (reason digest : String) : AuditEntry where
  action := mutation.actionName ++ "-outcome-unknown"
  operationId := mutation.operationId
  riskLevel := mutation.riskLevel
  method := mutation.method
  pathTemplate := mutation.pathTemplate
  reason
  capabilityDigest := digest
  outcome := "unknown"
  success := false
  statusCode := some 503
  message := "OpenBao may have accepted the request; state verification is required before retry."

def completed (mutation : AuthMutation) (reason digest : String) : AuditEntry where
  action := mutation.actionName
  operationId := mutation.operationId
  riskLevel := mutation.riskLevel
  method := mutation.method
  pathTemplate := mutation.pathTemplate
  reason
  capabilityDigest := digest
  success := true
  statusCode := some mutation.statusCode
  message := "Completed a reviewed authentication administration operation."

end AuthMutation

/-- The `except` clauses; `digest` is bound once the operation is prepared. -/
def answerAuthFailure (request : AuthRequest) (cluster : OpenBaoCluster) (mutation : AuthMutation) (reason : String)
    (digest : Option String) (error : Error) : Auth PlaneResponse :=
  if error.isUnknown then
    match digest with
    | none => Auth.raise (.raised "UnboundLocalError")
    | some digest => do
        let _ ← Auth.plane
          (logBestEffort request.mode cluster request.plane (mutation.unknown reason digest))
        return unknownResponse "preflight-only"
  else
    Auth.plane <| backendFailure request.mode cluster request.plane mutation.actionName reason mutation.riskLevel <|
      if error.isPlaneFailure || error.isDatabase then error
      else .openbao .unavailable "OpenBao authentication administration failed."

/-- The authorization and the call, inside the `try`. -/
def runAuthMutation (request : AuthRequest) (cluster : OpenBaoCluster) (mutation : AuthMutation) (reason : String)
    (digest : String) : Auth JsonObject := do
  Auth.plane (logAdministration request.mode cluster request.plane (mutation.authorized reason digest) true)
  mutation.producer

def authMutation (request : AuthRequest) (cluster : OpenBaoCluster) (mutation : AuthMutation) (reason : String) :
    Auth PlaneResponse := do
  match ← (prepareAuthOperation mutation.operationId mutation.requiredOperationIds).attempt with
  | .error error => answerAuthFailure request cluster mutation reason none error
  | .ok digest =>
      match ← (runAuthMutation request cluster mutation reason digest).attempt with
      | .error error => answerAuthFailure request cluster mutation reason (some digest) error
      | .ok payload => do
          let complete ← Auth.plane
            (logBestEffort request.mode cluster request.plane (mutation.completed reason digest))
          return { mutationResponse payload complete with status := mutation.statusCode }

/-! ### The views -/

/-- `AUTH_CONFIG_OPERATION_IDS`: to write the configuration of a method. -/
def authConfigOperationId : String → Option String
  | "cert" => some "cert-configure"
  | "jwt" | "oidc" => some "jwt-configure"
  | "kubernetes" => some "kubernetes-configure-auth"
  | "ldap" => some "ldap-configure-auth"
  | "radius" => some "radius-configure"
  | _ => none

/-- An entry of `AUTH_RESOURCE_REGISTRY`, with its `AUTH_RESOURCE_OPERATION_IDS` to write and to delete. -/
structure AuthResource where
  key : String
  methodTypes : List String
  spec : AuthResourceSpec
  risk : String := "write"
  writeId : String
  deleteId : String

def authResourceRegistry : List AuthResource :=
  [ { key := "token-roles", methodTypes := ["token"], spec := ⟨"roles", "roles/{name}"⟩
      writeId := "token-write-role", deleteId := "token-delete-role" },
    { key := "userpass-users", methodTypes := ["userpass"], spec := ⟨"users", "users/{name}"⟩, risk := "sensitive"
      writeId := "userpass-write-user", deleteId := "userpass-delete-user" },
    { key := "approle-roles", methodTypes := ["approle"], spec := ⟨"role", "role/{name}"⟩
      writeId := "app-role-write-role", deleteId := "app-role-delete-role" },
    { key := "kubernetes-roles", methodTypes := ["kubernetes"], spec := ⟨"role", "role/{name}"⟩
      writeId := "kubernetes-write-auth-role", deleteId := "kubernetes-delete-auth-role" },
    { key := "jwt-roles", methodTypes := ["jwt", "oidc"], spec := ⟨"role", "role/{name}"⟩, risk := "sensitive"
      writeId := "jwt-write-role", deleteId := "jwt-delete-role" },
    { key := "ldap-groups", methodTypes := ["ldap"], spec := ⟨"groups", "groups/{name}"⟩
      writeId := "ldap-write-group", deleteId := "ldap-delete-group" },
    { key := "ldap-users", methodTypes := ["ldap"], spec := ⟨"users", "users/{name}"⟩
      writeId := "ldap-write-user", deleteId := "ldap-delete-user" },
    { key := "radius-users", methodTypes := ["radius"], spec := ⟨"users", "users/{name}"⟩, risk := "sensitive"
      writeId := "radius-write-user", deleteId := "radius-delete-user" },
    { key := "certificates", methodTypes := ["cert"], spec := ⟨"certs", "certs/{name}"⟩, risk := "sensitive"
      writeId := "cert-write-certificate", deleteId := "cert-delete-certificate" },
    { key := "certificate-crls", methodTypes := ["cert"], spec := ⟨"crls", "crls/{name}"⟩, risk := "sensitive"
      writeId := "cert-write-crl", deleteId := "cert-delete-crl" } ]

/-- `resource_spec`, for an operation that every resource of the registry has. -/
def resourceSpec (key methodType : String) : Except Error AuthResource :=
  match authResourceRegistry.find? fun resource => resource.key == key with
  | none => .error (.schema "OpenBao auth resource is unsupported.")
  | some resource =>
      if resource.methodTypes.contains methodType then .ok resource
      else .error (.schema "OpenBao auth resource operation is unsupported.")

/-- `LOGIN_OPERATION_IDS`, with the path template of the method. -/
def loginOperation : String → Option (String × String)
  | "token" => some ("token-look-up-self-get", "/auth/token/lookup-self")
  | "userpass" => some ("userpass-login", "/auth/{mount_path}/login/{username}")
  | "ldap" => some ("ldap-login", "/auth/{mount_path}/login/{username}")
  | "radius" => some ("radius-login-with-username", "/auth/{mount_path}/login/{username}")
  | "jwt" => some ("jwt-login", "/auth/{mount_path}/login")
  | "approle" => some ("app-role-login", "/auth/{mount_path}/login")
  | "kubernetes" => some ("kubernetes-login", "/auth/{mount_path}/login")
  | _ => none

/-- The operations of `auth_token`. -/
inductive AuthTokenOperation where
  | lookupSelf | renewSelf | revokeSelf | lookupAccessor | renewAccessor | revokeAccessor
deriving DecidableEq, Repr

namespace AuthTokenOperation

def text : AuthTokenOperation → String
  | .lookupSelf => "lookup-self"
  | .renewSelf => "renew-self"
  | .revokeSelf => "revoke-self"
  | .lookupAccessor => "lookup-accessor"
  | .renewAccessor => "renew-accessor"
  | .revokeAccessor => "revoke-accessor"

/-- `TOKEN_OPERATION_IDS`. -/
def operationId : AuthTokenOperation → String
  | .lookupSelf => "token-look-up-self-get"
  | .renewSelf => "token-renew-self"
  | .revokeSelf => "token-revoke-self"
  | .lookupAccessor => "token-look-up-by-accessor"
  | .renewAccessor => "token-renew-accessor"
  | .revokeAccessor => "token-revoke-accessor"

def destructive : AuthTokenOperation → Bool
  | .revokeSelf | .revokeAccessor => true
  | _ => false

/-- The call of the backend. A lookup by accessor is a read, like one of the token itself. -/
def ask (payload : JsonObject) : AuthTokenOperation → Auth JsonObject
  | .lookupSelf | .lookupAccessor => Auth.ask (.lookupToken payload)
  | .renewSelf => Auth.ask (.perform (.tokenOperation .renewSelf payload))
  | .revokeSelf => Auth.ask (.perform (.tokenOperation .revokeSelf payload))
  | .renewAccessor => Auth.ask (.perform (.tokenOperation .renewAccessor payload))
  | .revokeAccessor => Auth.ask (.perform (.tokenOperation .revokeAccessor payload))

end AuthTokenOperation

/-- The call of the backend, and `or default` after it. -/
def performOr (operation : MutatingOperation) (default : JsonObject) : Auth JsonObject := do
  let payload ← Auth.ask (.perform operation)
  return if payload.isEmpty then default else payload

/-- The `confirmation` of a serializer. -/
def confirm (expected given : String) : Auth Unit :=
  Auth.raiseIf (given != expected) (.validation "confirmation" s!"Type exactly: {expected}")

/-- The validated data of each action. The names are those of the views; a view that answers several methods has one
action for each of them that changes something. -/
inductive AuthAction where
  | enableAuthMethod (mountPath methodType : String) (payload : JsonObject)
  | tuneAuthMethod (mountPath : String) (payload : JsonObject)
  | disableAuthMethod (mountPath confirmation : String)
  | authRemount (source destination : String)
  | authConfig (mountPath : String) (payload : JsonObject)
  | writeAuthResource (mountPath resourceKey name : String) (payload : JsonObject)
  | deleteAuthResource (mountPath resourceKey name confirmation : String)
  | approleSecretId (mountPath roleName : String) (payload : JsonObject)
  | approleRoleId (mountPath roleName roleId : String)
  | lookupSecretIdAccessor (mountPath roleName accessor : String)
  | destroySecretIdAccessor (mountPath roleName accessor confirmation : String)
  | authLogin (mountPath methodType : String) (payload : JsonObject)
  | authOidcStart (mountPath role : String)
  | authOidcPoll (mountPath state clientNonce envelope : String)
  | authMfaValidate (requestId : String) (payload : JsonObject)
  | writeMfaMethod (methodType methodId : String) (payload : JsonObject)
  | deleteMfaMethod (methodType methodId confirmation : String)
  | authMfaMethodCreate (methodType : String) (payload : JsonObject)
  | authMfaTotpSelf (methodId token : String)
  | authMfaTotpSelfReset (methodId token confirmation : String)
  | generateTotp (methodId entityId : String)
  | destroyTotp (methodId entityId confirmation : String)
  | writeMfaEnforcement (name : String) (payload : JsonObject)
  | deleteMfaEnforcement (name confirmation : String)
  | authToken (operation : AuthTokenOperation) (payload : JsonObject) (confirmation : String)

namespace AuthAction

/-- The permission the cluster is looked up under. -/
def permission : AuthAction → String
  | .enableAuthMethod _ _ _ | .tuneAuthMethod _ _ | .authRemount _ _ | .authConfig _ _ => "manage_auth_methods"
  | .disableAuthMethod _ _ => "disable_auth_methods"
  | .writeAuthResource _ _ _ _ | .approleRoleId _ _ _ => "manage_auth_resources"
  | .deleteAuthResource _ _ _ _ | .destroySecretIdAccessor _ _ _ _ => "delete_auth_resources"
  | .approleSecretId _ _ _ => "issue_auth_material"
  | .lookupSecretIdAccessor _ _ _ => "view_authentication"
  | .authLogin _ _ _ | .authOidcStart _ _ | .authOidcPoll _ _ _ _ | .authMfaValidate _ _ | .authMfaTotpSelf _ _
  | .authMfaTotpSelfReset _ _ _ => "authenticate"
  | .writeMfaMethod _ _ _ | .authMfaMethodCreate _ _ | .generateTotp _ _ | .writeMfaEnforcement _ _ => "manage_mfa"
  | .deleteMfaMethod _ _ _ | .destroyTotp _ _ _ | .deleteMfaEnforcement _ _ => "delete_mfa"
  | .authToken operation _ _ => if operation.destructive then "revoke_tokens" else "manage_tokens"

/-- The path arguments that are checked before the cluster is looked up. -/
def canonical : AuthAction → Except Error AuthAction
  | .writeMfaMethod methodType methodId payload => do
      return .writeMfaMethod methodType (← canonicalUuid methodId "method_id") payload
  | .deleteMfaMethod methodType methodId confirmation => do
      return .deleteMfaMethod methodType (← canonicalUuid methodId "method_id") confirmation
  | .authMfaTotpSelf methodId token => do
      return .authMfaTotpSelf (← canonicalUuid methodId "method_id") token
  | .authMfaTotpSelfReset methodId token confirmation => do
      return .authMfaTotpSelfReset (← canonicalUuid methodId "method_id") token confirmation
  | .generateTotp methodId entityId => do
      return .generateTotp (← canonicalUuid methodId "method_id") (← canonicalUuid entityId "entity_id")
  | .destroyTotp methodId entityId confirmation => do
      return .destroyTotp (← canonicalUuid methodId "method_id") (← canonicalUuid entityId "entity_id") confirmation
  | action => .ok action

end AuthAction

/-- The mount has one of these types. -/
def requireMount (request : AuthRequest) (cluster : OpenBaoCluster) (mountPath : String) (methodTypes : List String)
    (refusal : String) : Auth Unit := do
  let mount ← resolveAuthMount request cluster mountPath
  Auth.raiseIf (!methodTypes.contains mount.methodType) (.validation "" refusal)

def notApprole : String := "The selected mount is not an AppRole mount."

def noDirectOidc : String := "The selected mount does not support direct OIDC."

def invalidEnvelope : Error := .validation "" "The OIDC polling envelope is invalid or expired."

/-- `except (CapabilitySchemaError, KeyError, OpenBaoError)` around the resolution of a mount and of what it decides. -/
def resolvedOr {α : Type} (d : Auth α) (refusal : String) : Auth α := do
  match ← d.attempt with
  | .ok a => return a
  | .error error =>
      let refused := match error with
        | .schema _ | .keyError _ | .openbao _ _ => true
        | _ => false
      Auth.raise (if refused then .validation "" refusal else error)

section

variable (request : AuthRequest) (cluster : OpenBaoCluster)

def resolveAuthResource (mountPath resourceKey : String) : Auth AuthResource :=
  resolvedOr (do
    let mount ← resolveAuthMount request cluster mountPath
    Auth.ofExcept (resourceSpec resourceKey mount.methodType))
    "This auth resource operation is unsupported."

/-- The path template of a resource with a name. -/
def AuthResource.template (resource : AuthResource) : String := "/auth/{mount_path}/" ++ resource.spec.itemSuffix

def mfaMethodOperationId (action methodType : String) : String :=
  "mfa-" ++ action ++ "-" ++ Text.replace methodType "pingid" "ping-id" ++ "-method"

variable [DocumentHashing] [UrlSplit]

/-- `start` in `auth_oidc_start`. -/
def oidcStartProducer (row : ClusterRow) (mountPath role nonce : String) : Auth JsonObject := do
  Auth.ask (.readDirectOidcRole mountPath role)
  let callback ← Auth.ofExcept (oidcCallback row.cluster mountPath)
  let result ← Auth.ask (.startOidc mountPath role callback nonce)
  let envelope ← Auth.ask (.dumpsEnvelope
    { cluster := row.pk, user := request.userPk, mount := mountPath, state := hashChallenge result.state
      nonce := hashChallenge nonce })
  return [("auth_url", .str result.authUrl), ("state", .str result.state), ("client_nonce", .str nonce),
    ("poll_interval", .int result.pollInterval), ("envelope", .str envelope)]

/-- What each view does between the lookup of its cluster and `_auth_mutation`, and what it hands to that. -/
def AuthAction.prepare (row : ClusterRow) : AuthAction → Auth AuthMutation
  | .enableAuthMethod mountPath methodType payload =>
      return {
        actionName := "enable-auth-method", operationId := "auth-enable-method", pathTemplate := "/sys/auth/{path}"
        riskLevel := "write", statusCode := 201
        producer := performOr (.enableAuthMethod mountPath payload)
          [("mount_path", .str mountPath), ("method_type", .str methodType)] }
  | .tuneAuthMethod mountPath payload =>
      return {
        actionName := "tune-auth-method", operationId := "auth-tune-configuration-parameters"
        pathTemplate := "/sys/auth/{path}/tune", riskLevel := "write"
        producer := performOr (.tuneAuthMethod mountPath payload) [("mount_path", .str mountPath)] }
  | .disableAuthMethod mountPath confirmation => do
      confirm ("DISABLE AUTH " ++ mountPath ++ " ON " ++ row.cluster.slug) confirmation
      return {
        actionName := "disable-auth-method", operationId := "auth-disable-method", pathTemplate := "/sys/auth/{path}"
        riskLevel := "destructive", method := "DELETE"
        producer := performOr (.disableAuthMethod mountPath) [("disabled", .str mountPath)] }
  | .authRemount source destination =>
      return {
        actionName := "remount-auth-method", operationId := "remount", pathTemplate := "/sys/remount"
        riskLevel := "write", statusCode := 202
        producer := performOr (.remountAuthMethod source destination) [] }
  | .authConfig mountPath payload => do
      let (methodType, operationId) ← resolvedOr (do
        let mount ← resolveAuthMount request row.cluster mountPath
        match authConfigOperationId mount.methodType with
        | some operationId => return (mount.methodType, operationId)
        | none => Auth.raise (.keyError mount.methodType))
        "This auth mount has no reviewed configuration contract."
      return {
        actionName := "write-auth-config", operationId, pathTemplate := "/auth/{mount_path}/config"
        riskLevel := "sensitive"
        producer := performOr (.writeAuthConfig mountPath payload)
          [("mount_path", .str mountPath), ("method_type", .str methodType)] }
  | .writeAuthResource mountPath resourceKey name payload => do
      let resource ← resolveAuthResource request row.cluster mountPath resourceKey
      Auth.raiseIf (name == "") (.validation "name" "A resource name is required.")
      return {
        actionName := "write-auth-resource", operationId := resource.writeId, pathTemplate := resource.template
        riskLevel := resource.risk
        producer := performOr (.runAuthResource mountPath resource.spec name (some payload))
          [("resource", .str resourceKey), ("name", .str name)] }
  | .deleteAuthResource mountPath resourceKey name confirmation => do
      let resource ← resolveAuthResource request row.cluster mountPath resourceKey
      Auth.raiseIf (name == "") (.validation "name" "A resource name is required.")
      confirm ("DELETE AUTH RESOURCE " ++ resourceKey ++ "/" ++ name ++ " ON " ++ row.cluster.slug) confirmation
      return {
        actionName := "delete-auth-resource", operationId := resource.deleteId, pathTemplate := resource.template
        riskLevel := "destructive", method := "DELETE"
        producer := performOr (.runAuthResource mountPath resource.spec name none)
          [("resource", .str resourceKey), ("name", .str name)] }
  | .approleSecretId mountPath roleName payload => do
      requireMount request row.cluster mountPath ["approle"] notApprole
      return {
        actionName := "issue-approle-secret-id", operationId := "app-role-write-secret-id"
        pathTemplate := "/auth/{mount_path}/role/{role_name}/secret-id", riskLevel := "sensitive", statusCode := 201
        producer := performOr (.issueApproleSecretId mountPath roleName payload) [] }
  | .approleRoleId mountPath roleName roleId => do
      requireMount request row.cluster mountPath ["approle"] notApprole
      return {
        actionName := "write-approle-role-id", operationId := "app-role-write-role-id"
        pathTemplate := "/auth/{mount_path}/role/{role_name}/role-id", riskLevel := "sensitive"
        producer := performOr (.writeApproleRoleId mountPath roleName roleId) [("role_name", .str roleName)] }
  | .lookupSecretIdAccessor mountPath roleName accessor => do
      requireMount request row.cluster mountPath ["approle"] notApprole
      return {
        actionName := "lookup-approle-secret-id", operationId := "app-role-look-up-secret-id-by-accessor"
        pathTemplate := "/auth/{mount_path}/role/{role_name}/secret-id-accessor/lookup", riskLevel := "sensitive"
        producer := Auth.ask (.lookupApproleSecretId mountPath roleName accessor) }
  | .destroySecretIdAccessor mountPath roleName accessor confirmation => do
      requireMount request row.cluster mountPath ["approle"] notApprole
      confirm ("DESTROY APPROLE SECRET ID ON " ++ row.cluster.slug) confirmation
      return {
        actionName := "destroy-approle-secret-id", operationId := "app-role-destroy-secret-id-by-accessor"
        pathTemplate := "/auth/{mount_path}/role/{role_name}/secret-id-accessor/destroy", riskLevel := "destructive"
        producer := performOr (.destroyApproleSecretId mountPath roleName accessor) [("destroyed", .bool true)] }
  | .authLogin mountPath methodType payload => do
      let mount ← resolveAuthMount request row.cluster mountPath
      let accepted := if methodType == "token" then mountPath == "token" && mount.methodType == "token"
        else mount.methodType == methodType
      Auth.raiseIf (!accepted) (.validation "" "The selected mount does not match the login method.")
      match loginOperation methodType with
      | none => Auth.raise (.keyError methodType)
      | some (operationId, pathTemplate) =>
          return {
            actionName := "authenticate", operationId, pathTemplate, riskLevel := "sensitive"
            method := if methodType == "token" then "GET" else "POST"
            producer := performOr (.authenticate methodType mountPath payload) [] }
  | .authOidcStart mountPath role => do
      requireMount request row.cluster mountPath ["jwt", "oidc"] noDirectOidc
      let nonce ← Auth.ask .tokenUrlsafe
      return {
        actionName := "start-oidc-authentication", operationId := "jwt-oidc-request-authorization-url"
        pathTemplate := "/auth/{mount_path}/oidc/auth_url", riskLevel := "sensitive"
        requiredOperationIds := ["jwt-read-role"]
        producer := oidcStartProducer request row mountPath role nonce }
  | .authOidcPoll mountPath state clientNonce envelope => do
      requireMount request row.cluster mountPath ["jwt", "oidc"] noDirectOidc
      let loaded ← Auth.ask (.loadsEnvelope envelope)
      let expected : OidcEnvelope :=
        { cluster := row.pk, user := request.userPk, mount := mountPath, state := hashChallenge state
          nonce := hashChallenge clientNonce }
      Auth.raiseIf (loaded != some expected) invalidEnvelope
      return {
        actionName := "poll-oidc-authentication", operationId := "jwt-write-oidc-poll"
        pathTemplate := "/auth/{mount_path}/oidc/poll", riskLevel := "sensitive"
        producer := performOr (.oidcPoll mountPath state clientNonce) [] }
  | .authMfaValidate requestId payload =>
      return {
        actionName := "validate-mfa", operationId := "mfa-validate", pathTemplate := "/sys/mfa/validate"
        riskLevel := "sensitive"
        producer := performOr (.validateMfa requestId payload) [] }
  | .writeMfaMethod methodType methodId payload =>
      return {
        actionName := "write-mfa-method", operationId := mfaMethodOperationId "configure" methodType
        pathTemplate := "/identity/mfa/method/{type}/{method_id}", riskLevel := "sensitive"
        producer := performOr (.writeMfaMethod methodType payload methodId)
          [("method_id", .str methodId), ("method_type", .str methodType)] }
  | .deleteMfaMethod methodType methodId confirmation => do
      confirm ("DELETE MFA METHOD " ++ methodId ++ " ON " ++ row.cluster.slug) confirmation
      return {
        actionName := "delete-mfa-method", operationId := mfaMethodOperationId "delete" methodType
        pathTemplate := "/identity/mfa/method/{type}/{method_id}", riskLevel := "destructive", method := "DELETE"
        producer := performOr (.deleteMfaMethod methodType methodId) [("deleted", .str methodId)] }
  | .authMfaMethodCreate methodType payload =>
      return {
        actionName := "create-mfa-method", operationId := mfaMethodOperationId "configure" methodType
        pathTemplate := "/identity/mfa/method/{type}", riskLevel := "sensitive", statusCode := 201
        producer := performOr (.writeMfaMethod methodType payload "") [] }
  | .authMfaTotpSelf methodId token =>
      return {
        actionName := "generate-self-totp-setup", operationId := "mfa-generate-totp-secret"
        pathTemplate := "/identity/mfa/method/totp/generate", riskLevel := "sensitive"
        producer := performOr (.setupTotp methodId "" false token) [] }
  | .authMfaTotpSelfReset methodId token confirmation => do
      confirm ("RESET MY TOTP ON " ++ row.cluster.slug) confirmation
      return {
        actionName := "reset-self-totp-setup", operationId := "mfa-admin-destroy-totp-secret"
        requiredOperationIds := ["token-look-up-self-get"]
        pathTemplate := "/identity/mfa/method/totp/admin-destroy", riskLevel := "destructive"
        producer := performOr (.resetTotpSetup methodId token) [] }
  | .generateTotp methodId entityId =>
      return {
        actionName := "generate-totp-setup", operationId := "mfa-admin-generate-totp-secret"
        pathTemplate := "/identity/mfa/method/totp/admin-generate", riskLevel := "sensitive"
        producer := performOr (.setupTotp methodId entityId true "") [] }
  | .destroyTotp methodId entityId confirmation => do
      confirm ("DESTROY TOTP FOR " ++ entityId ++ " ON " ++ row.cluster.slug) confirmation
      return {
        actionName := "destroy-totp-setup", operationId := "mfa-admin-destroy-totp-secret"
        pathTemplate := "/identity/mfa/method/totp/admin-destroy", riskLevel := "destructive"
        producer := performOr (.destroyTotpSetup methodId entityId) [("destroyed", .bool true)] }
  | .writeMfaEnforcement name payload =>
      return {
        actionName := "write-mfa-enforcement", operationId := "mfa-write-login-enforcement"
        pathTemplate := "/identity/mfa/login-enforcement/{name}", riskLevel := "write"
        producer := performOr (.writeMfaEnforcement name payload) [("name", .str name)] }
  | .deleteMfaEnforcement name confirmation => do
      confirm ("DELETE MFA ENFORCEMENT " ++ name ++ " ON " ++ row.cluster.slug) confirmation
      return {
        actionName := "delete-mfa-enforcement", operationId := "mfa-delete-login-enforcement"
        pathTemplate := "/identity/mfa/login-enforcement/{name}", riskLevel := "destructive", method := "DELETE"
        producer := performOr (.deleteMfaEnforcement name) [("deleted", .str name)] }
  | .authToken operation payload confirmation => do
      (if operation.destructive then confirm ("REVOKE TOKEN ON " ++ row.cluster.slug) confirmation else pure ())
      return {
        actionName := operation.text, operationId := operation.operationId
        pathTemplate := "/auth/token/" ++ operation.text
        riskLevel := if operation.destructive then "destructive" else "sensitive"
        method := if operation = .lookupSelf then "GET" else "POST"
        producer := operation.ask payload }

/-- A request for an action, with the reason it gives. -/
def authView (reason : String) (action : AuthAction) : Auth PlaneResponse := do
  let action ← Auth.ofExcept action.canonical
  let row ← Auth.ask (.cluster action.permission)
  let mutation ← action.prepare request row
  authMutation request row.cluster mutation reason

end

end NetboxOpenbao
