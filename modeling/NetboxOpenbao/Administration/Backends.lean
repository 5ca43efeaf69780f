import NetboxOpenbao.Administration.Engines
import NetboxOpenbao.Administration.Transport

/-!
# What the direct backend changes

The operations of `DirectAdministrationBackend` that change OpenBao. Each validates its arguments, sends one request
that mutates, and reads the response in its own way.
-/

namespace NetboxOpenbao

open Effect Authentication

/-- A mounted authentication resource: the suffixes of its paths. -/
structure AuthResourceSpec where
  collectionSuffix : String
  itemSuffix : String
deriving DecidableEq, Repr

def AuthResourceSpec.path (spec : AuthResourceSpec) (mountPath name : String) : String :=
  let suffix := if name != "" then spec.itemSuffix else spec.collectionSuffix
  Text.rstripSlashes ("/auth/" ++ mountPath ++ "/" ++ suffix.replace "{name}" name)

namespace DirectAdministrationBackend

def unsupported {α : Type} (message : String) : Http α := Http.raise (.openbao .configuration message)

variable (cluster : OpenBaoCluster)

/-- A request whose response is closed unread. -/
def closing (call : HttpCall) : Http Unit := do
  let _ ← request cluster call

/-! ### The cluster -/

def initializeCluster (payload : JsonObject) : Http InitializationResult := do
  let result ← requestJson cluster
    { method := .post, path := "/sys/init", authenticated := false, expected := [200], body := .json (.dict payload) }
  Http.ofExcept (normalize normalizeInitializationResult result)

def joinRaft (payload : JsonObject) : Http JsonObject := do
  let result ← requestJson cluster
    { method := .post, path := "/sys/storage/raft/join", authenticated := false, expected := [200],
      body := .json (.dict payload) }
  match result.get "joined" .null with
  | .bool joined => return [("joined", .bool joined)]
  | _ => Http.raise .mutationUnknown

def unsealCluster (key : String) (reset migrate : Bool) : Http SealStatus := do
  let payload := [("reset", .bool reset), ("migrate", .bool migrate)] ++
    (if key != "" then [("key", Json.str key)] else [])
  let result ← requestJson cluster
    { method := .post, path := "/sys/unseal", authenticated := false, expected := [200],
      body := .json (.dict payload) }
  Http.ofExcept (normalize normalizeSealStatus result)

def sealCluster : Http Unit :=
  closing cluster { method := .post, path := "/sys/seal", authenticated := true, expected := [200, 204] }

def removeRaftPeer (serverId : String) : Http Unit :=
  closing cluster
    { method := .post, path := "/sys/storage/raft/remove-peer", authenticated := true, expected := [200, 204],
      body := .json (.dict [("server_id", .str serverId)]) }

def restoreRaftSnapshot (size : Int) (force : Bool) : Http Unit :=
  if ¬ (0 < size ∧ size ≤ Cluster.maxSnapshotBytes) then
    Http.raise (.openbao .conflict "The snapshot upload is outside the allowed size.")
  else closing cluster
    { method := .post
      path := if force then "/sys/storage/raft/snapshot-force" else "/sys/storage/raft/snapshot"
      authenticated := true
      expected := [200, 204]
      timeout := (30, 300)
      body := .stream size.toNat
      extraHeaders := [("Content-Type", .str "application/octet-stream"), ("Content-Length", .str (toString size))] }

/-! ### Secret engines -/

def enableSecretEngine (mountPath : String) (payload : JsonObject) : Http Unit := do
  let path ← Http.ofExcept (Engines.normalizeMountPath mountPath)
  closing cluster
    { method := .post, path := "/sys/mounts/" ++ path, authenticated := true, expected := [200, 204],
      body := .json (.dict payload) }

def tuneSecretEngine (mountPath : String) (payload : JsonObject) : Http Unit := do
  let path ← Http.ofExcept (Engines.normalizeMountPath mountPath)
  closing cluster
    { method := .post, path := "/sys/mounts/" ++ path ++ "/tune", authenticated := true, expected := [200, 204],
      body := .json (.dict payload) }

def remountSecretEngine (source destination : String) : Http Json := do
  let sourcePath ← Http.ofExcept (Engines.normalizeMountPath source)
  let destinationPath ← Http.ofExcept (Engines.normalizeMountPath destination)
  let payload ← requestJson cluster
    { method := .post, path := "/sys/remount", authenticated := true, expected := [200],
      body := .json (.dict [("from", .str (sourcePath ++ "/")), ("to", .str (destinationPath ++ "/"))]) }
  Http.ofExcept (normalize normalizePublicAuthData payload)

def disableSecretEngine (mountPath : String) : Http Unit := do
  let path ← Http.ofExcept (Engines.normalizeMountPath mountPath)
  closing cluster { method := .delete, path := "/sys/mounts/" ++ path, authenticated := true, expected := [200, 204] }

def executeMountedOperation (method : HttpMethod) (path : String) (query body : JsonObject) : Http JsonObject :=
  if ¬ (method ∈ [.get, .list, .post, .put, .patch, .delete] ∧ Text.startsWith path "/") then
    unsupported "The mounted operation is outside the reviewed transport contract."
  else do
    let response ← request cluster
      { method, path, authenticated := true, expected := [200, 204], params := query
        body := if method ∈ [.get, .list, .delete] then .none else .json (.dict body)
        extraHeaders :=
          if method = .patch then [("Content-Type", .str "application/merge-patch+json")] else [] }
    if response.status = 204 then return []
    Http.ofExcept (responseJson response)

/-! ### Authentication -/

def enableAuthMethod (mountPath : String) (payload : JsonObject) : Http Unit := do
  let path ← Http.ofExcept (normalizeMountPath mountPath)
  closing cluster
    { method := .post, path := "/sys/auth/" ++ path, authenticated := true, expected := [200, 204],
      body := .json (.dict payload) }

def tuneAuthMethod (mountPath : String) (payload : JsonObject) : Http Unit := do
  let path ← Http.ofExcept (normalizeMountPath mountPath)
  closing cluster
    { method := .post, path := "/sys/auth/" ++ path ++ "/tune", authenticated := true, expected := [200, 204],
      body := .json (.dict payload) }

def remountAuthMethod (source destination : String) : Http Json := do
  let source ← Http.ofExcept (normalizeMountPath source)
  let destination ← Http.ofExcept (normalizeMountPath destination)
  let payload ← requestJson cluster
    { method := .post, path := "/sys/remount", authenticated := true, expected := [200],
      body := .json (.dict [("from", .str ("auth/" ++ source ++ "/")), ("to", .str ("auth/" ++ destination ++ "/"))]) }
  Http.ofExcept (normalize normalizePublicAuthData payload)

def disableAuthMethod (mountPath : String) : Http Unit := do
  let path ← Http.ofExcept (normalizeMountPath mountPath)
  closing cluster { method := .delete, path := "/sys/auth/" ++ path, authenticated := true, expected := [200, 204] }

def writeAuthConfig (mountPath : String) (payload : JsonObject) : Http Unit := do
  let path ← Http.ofExcept (normalizeMountPath mountPath)
  closing cluster
    { method := .post, path := "/auth/" ++ path ++ "/config", authenticated := true, expected := [200, 204],
      body := .json (.dict payload) }

/-- `run_auth_resource` for its two operations that change something: a payload is written, none deletes. -/
def runAuthResource (mountPath : String) (spec : AuthResourceSpec) (name : String) (payload : Option JsonObject) :
    Http Unit := do
  let mount ← Http.ofExcept (normalizeMountPath mountPath)
  let name ← Http.ofExcept (if name != "" then normalizeResourceName (.str name) false else .ok "")
  let path := spec.path mount name
  match payload with
  | some payload =>
      closing cluster
        { method := .post, path, authenticated := true, expected := [200, 204], body := .json (.dict payload) }
  | none => closing cluster { method := .delete, path, authenticated := true, expected := [200, 204] }

variable [Results]

def issueApproleSecretId (mountPath roleName : String) (payload : JsonObject) : Http Json := do
  let mount ← Http.ofExcept (normalizeMountPath mountPath)
  let role ← Http.ofExcept (normalizeResourceName (.str roleName) false)
  let result ← requestJson cluster
    { method := .post, path := "/auth/" ++ mount ++ "/role/" ++ role ++ "/secret-id", authenticated := true,
      expected := [200], body := .json (.dict payload) }
  Http.ofExcept (normalizeMutation Results.normalizeSecretIdResult result)

omit [Results] in
def writeApproleRoleId (mountPath roleName roleId : String) : Http Unit := do
  let mount ← Http.ofExcept (normalizeMountPath mountPath)
  let role ← Http.ofExcept (normalizeResourceName (.str roleName) false)
  let roleId ← Http.ofExcept (normalizeRoleId roleId)
  closing cluster
    { method := .post, path := "/auth/" ++ mount ++ "/role/" ++ role ++ "/role-id", authenticated := true,
      expected := [200, 204], body := .json (.dict [("role_id", .str roleId)]) }

omit [Results] in
def destroyApproleSecretId (mountPath roleName accessor : String) : Http Unit := do
  let mount ← Http.ofExcept (normalizeMountPath mountPath)
  let role ← Http.ofExcept (normalizeResourceName (.str roleName) false)
  let accessor ← Http.ofExcept (normalizeResourceName (.str accessor) true)
  closing cluster
    { method := .post, path := "/auth/" ++ mount ++ "/role/" ++ role ++ "/secret-id-accessor/destroy",
      authenticated := true, expected := [200, 204],
      body := .json (.dict [("secret_id_accessor", .str accessor)]) }

def authenticate (methodType mountPath : String) (payload : JsonObject) : Http Json := do
  let mount ← Http.ofExcept (normalizeMountPath mountPath)
  if methodType = "token" then do
    let (token, _) ← Http.ofExcept (payload.pop "token")
    let result ← requestJson cluster
      { method := .get, path := "/auth/token/lookup-self", authenticated := false, expected := [200], token }
    Http.ofExcept (normalize normalizePublicAuthData result)
  else do
    let (path, data) ← Http.ofExcept <|
      if methodType ∈ ["userpass", "ldap", "radius"] then do
        let (username, data) ← payload.pop "username"
        let username ← normalizeResourceName username false
        return ("/auth/" ++ mount ++ "/login/" ++ username, data)
      else if methodType ∈ ["jwt", "oidc", "approle", "kubernetes"] then
        .ok ("/auth/" ++ mount ++ "/login", payload)
      else .error (.openbao .configuration "The auth method does not support this login flow.")
    let result ← requestJson cluster
      { method := .post, path, authenticated := false, expected := [200], body := .json (.dict data) }
    Http.ofExcept (normalizeMutation Results.normalizeAuthenticationResult result)

def oidcStart (mountPath role redirectUri clientNonce : String) : Http Json := do
  let mount ← Http.ofExcept (normalizeMountPath mountPath)
  let role ← Http.ofExcept (normalizeResourceName (.str role) false)
  let result ← requestJson cluster
    { method := .post, path := "/auth/" ++ mount ++ "/oidc/auth_url", authenticated := false, expected := [200]
      body := .json (.dict [("role", .str role), ("redirect_uri", .str redirectUri),
        ("client_nonce", .str clientNonce)]) }
  Http.ofExcept (normalizeMutation Results.normalizeOidcStart result)

def oidcPoll (mountPath state clientNonce : String) : Http Json := do
  let mount ← Http.ofExcept (normalizeMountPath mountPath)
  let result ← requestJson cluster
    { method := .post, path := "/auth/" ++ mount ++ "/oidc/poll", authenticated := false, expected := [200]
      body := .json (.dict [("state", .str state), ("client_nonce", .str clientNonce)]) }
  Http.ofExcept (normalizeMutation Results.normalizeAuthenticationResult result)

def validateMfa (requestId : String) (payload : JsonObject) : Http Json := do
  let result ← requestJson cluster
    { method := .post, path := "/sys/mfa/validate", authenticated := false, expected := [200]
      body := .json (.dict [("mfa_request_id", .str requestId), ("mfa_payload", .dict payload)]) }
  Http.ofExcept (normalizeMutation Results.normalizeAuthenticationResult result)

/-! ### Multi-factor methods -/

omit [Results]

def mfaMethodTypes : List String := ["totp", "duo", "okta", "pingid"]

def writeMfaMethod (methodType : String) (payload : JsonObject) (methodId : String) : Http Json :=
  if methodType ∉ mfaMethodTypes then unsupported "The MFA method type is unsupported."
  else do
    let tail ← Http.ofExcept <|
      if methodId != "" then ("/" ++ ·) <$> normalizeResourceName (.str methodId) true else .ok ""
    let response ← request cluster
      { method := .post, path := "/identity/mfa/method/" ++ methodType ++ tail, authenticated := true,
        expected := [200, 204], body := .json (.dict payload) }
    if response.status = 204 then return .dict []
    -- the body is read here once more by hand: each of its failures is a mutation whose outcome is unknown
    let result ← Http.ofExcept (unknown (responseJson response))
    Http.ofExcept (normalizeMutation normalizePublicAuthData result)

def deleteMfaMethod (methodType methodId : String) : Http Unit :=
  if methodType ∉ mfaMethodTypes then unsupported "The MFA method type is unsupported."
  else do
    let methodId ← Http.ofExcept (normalizeResourceName (.str methodId) true)
    closing cluster
      { method := .delete, path := "/identity/mfa/method/" ++ methodType ++ "/" ++ methodId, authenticated := true,
        expected := [200, 204] }

def destroyTotpSetup (methodId entityId : String) : Http Unit := do
  let methodId ← Http.ofExcept (normalizeResourceName (.str methodId) true)
  let entityId ← Http.ofExcept (normalizeResourceName (.str entityId) true)
  closing cluster
    { method := .post, path := "/identity/mfa/method/totp/admin-destroy", authenticated := true, expected := [200, 204]
      body := .json (.dict [("method_id", .str methodId), ("entity_id", .str entityId)]) }

def resetTotpSetup (methodId token : String) : Http Unit := do
  let methodId ← Http.ofExcept (normalizeResourceName (.str methodId) true)
  if token = "" then unsupported "A request-scoped token is required for TOTP reset."
  else do
    let result ← requestJson cluster
      { method := .get, path := "/auth/token/lookup-self", authenticated := false, expected := [200]
        token := .str token }
    let data ← Http.ofExcept (normalize normalizePublicAuthData result)
    let entityId := match data with
      | .dict entries => JsonObject.get entries "entity_id" .null
      | _ => .null
    let entityId ← Http.ofExcept (normalizeResourceName entityId true)
    destroyTotpSetup cluster methodId entityId

def writeMfaEnforcement (name : String) (payload : JsonObject) : Http Unit := do
  let name ← Http.ofExcept (normalizeResourceName (.str name) false)
  closing cluster
    { method := .post, path := "/identity/mfa/login-enforcement/" ++ name, authenticated := true,
      expected := [200, 204], body := .json (.dict payload) }

def deleteMfaEnforcement (name : String) : Http Unit := do
  let name ← Http.ofExcept (normalizeResourceName (.str name) false)
  closing cluster
    { method := .delete, path := "/identity/mfa/login-enforcement/" ++ name, authenticated := true,
      expected := [200, 204] }

/-- `setup_totp`: for another entity by an administrator, or for the bearer of a token. -/
def setupTotp (methodId entityId : String) (administrator : Bool) (token : String) : Http Json := do
  let methodId ← Http.ofExcept (normalizeResourceName (.str methodId) true)
  let (path, payload) ← Http.ofExcept <|
    if administrator then do
      let entityId ← normalizeResourceName (.str entityId) true
      return ("/identity/mfa/method/totp/admin-generate",
        [("method_id", Json.str methodId), ("entity_id", Json.str entityId)])
    else if token = "" then
      .error (.openbao .configuration "A request-scoped token is required for TOTP self-setup.")
    else .ok ("/identity/mfa/method/totp/generate", [("method_id", Json.str methodId)])
  let result ← requestJson cluster
    { method := .post, path, authenticated := administrator, expected := [200]
      token := .str (if administrator then "" else token), body := .json (.dict payload) }
  Http.ofExcept (normalizeMutation Results.normalizeTotpSetupResult result)

/-! ### Tokens -/

/-- `token_operation` for the operations that change a token. -/
inductive TokenOperation where
  | renewSelf | revokeSelf | renewAccessor | revokeAccessor
deriving DecidableEq, Repr

def tokenOperation (operation : TokenOperation) (payload : JsonObject) : Http Json :=
  match operation with
  | .renewSelf => do
      let (token, data) ← Http.ofExcept (payload.pop "token")
      let result ← requestJson cluster
        { method := .post, path := "/auth/token/renew-self", authenticated := false, expected := [200], token
          body := .json (.dict data) }
      Http.ofExcept (normalizeMutation Results.normalizeAuthenticationResult result)
  | .revokeSelf => do
      let (token, _) ← Http.ofExcept (payload.pop "token")
      closing cluster
        { method := .post, path := "/auth/token/revoke-self", authenticated := false, expected := [200, 204], token }
      return .null
  | .renewAccessor => do
      let (accessor, data) ← Http.ofExcept (payload.pop "accessor")
      let accessor ← Http.ofExcept (normalizeResourceName accessor true)
      let result ← requestJson cluster
        { method := .post, path := "/auth/token/renew-accessor", authenticated := true, expected := [200]
          body := .json (.dict (("accessor", .str accessor) :: data)) }
      Http.ofExcept (normalizeMutation Results.normalizeAuthenticationResult result)
  | .revokeAccessor => do
      let (accessor, _) ← Http.ofExcept (payload.pop "accessor")
      let accessor ← Http.ofExcept (normalizeResourceName accessor true)
      closing cluster
        { method := .post, path := "/auth/token/revoke-accessor", authenticated := true, expected := [200, 204]
          body := .json (.dict [("accessor", .str accessor)]) }
      return .null

/-! ### Reviewed operations -/

omit [Results]

def reviewedAccessPath (path : String) : Bool :=
  ["/sys/policies/", "/identity/", "/sys/namespaces"].any (Text.startsWith path)

def reviewedFinalPath (path : String) : Bool :=
  ["/sys/leases/", "/sys/wrapping/", "/sys/tools/", "/sys/config/ui/headers", "/auth/token/lookup"].any
    (Text.startsWith path)

/-- The answer of a reviewed operation: what is left of it is only reported once it is known to be well formed. -/
def reviewed (method : HttpMethod) (material : Bool) (response : HttpResponse) : Http Json :=
  let normalizer := fun value => Access.normalizeAccessResponse value material
  if method ∈ [HttpMethod.post, .delete] then
    if response.status = 204 then return .dict []
    else do
      let result ← Http.ofExcept (unknown (responseJson response))
      Http.ofExcept (normalizeMutation normalizer result)
  else if response.status = 204 then return .dict []
  else do
    let result ← Http.ofExcept (responseJson response)
    Http.ofExcept (normalize normalizer result)

def executeAccessOperation (method : HttpMethod) (path : String) (payload : JsonObject) (material : Bool) :
    Http Json :=
  if ¬ (method ∈ [.get, .list, .post, .delete] ∧ reviewedAccessPath path) then
    unsupported "The access-control operation is outside the reviewed contract."
  else if method = .list then do
    let result ← requestListJson cluster path
    Http.ofExcept (normalize (fun value => Access.normalizeAccessResponse value material) result)
  else do
    let response ← request cluster
      { method, path, authenticated := true, expected := [200, 204]
        body := if method = .post then .json (.dict payload) else .none }
    reviewed method material response

def executeFinalOperation (method : HttpMethod) (path : String) (payload : JsonObject) (material : Bool) :
    Http Json :=
  if ¬ (method ∈ [.get, .list, .post, .delete] ∧ reviewedFinalPath path) then
    unsupported "The finalization operation is outside the reviewed contract."
  else if method = .list then do
    let result ← requestListJson cluster path
    Http.ofExcept (normalize (fun value => Access.normalizeAccessResponse value material) result)
  else do
    let (body, extraHeaders) ← Http.ofExcept <|
      if method ≠ .post then .ok (RequestBody.none, [])
      else if path = "/sys/wrapping/wrap" then do
        let (data, _) ← payload.pop "data"
        let ttl := payload.get "ttl" .null
        return (.json data, if ttl.truthy then [("X-Vault-Wrap-TTL", ttl)] else [])
      else .ok (.json (.dict payload), [])
    let response ← request cluster
      { method, path, authenticated := true, expected := [200, 204], body, extraHeaders
        params := if method = .get && Text.startsWith path "/sys/config/ui/headers/" then
          [("multivalue", .str "true")] else [] }
    reviewed method material response

end DirectAdministrationBackend

/-! ### All of them -/

abbrev MutatingMethod : Type := { method : HttpMethod // method.mutates = true }

/-- An operation that changes OpenBao, with its arguments. -/
inductive MutatingOperation where
  | initializeCluster (payload : JsonObject)
  | joinRaft (payload : JsonObject)
  | unsealCluster (key : String) (reset migrate : Bool)
  | sealCluster
  | removeRaftPeer (serverId : String)
  | restoreRaftSnapshot (size : Int) (force : Bool)
  | enableSecretEngine (mountPath : String) (payload : JsonObject)
  | tuneSecretEngine (mountPath : String) (payload : JsonObject)
  | remountSecretEngine (source destination : String)
  | disableSecretEngine (mountPath : String)
  | executeMountedOperation (method : MutatingMethod) (path : String) (query body : JsonObject)
  | enableAuthMethod (mountPath : String) (payload : JsonObject)
  | tuneAuthMethod (mountPath : String) (payload : JsonObject)
  | remountAuthMethod (source destination : String)
  | disableAuthMethod (mountPath : String)
  | writeAuthConfig (mountPath : String) (payload : JsonObject)
  | runAuthResource (mountPath : String) (spec : AuthResourceSpec) (name : String) (payload : Option JsonObject)
  | issueApproleSecretId (mountPath roleName : String) (payload : JsonObject)
  | writeApproleRoleId (mountPath roleName roleId : String)
  | destroyApproleSecretId (mountPath roleName accessor : String)
  | authenticate (methodType mountPath : String) (payload : JsonObject)
  | oidcStart (mountPath role redirectUri clientNonce : String)
  | oidcPoll (mountPath state clientNonce : String)
  | validateMfa (requestId : String) (payload : JsonObject)
  | writeMfaMethod (methodType : String) (payload : JsonObject) (methodId : String)
  | deleteMfaMethod (methodType methodId : String)
  | setupTotp (methodId entityId : String) (administrator : Bool) (token : String)
  | destroyTotpSetup (methodId entityId : String)
  | resetTotpSetup (methodId token : String)
  | writeMfaEnforcement (name : String) (payload : JsonObject)
  | deleteMfaEnforcement (name : String)
  | tokenOperation (operation : DirectAdministrationBackend.TokenOperation) (payload : JsonObject)
  | executeAccessOperation (method : MutatingMethod) (path : String) (payload : JsonObject) (material : Bool)
  | executeFinalOperation (method : MutatingMethod) (path : String) (payload : JsonObject) (material : Bool)

/-- `d` without what it returns. -/
def Http.discard {α : Type} (d : Http α) : Http Unit := do
  let _ ← d

def DirectAdministrationBackend.perform [Results] (cluster : OpenBaoCluster) : MutatingOperation → Http Unit
  | .initializeCluster payload => Http.discard (initializeCluster cluster payload)
  | .joinRaft payload => Http.discard (joinRaft cluster payload)
  | .unsealCluster key reset migrate => Http.discard (unsealCluster cluster key reset migrate)
  | .sealCluster => sealCluster cluster
  | .removeRaftPeer serverId => removeRaftPeer cluster serverId
  | .restoreRaftSnapshot size force => restoreRaftSnapshot cluster size force
  | .enableSecretEngine mountPath payload => enableSecretEngine cluster mountPath payload
  | .tuneSecretEngine mountPath payload => tuneSecretEngine cluster mountPath payload
  | .remountSecretEngine source destination => Http.discard (remountSecretEngine cluster source destination)
  | .disableSecretEngine mountPath => disableSecretEngine cluster mountPath
  | .executeMountedOperation method path query body =>
      Http.discard (executeMountedOperation cluster method path query body)
  | .enableAuthMethod mountPath payload => enableAuthMethod cluster mountPath payload
  | .tuneAuthMethod mountPath payload => tuneAuthMethod cluster mountPath payload
  | .remountAuthMethod source destination => Http.discard (remountAuthMethod cluster source destination)
  | .disableAuthMethod mountPath => disableAuthMethod cluster mountPath
  | .writeAuthConfig mountPath payload => writeAuthConfig cluster mountPath payload
  | .runAuthResource mountPath spec name payload => runAuthResource cluster mountPath spec name payload
  | .issueApproleSecretId mountPath roleName payload =>
      Http.discard (issueApproleSecretId cluster mountPath roleName payload)
  | .writeApproleRoleId mountPath roleName roleId => writeApproleRoleId cluster mountPath roleName roleId
  | .destroyApproleSecretId mountPath roleName accessor =>
      destroyApproleSecretId cluster mountPath roleName accessor
  | .authenticate methodType mountPath payload => Http.discard (authenticate cluster methodType mountPath payload)
  | .oidcStart mountPath role redirectUri clientNonce =>
      Http.discard (oidcStart cluster mountPath role redirectUri clientNonce)
  | .oidcPoll mountPath state clientNonce => Http.discard (oidcPoll cluster mountPath state clientNonce)
  | .validateMfa requestId payload => Http.discard (validateMfa cluster requestId payload)
  | .writeMfaMethod methodType payload methodId => Http.discard (writeMfaMethod cluster methodType payload methodId)
  | .deleteMfaMethod methodType methodId => deleteMfaMethod cluster methodType methodId
  | .setupTotp methodId entityId administrator token =>
      Http.discard (setupTotp cluster methodId entityId administrator token)
  | .destroyTotpSetup methodId entityId => destroyTotpSetup cluster methodId entityId
  | .resetTotpSetup methodId token => resetTotpSetup cluster methodId token
  | .writeMfaEnforcement name payload => writeMfaEnforcement cluster name payload
  | .deleteMfaEnforcement name => deleteMfaEnforcement cluster name
  | .tokenOperation operation payload => Http.discard (tokenOperation cluster operation payload)
  | .executeAccessOperation method path payload material =>
      Http.discard (executeAccessOperation cluster method path payload material)
  | .executeFinalOperation method path payload material =>
      Http.discard (executeFinalOperation cluster method path payload material)

end NetboxOpenbao
