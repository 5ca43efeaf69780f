import NetboxOpenbao.Administration.Access
import NetboxOpenbao.Administration.Cluster
import NetboxOpenbao.Effect.Dialogue

/-!
# The direct administration transport

`DirectAdministrationBackend` as a dialogue with the client that holds its token and with the server. A response is a
status and what reading its body gives: reading it may raise, and `json.loads` may refuse it or fail outright.
-/

namespace NetboxOpenbao

open Effect

/-! ### HTTP -/

inductive HttpMethod where
  | get | head | list | options | post | put | patch | delete
deriving DecidableEq, Repr

/-- `method.upper() not in {"GET", "HEAD", "LIST", "OPTIONS"}`. -/
def HttpMethod.mutates : HttpMethod → Bool
  | .get | .head | .list | .options => false
  | .post | .put | .patch | .delete => true

/-- What a request carries: a JSON document, or a snapshot of a declared size. -/
inductive RequestBody where
  | none
  | json (payload : Json)
  | stream (size : Nat)

/-- `verify`: a CA bundle, or whether to verify at all. -/
inductive Verify where
  | bundle (path : String)
  | flag (verify : Bool)
deriving DecidableEq, Repr

structure HttpRequest where
  method : HttpMethod
  url : String
  headers : JsonObject
  verify : Verify
  timeout : Nat × Nat
  params : JsonObject
  body : RequestBody

/-- What `json.loads` makes of a body: `malformed` stands for the two exceptions the transport expects of it,
`failed` for any other. -/
inductive Decoding where
  | malformed
  | failed (what : String)
  | value (v : Json)

structure ResponseBody where
  size : Nat
  decoding : Decoding

/-- A response; a body of `none` is one whose reading raises. -/
structure HttpResponse where
  status : Nat
  body : Option ResponseBody

def HttpResponse.accepts (response : HttpResponse) : Prop := 200 ≤ response.status ∧ response.status < 300

inductive Wire where
  | clientToken
  | send (request : HttpRequest)

abbrev Wire.Answer : Wire → Type
  | .clientToken => String
  | .send _ => HttpResponse

abbrev Http (α : Type) : Type := Dialogue Error Wire Wire.Answer α

namespace Http

def ofExcept {α : Type} (result : Except Error α) : Http α := .done result

def raise {α : Type} (error : Error) : Http α := .done (.error error)

/-- `self.backend._get_client().token`. -/
def clientToken : Http String := Dialogue.request Wire.clientToken

def send (request : HttpRequest) : Http HttpResponse := Dialogue.request (Wire.send request)

end Http

/-! ### The request layer -/

structure OpenBaoCluster where
  apiUrl : String
  namespaceName : String
  tlsVerify : Bool
  caCertPath : String
  slug : String
deriving DecidableEq, Repr

/-- The arguments of `_request`. -/
structure HttpCall where
  method : HttpMethod
  path : String
  authenticated : Bool
  expected : List Nat
  token : Json := .str ""
  params : JsonObject := []
  body : RequestBody := .none
  extraHeaders : JsonObject := []
  timeout : Nat × Nat := (30, 30)

/-- `isinstance(exc, OpenBaoUnavailable)`. -/
def Error.isUnavailable : Error → Bool
  | .openbao .unavailable _ => true
  | .openbao .mutationUnknown _ => true
  | _ => false

namespace DirectAdministrationBackend

variable (cluster : OpenBaoCluster)

def verify : Verify := if cluster.caCertPath != "" then .bundle cluster.caCertPath else .flag cluster.tlsVerify

def headers (authenticated : Bool) (token : Json) : Http JsonObject := do
  let token ← (if authenticated && !token.truthy then Json.str <$> Http.clientToken else pure token)
  return [("X-Vault-Request", .str "true")] ++
    (if cluster.namespaceName == "" then [] else [("X-Vault-Namespace", .str cluster.namespaceName)]) ++
    (if token.truthy then [("X-Vault-Token", token)] else [])

def requestFailed : Error := .openbao .unavailable "OpenBao administration request failed."

/-- What a status that was not expected is reported as. -/
def refusal (method : HttpMethod) (status : Nat) : Error :=
  if status = 401 ∨ status = 403 then .openbao .auth "OpenBao rejected the administrative request."
  else if status = 404 then .openbao .notFound "OpenBao does not support this administrative operation."
  else if status = 400 ∨ status = 409 ∨ status = 412 then
    .openbao .conflict "OpenBao refused the administrative state transition."
  else if 500 ≤ status ∧ method.mutates then .mutationUnknown
  else requestFailed

/-- What an exception of the session is reported as. -/
def sessionFailure (method : HttpMethod) : Error → Error
  | .openbao kind message => .openbao kind message
  | _ => if method.mutates then .mutationUnknown else requestFailed

def request (call : HttpCall) : Http HttpResponse := do
  let headers ← headers cluster call.authenticated call.token
  let sent ← (Http.send
    { method := call.method
      url := Text.rstripSlashes cluster.apiUrl ++ "/v1" ++ call.path
      headers := headers ++ call.extraHeaders
      verify := verify cluster
      timeout := call.timeout
      params := call.params
      body := call.body }).attempt
  match sent with
  | .error error => Http.raise (sessionFailure call.method error)
  | .ok response =>
      if response.status ∈ call.expected then return response
      else Http.raise (refusal call.method response.status)

def invalidResponse : Error := .openbao .unavailable "OpenBao returned an invalid administrative response."

def tooLarge : Error := .openbao .unavailable "OpenBao administrative response is too large."

def responseJson (response : HttpResponse) : Except Error JsonObject :=
  match response.body with
  | none => .error invalidResponse
  | some body =>
      if body.size > Cluster.maxClusterJsonBytes then .error tooLarge
      else match body.decoding with
        | .malformed => .error invalidResponse
        | .failed what => .error (.raised what)
        | .value (.dict entries) => .ok entries
        | .value _ => .error invalidResponse

/-- `except OpenBaoUnavailable: raise OpenBaoMutationUnknown()`. -/
def unknown {α : Type} (result : Except Error α) : Except Error α :=
  match result with
  | .ok a => .ok a
  | .error error => .error (if error.isUnavailable then .mutationUnknown else error)

def requestJson (call : HttpCall) : Http JsonObject := do
  let response ← request cluster call
  Http.ofExcept (if call.method.mutates then unknown (responseJson response) else responseJson response)

def requestListJson (path : String) : Http JsonObject := do
  let response ← request cluster { method := .list, path, authenticated := true, expected := [200, 404] }
  if response.status = 404 then return [("data", .dict [("keys", .list []), ("key_info", .dict [])])]
  Http.ofExcept (responseJson response)

def normalize {α : Type} (normalizer : Json → Except Error α) (payload : JsonObject) : Except Error α :=
  match normalizer (.dict payload) with
  | .ok a => .ok a
  | .error (.schema _) => .error invalidResponse
  | .error error => .error error

def normalizeMutation {α : Type} (normalizer : Json → Except Error α) (payload : JsonObject) : Except Error α :=
  unknown (normalize normalizer payload)

end DirectAdministrationBackend

end NetboxOpenbao
