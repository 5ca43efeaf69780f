import NetboxOpenbao.Administration.Json

/-!
# Authentication responses

The names that may stand in an authentication path, and what is kept of a response that is public. The results that
carry material, a token or an enrolment, are normalized by functions that a transport takes as parameters.
-/

namespace NetboxOpenbao

namespace Authentication

def maxAuthResponseDepth : Nat := 8
def maxAuthResponseFields : Nat := 1000
def maxAuthString : Nat := 20000
def maxAuthList : Nat := 256

def materialKeys : List String :=
  ["access_token", "api_token", "barcode", "bindpass", "client_token", "client_tls_key", "code", "id_token", "jwt",
   "oidc_client_secret", "password", "password_hash", "private_key", "refresh_token", "secret", "secret_id",
   "secret_key", "settings_file_base64", "token", "token_reviewer_jwt"]

def mountPathRe (s : String) : Bool := Text.token ['_', '.', '-'] 127 s
def resourceNameRe (s : String) : Bool := Text.token ['_', '.', '@', '-'] 199 s
def uuidRe (s : String) : Bool := Text.uuid Text.hexDigit s
def safeResponseKeyRe (s : String) : Bool := Text.token ['_', '.', ':', '@', '/', '-'] 499 s
def roleIdRe (s : String) : Bool := Text.token ['_', '.', ':', '@', '-'] 999 s

/-- The auth method mounts: `normalize_mount_path` of the authentication module. -/
def normalizeMountPath (value : String) : Except Error String :=
  let path := Text.removeSlash (Text.strip value)
  if Text.startsWith path "auth/" || !mountPathRe path then
    .error (.schema "OpenBao auth mount path is invalid.")
  else .ok path

def normalizeResourceName (value : Json) (uuidOnly : Bool) : Except Error String :=
  match value with
  | .str s =>
      if if uuidOnly then uuidRe s else resourceNameRe s then .ok s
      else .error (.schema "OpenBao auth resource name is invalid.")
  | _ => .error (.schema "OpenBao auth resource name is invalid.")

def normalizeRoleId (value : String) : Except Error String :=
  if roleIdRe value then .ok value else .error (.schema "OpenBao AppRole RoleID is invalid.")

def boundedText (value : Json) (maximum : Nat) (blank : Bool) : Except Error String :=
  match value with
  | .str s =>
      if s.length > maximum || s.toList.any (fun c => Text.control c && !(['\n', '\r', '\t'].contains c)) ||
          (!blank && s.isEmpty) then
        .error (.schema "OpenBao authentication value is invalid.")
      else .ok s
  | _ => .error (.schema "OpenBao authentication value is invalid.")

def responseData (payload : Json) : Except Error JsonObject :=
  match payload with
  | .dict entries =>
      match JsonObject.get entries "data" payload with
      | .dict data => .ok data
      | _ => .error (.schema "OpenBao returned an invalid authentication response.")
  | _ => .error (.schema "OpenBao returned an invalid authentication response.")

mutual

def safeResponseMapping (entries : JsonObject) (depth : Nat) : Except Error JsonObject :=
  match entries with
  | [] => .ok []
  | (key, item) :: rest =>
      if !safeResponseKeyRe key then .error (.schema "OpenBao authentication response has an invalid field.")
      else if materialKeys.contains (Text.lower key) then safeResponseMapping rest depth
      else do
        let kept ← safeResponseValue item (depth + 1)
        return (key, kept) :: (← safeResponseMapping rest depth)

def safeResponseSequence (items : List Json) (depth : Nat) : Except Error (List Json) :=
  match items with
  | [] => .ok []
  | item :: rest => do
      let kept ← safeResponseValue item (depth + 1)
      return kept :: (← safeResponseSequence rest depth)

def safeResponseValue (value : Json) (depth : Nat) : Except Error Json :=
  if depth > maxAuthResponseDepth then
    .error (.schema "OpenBao authentication response is nested too deeply.")
  else match value with
    | .dict entries =>
        if entries.length > maxAuthResponseFields then
          .error (.schema "OpenBao authentication response has too many fields.")
        else do
          return .dict (← safeResponseMapping entries depth)
    | .list items =>
        if items.length > maxAuthList then
          .error (.schema "OpenBao authentication response has too many items.")
        else do
          return .list (← safeResponseSequence items depth)
    | .str s => do
        return .str (← boundedText (.str s) maxAuthString true)
    | .null => .ok .null
    | .bool b => .ok (.bool b)
    | .int n => .ok (.int n)
    | .float _ => .error (.schema "OpenBao authentication response contains an unsupported value.")

end

/-- Public metadata, without any field that is shaped like material. -/
def normalizePublicAuthData (payload : Json) : Except Error Json := do
  safeResponseValue (.dict (← responseData payload)) 0

/-- The normalizers of the results that carry material. -/
class Results where
  normalizeAuthenticationResult : Json → Except Error Json
  normalizeSecretIdResult : Json → Except Error Json
  normalizeOidcStart : Json → Except Error Json
  normalizeTotpSetupResult : Json → Except Error Json

end Authentication

end NetboxOpenbao
