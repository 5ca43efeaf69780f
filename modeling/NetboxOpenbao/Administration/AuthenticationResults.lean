import NetboxOpenbao.Administration.Fields

/-!
# Authentication results

What is read of a login: the token it gave or the challenge it gave instead, the metadata of the identity that may be
shown, and the OAuth 2 tokens among that metadata, which may not.
-/

namespace NetboxOpenbao

namespace Authentication

def maxAuthName : Nat := 200
def mfaMethodTypes : List String := ["totp", "duo", "okta", "pingid"]
def oauth2MaterialKeys : List String := ["access_token", "id_token", "refresh_token"]

structure MFAMethodChoice where
  methodId : String
  methodType : String
  usesPasscode : Bool
deriving DecidableEq, Repr

structure MFARequirement where
  requestId : String
  constraints : List (String × List MFAMethodChoice)
deriving DecidableEq, Repr

structure AuthenticationResult where
  clientToken : String
  accessor : String
  policies : List String
  identityPolicies : List String
  metadata : List (String × String)
  materialMetadata : List (String × String)
  leaseDuration : Nat
  renewable : Bool
  entityId : String
  tokenType : String
  mfaRequirement : Option MFARequirement
deriving DecidableEq, Repr

def refuse {α : Type} (message : String) : Except Error α := .error (.schema message)

def boolean (value : Json) (fieldName : String) : Except Error Bool :=
  match value with
  | .bool b => .ok b
  | _ => refuse s!"OpenBao returned invalid {fieldName}."

def integer (value : Json) (fieldName : String) : Except Error Nat :=
  match value with
  | .int n => if 0 ≤ n && n ≤ 2 ^ 63 - 1 then .ok n.toNat else refuse s!"OpenBao returned invalid {fieldName}."
  | _ => refuse s!"OpenBao returned invalid {fieldName}."

def stringTuple (value : Json) (fieldName : String) : Except Error (List String) :=
  match value with
  | .null => .ok []
  | .list items =>
      if items.length > maxAuthList then refuse s!"OpenBao returned invalid {fieldName}."
      else items.mapM fun item => boundedText item 1000 true
  | _ => refuse s!"OpenBao returned invalid {fieldName}."

def invalidMetadata {α : Type} : Except Error α := refuse "OpenBao returned invalid authentication metadata."

/-- The entries of `_normalize_metadata`. -/
def metadataEntries (entries : JsonObject) : Except Error (List (String × String)) :=
  match entries with
  | [] => .ok []
  | (key, item) :: rest =>
      if materialKeys.contains key then metadataEntries rest
      else if !safeKeyRe key then invalidMetadata
      else do
        let text ← boundedText item 2000 true
        return (key, text) :: (← metadataEntries rest)

def normalizeMetadata (value : Json) : Except Error (List (String × String)) :=
  match value with
  | .null => .ok []
  | .dict entries => if entries.length > maxAuthList then invalidMetadata else metadataEntries entries
  | _ => invalidMetadata

def normalizeMaterialMetadata (value : Json) : Except Error (List (String × String)) :=
  match value with
  | .null => .ok []
  | .dict entries =>
      if entries.length > maxAuthList then invalidMetadata
      else (oauth2MaterialKeys.filter fun key => (entries.lookup key).isSome).mapM fun key => do
        return (key, ← boundedText (JsonObject.get entries key .null) maxAuthString true)
  | _ => invalidMetadata

def invalidConstraints {α : Type} : Except Error α := refuse "OpenBao returned invalid MFA constraints."

def mfaMethod (rawMethod : Json) : Except Error MFAMethodChoice :=
  match rawMethod with
  | .dict entries => do
      let methodType ← boundedText (JsonObject.get entries "type" .null) 32 false
      if !mfaMethodTypes.contains methodType then refuse "OpenBao returned an unsupported MFA method."
      else do
        let methodId ← normalizeResourceName (JsonObject.get entries "id" .null) true
        let usesPasscode ← boolean (JsonObject.get entries "uses_passcode" .null) "MFA passcode state"
        return { methodId, methodType, usesPasscode }
  | _ => invalidConstraints

def mfaConstraint (entry : String × Json) : Except Error (String × List MFAMethodChoice) := do
  let name ← boundedText (.str entry.1) maxAuthName false
  match entry.2 with
  | .dict constraint =>
      match JsonObject.get constraint "any" .null with
      | .list methods =>
          if methods.isEmpty || methods.length > 16 then invalidConstraints
          else return (name, ← methods.mapM mfaMethod)
      | _ => invalidConstraints
  | _ => invalidConstraints

def normalizeMfaRequirement (value : Json) : Except Error MFARequirement :=
  match value with
  | .dict entries => do
      let requestId ← boundedText (JsonObject.get entries "mfa_request_id" .null) 1000 false
      match JsonObject.get entries "mfa_constraints" .null with
      | .dict constraints =>
          if constraints.isEmpty || constraints.length > 32 then invalidConstraints
          else return ⟨requestId, ← constraints.mapM mfaConstraint⟩
      | _ => invalidConstraints
  | _ => refuse "OpenBao returned an invalid MFA requirement."

/-- The challenge of a login, if it has one. -/
def optionalMfaRequirement (rawRequirement : Json) : Except Error (Option MFARequirement) :=
  match rawRequirement with
  | .null => .ok none
  | requirement => do
      return some (← normalizeMfaRequirement requirement)

def normalizeAuthenticationResult (payload : Json) : Except Error AuthenticationResult :=
  match payload with
  | .dict entries =>
      match JsonObject.get entries "auth" .null with
      | .dict auth => do
          let mfaRequirement ← optionalMfaRequirement (JsonObject.get auth "mfa_requirement" .null)
          let clientToken ← boundedText (JsonObject.get auth "client_token" (.str "")) maxAuthString true
          if clientToken.isEmpty && mfaRequirement.isNone then
            refuse "OpenBao authentication returned neither a token nor an MFA challenge."
          else do
            let accessor ← boundedText (JsonObject.get auth "accessor" (.str "")) 1000 true
            let policies ← stringTuple (JsonObject.get auth "policies" .null) "token policies"
            let identityPolicies ← stringTuple (JsonObject.get auth "identity_policies" .null) "identity policies"
            let metadata ← normalizeMetadata (JsonObject.get auth "metadata" .null)
            let materialMetadata ← normalizeMaterialMetadata (JsonObject.get auth "metadata" .null)
            let leaseDuration ← integer (JsonObject.get auth "lease_duration" (.int 0)) "token lease duration"
            let renewable ← boolean (JsonObject.get auth "renewable" (.bool false)) "token renewable state"
            let entityId ← boundedText (JsonObject.get auth "entity_id" (.str "")) 1000 true
            let tokenType ← boundedText (JsonObject.get auth "token_type" (.str "")) 100 true
            return {
              clientToken
              accessor
              policies
              identityPolicies
              metadata
              materialMetadata
              leaseDuration
              renewable
              entityId
              tokenType
              mfaRequirement }
      | _ => refuse "OpenBao returned an invalid authentication response."
  | _ => refuse "OpenBao returned an invalid authentication response."

end Authentication

end NetboxOpenbao
