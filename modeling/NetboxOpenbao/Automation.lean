import NetboxOpenbao.Services.Views

/-!
# What automation reads of a credential

The lifecycle and validity decision, the identity an authorization is frozen with, and the selection of
the expiry scan. None of them reads material: they take the extracted columns and the version-bound
fingerprint as descriptions of the served version.
-/

namespace NetboxOpenbao

/-- The validity window of `_check_credential`. -/
def withinWindow (c : Credential) (now : Time) : Bool :=
  !c.columns.validFrom.any (fun validFrom => validFrom > now) &&
    !c.columns.validUntil.any (fun validUntil => validUntil ≤ now)

/-- `_check_credential`: object permissions, the lifecycle status, the validity window, the group gate.
`restricts` is the queryset NetBox restricts to the rows the actor may reveal. -/
def checkCredential (restricts : Credential → Bool) (policy : CredentialPolicy) (actor : User) (now : Time)
    (c : Credential) : Bool :=
  restricts c && (c.status == .active || c.status == .staged) && withinWindow c now &&
    (policy.groups.isEmpty || actor.isSuperuser || actor.groups.any fun group => policy.groups.contains group)

/-- `re.fullmatch(r'SHA256:[A-Za-z0-9+/]{43}', fingerprint)`. -/
def isSshFingerprint (fingerprint : String) : Bool :=
  let body := fingerprint.toList.drop 7
  fingerprint.toList.take 7 == "SHA256:".toList && body.length == 43 &&
    body.all fun c => c.isAlphanum || c == '+' || c == '/'

/-- `live_key_fingerprint`. -/
def liveKeyFingerprint (config : Config) (c : Credential) : Except Error String := do
  let schema ← getSchema config c.credentialType
  if schema.extractor != some "ssh" then return c.columns.fingerprint
  if c.liveKeyVersion != c.liveKvVersion || !isSshFingerprint c.liveKeyFingerprint then
    throw (.openbao .base "The live credential identity is not verified.")
  return c.liveKeyFingerprint

/-- What identifies an assignment: its primary key, its purpose and its target. -/
structure AssignmentIdentity where
  assignmentId : Nat
  purpose : String
  objectType : String
  objectId : Nat
deriving DecidableEq, Repr

/-- The snapshot `_identity` returns; the digests stand for the values they are taken of. -/
structure ReferenceIdentity where
  credentialUuid : String
  assignment : AssignmentIdentity
  username : String
  fingerprint : String
  credentialType : String
  policyId : Nat
  engineId : Nat
  selectors : SecretEngine
  credentialPath : String
  vaultFields : List (String × FieldSpec)
  jsonSchema : Option Value
  extractor : Option String

/-- `_identity`. -/
def identity (config : Config) (assignment : AssignmentIdentity) (c : Credential) :
    Except Error ReferenceIdentity := do
  let policy ← (config.policies c.policyId).elim (.error .doesNotExist) .ok
  let engine ← (config.engines c.engineId).elim (.error .doesNotExist) .ok
  if policy.engineId != c.engineId then throw (.raised "AutomationResolutionDenied")
  let schema ← getSchema config c.credentialType
  let fingerprint ← liveKeyFingerprint config c
  return {
    credentialUuid := c.uuid
    assignment
    username := c.username
    fingerprint
    credentialType := c.credentialType
    policyId := c.policyId
    engineId := c.engineId
    selectors := engine
    credentialPath := c.path
    vaultFields := schema.vaultFields
    jsonSchema := schema.stored.map (·.schema)
    extractor := schema.extractor }

/-- The rows `ExpiryScanJob` marks expired. -/
def expirySelects (c : Credential) (now : Time) : Bool :=
  c.columns.validUntil.any (fun validUntil => validUntil ≤ now) &&
    !(c.status == .expired || c.status == .retired)

end NetboxOpenbao
