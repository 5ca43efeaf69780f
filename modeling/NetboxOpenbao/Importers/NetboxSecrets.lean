import NetboxOpenbao.Administration.Templates
import NetboxOpenbao.Backends
import NetboxOpenbao.Registry

/-!
# Migration from netbox-secrets

The rows an import reads and writes, the type it infers for a source, the policy it chooses, and the steps of one
copy: the instance, its validation, the row, the material, the assignment. `slugify` is Django's.
-/

namespace NetboxOpenbao.Importers

/-! ### The sources -/

structure SourceSecret where
  pk : Nat
  name : String
  plaintext : String
  roleName : String
  username : String
  assignedObjectTypeId : Option Nat
  assignedObjectId : Option Nat
deriving DecidableEq, Repr

def sourceSystem : String := "netbox_secrets"

def sourceMarker (pk : Nat) : String := s!"{sourceSystem}:{pk}"

/-- `s[:n]`. -/
def sliced (s : String) (n : Nat) : String := String.ofList (s.toList.take n)

/-! ### The rows -/

structure CredentialPolicy where
  pk : Nat
  name : String
  slug : String
  engine : Nat
  openbaoPolicy : String
  description : String
deriving DecidableEq, Repr

/-- A credential row, and equally the in-memory instance of one, which has no primary key yet. -/
structure Credential where
  pk : Option Nat
  uuid : String
  name : String
  credentialType : String
  policy : Nat
  engine : Nat
  path : String
  username : String
  columns : PublicColumns
  importSource : String
  kvVersion : Option Nat
deriving DecidableEq, Repr

structure CredentialAssignment where
  pk : Nat
  credential : Nat
  assignedObjectType : Nat
  assignedObjectId : Nat
  purpose : String
deriving DecidableEq, Repr

/-- What is committed. The sequences are the primary keys the tables give out next. -/
structure Tables where
  policies : List CredentialPolicy
  credentials : List Credential
  assignments : List CredentialAssignment
  contentTypes : List Nat
  nextPolicy : Nat
  nextCredential : Nat
  nextAssignment : Nat

/-! ### The type of a source -/

section Inference

variable [MaterialLibrary]

def parsesAs (extractor : Value → Except Error Metadata) (text : String) : Bool := (extractor (.str text)).isOk

/-- `infer_credential_type`. -/
def inferCredentialType (plaintext : String) : String × Payload :=
  let original := plaintext
  let text := Text.strip original
  let hasCertificate := Text.contains text "BEGIN CERTIFICATE"
  let hasPrivateKey := Text.contains text "PRIVATE KEY"
  let parsesAsKey := hasPrivateKey && parsesAs (extractSshMetadata · none) text
  if hasCertificate && parsesAs extractCertificateMetadata text then
    if parsesAsKey then ("x509-keypair", [("private_key", .str original), ("certificate", .str original)])
    else ("x509-ca", [("certificate", .str original)])
  else if parsesAsKey then ("ssh-keypair", [("private_key", .str original)])
  else if text != "" && !text.toList.contains '\n' then ("password", [("password", .str original)])
  else ("generic-kv", [("value", .str original)])

end Inference

/-! ### The policy of a source -/

/-- `slugify(role_name)[:100] or 'imported'`. -/
def roleSlug (slugify : String → String) (roleName : String) : String :=
  let slug := sliced (slugify roleName) 100
  if slug = "" then "imported" else slug

/-- The policy `get_or_create` makes for a role. -/
def rolePolicy (slugify : String → String) (engine : Nat) (roleName : String) (pk : Nat) : CredentialPolicy :=
  let slug := roleSlug slugify roleName
  { pk
    name := sliced roleName 100
    slug
    engine
    openbaoPolicy := s!"netbox-{slug}"
    description := "Imported from a netbox-secrets role" }

/-- `CredentialPolicy.objects.get_or_create(slug=…)`: the policy, and whether it has been created. Names are unique as
slugs are, so the policy of a new slug may still be refused. -/
def getOrCreatePolicy (slugify : String → String) (engine : Nat) (roleName : String) (tables : Tables) :
    Except String (CredentialPolicy × Bool × Tables) :=
  let slug := roleSlug slugify roleName
  match tables.policies.find? fun policy => policy.slug == slug with
  | some policy => .ok (policy, false, tables)
  | none =>
      let policy := rolePolicy slugify engine roleName tables.nextPolicy
      if tables.policies.any fun other => other.name == policy.name then .error "IntegrityError"
      else
        .ok (policy, true,
          { tables with
            policies := tables.policies ++ [policy]
            nextPolicy := tables.nextPolicy + 1 })

/-- What `_policy_for` returns and leaves. -/
structure ChosenPolicy where
  policy : CredentialPolicy
  tables : Tables
  cache : List (String × CredentialPolicy)
  needingSetup : List String

/-- `_policy_for`. -/
def policyFor (slugify : String → String) (source : SourceSecret) (engine : Nat) (fallback : CredentialPolicy)
    (mapRoles : Bool) (tables : Tables) (cache : List (String × CredentialPolicy)) (needingSetup : List String) :
    Except String ChosenPolicy :=
  if !mapRoles || source.roleName == "" then .ok ⟨fallback, tables, cache, needingSetup⟩
  else
    let slug := roleSlug slugify source.roleName
    match cache.lookup slug with
    | some policy => .ok ⟨policy, tables, cache, needingSetup⟩
    | none =>
        match getOrCreatePolicy slugify engine source.roleName tables with
        | .error exception => .error exception
        | .ok (policy, created, tables) =>
            .ok ⟨policy, tables, (slug, policy) :: cache,
              if created then needingSetup ++ [policy.openbaoPolicy] else needingSetup⟩

/-! ### One copy -/

/-- `type(exc).__name__`. -/
def exceptionName : Error → String
  | .openbao .base _ => "OpenBaoError"
  | .openbao .configuration _ => "BackendConfigurationError"
  | .openbao .auth _ => "OpenBaoAuthError"
  | .openbao .notFound _ => "OpenBaoNotFound"
  | .openbao .conflict _ => "OpenBaoConflict"
  | .openbao .unavailable _ => "OpenBaoUnavailable"
  | .openbao .mutationUnknown _ => "OpenBaoMutationUnknown"
  | .validation _ _ => "ValidationError"
  | .permissionDenied _ => "PermissionDenied"
  | .doesNotExist => "DoesNotExist"
  | .keyError _ => "KeyError"
  | .database failure => if failure.integrity then "IntegrityError" else "OperationalError"
  | .schema _ => "CapabilitySchemaError"
  | .audit _ => "AdministrationAuditError"
  | .raised what => what

/-- The instance the loop builds for a source. -/
def newCredential (source : SourceSecret) (credentialType : String) (policy : CredentialPolicy) (engine : Nat)
    (uuid : String) : Credential where
  pk := none
  uuid
  name := sliced (if source.name = "" then s!"netbox-secrets #{source.pk}" else source.name) 200
  credentialType
  policy := policy.pk
  engine
  path := ""
  username := sliced source.username 200
  columns := PublicColumns.blank
  importSource := sourceMarker source.pk
  kvVersion := none

/-- `clean_fields`: what is filled in fits its column. -/
def fieldsFit (credential : Credential) : Bool :=
  credential.name != "" && credential.name.length ≤ 200 && credential.credentialType.length ≤ 50 &&
    credential.username.length ≤ 200 && credential.columns.fingerprint.length ≤ 128 &&
    credential.columns.keyType.length ≤ 50 && credential.columns.certSerial.length ≤ 128 &&
    credential.columns.certSubject.length ≤ 500 && credential.columns.certIssuer.length ≤ 500 &&
    credential.importSource.length ≤ 200

/-- `clean`. A new instance is not held to the rule about direct assignments. -/
def cleanPasses (config : Config) (policy : CredentialPolicy) (credential : Credential) : Bool :=
  isKnownCredentialType config credential.credentialType && policy.engine == credential.engine &&
    match credential.columns.validFrom, credential.columns.validUntil with
    | some validFrom, some validUntil => validFrom ≤ validUntil
    | _, _ => true

/-- The unique constraints of the table. -/
def occupied (credentials : List Credential) (credential : Credential) : Bool :=
  credentials.any fun other =>
    other.uuid == credential.uuid || (other.engine == credential.engine && other.path == credential.path) ||
      (credential.importSource != "" && other.importSource == credential.importSource)

/-- `full_clean` of the instance. -/
def fullClean (config : Config) (policy : CredentialPolicy) (tables : Tables) (credential : Credential) :
    Except String Unit :=
  if fieldsFit credential && cleanPasses config policy credential && !occupied tables.credentials credential then .ok ()
  else .error "ValidationError"

/-- What is about to be stored: the validated instance, and its payload without blank entries. -/
structure Prepared where
  credential : Credential
  payload : Payload

/-- The block up to the row: `prepare_material`, `derive_key_fingerprint`, and `persist` as far as its `full_clean`. -/
def prepareCopy [MaterialLibrary] (config : Config) (tables : Tables) (policy : CredentialPolicy) (engine : Nat)
    (source : SourceSecret) (uuid : String) : Except String Prepared := do
  let (credentialType, payload) := inferCredentialType source.plaintext
  let (clean, metadata) ← (prepareMaterial config credentialType payload).mapError exceptionName
  let _ ← (deriveKeyFingerprint config credentialType clean).mapError exceptionName
  let instance_ := newCredential source credentialType policy engine uuid
  let credential := { instance_ with columns := metadata.apply instance_.columns }
  fullClean config policy tables credential
  .ok ⟨credential, clean⟩

/-- `save()` of the instance: its path, and the next primary key. -/
def insertedRow (config : Config) (pk : Nat) (credential : Credential) : Credential :=
  { credential with
    pk := some pk
    path := config.pathPrefix ++ "/credentials/" ++ credential.uuid }

/-- The assignment of a source that has both an object and its type. -/
def sourceAssignment (source : SourceSecret) (credential pk : Nat) : Option CredentialAssignment :=
  match source.assignedObjectTypeId, source.assignedObjectId with
  | some (assignedObjectType + 1), some (assignedObjectId + 1) =>
      some ⟨pk, credential, assignedObjectType + 1, assignedObjectId + 1, "login"⟩
  | _, _ => none

/-- The database lets a block with this assignment commit: its content type exists. -/
def assignable (tables : Tables) : Option CredentialAssignment → Bool
  | some assignment => tables.contentTypes.contains assignment.assignedObjectType
  | none => true

/-- The commit of a block that has stored a credential and its assignment. -/
def commitCopy (tables : Tables) (credential : Credential) (assignment : Option CredentialAssignment) : Tables :=
  { tables with
    credentials := tables.credentials ++ [credential]
    assignments := tables.assignments ++ assignment.toList
    nextAssignment := tables.nextAssignment + assignment.toList.length }

end NetboxOpenbao.Importers
