import NetboxOpenbao.Models
import NetboxOpenbao.Errors

/-!
# Credential types, payload validation and metadata extraction

Which fields a payload may have, and which public attributes are read out of it. Parsing keys and
certificates and evaluating a JSON Schema belong to libraries; `MaterialLibrary` is what is used of
them.
-/

namespace NetboxOpenbao

structure FieldSpec where
  required : Bool
  secret : Bool
deriving DecidableEq, Repr

structure Schema where
  vaultFields : List (String × FieldSpec)
  extractor : Option String
  allowArbitraryKeys : Bool
  stored : Option CredentialTypeSchema

/-- What an X.509 parser reads out of a certificate. -/
structure Certificate where
  subject : String
  issuer : String
  serial : String
  notValidBefore : Time
  notValidAfter : Time
  fingerprint : String
  keyType : String
  publicKey : String

/-- The third-party parsers and validators. A loader or an encoder that raises is `none`;
`jsonschemaFailure` is the path a JSON Schema validator reports, if it rejects the instance. -/
class MaterialLibrary where
  Key : Type
  loadSshPrivateKey : Value → Option Value → Option Key
  loadPemPrivateKey : Value → Option Value → Option Key
  opensshPublicKey : Key → Option String
  sshFingerprint : String → Option String
  sshKeyType : Key → String
  loadPemCertificate : Value → Option Certificate
  loadDerCertificate : Value → Option Certificate
  jsonschemaFailure : Value → Payload → Option String

/-- The columns extraction assigns; a column it does not name keeps its value. -/
structure Metadata where
  publicKey : Option String
  fingerprint : Option String
  keyType : Option String
  certSerial : Option String
  certSubject : Option String
  certIssuer : Option String
  validFrom : Option Time
  validUntil : Option Time
deriving DecidableEq, Repr

namespace Metadata

def empty : Metadata := ⟨none, none, none, none, none, none, none, none⟩

/-- `for field, value in metadata.items(): setattr(credential, field, value)`. -/
def apply (m : Metadata) (c : PublicColumns) : PublicColumns where
  publicKey := m.publicKey.getD c.publicKey
  fingerprint := m.fingerprint.getD c.fingerprint
  keyType := m.keyType.getD c.keyType
  certSerial := m.certSerial.getD c.certSerial
  certSubject := m.certSubject.getD c.certSubject
  certIssuer := m.certIssuer.getD c.certIssuer
  validFrom := m.validFrom <|> c.validFrom
  validUntil := m.validUntil <|> c.validUntil

@[simp] theorem apply_empty (c : PublicColumns) : empty.apply c = c := rfl

/-- Assigning the same attributes twice is assigning them once. -/
@[simp] theorem apply_apply (m : Metadata) (c : PublicColumns) : m.apply (m.apply c) = m.apply c := by
  obtain ⟨pk, fp, kt, cs, csub, ci, vf, vu⟩ := m
  cases pk <;> cases fp <;> cases kt <;> cases cs <;> cases csub <;> cases ci <;> cases vf <;>
    cases vu <;> rfl

end Metadata

/-! ### Extractors -/

section Extractors

variable [library : MaterialLibrary]

/-- `password = _as_bytes(passphrase) if passphrase else None`. -/
def passwordOf (passphrase : Option Value) : Option Value :=
  passphrase.bind fun p => if p.truthy then some p else none

def extractSshMetadata (privateKey : Value) (passphrase : Option Value) : Except Error Metadata :=
  let password := passwordOf passphrase
  let key := library.loadSshPrivateKey privateKey password <|>
    library.loadPemPrivateKey privateKey password
  match key with
  | none => .error (.validation "private_key"
      "Unable to parse the private key. Supply an OpenSSH or PEM key, and a passphrase if the key is encrypted.")
  | some key =>
    match library.opensshPublicKey key with
    | none => .error (.validation "private_key" "Key type is not supported for SSH use.")
    | some openssh =>
      match library.sshFingerprint openssh with
      | none => .error (.validation "public_key" "Value is not a valid OpenSSH public key.")
      | some fingerprint => .ok { Metadata.empty with
          publicKey := some openssh
          fingerprint := some fingerprint
          keyType := some (library.sshKeyType key) }

def extractCertificateMetadata (certificate : Value) : Except Error Metadata :=
  match library.loadPemCertificate certificate <|> library.loadDerCertificate certificate with
  | none => .error (.validation "certificate" "Unable to parse the certificate as PEM or DER.")
  | some cert => .ok {
      publicKey := some cert.publicKey
      fingerprint := some cert.fingerprint
      keyType := some cert.keyType
      certSerial := some cert.serial
      certSubject := some cert.subject
      certIssuer := some cert.issuer
      validFrom := some cert.notValidBefore
      validUntil := some cert.notValidAfter }

/-- `payload['field']`. -/
def Payload.get (payload : Payload) (field : String) : Except Error Value :=
  match payload.lookup field with
  | some value => .ok value
  | none => .error (.keyError field)

/-- `EXTRACTORS.get(extractor)`: the fixed mapping from a short name to a vetted function. -/
def extractors : String → Option (Payload → Except Error Metadata)
  | "ssh" => some fun payload => do
      let privateKey ← payload.get "private_key"
      extractSshMetadata privateKey (payload.lookup "passphrase")
  | "x509" => some fun payload => do
      let certificate ← payload.get "certificate"
      extractCertificateMetadata certificate
  | _ => none

end Extractors

/-! ### Schemas -/

private def required : FieldSpec := ⟨true, true⟩
private def requiredPublic : FieldSpec := ⟨true, false⟩
private def optional : FieldSpec := ⟨false, true⟩
private def optionalPublic : FieldSpec := ⟨false, false⟩

private def builtin (fields : List (String × FieldSpec)) (extractor : Option String) : Schema :=
  ⟨fields, extractor, false, none⟩

/-- `CREDENTIAL_SCHEMAS`. -/
def credentialSchemas : List (String × Schema) :=
  [("password", builtin [("password", required)] none),
   ("ssh-password", builtin [("password", required)] none),
   ("api-token", builtin [("token", required)] none),
   ("ssh-keypair", builtin [("private_key", required), ("passphrase", optional),
      ("public_key", optionalPublic)] (some "ssh")),
   ("x509-keypair", builtin [("private_key", required), ("certificate", requiredPublic),
      ("chain", optionalPublic)] (some "x509")),
   ("x509-ca", builtin [("private_key", optional), ("certificate", requiredPublic)] (some "x509")),
   ("snmp-v3", builtin [("auth_password", required), ("priv_password", optional),
      ("auth_protocol", optionalPublic), ("priv_protocol", optionalPublic)] none),
   ("wireguard", builtin [("private_key", required), ("preshared_key", optional),
      ("public_key", optionalPublic)] none),
   ("generic-kv", { vaultFields := [], extractor := none, allowArbitraryKeys := true, stored := none })]

/-- `_as_schema`: a stored type in the shape of the built-in ones. -/
def asSchema (stored : CredentialTypeSchema) : Schema where
  vaultFields := stored.properties.map fun name =>
    (name, ⟨stored.required.contains name, stored.secretFields.contains name⟩)
  extractor := if stored.extractor = "" then none else some stored.extractor
  allowArbitraryKeys := false
  stored := some stored

def storedSchema (config : Config) (credentialType : String) : Option CredentialTypeSchema :=
  config.schemas.find? fun schema => schema.slug == credentialType

def getSchema (config : Config) (credentialType : String) : Except Error Schema :=
  match credentialSchemas.lookup credentialType with
  | some schema => .ok schema
  | none =>
    match storedSchema config credentialType with
    | some stored => .ok (asSchema stored)
    | none => .error (.validation "credential_type" ("Unknown credential type: " ++ credentialType ++ "."))

def isKnownCredentialType (config : Config) (value : String) : Bool :=
  (credentialSchemas.lookup value).isSome || (storedSchema config value).isSome

/-! ### Validation and extraction -/

section Material

variable [library : MaterialLibrary]

/-- `sorted(names)` joined by commas. -/
private def listed (names : List String) : String := ", ".intercalate (names.mergeSort fun a b => a ≤ b)

/-- Blank entries are dropped before anything is checked. -/
def cleaned (data : Payload) : Payload := data.filter fun entry => !entry.2.blank

/-- `validate_payload`, on a payload that is a dict. -/
def validatePayload (config : Config) (credentialType : String) (data : Payload) :
    Except Error Payload := do
  let schema ← getSchema config credentialType
  let clean := cleaned data
  let missing := (schema.vaultFields.filter fun field =>
    field.2.required && !((clean.lookup field.1).any Value.truthy)).map Prod.fst
  if !missing.isEmpty then
    throw (.validation "secret_data"
      ("Missing required field(s) for this credential type: " ++ listed missing ++ "."))
  let unknown := (clean.filter fun entry => (schema.vaultFields.lookup entry.1).isNone).map Prod.fst
  if !schema.allowArbitraryKeys && !unknown.isEmpty then
    throw (.validation "secret_data"
      ("Unsupported field(s) for this credential type: " ++ listed unknown ++ "."))
  match schema.stored with
  | some stored =>
    match library.jsonschemaFailure stored.schema clean with
    | some path => throw (.validation "secret_data"
        ("Does not match the schema for this credential type (at: " ++
          (if path = "" then "payload" else path) ++ ")."))
    | none => pure ()
  | none => pure ()
  if clean.isEmpty then throw (.validation "secret_data" "Secret data must not be empty.")
  return clean

/-- The attributes derivable from a payload, none of them when the deployment has opted out of storing
public material or the type has no extractor. -/
def extractMetadata (config : Config) (credentialType : String) (payload : Payload) :
    Except Error Metadata := do
  if !config.storePublicMaterial then return Metadata.empty
  let schema ← getSchema config credentialType
  match schema.extractor.bind extractors with
  | none => return Metadata.empty
  | some run => run payload

def prepareMaterial (config : Config) (credentialType : String) (payload : Payload) :
    Except Error (Payload × Metadata) := do
  let clean ← validatePayload config credentialType payload
  let metadata ← extractMetadata config credentialType clean
  return (clean, metadata)

/-! ### Version-bound key identity -/

def usesSshIdentity (config : Config) (credentialType : String) : Except Error Bool := do
  let schema ← getSchema config credentialType
  return schema.extractor == some "ssh"

/-- The SSH fingerprint of the private key in a payload; `payload.get('private_key', '')`. -/
def sshFingerprintOf (payload : Payload) : Except Error String := do
  let metadata ← extractSshMetadata ((payload.lookup "private_key").getD (.str ""))
    (payload.lookup "passphrase")
  return metadata.fingerprint.getD ""

/-- Only the public-key fingerprint, never anything derived from private material. -/
def deriveKeyFingerprint (config : Config) (credentialType : String) (payload : Payload) :
    Except Error String := do
  if ← usesSshIdentity config credentialType then sshFingerprintOf payload else return ""

end Material

end NetboxOpenbao
