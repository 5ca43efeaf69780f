import Mathlib.Algebra.Ring.Nat
import NetboxOpenbao.Administration.Json

/-!
# The metadata beside the material

The KV v2 `custom_metadata` envelope by which tooling outside NetBox finds a credential's secret, and its publication
after the commit. The rows carry the bounds of their columns; a credential has as many assignments as there are objects
to assign it to.
-/

namespace NetboxOpenbao.CustomMetadata

/-! ### The rows -/

structure ContentType where
  appLabel : String
  model : String
  appLabel_le : appLabel.length ≤ 100
  model_le : model.length ≤ 100

structure CredentialAssignment where
  assignedObjectType : ContentType
  assignedObjectId : Nat
  assignedObjectId_lt : assignedObjectId < 2 ^ 63

/-- A credential row, with the slug of its policy. -/
structure Credential where
  pk : Nat
  uuid : BitVec 128
  credentialType : String
  policy : Option String
  importSource : String
  assignments : List CredentialAssignment
  pk_lt : pk < 2 ^ 63
  credentialType_le : credentialType.length ≤ 50
  policy_le : ∀ slug ∈ policy, slug.length ≤ 100
  importSource_le : importSource.length ≤ 200

/-- `str(uuid)`: 32 hexadecimal digits in five groups. -/
def uuidText (uuid : BitVec 128) : String :=
  let digits := (Nat.toDigits 16 uuid.toNat).leftpad 32 '0'
  String.ofList ((digits.take 8 ++ '-' :: (digits.drop 8).take 4) ++ ('-' :: (digits.drop 12).take 4 ++
    '-' :: (digits.drop 16).take 4) ++ '-' :: digits.drop 20)

/-! ### The envelope -/

/-- What the envelope takes from outside the row: the `SITE_URL` setting, empty when it is not set, and
`get_absolute_url` by primary key, which may raise. -/
structure Site where
  siteUrl : String
  absoluteUrl : Nat → Option String

abbrev Metadata := List (String × String)

/-- `<app>.<model>:<id>`. -/
def CredentialAssignment.label (assignment : CredentialAssignment) : String :=
  assignment.assignedObjectType.appLabel ++ "." ++ assignment.assignedObjectType.model ++ ":" ++
    Nat.repr assignment.assignedObjectId

/-- `build_custom_metadata`. -/
def buildCustomMetadata (site : Site) (credential : Credential) : Metadata :=
  let assignments := ",".intercalate (credential.assignments.map CredentialAssignment.label)
  let metadata :=
    [("managed_by", "netbox-openbao"),
      ("netbox_credential_id", Nat.repr credential.pk),
      ("netbox_credential_uuid", uuidText credential.uuid),
      ("netbox_credential_type", credential.credentialType),
      ("netbox_policy", credential.policy.getD ""),
      ("netbox_assignments", assignments)]
  let source :=
    if credential.importSource != "" then [("netbox_import_source", credential.importSource)] else []
  let base := Text.rstripSlashes site.siteUrl
  -- A URL that does not resolve is left out.
  let url :=
    if base != "" then (site.absoluteUrl credential.pk).toList.map fun url => ("netbox_url", base ++ url) else []
  (metadata ++ source ++ url).filter fun entry => entry.2 != ""

/-! ### Publication -/

/-- How a publication ends. -/
inductive Publication where
  | gone
  | published (metadata : Metadata)
  | reconciliationRequired
deriving DecidableEq, Repr

/-- `_publish_custom_metadata`, of the row it selects under its lock. `accepts` is what OpenBao makes of an envelope. -/
def publishCustomMetadata (accepts : Metadata → Bool) (site : Site) : Option Credential → Publication
  | none => .gone
  | some credential =>
      let metadata := buildCustomMetadata site credential
      if accepts metadata then .published metadata else .reconciliationRequired

end NetboxOpenbao.CustomMetadata
