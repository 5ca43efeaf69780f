import NetboxOpenbao.Importers.Import

/-!
# Who binds a credential to an object

The writers of assignments and of credential types: the validated edits of both, the quick-add of SSH access, and the
import. An edit is validated first and saved later, and nothing keeps another one from being saved in between; what is
left of its validation besides the rule about SSH bindings is an argument.
-/

namespace NetboxOpenbao.Importers

/-- The content types: their labels and models, and the one of Application Services. -/
structure ContentTypes where
  kind : Nat → Option (String × String)
  service : Nat
  kind_service : kind service = some ("ipam", "service")

def sshCredentialTypes : List String := ["ssh-keypair", "ssh-password"]

def directSshForbiddenTargets : List (String × String) := [("dcim", "device"), ("virtualization", "virtualmachine")]

namespace ContentTypes

variable (types : ContentTypes)

/-- The content type is one that an SSH credential must not be bound to directly. -/
def forbids (contentType : Nat) : Bool := (types.kind contentType).any directSshForbiddenTargets.contains

end ContentTypes

/-! ### Validation -/

/-- The row of a credential. -/
def Tables.credential (tables : Tables) (pk : Nat) : Option Credential :=
  tables.credentials.find? fun row => row.pk == some pk

/-- What an assignment's form or serializer has filled in. `pk` is that of the row it edits. -/
structure Binding where
  pk : Option Nat
  credential : Nat
  assignedObjectType : Nat
  assignedObjectId : Nat
  purpose : String
deriving DecidableEq, Repr

section Validation

variable (config : Config) (types : ContentTypes) (permitted : List String)

/-- `_is_new_direct_ssh_binding`. -/
def isNewDirectSshBinding (tables : Tables) (binding : Binding) (credential : Credential) : Bool :=
  if !sshCredentialTypes.contains credential.credentialType || !types.forbids binding.assignedObjectType then false
  else match binding.pk with
    | none => true
    | some pk =>
        let persisted := (tables.assignments.find? fun row => row.pk == pk).map fun row =>
          (row.credential, row.assignedObjectType, row.assignedObjectId)
        persisted != some (binding.credential, binding.assignedObjectType, binding.assignedObjectId)

/-- `CredentialAssignment.full_clean`. Its keys are those of rows that exist. -/
def cleanAssignment (tables : Tables) (binding : Binding) : Except Error Unit :=
  match tables.credential binding.credential, types.kind binding.assignedObjectType with
  | some credential, some (appLabel, model) =>
      let label := appLabel ++ "." ++ model
      if !permitted.contains label then
        let listed := ", ".intercalate permitted
        .error (.validation "assigned_object_type" ("Credentials may not be assigned to " ++ label ++
          ". Permitted types: " ++ (if listed = "" then "none configured" else listed) ++ "."))
      else if isNewDirectSshBinding types tables binding credential then
        .error (.validation "__all__" ("SSH credentials must be assigned to an SSH Application Service, " ++
          "not directly to a device or virtual machine."))
      else .ok ()
  | none, _ => .error (.validation "credential" "credential instance does not exist.")
  | _, none => .error (.validation "assigned_object_type" "content type instance does not exist.")

/-- `_reject_ssh_type_with_direct_assignments`. -/
def rejectSshTypeWithDirectAssignments (tables : Tables) (pk : Nat) (credentialType : String) : Except Error Unit :=
  if !sshCredentialTypes.contains credentialType then .ok ()
  else if ((tables.credential pk).map Credential.credentialType).any sshCredentialTypes.contains then .ok ()
  else if tables.assignments.any fun row => row.credential == pk && types.forbids row.assignedObjectType then
    .error (.validation "credential_type" ("This credential is assigned directly to a device or virtual machine; " ++
      "move it to an SSH Application Service before making it an SSH credential."))
  else .ok ()

/-- `Credential.clean` of a row that is there, as far as it looks at the type. -/
def cleanType (tables : Tables) (pk : Nat) (credentialType : String) : Except Error Unit :=
  if !isKnownCredentialType config credentialType then
    .error (.validation "credential_type" ("Unknown credential type: " ++ credentialType ++ "."))
  else rejectSshTypeWithDirectAssignments types tables pk credentialType

/-- A validated edit. -/
inductive Change where
  | bind (binding : Binding)
  | retype (pk : Nat) (credentialType : String)
deriving DecidableEq, Repr

def Change.fullClean (tables : Tables) : Change → Except Error Unit
  | .bind binding => cleanAssignment types permitted tables binding
  | .retype pk credentialType => cleanType config types tables pk credentialType

end Validation

/-! ### Saving -/

/-- `save()` of an assignment: a row is added, or takes what the form has filled in. -/
def saveAssignment (tables : Tables) (binding : Binding) : Tables :=
  match binding.pk with
  | none =>
      { tables with
        assignments := tables.assignments ++ [⟨tables.nextAssignment, binding.credential, binding.assignedObjectType,
          binding.assignedObjectId, binding.purpose⟩]
        nextAssignment := tables.nextAssignment + 1 }
  | some pk =>
      { tables with
        assignments := tables.assignments.map fun row =>
          if row.pk = pk then
            ⟨pk, binding.credential, binding.assignedObjectType, binding.assignedObjectId, binding.purpose⟩
          else row }

def saveType (tables : Tables) (pk : Nat) (credentialType : String) : Tables :=
  { tables with
    credentials := tables.credentials.map fun row => if row.pk = some pk then { row with credentialType } else row }

/-- The database refuses an assignment of a credential that is not there. -/
def Change.save (tables : Tables) : Change → Tables
  | .bind binding =>
      if (tables.credential binding.credential).isSome then saveAssignment tables binding else tables
  | .retype pk credentialType => saveType tables pk credentialType

/-! ### Quick-add -/

/-- A request for SSH access through the service it has found or created. -/
structure QuickAdd where
  existingCredential : Option Nat
  authMethod : String
  policy : CredentialPolicy
  name : String
  username : String
  uuid : String
  payload : Payload
  service : Nat
  purpose : String

/-- `_assign`: `get_or_create`, with no validation. -/
def assign (types : ContentTypes) (tables : Tables) (credential object : Nat) (purpose : String) : Tables :=
  if tables.assignments.any fun row => row.credential == credential && row.assignedObjectType == types.service &&
      row.assignedObjectId == object && row.purpose == purpose then tables
  else saveAssignment tables ⟨none, credential, types.service, object, purpose⟩

/-- The type of the credential a quick-add stores. -/
def QuickAdd.credentialType (request : QuickAdd) : String :=
  if request.authMethod = "password" then "ssh-password" else "ssh-keypair"

/-- The instance a quick-add stores, with its public columns. -/
def QuickAdd.credential (request : QuickAdd) (columns : PublicColumns) : Credential where
  pk := none
  uuid := request.uuid
  name := request.name
  credentialType := request.credentialType
  policy := request.policy.pk
  engine := request.policy.engine
  path := ""
  username := request.username
  columns
  importSource := ""
  kvVersion := none

/-- `quick_add_ssh` from the service on. `version` is what the backend answers, when nothing else fails. -/
def quickAddSsh [MaterialLibrary] (config : Config) (types : ContentTypes) (tables : Tables) (request : QuickAdd)
    (version : Option Nat) : Except String Tables :=
  match request.existingCredential, version with
  | some pk, some _ =>
      match tables.credential pk with
      | some _ => .ok (assign types tables pk request.service request.purpose)
      | none => .error "ValidationError"
  | none, some version => do
      let (_, metadata) ← (prepareMaterial config request.credentialType request.payload).mapError exceptionName
      let credential := request.credential (metadata.apply PublicColumns.blank)
      fullClean config request.policy tables credential
      let row := { insertedRow config tables.nextCredential credential with kvVersion := some version }
      if occupied tables.credentials row then .error "IntegrityError"
      else
        let stored := { tables with
          credentials := tables.credentials ++ [row]
          nextCredential := tables.nextCredential + 1 }
        .ok (assign types stored tables.nextCredential request.service request.purpose)
  | _, none => .error "OpenBaoUnavailable"

/-! ### The system -/

/-- The estate, and the edits that have been validated and are not saved yet. -/
structure Desk where
  estate : Estate
  validated : List Change

inductive Operation where
  /-- `valid`: whatever else the validation looks at passes. -/
  | submit (change : Change) (valid : Bool)
  | save (i : Nat)
  | quickAdd (request : QuickAdd) (version : Option Nat)
  | importSecrets (options : ImportOptions) (attempts : List Attempt)

namespace Desk

variable [MaterialLibrary] (config : Config) (slugify : String → String) (types : ContentTypes)
  (permitted : List String)

def step (desk : Desk) : Operation → Desk
  | .submit change valid =>
      match change.fullClean config types permitted desk.estate.tables, valid with
      | .ok (), true => { desk with validated := desk.validated ++ [change] }
      | _, _ => desk
  | .save i =>
      match desk.validated[i]? with
      | some change =>
          { estate := { desk.estate with tables := change.save desk.estate.tables }
            validated := desk.validated.eraseIdx i }
      | none => desk
  | .quickAdd request version =>
      match quickAddSsh config types desk.estate.tables request version with
      | .ok tables => { desk with estate := { desk.estate with tables } }
      | .error _ => desk
  | .importSecrets options attempts =>
      { desk with estate := (Importers.importSecrets config slugify options attempts desk.estate).2.estate }

end Desk

end NetboxOpenbao.Importers
