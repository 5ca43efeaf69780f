import NetboxOpenbao.Administration.Json
import NetboxOpenbao.Effect.Slots

/-!
# Dropping the service endpoints

The data step of the migration that gives up `ServiceEndpoint`: host-key pins move onto the login assignment of the
endpoint's Application Service, SSH public keys onto the service itself. The step runs in one transaction, so one that
raises leaves the database as it was.
-/

namespace NetboxOpenbao.Migration

open Effect

/-! ### The tables -/

structure ServiceEndpoint where
  pk : Nat
  assignedObjectType : Nat
  assignedObjectId : Nat
  serviceType : String
  sshKnownHostsEntry : String
  sshStrictHostKeyChecking : Bool
  options : Json
  credential : Option Nat

structure CredentialAssignment where
  pk : Nat
  credential : Nat
  assignedObjectType : Nat
  assignedObjectId : Nat
  purpose : String
  enabled : Bool
  sshKnownHostsEntry : String
  sshStrictHostKeyChecking : Bool

structure SSHPublicKey where
  pk : Nat
  user : Nat
  serviceEndpoint : Nat
  publicKey : String
  applicationService : Option Nat

/-- The rows the step reads and writes. `serviceType` is the content type of `ipam.service`, when there is one, and
`nextAssignment` the sequence new assignments take their keys from. -/
structure Database where
  serviceType : Option Nat
  services : List Nat
  endpoints : List ServiceEndpoint
  assignments : List CredentialAssignment
  nextAssignment : Nat
  keys : List SSHPublicKey

/-- The primary keys. -/
structure Database.Keyed (database : Database) : Prop where
  endpoints : (database.endpoints.map ServiceEndpoint.pk).Nodup
  assignments : (database.assignments.map CredentialAssignment.pk).Nodup
  keys : (database.keys.map SSHPublicKey.pk).Nodup

inductive MigrationError where
  | runtimeError (message : String)
  | attributeError
  | multipleObjectsReturned
  | integrityError
deriving DecidableEq, Repr

/-! ### The pins -/

/-- Whether the endpoint has host-key settings to carry over. -/
def ServiceEndpoint.pinned (endpoint : ServiceEndpoint) : Bool :=
  endpoint.sshKnownHostsEntry != "" || endpoint.serviceType == "ssh"

def ServiceEndpoint.slot (endpoint : ServiceEndpoint) : Option Nat × Nat :=
  (endpoint.credential, endpoint.assignedObjectId)

def ServiceEndpoint.setting (endpoint : ServiceEndpoint) : String × Bool :=
  (endpoint.sshKnownHostsEntry, endpoint.sshStrictHostKeyChecking)

/-- `(endpoint.options or {}).get('enabled') is not False`. -/
def ServiceEndpoint.enabled (endpoint : ServiceEndpoint) : Except MigrationError Bool :=
  match if endpoint.options.truthy then endpoint.options else .dict [] with
  | .dict options =>
      match JsonObject.get options "enabled" .null with
      | .bool false => .ok false
      | _ => .ok true
  | _ => .error .attributeError

namespace Database

/-- `live_endpoints`. -/
def liveEndpoints (database : Database) (serviceType : Nat) : List ServiceEndpoint :=
  database.endpoints.filter fun endpoint =>
    endpoint.assignedObjectType == serviceType && database.services.contains endpoint.assignedObjectId

/-- The host-key settings by credential and service. -/
def pins (database : Database) (serviceType : Nat) : Slots ServiceEndpoint :=
  Slots.fill ServiceEndpoint.slot ServiceEndpoint.setting
    (((database.liveEndpoints serviceType).filter fun endpoint => endpoint.credential.isSome && endpoint.pinned).mergeSort
      fun a b => a.pk ≤ b.pk)

def pinConflict (conflict : ServiceEndpoint × ServiceEndpoint) : String :=
  s!"endpoints {conflict.1.pk} and {conflict.2.pk} disagree on the host-key settings"

/-! ### Carrying one endpoint over -/

/-- `get_or_create` of the login assignment. -/
def getOrCreateLogin (database : Database) (serviceType credential service : Nat) (enabled : Bool) :
    Except MigrationError (CredentialAssignment × Database) :=
  let matching := database.assignments.filter fun assignment =>
    assignment.credential == credential && assignment.assignedObjectType == serviceType &&
      assignment.assignedObjectId == service && assignment.purpose == "login"
  match matching with
  | [assignment] => .ok (assignment, database)
  | [] =>
      let assignment : CredentialAssignment :=
        { pk := database.nextAssignment
          credential
          assignedObjectType := serviceType
          assignedObjectId := service
          purpose := "login"
          enabled
          sshKnownHostsEntry := ""
          sshStrictHostKeyChecking := true }
      if database.assignments.any fun other => other.pk == assignment.pk then .error .integrityError
      else
        .ok (assignment,
          { database with
            assignments := database.assignments ++ [assignment]
            nextAssignment := database.nextAssignment + 1 })
  | _ => .error .multipleObjectsReturned

/-- The assignment's save: the two columns, on the row of its primary key. -/
def savePin (database : Database) (pk : Nat) (endpoint : ServiceEndpoint) : Database :=
  { database with
    assignments := database.assignments.map fun assignment =>
      if assignment.pk = pk then
        { assignment with
          sshKnownHostsEntry := endpoint.sshKnownHostsEntry
          sshStrictHostKeyChecking := endpoint.sshStrictHostKeyChecking }
      else assignment }

def carryCredential (database : Database) (serviceType : Nat) (endpoint : ServiceEndpoint) :
    Except MigrationError Database :=
  match endpoint.credential with
  | none => .ok database
  | some credential => do
      let enabled ← endpoint.enabled
      let (assignment, database) ←
        database.getOrCreateLogin serviceType credential endpoint.assignedObjectId enabled
      .ok (if endpoint.pinned then database.savePin assignment.pk endpoint else database)

/-- The update of the endpoint's keys. -/
def moveKeys (database : Database) (endpoint : ServiceEndpoint) : Database :=
  { database with
    keys := database.keys.map fun key =>
      if key.serviceEndpoint = endpoint.pk then { key with applicationService := some endpoint.assignedObjectId }
      else key }

def carryEndpoint (serviceType : Nat) (database : Database) (endpoint : ServiceEndpoint) :
    Except MigrationError Database := do
  let database ← database.carryCredential serviceType endpoint
  .ok (database.moveKeys endpoint)

/-! ### The keys -/

def dropUnmapped (database : Database) : Database :=
  { database with keys := database.keys.filter fun key => key.applicationService.isSome }

/-- The keys by user and service; the public keys are compared without the whitespace around them. -/
def seenKeys (database : Database) : Slots SSHPublicKey :=
  Slots.fill (fun key => (key.user, key.applicationService)) (fun key => Text.strip key.publicKey)
    (database.keys.mergeSort fun a b => a.pk ≤ b.pk)

def keyConflict (conflict : SSHPublicKey × SSHPublicKey) : String :=
  s!"user {conflict.2.user} on service {conflict.2.applicationService.getD 0}: keys {conflict.1.pk} and {conflict.2.pk} differ"

def collapseKeys (database : Database) : Except MigrationError Database :=
  let seen := database.seenKeys
  if seen.conflicts.isEmpty then
    .ok { database with
          keys := database.keys.filter fun key => !(seen.repeated.map SSHPublicKey.pk).contains key.pk }
  else
    .error (.runtimeError ("Cannot move SSH public keys onto Application Services; remove or reconcile these rows " ++
      "first: " ++ "; ".intercalate (seen.conflicts.map keyConflict)))

/-- `carry_over_endpoint_data`. The loop visits the live endpoints in the order of the table, by service, type and port;
`visits` stands for any order. -/
def carryOverEndpointData (visits : List ServiceEndpoint → List ServiceEndpoint) (database : Database) :
    Except MigrationError Database :=
  match database.serviceType with
  | none => .ok { database with keys := [] }
  | some serviceType => do
      let pins := database.pins serviceType
      if !pins.conflicts.isEmpty then
        .error (.runtimeError ("Cannot merge SSH host-key settings onto one credential assignment; reconcile these " ++
          "endpoints first: " ++ "; ".intercalate (pins.conflicts.map pinConflict)))
      else do
        let database ← (visits (database.liveEndpoints serviceType)).foldlM (carryEndpoint serviceType) database
        database.dropUnmapped.collapseKeys

end Database

end NetboxOpenbao.Migration
