import NetboxOpenbao.World

/-!
# The access log and the policy gate

`log_access` never raises: an audit row that cannot be written is reported as absent, and its savepoint
keeps the failure from the transaction around it. `enforce_policy_access` is the group gate of a tier.
-/

namespace NetboxOpenbao

open Effect

/-- The row `log_access` creates; its primary key is the database's to choose. -/
def accessRow (credential : Credential) (user : Option User) (action : AccessAction) (success : Bool)
    (reason message : String) (request : Option Nat) : CredentialAccessLog where
  id := 0
  credential := credential.pk
  credentialUuidSnapshot := credential.uuid
  usernameSnapshot := (user.map (·.username)).getD ""
  action := action
  success := success
  reason := reason
  message := message
  requestId := request
  resolvedVersion := none

/-- `log_access`: the primary key of the row, or nothing when it could not be written. -/
def logAccess (credential : Credential) (user : Option User) (action : AccessAction) (success : Bool)
    (reason message : String) (request : Option Nat) : M (Option Nat) := do
  try
    let id ← atomic (saving fun db =>
      .ok (db.nextId, db.insertLog (accessRow credential user action success reason message request)))
    pure (some id)
  catch _ => pure none

/-- `credential.policy`. -/
def policyOf (db : Database) (credential : Credential) : Except Error CredentialPolicy :=
  match db.config.policies credential.policyId with
  | some policy => .ok policy
  | none => .error .doesNotExist

/-- Whether the tier's group list lets the user in; an empty list is no gate. -/
def permits (policy : CredentialPolicy) (user : User) : Bool :=
  policy.groups.isEmpty || user.groups.any fun group => policy.groups.contains group

def auditRefusal (credential : Credential) (user : User) (action : Option AccessAction)
    (request : Option Nat) : M Unit := do
  match action with
  | some action =>
    let _ ← logAccess credential (some user) action false "" "Policy group membership required." request
  | none => pure ()

/-- `enforce_policy_access`. -/
def enforcePolicyAccess (credential : Credential) (user : Option User) (action : Option AccessAction)
    (request : Option Nat) : M Unit := do
  match user with
  | none => pure ()
  | some user =>
    if user.isSuperuser then pure ()
    else do
      let policy ← query fun db => policyOf db credential
      if permits policy user then pure ()
      else do
        auditRefusal credential user action request
        throw (.permissionDenied
          "Your groups are not permitted to access credentials under this policy.")

/-- `enforce_update_access`: gate an update against the tier the committed row is on. -/
def enforceUpdateAccess (credential : Credential) (user : Option User) (action : Option AccessAction)
    (request : Option Nat) : M Unit := do
  match credential.pk with
  | none => pure ()
  | some pk => do
    let committed ← query fun db => .ok (db.credentials pk)
    match committed with
    | none => pure ()
    | some committed => enforcePolicyAccess committed user action request

end NetboxOpenbao
