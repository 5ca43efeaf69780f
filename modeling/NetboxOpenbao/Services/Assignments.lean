import NetboxOpenbao.Resolution
import NetboxOpenbao.Services.Surfaces

/-!
# Revealing the credential of an assignment

`reveal_credential`: the assignment and the credential are checked against what the caller approved before the
audited reveal and again after it. Assignments, services and their addresses are not rows of the world; what
the requests find of them is a parameter of the reveal.
-/

namespace NetboxOpenbao

open Effect

/-- An assignment as one statement reads it, and what `_connection_mismatch` makes of its service. -/
structure AssignmentState where
  assignment : CredentialAssignment
  lastUpdated : Time
  connectionMismatch : Option String

/-- The validated data of the request; `assignmentRevision` is the parsed date. -/
structure AssignmentApproval where
  reason : String
  assignmentRevision : Option Time
  objectType : String
  objectId : Nat
  purpose : String
  credentialUuid : String
  credentialType : String
  kvVersion : Nat

/-- One reveal: the assignment as it is loaded and as it is under its lock, what `_connection_mismatch` says after
the read, and the object permissions. -/
structure AssignmentReveal where
  loaded : Except Error AssignmentState
  locked : Except Error AssignmentState
  connectionAfter : Option String
  mayView : Database → Bool
  mayReveal : Restriction
  expected : AssignmentApproval

/-- `lock_credential_graph`. -/
def lockCredentialGraph (pk : Nat) : M Credential := do
  let selectors ← query fun db => match db.credentials pk with
    | some row => .ok (row.policyId, row.engineId)
    | none => .error .doesNotExist
  let policy ← query fun db => .ok (db.config.policies selectors.1)
  let engineIds := (policy.map (·.engineId)).toList ++ [selectors.2]
  let engines ← query fun db => .ok (engineIds.filter fun id => (db.config.engines id).isSome)
  let credential ← query fun db => match db.credentials pk with
    | some row => .ok row
    | none => .error .doesNotExist
  raiseIf ((credential.policyId, credential.engineId) != selectors)
    (.validation "__all__" "Credential relationships changed during authorization.")
  raiseIf policy.isNone (.keyError (toString credential.policyId))
  raiseIf (!engines.contains credential.engineId) (.keyError (toString credential.engineId))
  return credential

/-- The served version: the promoted one, or the latest when nothing was ever promoted. -/
def servedVersion (credential : Credential) : Option Nat := credential.liveKvVersion <|> credential.kvVersion

/-- The checks of `_identity_mismatch` in order, each with whether it holds. -/
def identityChecks (state : AssignmentState) (credential : Credential) (expected : AssignmentApproval) :
    List (String × Bool) :=
  let assignment := state.assignment
  [("enabled", assignment.enabled),
    ("credential_id", some assignment.credentialId == credential.pk),
    ("assignment_revision", some state.lastUpdated == expected.assignmentRevision),
    ("object_type", assignment.assignedObjectType == expected.objectType),
    ("object_id", assignment.assignedObjectId == expected.objectId),
    ("purpose", assignment.purpose == expected.purpose),
    ("credential_uuid", credential.uuid == expected.credentialUuid),
    ("credential_type", credential.credentialType == expected.credentialType),
    ("kv_version", servedVersion credential == some expected.kvVersion)]

/-- `_identity_mismatch`: the first expectation that fails, the connection last. -/
def identityMismatch (state : AssignmentState) (credential : Credential) (expected : AssignmentApproval) :
    Option String :=
  match (identityChecks state credential expected).find? fun check => !check.2 with
  | some check => some check.1
  | none => state.connectionMismatch

namespace AssignmentReveal

/-- `_reauthorize`. -/
def reauthorize (reveal : AssignmentReveal) (credential : Credential) (user : User) (request : Option Nat) :
    M Unit := do
  query fun db =>
    if reveal.mayView db && reveal.mayReveal.exists credential db then .ok ()
    else .error (.permissionDenied "The assignment or credential is no longer permitted.")
  enforcePolicyAccess credential (some user) (some .reveal) request

/-- The read between the two checks; a mismatch is answered and not raised. -/
def readVerified (reveal : AssignmentReveal) (credential : Credential) (user : User) (request : Option Nat) :
    M (Except String RevealResponse) := do
  let revealed ← revealMaterial credential (some user) request reveal.expected.reason
    (some reveal.expected.kvVersion)
  reveal.reauthorize credential user request
  match reveal.connectionAfter with
  | some _ => return .error "connection"
  | none => return .ok ⟨credential, revealed.2, revealed.1⟩

/-- The body of the atomic block. -/
def verified (reveal : AssignmentReveal) (credential : Credential) (user : User) (request : Option Nat) :
    M (Except String RevealResponse) := do
  let credential ← lockCredentialGraph (credential.pk.getD 0)
  let state ← query fun _ => reveal.locked
  reveal.reauthorize credential user request
  match identityMismatch state credential reveal.expected with
  | some mismatch => return .error mismatch
  | none => reveal.readVerified credential user request

/-- `reveal_credential`: what is revealed, or the mismatch it is refused with. -/
def run (reveal : AssignmentReveal) (user : User) (request : Option Nat) : M (Except String RevealResponse) := do
  let state ← query fun _ => reveal.loaded
  let credential ← CredentialViewSet.authorize reveal.mayReveal state.assignment.credentialId user (some .reveal)
    request
  atomic (reveal.verified credential user request)

end AssignmentReveal

end NetboxOpenbao
