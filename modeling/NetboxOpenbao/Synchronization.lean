import NetboxOpenbao.Transactions
import NetboxOpenbao.Services.Access

/-!
# Locking the material graph

The row-lock order shared by every writer of material: policies, engines, then credentials, declared to
the owner before the first write. An in-memory instance carries primary keys only, so the related
objects the source rebinds are looked up where they are used.
-/

namespace NetboxOpenbao

open Effect

/-- The values read before the locks are taken. -/
structure Selectors where
  ids : List Nat
  rows : List (Nat × Nat × Nat)
  policyIds : List Nat

/-- The row numbered `pk`, with what a selector reads of it. -/
def selectorOf (db : Database) (pk : Nat) : Except Error (Nat × Nat × Nat) :=
  match db.credentials pk with
  | some row => .ok (pk, row.policyId, row.engineId)
  | none => .error (.validation "__all__" "A material participant no longer exists.")

/-- `_participant_selectors`. -/
def participantSelectors (subjects : List Credential) (additionalPolicyIds : List Nat) : M Selectors := do
  let ids := subjects.filterMap (·.pk)
  let rows ← query fun db => ids.mapM (selectorOf db)
  return ⟨ids, rows, rows.map (·.2.1) ++ subjects.map (·.policyId) ++ additionalPolicyIds⟩

/-- `_check_material_participants`, for one locked credential. -/
def checkParticipant (selectors : Selectors) (policies engines : List Nat) (pk : Nat) (row : Credential) :
    Except Error Unit := do
  let expected ← match selectors.rows.lookup pk with
    | some expected => .ok expected
    | none => .error (.keyError (toString pk))
  if (row.policyId, row.engineId) != expected then
    .error (.validation "__all__" "Material participant relationships changed while acquiring locks.")
  else if !policies.contains row.policyId then .error (.keyError (toString row.policyId))
  else if !engines.contains row.engineId then .error (.keyError (toString row.engineId))
  else .ok ()

/-- The locked rows among `ids`; a row that is gone is not among them. -/
def lockedRows (db : Database) (ids : List Nat) : List (Nat × Credential) :=
  ids.filterMap fun pk => (db.credentials pk).map fun row => (pk, row)

def checkParticipants (selectors : Selectors) (policies engines : List Nat) :
    List (Nat × Credential) → M Unit
  | [] => pure ()
  | (pk, row) :: rest => do
    Prog.resume (checkParticipant selectors policies engines pk row)
    checkParticipants selectors policies engines rest

/-- `lock_material_subjects`: declare and lock the complete graph, then freeze it. -/
def lockMaterialSubjects (subjects : List Credential) (additionalPolicyIds : List Nat) :
    M (List (Nat × Credential)) := do
  let selectors ← participantSelectors subjects additionalPolicyIds
  declareGraph [(.credential, selectors.ids), (.policy, selectors.policyIds)]
  let policies ← query fun db =>
    .ok (selectors.policyIds.filterMap fun id => (db.config.policies id).map fun row => (id, row.engineId))
  let engineIds := policies.map (·.2) ++ selectors.rows.map (·.2.2) ++ subjects.map (·.engineId)
  declareGraph [(.engine, engineIds)]
  let engines ← query fun db => .ok (engineIds.filter fun id => (db.config.engines id).isSome)
  let locked ← query fun db => .ok (lockedRows db selectors.ids)
  checkParticipants selectors (policies.map (·.1)) engines locked
  modifyOwner fun o => { o with graphFrozen := true }
  return locked

/-- `refresh_material_selectors`: the policy and the engine of an instance must exist. -/
def refreshMaterialSelectors (credential : Credential) : M Unit := do
  query fun db => match db.config.policies credential.policyId, db.config.engines credential.engineId with
    | some _, some _ => .ok ()
    | _, _ => .error .doesNotExist

/-- The version state `lock_material_subject` copies from the locked row. -/
def refreshVersions (subject fresh : Credential) : Credential := { subject with
  kvVersion := fresh.kvVersion
  liveKvVersion := fresh.liveKvVersion
  stagedKvVersion := fresh.stagedKvVersion
  liveKeyFingerprint := fresh.liveKeyFingerprint
  liveKeyVersion := fresh.liveKeyVersion
  stagedKeyFingerprint := fresh.stagedKeyFingerprint
  stagedKeyVersion := fresh.stagedKeyVersion }

/-- `locked[pk]`. -/
def lockedRow (locked : List (Nat × Credential)) (pk : Option Nat) : M Credential :=
  match pk.bind fun id => locked.lookup id with
  | some row => pure row
  | none => throw (.keyError ((pk.map toString).getD "None"))

/-- `target_policy.refresh_from_db()`. -/
def refreshTargetPolicy (targetPolicy : Option Nat) : M Unit :=
  match targetPolicy with
  | none => pure ()
  | some id => query fun db => match db.config.policies id with
    | some policy => if (db.config.engines policy.engineId).isSome then .ok () else .error .doesNotExist
    | none => .error .doesNotExist

/-- `lock_material_subject`: the subject as the caller holds it, its version state refreshed. -/
def lockMaterialSubject (subject : Option Credential) (targetPolicy : Option Nat) :
    M (Option Credential) := do
  match subject, targetPolicy with
  | none, none =>
    throw (.openbao .base "A material subject or destination policy must be declared before persistence.")
  | none, some policyId => do
    let _ ← lockMaterialSubjects [] [policyId]
    return none
  | some subject, _ => do
    let locked ← lockMaterialSubjects [subject] [targetPolicy.getD subject.policyId]
    match subject.pk with
    | none => do
      refreshMaterialSelectors subject
      return some subject
    | some _ => do
      let fresh ← lockedRow locked subject.pk
      refreshMaterialSelectors subject
      refreshTargetPolicy targetPolicy
      return some (refreshVersions subject fresh)

/-- `refresh_from_db`. -/
def refreshFromDb (credential : Credential) : M Credential := do
  query fun db => match credential.pk.bind db.credentials with
    | some row => .ok row
    | none => .error .doesNotExist

/-- The part of `synchronized_material_change` that runs under the owner. -/
def synchronizedBody {α : Type} (credential : Credential) (f : Credential → M α) : M α := do
  let locked ← lockMaterialSubjects [credential] []
  let _ ← lockedRow locked credential.pk
  let credential ← refreshFromDb credential
  f credential

/-- `synchronized_material_change`: the change holds its graph locks through backend I/O; a failure is
recorded after the owner has recovered. -/
def synchronized {α : Type} (credential : Credential) (user : Option User) (action : AccessAction)
    (request : Option Nat) (f : Credential → M α) : M α := do
  try materialTransaction (synchronizedBody credential f)
  catch error => do
    let _ ← logAccess credential user action false ""
      "Material operation did not complete; inspect its reconciliation records." request
    throw error

end NetboxOpenbao
