import NetboxOpenbao.Services.Views

/-!
# The surfaces a user reaches a credential through

The REST detail actions, the bulk update, the UI reveal and the UI transitions, the edit form, and the reveal
of an assignment's credential. Every one of them applies the group gate of a tier: the ones that load the
row apply it to the row they loaded, the ones that start from an edited instance apply it to the committed
row. Object permissions are parameters of the requests.
-/

namespace NetboxOpenbao

open Effect

/-- An instance loaded from the row `pk` at some earlier time, and possibly stale. -/
structure Loaded where
  credential : Credential
  pk : Nat
  law : credential.pk = some pk

/-- The queryset a view restricts to the rows the user may act on. -/
abbrev Restriction := Database → Credential → Bool

/-- `queryset.restrict(user, action).filter(pk=credential.pk).exists()`. -/
def Restriction.exists (restricts : Restriction) (credential : Credential) (db : Database) : Bool :=
  ((credential.pk.bind db.credentials).map fun row => restricts db row).getD false

/-- `get_object_or_404(queryset.restrict(user, action), pk=pk)`. -/
def getObjectOr404 (restricts : Restriction) (pk : Nat) : M Credential :=
  query fun db => match db.credentials pk with
    | some row => if restricts db row then .ok row else .error (.raised "Http404")
    | none => .error (.raised "Http404")

/-- What a reveal answers with. -/
structure RevealResponse where
  credential : Credential
  ttl : Nat
  secretData : Payload

variable [library : MaterialLibrary]

namespace CredentialViewSet

/-- `_authorize`: the row the user may act on, behind the gate of its tier. -/
def authorize (restricts : Restriction) (pk : Nat) (user : User) (action : Option AccessAction)
    (request : Option Nat) : M Credential := do
  let credential ← getObjectOr404 restricts pk
  enforcePolicyAccess credential (some user) action request
  return credential

def reveal (restricts : Restriction) (pk : Nat) (user : User) (request : Option Nat) (reason : String)
    (version : Option Nat) : M RevealResponse := do
  let credential ← authorize restricts pk user (some .reveal) request
  let revealed ← revealMaterial credential (some user) request reason version
  return ⟨credential, revealed.2, revealed.1⟩

/-- `if not payload: raise …`. -/
def requirePayload (payload : Payload) (message : String) : M Unit :=
  raiseIf payload.isEmpty (.validation "secret_data" message)

def rotate (restricts : Restriction) (pk : Nat) (user : User) (request : Option Nat) (payload : Payload) :
    M (Credential × Nat) := do
  let credential ← authorize restricts pk user (some .rotate) request
  requirePayload payload "Secret data is required to rotate a credential."
  rotateMaterial credential payload (some user) request

def stage (restricts : Restriction) (pk : Nat) (user : User) (request : Option Nat) (payload : Payload) :
    M (Credential × Nat) := do
  let credential ← authorize restricts pk user (some .rotate) request
  requirePayload payload "Secret data is required to stage a rotation."
  stageMaterial credential payload (some user) request

def promote (restricts : Restriction) (pk : Nat) (user : User) (request : Option Nat) (verified : Bool)
    (note : String) : M Credential := do
  let credential ← authorize restricts pk user (some .rotate) request
  promoteStaged credential (some user) request verified note

def discard (restricts : Restriction) (pk : Nat) (user : User) (request : Option Nat) : M Credential := do
  let credential ← authorize restricts pk user (some .rotate) request
  discardStaged credential (some user) request

/-! ### Bulk updates -/

/-- The data a bulk update carries for one object. -/
structure BulkData where
  edits : Edits
  payload : Option Payload

/-- The objects whose data carries material, by the text of their primary keys. -/
def offenders (updateData : List (Nat × BulkData)) : List String :=
  ((updateData.filter fun entry => carries entry.2.payload).map fun entry => toString entry.1).mergeSort
    fun a b => a ≤ b

def bulkRefusal (offenders : List String) : Error :=
  .validation "secret_data" ("Secret material cannot be written through a bulk update. Rotate these credentials " ++
    "individually, through the detail endpoint or the rotate action. Offending credential ID(s): " ++
    ", ".intercalate offenders ++ ".")

/-- The validated data of one object. -/
def dataOf (updateData : List (Nat × BulkData)) (object : Loaded) : M BulkData :=
  match updateData.lookup object.pk with
  | some data => pure data
  | none => throw (.validation "non_field_errors" "This field may not be null.")

/-- NetBox's loop over the objects of a batch. -/
def updateEach (updateData : List (Nat × BulkData)) (user : User) (request : Option Nat)
    (conforms : Database → Credential → Except Error Unit) : List Loaded → M Unit
  | [] => pure ()
  | object :: rest => do
    let data ← dataOf updateData object
    let _ ← performUpdate object.credential data.edits data.payload (some user) request conforms
    updateEach updateData user request conforms rest

/-- `perform_bulk_update`, under `material_operation`. -/
def performBulkUpdate (objects : List Loaded) (updateData : List (Nat × BulkData)) (user : User)
    (request : Option Nat) (conforms : Database → Credential → Except Error Unit) : M Unit :=
  materialTransaction do
    raiseIf (!(offenders updateData).isEmpty) (bulkRefusal (offenders updateData))
    let _ ← lockMaterialSubjects (objects.map (·.credential)) (updateData.filterMap (·.2.edits.policyId))
    atomic (updateEach updateData user request conforms objects)

/-- `bulk_update`: the view owns the material transaction. -/
def bulkUpdate (objects : List Loaded) (updateData : List (Nat × BulkData)) (user : User)
    (request : Option Nat) (conforms : Database → Credential → Except Error Unit) : M Unit :=
  materialTransaction (performBulkUpdate objects updateData user request conforms)

end CredentialViewSet

/-! ### The UI views -/

/-- `_RevealBase.resolve`. -/
def revealResolve (restricts : Restriction) (pk : Nat) (user : User) (request : Option Nat) (reason : String) :
    M RevealResponse := do
  let credential ← getObjectOr404 restricts pk
  let revealed ← revealMaterial credential (some user) request reason none
  return ⟨credential, revealed.2, revealed.1⟩

/-- `CredentialPromoteView.post`. -/
def promotePost (restricts : Restriction) (pk : Nat) (user : User) (request : Option Nat) (verified : Bool)
    (note : String) : M Credential := do
  let credential ← getObjectOr404 restricts pk
  promoteStaged credential (some user) request verified note

/-- `CredentialDiscardView.post`. -/
def discardPost (restricts : Restriction) (pk : Nat) (user : User) (request : Option Nat) : M Credential := do
  let credential ← getObjectOr404 restricts pk
  discardStaged credential (some user) request

/-! ### The edit form -/

/-- `AbortRequest`, which NetBox renders as a form error. -/
def abortRequest (message : String) : Error := .raised ("AbortRequest: " ++ message)

/-- A bound form that validated: the instance already carries the requested edits. -/
structure CredentialForm where
  held : Loaded
  edits : Edits
  secretPayload : Option Payload
  stageRotation : Bool

namespace CredentialForm

/-- `_authorize_existing_edit`. -/
def authorizeExistingEdit (credential : Credential) (payload : Option Payload) (user : User)
    (request : Option Nat) (mayRotate : Restriction) : M Unit := do
  try enforceUpdateAccess credential (some user) (some .write) request
  catch
    | .permissionDenied message => throw (abortRequest message)
    | error => throw error
  query fun db => if CredentialViewSet.carries payload && !mayRotate.exists credential db then
    .error (abortRequest "Replacing secret material requires the rotate permission on this credential.")
  else .ok ()

/-- The backend's refusals and the validation errors of a service become form errors. -/
def aborting {α : Type} (x : M α) : M α := do
  try x
  catch
    | .openbao _ message => throw (abortRequest message)
    | .validation _ message => throw (abortRequest message)
    | error => throw error

/-- `except OpenBaoError`. -/
def abortingBackend {α : Type} (x : M α) : M α := do
  try x
  catch
    | .openbao _ message => throw (abortRequest message)
    | error => throw error

/-- What the result of an edit that replaces material must satisfy. -/
def requireAction (action : String) (restricts : Restriction) (db : Database) (saved : Credential) :
    Except Error Unit :=
  if restricts.exists saved db then .ok ()
  else .error (abortRequest ("You do not have permission to leave this credential in that state. The " ++ action ++
    " permission does not cover the result of this edit."))

/-- The callback of an edit that replaces material: save the instance, which must stay within what the user
may change and rotate. -/
def persist (credential : Credential) (mayChange mayRotate : Restriction) : Persist where
  build subject := subject.getD credential
  validates := false
  conforms db saved := do
    requireAction "change" mayChange db saved
    requireAction "rotate" mayRotate db saved

/-- What `save` does with an authorized instance. -/
def saveAuthorized (form : CredentialForm) (credential : Credential) (user : User) (request : Option Nat)
    (mayChange mayRotate : Restriction) : M Credential :=
  match form.secretPayload with
  | none | some [] => saveCredential credential
  | some payload =>
    if form.stageRotation then do
      let saved ← saveCredential credential
      let _ ← aborting (stageMaterial saved payload (some user) request)
      return saved
    else do
      let stored ← abortingBackend (storeCredential {
        persist := persist credential mayChange mayRotate
        credentialType := credential.credentialType
        payload
        cas := credential.kvVersion
        user := some user
        request
        action := .write
        subject := some credential
        promote := true
        targetPolicy := none
        prelocked := false })
      return stored.1

/-- `save`, under `material_operation`. -/
def save (form : CredentialForm) (user : User) (request : Option Nat) (mayChange mayRotate : Restriction) :
    M Credential :=
  materialTransaction do
    let subject ← lockMaterialSubject (some (form.edits.apply form.held.credential)) form.edits.policyId
    let credential := subject.getD (form.edits.apply form.held.credential)
    authorizeExistingEdit credential form.secretPayload user request mayRotate
    saveAuthorized form credential user request mayChange mayRotate

end CredentialForm

/-- The exceptions NetBox's edit view renders as form errors. -/
def rendered : Error → Bool
  | .raised what => what == "PermissionsViolation" || "AbortRequest: ".toList.isPrefixOf what.toList
  | _ => false

/-- `CredentialEditView.post`: NetBox's edit view saves the form in an atomic block of its own and renders what
aborted it, under the owner the view opens. -/
def editPost (form : CredentialForm) (user : User) (request : Option Nat) (mayChange mayRotate : Restriction) :
    M Unit :=
  materialTransaction do
    try atomic do
      let saved ← form.save user request mayChange mayRotate
      query fun db => if mayChange.exists saved db then .ok () else .error (.raised "PermissionsViolation")
    catch error => if rendered error then pure () else throw error

end NetboxOpenbao
