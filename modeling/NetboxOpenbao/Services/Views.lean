import NetboxOpenbao.Services.Material

/-!
# Creating and updating a credential

What the REST views do with a credential row: a create stores its first material, an update saves
requested edits and, when it carries a payload, rotates. The instance an update starts from was loaded
earlier and may be stale.
-/

namespace NetboxOpenbao

open Effect

namespace CredentialViewSet

variable [library : MaterialLibrary]

/-- `perform_create`. -/
def performCreate (uuid : String) (attributes : Edits) (payload : Payload) (user : Option User)
    (request : Option Nat) (conforms : Database → Credential → Except Error Unit) :
    M (Credential × Nat) := do
  let _ ← fullClean (attributes.apply (Credential.new uuid))
  storeCredential {
    persist := .create uuid attributes conforms
    credentialType := attributes.credentialType.getD ""
    payload
    cas := some 0
    user, request
    action := .write
    subject := none
    promote := true
    targetPolicy := attributes.policyId
    prelocked := false }

/-- `create`: the view owns the material transaction. -/
def create (uuid : String) (attributes : Edits) (payload : Payload) (user : Option User)
    (request : Option Nat) (conforms : Database → Credential → Except Error Unit) :
    M (Credential × Nat) :=
  materialTransaction (performCreate uuid attributes payload user request conforms)

/-- The save of an update without material, and the permission check on its result. -/
def saveEdits (credential : Credential) (conforms : Database → Credential → Except Error Unit) :
    M Credential :=
  atomic do
    let saved ← saveCredential credential
    query fun db => conforms db saved
    return saved

/-- Whether a request carries material: an empty payload does not. -/
def carries (payload : Option Payload) : Bool := payload.any fun entries => !entries.isEmpty

/-- `perform_update` on an instance that already carries the requested edits, as a validated serializer
leaves it. -/
def performUpdate (loaded : Credential) (edits : Edits) (payload : Option Payload) (user : Option User)
    (request : Option Nat) (conforms : Database → Credential → Except Error Unit) : M Credential := do
  let subject ← lockMaterialSubject (some (edits.apply loaded)) edits.policyId
  let credential := subject.getD loaded
  enforceUpdateAccess credential user (some .write) request
  match payload with
  | none | some [] => saveEdits (edits.apply credential) conforms
  | some payload => do
    let stored ← storeCredential {
      persist := .update credential edits conforms
      credentialType := edits.credentialType.getD credential.credentialType
      payload
      cas := credential.kvVersion
      user, request
      action := .rotate
      subject := some credential
      promote := true
      targetPolicy := edits.policyId
      prelocked := false }
    return stored.1

/-- `update`. -/
def update (loaded : Credential) (edits : Edits) (payload : Option Payload) (user : Option User)
    (request : Option Nat) (conforms : Database → Credential → Except Error Unit) : M Credential :=
  materialTransaction (performUpdate loaded edits payload user request conforms)

end CredentialViewSet

end NetboxOpenbao
