import NetboxOpenbao.Operations
import NetboxOpenbao.Services.Assignments

/-!
# The requests of one user

What a user can ask of the credentials through the REST API and the forms, one request after another, with
other parties changing rows and settings in between.
-/

namespace NetboxOpenbao

open Effect

/-- A request, with the object permissions it meets. -/
inductive UserRequest where
  | reveal (restricts : Restriction) (pk : Nat) (request : Option Nat) (reason : String) (version : Option Nat)
  | revealPage (restricts : Restriction) (pk : Nat) (request : Option Nat) (reason : String)
  | revealAssignment (assignment : AssignmentReveal) (request : Option Nat)
  | rotate (restricts : Restriction) (pk : Nat) (request : Option Nat) (payload : Payload)
  | stage (restricts : Restriction) (pk : Nat) (request : Option Nat) (payload : Payload)
  | promote (restricts : Restriction) (pk : Nat) (request : Option Nat) (verified : Bool) (note : String)
  | promotePage (restricts : Restriction) (pk : Nat) (request : Option Nat) (verified : Bool) (note : String)
  | discard (restricts : Restriction) (pk : Nat) (request : Option Nat)
  | discardPage (restricts : Restriction) (pk : Nat) (request : Option Nat)
  | update (object : Loaded) (edits : Edits) (payload : Option Payload) (request : Option Nat)
      (conforms : Database → Credential → Except Error Unit)
  | bulkUpdate (objects : List Loaded) (updateData : List (Nat × CredentialViewSet.BulkData))
      (request : Option Nat) (conforms : Database → Credential → Except Error Unit)
  | edit (form : CredentialForm) (request : Option Nat) (mayChange mayRotate : Restriction)

/-- An answer that carries no material. -/
def withoutMaterial {α : Type} (x : M α) : M (Option RevealResponse) := do
  let _ ← x
  return none

/-- An answer that carries what was revealed. -/
def withMaterial (x : M RevealResponse) : M (Option RevealResponse) := do
  let response ← x
  return some response

/-- The request of a user, and the material in the answer. -/
def UserRequest.run [library : MaterialLibrary] (user : User) : UserRequest → M (Option RevealResponse)
  | .reveal restricts pk request reason version =>
    withMaterial (CredentialViewSet.reveal restricts pk user request reason version)
  | .revealPage restricts pk request reason => withMaterial (revealResolve restricts pk user request reason)
  | .revealAssignment assignment request => do
    let answer ← assignment.run user request
    return answer.toOption
  | .rotate restricts pk request payload =>
    withoutMaterial (CredentialViewSet.rotate restricts pk user request payload)
  | .stage restricts pk request payload =>
    withoutMaterial (CredentialViewSet.stage restricts pk user request payload)
  | .promote restricts pk request verified note =>
    withoutMaterial (CredentialViewSet.promote restricts pk user request verified note)
  | .promotePage restricts pk request verified note =>
    withoutMaterial (promotePost restricts pk user request verified note)
  | .discard restricts pk request => withoutMaterial (CredentialViewSet.discard restricts pk user request)
  | .discardPage restricts pk request => withoutMaterial (discardPost restricts pk user request)
  | .update object edits payload request conforms =>
    withoutMaterial (CredentialViewSet.update object.credential edits payload (some user) request conforms)
  | .bulkUpdate objects updateData request conforms =>
    withoutMaterial (CredentialViewSet.bulkUpdate objects updateData user request conforms)
  | .edit form request mayChange mayRotate => withoutMaterial (editPost form user request mayChange mayRotate)

/-! ### One request after another -/

/-- The unique constraints and the keys of the credential rows: a row stands under its own primary key, which has
been given out, and no two rows share a place. -/
structure Database.Addressed (db : Database) : Prop where
  key : ∀ pk row, db.credentials pk = some row → row.pk = some pk ∧ pk < db.nextId
  place : ∀ pk pk' row row', db.credentials pk = some row → db.credentials pk' = some row' →
    row.engineId = row'.engineId → row.path = row'.path → pk = pk'

/-- What happens next: the user sends a request, or others leave the site in some other state. -/
inductive RequestTurn where
  | mine (request : UserRequest) (env : Env) (acts : Nat → List Act)
  | others (after : Site) (law : after.db.Addressed)

def Site.serve [library : MaterialLibrary] (user : User) (s : Site) : RequestTurn → Site
  | .mine request env acts => (request.run user (s.start env acts)).2.site
  | .others after _ => after

/-- What the answer to the user carries. -/
def Site.answer [library : MaterialLibrary] (user : User) (s : Site) : RequestTurn → Option RevealResponse
  | .mine request env acts =>
    match (request.run user (s.start env acts)).1 with
    | .ok answer => answer
    | .error _ => none
  | .others _ _ => none

end NetboxOpenbao
