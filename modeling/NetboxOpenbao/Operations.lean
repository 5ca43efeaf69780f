import NetboxOpenbao.Services.Views

/-!
# Operations one after another

The operations on a credential as a user calls them, and a site they run at. Every call has its own
connection, its own faults and its own interference; between calls only the rows, the servers and the
number of owners so far are left.
-/

namespace NetboxOpenbao

/-- A call that changes a credential or its material. `held` is the instance the caller loaded, at some
time, from the row. -/
inductive Operation where
  | create (uuid : String) (attributes : Edits) (payload : Payload) (user : Option User)
      (request : Option Nat) (conforms : Database → Credential → Except Error Unit)
  | rotate (held : Credential) (payload : Payload) (user : Option User) (request : Option Nat)
  | stage (held : Credential) (payload : Payload) (user : Option User) (request : Option Nat)
  | promote (held : Credential) (user : Option User) (request : Option Nat) (verified : Bool) (note : String)
  | discard (held : Credential) (user : Option User) (request : Option Nat)
  | update (held : Credential) (edits : Edits) (payload : Option Payload) (user : Option User)
      (request : Option Nat) (conforms : Database → Credential → Except Error Unit)

/-- A call whose result is not used. -/
def ignoring {α : Type} (x : M α) : M Unit := do
  let _ ← x
  pure ()

def Operation.run [library : MaterialLibrary] : Operation → M Unit
  | .create uuid attributes payload user request conforms =>
    ignoring (CredentialViewSet.create uuid attributes payload user request conforms)
  | .rotate held payload user request => ignoring (rotateMaterial held payload user request)
  | .stage held payload user request => ignoring (stageMaterial held payload user request)
  | .promote held user request verified note => ignoring (promoteStaged held user request verified note)
  | .discard held user request => ignoring (discardStaged held user request)
  | .update held edits payload user request conforms =>
    ignoring (CredentialViewSet.update held edits payload user request conforms)

/-- The owner's part of an operation up to the point where it has left its transaction, with the deletes it
still has to issue. -/
def leaving {α : Type} (body : M α) : M (List PendingDelete) := do
  let exit ← ownedTransaction body
  pure exit.deletes

/-- An operation up to the end of its transaction. -/
def Operation.leave [library : MaterialLibrary] : Operation → M (List PendingDelete)
  | .create uuid attributes payload user request conforms =>
    leaving (CredentialViewSet.performCreate uuid attributes payload user request conforms)
  | .rotate held payload user request => leaving (synchronizedBody held (rotateBody payload user request))
  | .stage held payload user request => leaving (synchronizedBody held (stageBody payload user request))
  | .promote held user request verified note =>
    leaving (synchronizedBody held (promoteBody user request verified note))
  | .discard held user request => leaving (synchronizedBody held (discardBody user request))
  | .update held edits payload user request conforms =>
    leaving (CredentialViewSet.performUpdate held edits payload user request conforms)

/-! ### Sites -/

/-- What is left when no operation is in flight. -/
structure Site where
  db : Database
  ext : Ext
  operations : Nat

/-- One call: the operation, what goes wrong in it, and what other parties do meanwhile. -/
structure Call where
  operation : Operation
  env : Env
  acts : Nat → List Act

/-- The world a call starts in. -/
def Site.start (s : Site) (env : Env) (acts : Nat → List Act) : World where
  db := s.db
  ext := s.ext
  conn := Connection.idle
  owner := none
  onCommit := []
  operations := s.operations
  journal := []
  env := env
  acts := acts
  clock := 0

/-- No transaction and no owner: where an outermost owner starts. -/
structure World.Idle (w : World) : Prop where
  inAtomic : w.conn.inAtomic = false
  owner : w.owner = none

theorem Site.start_idle (s : Site) (env : Env) (acts : Nat → List Act) : (s.start env acts).Idle := ⟨rfl, rfl⟩

/-- What a world leaves behind. -/
def World.site (w : World) : Site := ⟨w.db, w.ext, w.operations⟩

def Site.step [library : MaterialLibrary] (s : Site) (c : Call) : Site :=
  (c.operation.run (s.start c.env c.acts)).2.site

/-! ### A deployment -/

namespace Sample

/-- Keys are their own public halves here; every string parses as one, and nothing as a certificate. -/
@[reducible] def library : MaterialLibrary where
  Key := String
  loadSshPrivateKey value _ := match value with
    | .str s => some s
    | _ => none
  loadPemPrivateKey _ _ := none
  opensshPublicKey key := some ("ssh-ed25519 " ++ key)
  sshFingerprint publicKey := some ("SHA256:" ++ publicKey)
  sshKeyType _ := "ed25519"
  loadPemCertificate _ := none
  loadDerCertificate _ := none
  jsonschemaFailure _ _ := none

def engine (kvVersion : Nat) : SecretEngine where
  name := "Lab"
  slug := "lab"
  backend := .openbao
  apiUrl := "https://openbao.example"
  kvNamespace := ""
  kvMount := "secret"
  kvVersion := kvVersion
  authMethod := "approle"
  tlsVerify := true
  caCertPath := ""

/-- One engine, and one tier everybody may use. -/
def config (kvVersion : Nat) : Config where
  policies id := if id = 1 then some ⟨1, [], 300, false⟩ else none
  engines id := if id = 1 then some (engine kvVersion) else none
  schemas := []
  directAssignments _ := false
  storePublicMaterial := true
  revealTtl := 0
  pathPrefix := "netbox"

theorem config_kv2 (id : Nat) : (config 2).Kv2 id := by
  intro engine h
  simp only [config] at h
  split at h
  · cases h
    rfl
  · cases h

/-- A credential without material. -/
def credential (credentialType : String) : Credential := { Credential.new "5f0c" with
  pk := some 1
  credentialType
  policyId := 1
  engineId := 1
  path := "netbox/credentials/5f0c" }

/-- The deployment with the one credential, its material in `cell`. -/
def site (kvVersion : Nat) (row : Credential) (cell : Cell) : Site where
  db := {
    config := config kvVersion
    credentials := fun pk => if pk = 1 then some row else none
    accessLog := []
    nextId := 2
    accessLog_lt := fun _ hrow => absurd hrow List.not_mem_nil }
  ext := ⟨fun _ => cell, [], [], []⟩
  operations := 0

/-- Nothing goes wrong. -/
def calm : Env := ⟨fun _ => .none, 0⟩

/-- The interaction numbered `n` goes wrong. -/
def failing (n : Nat) (fault : Fault) : Env := ⟨fun k => if k = n then fault else .none, 0⟩

def noActs : Nat → List Act := fun _ => []

/-- The deployment before its first operation. -/
def world : World := (site 2 (credential "password") ⟨Effect.Secret.empty, none⟩).start calm noActs

def location : Location := ⟨1, "netbox/credentials/5f0c"⟩

end Sample

end NetboxOpenbao
