/-!
# The inventory rows

What the database holds about a credential, the tier it is on, the engine its material lives on, and
the audit rows written about it. No row carries material: that is only ever in the backend.

Primary keys are positive, so `0` stands for a relation that has not been set, as `not self.engine_id`
reads it.
-/

namespace NetboxOpenbao

/-- A JSON value as a payload or a stored schema carries it. -/
inductive Value where
  | null
  | bool (b : Bool)
  | int (n : Int)
  | decimal (mantissa exponent : Int)
  | str (s : String)
  | list (items : List Value)
  | dict (entries : List (String × Value))

/-- Python's truth value of a JSON value. -/
def Value.truthy : Value → Bool
  | .null => false
  | .bool b => b
  | .int n => n != 0
  | .decimal mantissa _ => mantissa != 0
  | .str s => s != ""
  | .list items => !items.isEmpty
  | .dict entries => !entries.isEmpty

/-- `value in (None, '')`. -/
def Value.blank : Value → Bool
  | .null => true
  | .str s => s == ""
  | _ => false

/-- The dict a secret payload is. -/
abbrev Payload := List (String × Value)

/-- Seconds, on whatever clock `timezone.now()` reads. -/
abbrev Time := Nat

inductive CredentialStatus where
  | active | staged | rotating | expired | retired | compromised
deriving DecidableEq, Repr

inductive AccessAction where
  | reveal | write | rotate | stage | promote | discard | delete | configure
deriving DecidableEq, Repr

inductive BackendChoice where
  | openbao | vault | broker
deriving DecidableEq, Repr

structure SecretEngine where
  name : String
  slug : String
  backend : BackendChoice
  apiUrl : String
  kvNamespace : String
  kvMount : String
  kvVersion : Nat
  authMethod : String
  tlsVerify : Bool
  caCertPath : String
deriving DecidableEq, Repr

structure CredentialPolicy where
  engineId : Nat
  groups : List Nat
  maxRevealTtl : Nat
  requireReason : Bool
deriving DecidableEq, Repr

/-- The columns `EXTRACTABLE_FIELDS` names: public material, copied out of a payload when it is
written. -/
structure PublicColumns where
  publicKey : String
  fingerprint : String
  keyType : String
  certSerial : String
  certSubject : String
  certIssuer : String
  validFrom : Option Time
  validUntil : Option Time
deriving DecidableEq, Repr

def PublicColumns.blank : PublicColumns := ⟨"", "", "", "", "", "", none, none⟩

/-- A credential row, and equally the in-memory instance of one: an unsaved instance has no `pk`. -/
structure Credential where
  pk : Option Nat
  uuid : String
  credentialType : String
  policyId : Nat
  engineId : Nat
  path : String
  username : String
  columns : PublicColumns
  status : CredentialStatus
  lastRotated : Option Time
  kvVersion : Option Nat
  liveKvVersion : Option Nat
  stagedKvVersion : Option Nat
  liveKeyFingerprint : String
  liveKeyVersion : Option Nat
  stagedKeyFingerprint : String
  stagedKeyVersion : Option Nat
  lastVerified : Option Time
deriving DecidableEq, Repr

def Credential.hasStagedVersion (c : Credential) : Bool := c.stagedKvVersion.isSome

/-- An operator-defined credential type, its JSON Schema kept beside what is read out of it. -/
structure CredentialTypeSchema where
  slug : String
  properties : List String
  required : List String
  secretFields : List String
  extractor : String
  schema : Value

structure CredentialAccessLog where
  id : Nat
  credential : Option Nat
  credentialUuidSnapshot : String
  usernameSnapshot : String
  action : AccessAction
  success : Bool
  reason : String
  message : String
  requestId : Option Nat
  resolvedVersion : Option Nat
deriving DecidableEq, Repr

structure User where
  username : String
  isSuperuser : Bool
  groups : List Nat
deriving DecidableEq, Repr

/-- The rows and settings no credential operation writes. `directAssignments` tells whether a
credential is assigned to a device or virtual machine without a service in between. -/
structure Config where
  policies : Nat → Option CredentialPolicy
  engines : Nat → Option SecretEngine
  schemas : List CredentialTypeSchema
  directAssignments : Nat → Bool
  storePublicMaterial : Bool
  revealTtl : Nat
  pathPrefix : String

/-- The engine numbered `id` is a KV v2 engine. -/
def Config.Kv2 (config : Config) (id : Nat) : Prop :=
  ∀ engine, config.engines id = some engine → engine.kvVersion = 2

/-- The database as one connection sees it. `nextId` is a sequence: PostgreSQL does not give a number
out twice, whatever becomes of the transaction that drew it. -/
structure Database where
  config : Config
  credentials : Nat → Option Credential
  accessLog : List CredentialAccessLog
  nextId : Nat
  accessLog_lt : ∀ row ∈ accessLog, row.id < nextId

namespace Database

def putCredential (db : Database) (pk : Nat) (row : Credential) : Database :=
  { db with credentials := fun k => if k = pk then some row else db.credentials k }

/-- Draw the next primary key. -/
def drawId (db : Database) : Database where
  config := db.config
  credentials := db.credentials
  accessLog := db.accessLog
  nextId := db.nextId + 1
  accessLog_lt row hrow := Nat.lt_succ_of_lt (db.accessLog_lt row hrow)

/-- Insert a row, which gets the next primary key. -/
def insertLog (db : Database) (row : CredentialAccessLog) : Database where
  config := db.config
  credentials := db.credentials
  accessLog := db.accessLog ++ [{ row with id := db.nextId }]
  nextId := db.nextId + 1
  accessLog_lt := by
    intro row' hrow
    rcases List.mem_append.mp hrow with hold | hnew
    · exact Nat.lt_succ_of_lt (db.accessLog_lt row' hold)
    · rw [List.mem_singleton.mp hnew]
      exact Nat.lt_succ_self _

/-- `filter(pk=id).update(success=…, message=…)`. -/
def updateLog (db : Database) (id : Nat) (success : Bool) (message : String) : Database where
  config := db.config
  credentials := db.credentials
  accessLog := db.accessLog.map fun row => if row.id = id then { row with success, message } else row
  nextId := db.nextId
  accessLog_lt := by
    intro row hrow
    obtain ⟨old, hold, rfl⟩ := List.mem_map.mp hrow
    have := db.accessLog_lt old hold
    split <;> exact this

def hasLog (db : Database) (id : Nat) : Bool := db.accessLog.any fun row => row.id == id

/-- The state a rollback to `snapshot` leaves: every row as it was then, the sequence as it is now. -/
def rollbackTo (db snapshot : Database) : Database where
  config := snapshot.config
  credentials := snapshot.credentials
  accessLog := snapshot.accessLog
  nextId := max db.nextId snapshot.nextId
  accessLog_lt row hrow := Nat.lt_of_lt_of_le (snapshot.accessLog_lt row hrow) (Nat.le_max_right _ _)

/-- The unique constraints on `uuid` and on `(engine, path)`: another row already has the value. -/
def occupied (db : Database) (pk : Option Nat) (c : Credential) : Bool :=
  (List.range db.nextId).any fun k => some k != pk && match db.credentials k with
    | some row => row.uuid == c.uuid || (row.engineId == c.engineId && row.path == c.path)
    | none => false

@[simp] theorem putCredential_config (db : Database) (pk : Nat) (row : Credential) :
    (db.putCredential pk row).config = db.config := rfl

@[simp] theorem putCredential_accessLog (db : Database) (pk : Nat) (row : Credential) :
    (db.putCredential pk row).accessLog = db.accessLog := rfl

@[simp] theorem putCredential_nextId (db : Database) (pk : Nat) (row : Credential) :
    (db.putCredential pk row).nextId = db.nextId := rfl

@[simp] theorem putCredential_self (db : Database) (pk : Nat) (row : Credential) :
    (db.putCredential pk row).credentials pk = some row := by
  simp [putCredential]

theorem putCredential_of_ne (db : Database) {pk k : Nat} (row : Credential) (h : k ≠ pk) :
    (db.putCredential pk row).credentials k = db.credentials k := by
  simp [putCredential, h]

theorem putCredential_putCredential (db : Database) (pk : Nat) (row row' : Credential) :
    (db.putCredential pk row).putCredential pk row' = db.putCredential pk row' := by
  have hsame : ∀ k, ((db.putCredential pk row).putCredential pk row').credentials k =
      (db.putCredential pk row').credentials k := by
    intro k
    by_cases hk : k = pk
    · subst hk
      simp
    · rw [putCredential_of_ne _ _ hk, putCredential_of_ne _ _ hk, putCredential_of_ne _ _ hk]
  simp only [putCredential] at hsame ⊢
  congr 1
  exact funext hsame

@[simp] theorem drawId_config (db : Database) : db.drawId.config = db.config := rfl

@[simp] theorem drawId_credentials (db : Database) : db.drawId.credentials = db.credentials := rfl

@[simp] theorem drawId_accessLog (db : Database) : db.drawId.accessLog = db.accessLog := rfl

@[simp] theorem drawId_nextId (db : Database) : db.drawId.nextId = db.nextId + 1 := rfl

@[simp] theorem insertLog_config (db : Database) (row : CredentialAccessLog) :
    (db.insertLog row).config = db.config := rfl

@[simp] theorem insertLog_credentials (db : Database) (row : CredentialAccessLog) :
    (db.insertLog row).credentials = db.credentials := rfl

@[simp] theorem insertLog_accessLog (db : Database) (row : CredentialAccessLog) :
    (db.insertLog row).accessLog = db.accessLog ++ [{ row with id := db.nextId }] := rfl

@[simp] theorem insertLog_nextId (db : Database) (row : CredentialAccessLog) :
    (db.insertLog row).nextId = db.nextId + 1 := rfl

@[simp] theorem updateLog_config (db : Database) (id : Nat) (success : Bool) (message : String) :
    (db.updateLog id success message).config = db.config := rfl

@[simp] theorem updateLog_credentials (db : Database) (id : Nat) (success : Bool) (message : String) :
    (db.updateLog id success message).credentials = db.credentials := rfl

@[simp] theorem rollbackTo_config (db snapshot : Database) :
    (db.rollbackTo snapshot).config = snapshot.config := rfl

@[simp] theorem rollbackTo_credentials (db snapshot : Database) :
    (db.rollbackTo snapshot).credentials = snapshot.credentials := rfl

@[simp] theorem rollbackTo_accessLog (db snapshot : Database) :
    (db.rollbackTo snapshot).accessLog = snapshot.accessLog := rfl

@[simp] theorem rollbackTo_nextId (db snapshot : Database) :
    (db.rollbackTo snapshot).nextId = max db.nextId snapshot.nextId := rfl

theorem hasLog_iff {db : Database} {id : Nat} :
    db.hasLog id = true ↔ ∃ row ∈ db.accessLog, row.id = id := by
  simp [hasLog]

end Database

end NetboxOpenbao
