import NetboxOpenbao.Importers.NetboxSecrets

/-!
# One import

`import_secrets` over a list of sources. An attempt is a source with what its environment does: the `uuid4()` its
instance draws, and what goes wrong while it is copied. `None` for the exception is a run that returns.
-/

namespace NetboxOpenbao.Importers

/-- What goes wrong inside the block of one copy: nothing; something before the backend is asked; the backend's write,
which may have reached the server; something after it, where the recovery's delete is carried out or not; or the
commit, and whatever follows it, which leave the block not knowing what became of the row. -/
inductive Fault where
  | none
  | before (exception : String)
  | write (reached : Bool) (exception : String)
  | after (removed : Bool) (exception : String)
  | commit (applied : Bool) (exception : String)
deriving DecidableEq, Repr

/-- A source and its environment. `policyFault` is an error of the database under `_policy_for`. -/
structure Attempt where
  source : SourceSecret
  uuid : String
  policyFault : Option String
  fault : Fault
deriving DecidableEq, Repr

inductive Outcome where
  | planned | skipped | imported | failed
deriving DecidableEq, Repr

/-- One entry of `details`. -/
structure Detail where
  pk : Nat
  name : String
  outcome : Outcome
  detail : String
deriving DecidableEq, Repr

structure ImportResult where
  imported : Nat
  skipped : Nat
  failed : Nat
  details : List Detail
  policiesNeedingSetup : List String

/-- The arguments of a run. -/
structure ImportOptions where
  engine : Backend
  fallbackPolicy : CredentialPolicy
  dryRun : Bool
  mapRoles : Bool

/-- The database and the servers. -/
structure Estate where
  tables : Tables
  store : Location → Cell

def Estate.put (estate : Estate) (location : Location) (cell : Cell) : Estate :=
  { estate with store := fun l => if l = location then cell else estate.store l }

/-- What the loop carries from one source to the next. -/
structure Loop where
  estate : Estate
  result : ImportResult
  alreadyImported : List String
  policyCache : List (String × CredentialPolicy)

/-- `result.note(source, outcome, detail)`. -/
def ImportResult.note (result : ImportResult) (source : SourceSecret) (outcome : Outcome) (detail : String) :
    ImportResult :=
  { result with details := result.details ++ [⟨source.pk, source.name, outcome, detail⟩] }

section Loop

variable [MaterialLibrary] (config : Config) (slugify : String → String) (options : ImportOptions)

/-! ### The block -/

/-- The recovery of a block that has rolled back after its write: the exact version is deleted. -/
def recovered (estate : Estate) (location : Location) (version : Nat) (removed : Bool) : Estate :=
  match removed, options.engine.deleteCell (estate.store location) version with
  | true, .ok cell => estate.put location cell
  | _, _ => estate

/-- The block after its write: the assignment and the commit. -/
def finishCopy (attempt : Attempt) (estate : Estate) (location : Location) (row : Credential) (version : Nat) :
    Option String × Estate :=
  let assignment := sourceAssignment attempt.source (row.pk.getD 0) estate.tables.nextAssignment
  let committed := { estate with tables := commitCopy estate.tables { row with kvVersion := some version } assignment }
  if !assignable estate.tables assignment then
    (some "IntegrityError", recovered options estate location version true)
  else match attempt.fault with
    | .after removed exception => (some exception, recovered options estate location version removed)
    | .commit applied exception => (some exception, if applied then committed else estate)
    | _ => (none, committed)

/-- The block from its write on. -/
def writeCopy (attempt : Attempt) (estate : Estate) (row : Credential) (payload : Payload) : Option String × Estate :=
  let location := options.engine.location row.path
  match options.engine.writeCell (estate.store location) payload (some 0), attempt.fault with
  | .error error, _ => (some (exceptionName error), estate)
  | .ok (_, cell), .write reached exception => (some exception, if reached then estate.put location cell else estate)
  | .ok (version, cell), _ => finishCopy options attempt (estate.put location cell) location row version

/-- The `try` of the loop: the exception it catches, if one is raised, and what it leaves. -/
def copySecret (policy : CredentialPolicy) (attempt : Attempt) (estate : Estate) : Option String × Estate :=
  match attempt.fault with
  | .before exception => (some exception, estate)
  | _ =>
      match prepareCopy config estate.tables policy options.engine.engine attempt.source attempt.uuid with
      | .error exception => (some exception, estate)
      | .ok prepared =>
          let row := insertedRow config estate.tables.nextCredential prepared.credential
          let drawn := { estate with
            tables := { estate.tables with nextCredential := estate.tables.nextCredential + 1 } }
          if occupied estate.tables.credentials row then (some "IntegrityError", drawn)
          else writeCopy options attempt drawn row prepared.payload

/-! ### The loop -/

/-- `_policy_for` asks the database about this source. -/
def asksPolicy (source : SourceSecret) (cache : List (String × CredentialPolicy)) : Bool :=
  options.mapRoles && source.roleName != "" && (cache.lookup (roleSlug slugify source.roleName)).isNone

/-- The policy of a source, when the database does not fail under it. -/
def choosePolicy (attempt : Attempt) (loop : Loop) : Except String ChosenPolicy :=
  match attempt.policyFault, asksPolicy slugify options attempt.source loop.policyCache with
  | some exception, true => .error exception
  | _, _ => policyFor slugify attempt.source options.engine.engine options.fallbackPolicy options.mapRoles
      loop.estate.tables loop.policyCache loop.result.policiesNeedingSetup

/-- A source that is not skipped, once its policy is chosen. -/
def copyOne (attempt : Attempt) (loop : Loop) (chosen : ChosenPolicy) : Loop :=
  let estate := { loop.estate with tables := chosen.tables }
  let result := { loop.result with policiesNeedingSetup := chosen.needingSetup }
  match copySecret config options chosen.policy attempt estate with
  | (some exception, left) =>
      { loop with
        estate := left
        result := { result with failed := result.failed + 1 }.note attempt.source .failed exception
        policyCache := chosen.cache }
  | (none, left) =>
      { estate := left
        result := { result with imported := result.imported + 1 }.note attempt.source .imported
          (inferCredentialType attempt.source.plaintext).1
        alreadyImported := sourceMarker attempt.source.pk :: loop.alreadyImported
        policyCache := chosen.cache }

/-- The body of the loop. What `_policy_for` raises leaves the loop. -/
def importOne (loop : Loop) (attempt : Attempt) : Except String Loop :=
  if loop.alreadyImported.contains (sourceMarker attempt.source.pk) then
    .ok { loop with
          result := { loop.result with skipped := loop.result.skipped + 1 }.note attempt.source .skipped
            "already imported" }
  else if options.dryRun then
    .ok { loop with
          result := { loop.result with imported := loop.result.imported + 1 }.note attempt.source .planned
            (inferCredentialType attempt.source.plaintext).1 }
  else
    match choosePolicy slugify options attempt loop with
    | .error exception => .error exception
    | .ok chosen => .ok (copyOne config options attempt loop chosen)

def importLoop : List Attempt → Loop → Option String × Loop
  | [], loop => (none, loop)
  | attempt :: rest, loop =>
      match importOne config slugify options loop attempt with
      | .error exception => (some exception, loop)
      | .ok next => importLoop rest next

/-- The markers on this engine. -/
def markersOn (engine : Nat) (tables : Tables) : List String :=
  (tables.credentials.filter fun credential =>
    credential.engine == engine && Text.startsWith credential.importSource s!"{sourceSystem}:").map
      Credential.importSource

def startLoop (estate : Estate) : Loop where
  estate
  result := ⟨0, 0, 0, [], []⟩
  alreadyImported := markersOn options.engine.engine estate.tables
  policyCache := []

/-- `import_secrets`: the exception that leaves it, and the loop as it was then. -/
def importSecrets (attempts : List Attempt) (estate : Estate) : Option String × Loop :=
  importLoop config slugify options attempts (startLoop options estate)

end Loop

end NetboxOpenbao.Importers
