import NetboxOpenbao.Operations

/-!
# The verification job

`CredentialVerifyJob` walks over the credential rows, asks the server for the newest version of each path, and
writes the answer into the row. It takes no lock: between the load, the answer and the write any number of
operations may run.
-/

namespace NetboxOpenbao

open Effect

/-- `read_metadata(path).get('current_version')`. A path without a version has metadata only if custom
metadata has been `published` there. -/
def Backend.metadataCell (b : Backend) (cell : Cell) (published : Bool) : Except Error Nat := do
  b.requireKv2 "Reading metadata"
  if cell.secret.current = 0 && !published then throw .notFound
  return cell.secret.current

/-- `backend.read_metadata`. -/
def backendReadMetadata (b : Backend) (path : String) (published : Bool) : M Nat := do
  match ← tick with
  | .none => do
    let cell := (← get).ext.store (b.location path)
    Prog.resume (b.metadataCell cell published)
  | _ => throw .unavailable

namespace CredentialVerifyJob

/-- The answer of the server for one credential; a failure only ends up in a counter. -/
def examine (credential : Credential) (published : Bool) : M Nat := do
  let backend ← getBackend credential.engineId
  backendReadMetadata backend credential.path published

/-- `metadata.get('current_version') or credential.kv_version`. -/
def verifiedVersion (credential : Credential) (current : Nat) : Option Nat :=
  if current = 0 then credential.kvVersion else some current

/-- `filter(pk=pk).update(kv_version=…, last_verified=…)`. -/
def updateRow (db : Database) (pk : Nat) (version : Option Nat) (time : Time) : Database :=
  match db.credentials pk with
  | some row => db.putCredential pk { row with kvVersion := version, lastVerified := some time }
  | none => db

def save (pk : Nat) (credential : Credential) (current : Nat) : M Unit := do
  let time ← now
  statement fun db => .ok ((), updateRow db pk (verifiedVersion credential current) time)

end CredentialVerifyJob

/-- One credential the job is at: the instance it loaded, what the server has answered, and, for the reader only,
whether a later version has got into the row since the answer or was there already. -/
structure Verification where
  pk : Nat
  credential : Credential
  current : Option Nat
  overtaken : Bool

/-- What the job writes for the counter, zero for no number. -/
def Verification.number (v : Verification) : Nat :=
  match v.current with
  | some current => (CredentialVerifyJob.verifiedVersion v.credential current).getD 0
  | none => 0

/-- The counter of the row numbered `pk`. -/
def Site.counter (s : Site) (pk : Nat) : Nat := ((s.db.credentials pk).bind Credential.kvVersion).getD 0

/-- A call overtakes a verification by a rotation or a staging it commits: these move the counter. -/
def Verification.afterCall (before after : Site) (v : Verification) : Verification :=
  { v with overtaken := v.overtaken || after.counter v.pk != before.counter v.pk }

/-- Another verification overtakes it by a higher number written into the same row. -/
def Verification.afterSave (written : Bool) (other v : Verification) : Verification :=
  { v with overtaken := v.overtaken || (written && v.pk == other.pk && decide (v.number < other.number)) }

/-- A site with the verifications in progress. -/
structure JobSite where
  site : Site
  checks : List Verification

/-- What happens next: an operation, or one move of a verification. -/
inductive JobTurn where
  | call (c : Call)
  | load (pk : Nat)
  | examine (index : Nat) (published : Bool) (env : Env) (acts : Nat → List Act)
  | save (index : Nat) (env : Env) (acts : Nat → List Act)

namespace JobSite

/-- The row is read into an instance. -/
def load (j : JobSite) (pk : Nat) : JobSite :=
  match j.site.db.credentials pk with
  | some row => { j with checks := j.checks ++ [⟨pk, row, none, false⟩] }
  | none => j

/-- The server answers, or the job goes on to the next credential. -/
def examine (j : JobSite) (index : Nat) (published : Bool) (env : Env) (acts : Nat → List Act) : JobSite :=
  match j.checks[index]? with
  | some ⟨pk, credential, none, _⟩ =>
    let ran := CredentialVerifyJob.examine credential published (j.site.start env acts)
    { site := ran.2.site
      checks := match ran.1 with
        | .ok current =>
          let answered : Verification := ⟨pk, credential, some current, false⟩
          j.checks.set index { answered with overtaken := decide (answered.number < j.site.counter pk) }
        | .error _ => j.checks.eraseIdx index }
  | _ => j

/-- The answer is written into the row. -/
def save (j : JobSite) (index : Nat) (env : Env) (acts : Nat → List Act) : JobSite :=
  match j.checks[index]? with
  | some ⟨pk, credential, some current, overtaken⟩ =>
    { site := (CredentialVerifyJob.save pk credential current (j.site.start env acts)).2.site
      checks := (j.checks.eraseIdx index).map
        (Verification.afterSave (env.fault 0).carriedOut ⟨pk, credential, some current, overtaken⟩) }
  | _ => j

def step [library : MaterialLibrary] (j : JobSite) : JobTurn → JobSite
  | .call c => ⟨j.site.step c, j.checks.map (Verification.afterCall j.site (j.site.step c))⟩
  | .load pk => j.load pk
  | .examine index published env acts => j.examine index published env acts
  | .save index env acts => j.save index env acts

end JobSite

end NetboxOpenbao
