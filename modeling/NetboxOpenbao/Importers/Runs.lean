import NetboxOpenbao.Importers.Import

/-!
# Imports at the same time

Runs of `import_secrets` that are not alone. A run is taken apart where it waits for the database or the server: a
selection, the validation of the instance, its insert, the write, the commit, the recovery after a rollback. Between any
two of these every other run may go on, and the process of a run may end anywhere. An insert waits while another
transaction holds a row it clashes with.
-/

namespace NetboxOpenbao.Importers

/-- Where a run is in its loop. -/
inductive Phase where
  | next
  | chosen (attempt : Attempt) (policy : CredentialPolicy)
  | cleaned (attempt : Attempt) (prepared : Prepared)
  | inserted (attempt : Attempt) (row : Credential) (payload : Payload)
  | written (attempt : Attempt) (row : Credential) (version : Nat)
  | rolledBack (attempt : Attempt) (row : Credential) (version : Nat) (removed : Bool) (exception : String)
  | returned
  | raised (exception : String)
  | killed

/-- A run: its arguments, and the local variables of the loop. -/
structure Run where
  options : ImportOptions
  attempts : List Attempt
  remaining : List Attempt
  result : ImportResult
  alreadyImported : List String
  policyCache : List (String × CredentialPolicy)
  phase : Phase

/-- The row that the transaction of a run has inserted and not committed. -/
def Run.uncommitted (run : Run) : Option Credential :=
  match run.phase with
  | .inserted _ row _ => some row
  | .written _ row _ => some row
  | _ => none

namespace Run

def start (options : ImportOptions) (attempts : List Attempt) (tables : Tables) : Run where
  options
  attempts
  remaining := attempts
  result := ⟨0, 0, 0, [], []⟩
  alreadyImported := markersOn options.engine.engine tables
  policyCache := []
  phase := .next

def loop (run : Run) (estate : Estate) : Loop := ⟨estate, run.result, run.alreadyImported, run.policyCache⟩

/-- The handler of the block. -/
def fails (run : Run) (attempt : Attempt) (exception : String) : Run :=
  { run with
    result := { run.result with failed := run.result.failed + 1 }.note attempt.source .failed exception
    phase := .next }

section Acts

variable [MaterialLibrary] (config : Config) (slugify : String → String)

/-- The end of the loop's body. -/
def imports (run : Run) (attempt : Attempt) : Run :=
  { run with
    result := { run.result with imported := run.result.imported + 1 }.note attempt.source .imported
      (inferCredentialType attempt.source.plaintext).1
    alreadyImported := sourceMarker attempt.source.pk :: run.alreadyImported
    phase := .next }

/-- The next source, up to its instance. -/
def select (run : Run) (estate : Estate) : Run × Estate :=
  match run.remaining with
  | [] => ({ run with phase := .returned }, estate)
  | attempt :: rest =>
      let run := { run with remaining := rest }
      if run.alreadyImported.contains (sourceMarker attempt.source.pk) then
        ({ run with
            result := { run.result with skipped := run.result.skipped + 1 }.note attempt.source .skipped
              "already imported" }, estate)
      else if run.options.dryRun then
        ({ run with
            result := { run.result with imported := run.result.imported + 1 }.note attempt.source .planned
              (inferCredentialType attempt.source.plaintext).1 }, estate)
      else
        match choosePolicy slugify run.options attempt (run.loop estate) with
        | .error exception => ({ run with phase := .raised exception }, estate)
        | .ok chosen =>
            ({ run with
                result := { run.result with policiesNeedingSetup := chosen.needingSetup }
                policyCache := chosen.cache
                phase := .chosen attempt chosen.policy }, { estate with tables := chosen.tables })

def clean (run : Run) (attempt : Attempt) (policy : CredentialPolicy) (estate : Estate) : Run × Estate :=
  match attempt.fault with
  | .before exception => (run.fails attempt exception, estate)
  | _ =>
      match prepareCopy config estate.tables policy run.options.engine.engine attempt.source attempt.uuid with
      | .error exception => (run.fails attempt exception, estate)
      | .ok prepared => ({ run with phase := .cleaned attempt prepared }, estate)

/-- The insert. `others` are the rows of the open transactions. -/
def insert (run : Run) (attempt : Attempt) (prepared : Prepared) (others : List Credential) (estate : Estate) :
    Run × Estate :=
  let row := insertedRow config estate.tables.nextCredential prepared.credential
  let drawn := { estate with
    tables := { estate.tables with nextCredential := estate.tables.nextCredential + 1 } }
  if occupied estate.tables.credentials row then (run.fails attempt "IntegrityError", drawn)
  else if occupied others row then (run, estate)
  else ({ run with phase := .inserted attempt row prepared.payload }, drawn)

def write (run : Run) (attempt : Attempt) (row : Credential) (payload : Payload) (estate : Estate) : Run × Estate :=
  let location := run.options.engine.location row.path
  match run.options.engine.writeCell (estate.store location) payload (some 0), attempt.fault with
  | .error error, _ => (run.fails attempt (exceptionName error), estate)
  | .ok (_, cell), .write reached exception =>
      (run.fails attempt exception, if reached then estate.put location cell else estate)
  | .ok (version, cell), _ => ({ run with phase := .written attempt row version }, estate.put location cell)

/-- The assignment and the commit. -/
def finish (run : Run) (attempt : Attempt) (row : Credential) (version : Nat) (estate : Estate) : Run × Estate :=
  let assignment := sourceAssignment attempt.source (row.pk.getD 0) estate.tables.nextAssignment
  let committed := { estate with tables := commitCopy estate.tables { row with kvVersion := some version } assignment }
  if !assignable estate.tables assignment then
    ({ run with phase := .rolledBack attempt row version true "IntegrityError" }, estate)
  else match attempt.fault with
    | .after removed exception => ({ run with phase := .rolledBack attempt row version removed exception }, estate)
    | .commit applied exception => (run.fails attempt exception, if applied then committed else estate)
    | _ => (run.imports attempt, committed)

def recover (run : Run) (attempt : Attempt) (row : Credential) (version : Nat) (removed : Bool) (exception : String)
    (estate : Estate) : Run × Estate :=
  (run.fails attempt exception, recovered run.options estate (run.options.engine.location row.path) version removed)

/-- What the run does next. -/
def act (run : Run) (others : List Credential) (estate : Estate) : Run × Estate :=
  match run.phase with
  | .next => run.select slugify estate
  | .chosen attempt policy => run.clean config attempt policy estate
  | .cleaned attempt prepared => run.insert config attempt prepared others estate
  | .inserted attempt row payload => run.write attempt row payload estate
  | .written attempt row version => run.finish attempt row version estate
  | .rolledBack attempt row version removed exception => run.recover attempt row version removed exception estate
  | .returned | .raised _ | .killed => (run, estate)

end Acts

end Run

/-! ### The system -/

structure System where
  estate : Estate
  runs : List Run

inductive Event where
  | start (options : ImportOptions) (attempts : List Attempt)
  | act (i : Nat)
  | kill (i : Nat)

namespace System

variable [MaterialLibrary] (config : Config) (slugify : String → String)

def step (system : System) : Event → System
  | .start options attempts =>
      { system with runs := system.runs ++ [Run.start options attempts system.estate.tables] }
  | .act i =>
      match system.runs[i]? with
      | none => system
      | some run =>
          let (next, estate) := run.act config slugify (system.runs.filterMap Run.uncommitted) system.estate
          ⟨estate, system.runs.set i next⟩
  | .kill i =>
      match system.runs[i]? with
      | none => system
      | some run => { system with runs := system.runs.set i { run with phase := .killed } }

end System

end NetboxOpenbao.Importers
