import NetboxOpenbao.Jobs
import NetboxOpenbao.Services.Assignments

/-!
# Three ways to the material

The plain reveal, the reveal of an assignment and the read of an automation pick the version they ask the server
for by three rules. The plain reveal is `revealMaterial` without a version, the reveal of an assignment
`AssignmentReveal.run`; the read of an automation stands here as the one request to the server that
`read_automation_bundle` makes. Around them are the operations, the verification job, and whatever else goes on.
-/

namespace NetboxOpenbao

open Effect

inductive ReadPath where
  | reveal
  | assignment
  | automation
deriving DecidableEq, Repr

/-- `_version`, and the read of `read_automation_bundle` at that version. -/
def readAutomation (authority : Authority) (credential : Credential) : M Payload := do
  let version ← Prog.resume (Automation.version authority credential)
  let backend ← getBackend credential.engineId
  backendRead backend credential.path (some version)

/-- What happens next: an operation or a move of the verification job, or something else that leaves the site as
`after`. -/
inductive ServiceTurn where
  | job (turn : JobTurn)
  | others (after : Site)

def JobSite.turn [library : MaterialLibrary] (j : JobSite) : ServiceTurn → JobSite
  | .job turn => j.step turn
  | .others after => { j with site := after }

end NetboxOpenbao
