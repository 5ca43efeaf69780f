import NetboxOpenbao.Blocks

/-!
# API operations

`material_api_operation`: a view under an owner of its own. The view may answer with a response or raise, and
what the caller gets depends on how the owner left its transaction.
-/

namespace NetboxOpenbao

open Effect

structure Response where
  status : Nat
  data : Value
  headers : List (String × String)

/-- The answer to a mutation whose outcome is not known. -/
def Response.unknownOutcome : Response where
  status := 503
  data := .dict [("outcome", .str "unknown"),
    ("message", .str "OpenBao may have accepted the request. Do not retry; verify current state first.")]
  headers := [("Cache-Control", "no-store, no-cache, must-revalidate, max-age=0"), ("Pragma", "no-cache"),
    ("Expires", "0"), ("X-OpenBao-Operation-Outcome", "unknown")]

/-- A view: it runs code as any caller of a material transaction does, and answers with a response. -/
inductive View where
  | respond (response : Response)
  | seq (block : Block) (next : View)
  | branch (test : World → Bool) (yes no : View)
  | handle (view : View) (handler : Error → View)
  | owned (view : View)
  | savepoint (view : View)

def View.run [library : MaterialLibrary] : View → M Response
  | .respond response => pure response
  | .seq block next => do
    block.run
    next.run
  | .branch test yes no => do
    if test (← get) then yes.run else no.run
  | .handle view handler => do
    try view.run
    catch error => (handler error).run
  | .owned view => materialTransaction view.run
  | .savepoint view => atomic view.run

/-- `known_rollback`, which `recover` sets and a successful exit leaves unset. -/
def Exit.knownRollback {α : Type} (exit : Exit α) : Bool :=
  match exit.result with
  | .ok _ => false
  | .error _ => !exit.unknown && !exit.owner.committed

/-- The world the body of an outermost owner runs in. -/
def World.entered (w : World) : World := { ({ w with
    owner := some (MaterialTransaction.fresh w.operations)
    operations := w.operations + 1 } : World).ticked.begun with onCommit := [.markCommitted] }

/-- The variable `response` when an outermost owner is left: what the view returned, if it was entered and
returned. -/
def assigned (view : M Response) (w : World) : Option Response :=
  match w.env.fault w.clock with
  | .none => (view w.entered).1.toOption
  | _ => none

/-- The two `except` clauses. -/
def answerFailure (knownRollback : Bool) (response : Option Response) : Error → M Response
  | .openbao .mutationUnknown _ => pure Response.unknownOutcome
  | .openbao kind message => match knownRollback, response with
    | true, some response =>
      if response.status ≥ 400 then pure response else throw (.openbao kind message)
    | _, _ => throw (.openbao kind message)
  | error => throw error

/-- `material_api_operation`. An owner that was there already has not recovered anything yet, so its
`known_rollback` is unset. -/
def materialApiOperation (view : M Response) : M Response := do
  let w ← get
  match w.owner with
  | some _ => do
    try materialTransaction view
    catch error => answerFailure false none error
  | none => do
    raiseIf w.conn.inAtomic (.openbao .base
      "An outer material transaction requires autocommit before application transactions.")
    let exit ← ownedTransaction view
    try settle exit
    catch error => answerFailure exit.knownRollback (assigned view w) error

end NetboxOpenbao
