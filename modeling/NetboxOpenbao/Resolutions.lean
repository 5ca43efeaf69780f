import NetboxOpenbao.Resolution

/-!
# Any number of resolutions

The calls of `resolve_automation` on one database, each at a point of its dialogue. A move answers what a call asks.
The receipts and audit rows are kept here, with the uniqueness of a receipt's key; every other answer is the
surroundings' to choose: the inventory a statement sees, the RPC authority, the backend, and any failure.
-/

namespace NetboxOpenbao

open Effect

/-- A row of the receipts or of the access log. -/
inductive AutomationRow where
  | receipt (receipt : AutomationResolutionReceipt)
  | log (id : Nat) (log : AutomationAccessLog)
deriving DecidableEq, Repr

namespace AutomationRow

def key : AutomationRow → Option ReceiptKey
  | receipt r => some r.key
  | log _ _ => none

def update (id : Nat) (success : Bool) (message : String) : AutomationRow → AutomationRow
  | log id' l => if id' = id then log id' { l with success, message } else log id' l
  | row => row

end AutomationRow

/-- What a connection has written: rows of committed transactions, and those of the open one. -/
structure Book where
  inAtomicBlock : Bool
  pending : List AutomationRow
  committed : List AutomationRow
deriving DecidableEq, Repr

namespace Book

def blank : Book := ⟨false, [], []⟩

def insert (b : Book) (row : AutomationRow) : Book :=
  if b.inAtomicBlock then { b with pending := b.pending ++ [row] } else { b with committed := b.committed ++ [row] }

def update (b : Book) (id : Nat) (success : Bool) (message : String) : Book :=
  if b.inAtomicBlock then { b with pending := b.pending.map (·.update id success message) }
  else { b with committed := b.committed.map (·.update id success message) }

/-- The end of a transaction. -/
def close (b : Book) (durable : Bool) : Book :=
  ⟨false, [], if durable then b.committed ++ b.pending else b.committed⟩

/-- What an answered request leaves in the book. `durable` tells whether a `COMMIT` that raised has been carried out
all the same. -/
def note (b : Book) (durable : Bool) : Exchange Error Request Request.Carries → Book
  | ⟨.begin, .ok _⟩ => { b with inAtomicBlock := true }
  | ⟨.commit, .ok _⟩ => b.close true
  | ⟨.commit, .error _⟩ => b.close durable
  | ⟨.rollback, _⟩ => b.close false
  | ⟨.createReceipt receipt, .ok _⟩ => b.insert (.receipt receipt)
  | ⟨.createLog log, .ok id⟩ => b.insert (.log id log)
  | ⟨.updateLog id success message, .ok _⟩ => b.update id success message
  | _ => b

end Book

/-- A call, what it has asked so far, and what is left of it. -/
structure AutomationCall where
  inAtomicBlock : Bool
  autocommit : Bool
  executor : Executor
  params : AutomationParams
  history : List (Exchange Error Request Request.Carries)
  rest : Talk AutomationBundle
  crashed : Bool
  book : Book

/-- What the call has returned. -/
def AutomationCall.bundle (call : AutomationCall) : Option AutomationBundle :=
  match call.rest with
  | .done (.ok bundle) => some bundle
  | _ => none

/-- All calls, and the receipts from before. -/
structure Resolutions where
  earlier : List AutomationResolutionReceipt
  calls : List AutomationCall
  nextLog : Nat

inductive ResolutionMove where
  | start (inAtomicBlock autocommit : Bool) (executor : Executor) (params : AutomationParams)
  | answer (call : Nat) (answers : (request : Request) → Except Error request.Carries) (durable : Bool)
  | crash (call : Nat) (durable : Bool)

/-- A violation of `openbao_automation_once`. -/
def receiptExists : Error := .database ⟨true, some ⟨true, ['2', '3', '5', '0', '5']⟩⟩

namespace Resolutions

def takes (key : ReceiptKey) (rows : List AutomationRow) : Bool := rows.any fun row => row.key == some key

/-- Whether a receipt of the key is committed, or inserted by a transaction that is still open. -/
def committedKey (r : Resolutions) (key : ReceiptKey) : Bool :=
  r.earlier.any (·.key == key) || r.calls.any fun call => takes key call.book.committed

def openKey (r : Resolutions) (key : ReceiptKey) : Bool := r.calls.any fun call => takes key call.book.pending

/-- The answer to a request, if it is answered at all: a second receipt of a key is refused once the first is
committed, and waits for the end of its transaction until then. -/
def reply (r : Resolutions) : (request : Request) → Except Error request.Carries →
    Option (Except Error request.Carries)
  | .createReceipt receipt, .ok () =>
    if r.committedKey receipt.key then some (.error receiptExists)
    else if r.openKey receipt.key then none
    else some (.ok ())
  | .createLog _, .ok _ => some (.ok r.nextLog)
  | _, given => some given

def put (r : Resolutions) (index : Nat) (call : AutomationCall) : Resolutions :=
  { r with calls := r.calls.set index call, nextLog := r.nextLog + 1 }

variable [hashing : Hashing] [library : MaterialLibrary]

def step (r : Resolutions) : ResolutionMove → Resolutions
  | .start inAtomicBlock autocommit executor params =>
    { r with calls := r.calls ++ [{
        inAtomicBlock, autocommit, executor, params
        history := []
        rest := Automation.resolveAutomation inAtomicBlock autocommit executor params
        crashed := false
        book := Book.blank }] }
  | .answer index answers durable =>
    match r.calls[index]? with
    | none => r
    | some call =>
      if call.crashed then r
      else match call.rest with
      | .done _ => r
      | .ask request next =>
        match r.reply request (answers request) with
        | none => r
        | some given => r.put index { call with
            history := call.history ++ [⟨request, given⟩]
            rest := next given
            book := call.book.note durable ⟨request, given⟩ }
  | .crash index durable =>
    match r.calls[index]? with
    | none => r
    | some call =>
      match call.rest.pending with
      | none => r
      | some request => r.put index { call with
          crashed := true
          book := call.book.close (durable && request == .commit) }

end Resolutions

end NetboxOpenbao
