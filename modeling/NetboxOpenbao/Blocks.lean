import NetboxOpenbao.Operations

/-!
# Code under an owner

The code a material transaction can run: service calls, statements and callbacks of the caller's own,
nested owner blocks and savepoints, exceptions raised and caught anywhere. A block decides what to do next
from the world it is in, so a caller that looks at rows or at results is a block too.
-/

namespace NetboxOpenbao

open Effect

/-- A call of the service layer. -/
inductive Service where
  | operation (o : Operation)
  | store (r : StoreRequest)
  | reveal (c : Credential) (user : Option User) (request : Option Nat) (reason : String)
      (version : Option Nat)

def Service.run [library : MaterialLibrary] : Service → M Unit
  | .operation o => o.run
  | .store r => ignoring (storeCredential r)
  | .reveal c user request reason version => ignoring (revealMaterial c user request reason version)

/-- `connection.close()`, which inside a transaction marks it for rollback. -/
def closeConnection : M Unit :=
  modify fun w =>
    if w.conn.inAtomic then { w with conn := { w.conn with closed := true, needsRollback := true } } else w

/-- `edit` is a statement of the caller's own on the credential rows, `defer` a commit callback, `handle` a
`try … except`, `owned` a `with material_transaction():` and `savepoint` a `with transaction.atomic():`. -/
inductive Block where
  | done
  | call (service : Service)
  | edit (f : (Nat → Option Credential) → Except Error (Nat → Option Credential))
  | defer (raises : Option Error)
  | close
  | raise (error : Error)
  | seq (first second : Block)
  | branch (test : World → Bool) (yes no : Block)
  | handle (block : Block) (handler : Error → Block)
  | owned (block : Block)
  | savepoint (block : Block)

/-- A statement of the caller's own. -/
def editRows (f : (Nat → Option Credential) → Except Error (Nat → Option Credential)) : M Unit :=
  saving fun db => (f db.credentials).map fun credentials => ((), { db with credentials })

def Block.run [library : MaterialLibrary] : Block → M Unit
  | .done => pure ()
  | .call service => service.run
  | .edit f => editRows f
  | .defer raises => modify fun w => { w with onCommit := w.onCommit ++ [.foreign raises] }
  | .close => closeConnection
  | .raise error => throw error
  | .seq first second => do
    first.run
    second.run
  | .branch test yes no => do
    if test (← get) then yes.run else no.run
  | .handle block handler => do
    try block.run
    catch error => (handler error).run
  | .owned block => materialTransaction block.run
  | .savepoint block => atomic block.run

end NetboxOpenbao
