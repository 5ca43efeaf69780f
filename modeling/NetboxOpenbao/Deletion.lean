import NetboxOpenbao.Effect.Nesting

/-!
# Destroying material after a deletion

The connections of one process to its databases, the credential rows deleted on them, and the callbacks that
destroy the material of those rows. Deleting rows, sending `post_delete` for each, and entering and leaving the
atomic blocks around them are moves of their own, in any order. A deletion through the ORM is such a sequence,
inside a block that makes no savepoint.
-/

namespace NetboxOpenbao

open Effect

abbrev Alias := String

/-- `DEFAULT_DB_ALIAS`. -/
def defaultDbAlias : Alias := "default"

/-- A row deleted by a statement on a connection; `number` tells deletions apart. -/
structure Deletion where
  «alias» : Alias
  pk : Nat
  number : Nat
deriving DecidableEq, Repr

/-- How `COMMIT` went: the answer arrived; the server refused; the server committed and the answer was lost. -/
inductive CommitOutcome where
  | committed
  | refused
  | lost
deriving DecidableEq, Repr

/-- The open transaction of every connection, the deletions that have been committed, and those whose material has
been destroyed. -/
structure Connections where
  transactions : Alias → Option (Nesting Deletion Deletion)
  nextNumber : Nat
  committed : List Deletion
  destroyed : List Deletion

inductive DeletionMove where
  | enterAtomic («alias» : Alias) (savepoint : Bool)
  | leaveAtomic («alias» : Alias) (failed : Bool) (outcome : CommitOutcome)
  | abort («alias» : Alias)
  | lose («alias» : Alias)
  | deleteBatch («alias» : Alias) (pks : List Nat)
  | postDelete (deletion : Deletion)
deriving DecidableEq, Repr

namespace Connections

def put (c : Connections) («alias» : Alias) (transaction : Option (Nesting Deletion Deletion)) : Connections :=
  { c with transactions := fun a => if a = «alias» then transaction else c.transactions a }

/-- Rows to delete, each with a number of its own. -/
def numbered («alias» : Alias) (number : Nat) : List Nat → List Deletion
  | [] => []
  | pk :: pks => ⟨«alias», pk, number⟩ :: numbered «alias» (number + 1) pks

def deleteBatch (c : Connections) («alias» : Alias) (pks : List Nat) : Connections :=
  match c.transactions «alias» with
  | none => c
  | some t =>
    if t.refuses then c
    else { c with nextNumber := c.nextNumber + pks.length }.put «alias»
      (some { t with work := t.work ++ numbered «alias» c.nextNumber pks })

/-- `destroy`, which lets no exception out. -/
def destroy (c : Connections) (deletion : Deletion) : Connections :=
  { c with destroyed := c.destroyed ++ [deletion] }

/-- `transaction.on_commit(destroy)`: on the connection it names none other, the default one. A connection outside
any atomic block runs the callback at once. -/
def destroyMaterialOnDelete (c : Connections) (deletion : Deletion) : Connections :=
  match c.transactions defaultDbAlias with
  | some t => c.put defaultDbAlias (some { t with hooks := t.hooks ++ [deletion] })
  | none => c.destroy deletion

/-- `COMMIT`, and the callbacks after it. In an aborted transaction PostgreSQL rolls back and reports no error. -/
def commit (c : Connections) («alias» : Alias) (t : Nesting Deletion Deletion) (outcome : CommitOutcome) : Connections :=
  let durable := if t.aborted then [] else t.work
  let c := c.put «alias» none
  if t.broken then c
  else match outcome with
    | .committed => { c with committed := c.committed ++ durable, destroyed := c.destroyed ++ t.hooks }
    | .refused => c
    | .lost => { c with committed := c.committed ++ durable }

def leaveAtomic (c : Connections) («alias» : Alias) (failed : Bool) (outcome : CommitOutcome) : Connections :=
  match c.transactions «alias» with
  | none => c
  | some t => match t.blocks with
    | _ :: _ => c.put «alias» (some (t.leave failed))
    | [] => if failed || t.needsRollback then c.put «alias» none else c.commit «alias» t outcome

def step (c : Connections) : DeletionMove → Connections
  | .enterAtomic «alias» savepoint => c.put «alias» (some (match c.transactions «alias» with
    | none => .begun
    | some t => t.enter savepoint))
  | .leaveAtomic «alias» failed outcome => c.leaveAtomic «alias» failed outcome
  | .abort «alias» => c.put «alias» ((c.transactions «alias»).map .abort)
  | .lose «alias» => c.put «alias» ((c.transactions «alias»).map .lose)
  | .deleteBatch «alias» pks => c.deleteBatch «alias» pks
  | .postDelete deletion =>
    match c.transactions deletion.alias with
    | some t => if deletion ∈ t.work then c.destroyMaterialOnDelete deletion else c
    | none => c

end Connections

end NetboxOpenbao
