/-!
# What can be raised

The exceptions the code under study raises, catches or inspects. A backend exception carries a fixed
message. A database failure carries what `_unknown_rollback` looks at: whether Django reports an
`IntegrityError`, and the driver exception it was raised from. `schema` stands for `CapabilitySchemaError`, and
`audit` for `AdministrationAuditError`.
-/

namespace NetboxOpenbao

inductive OpenBaoErrorKind where
  | base | configuration | auth | notFound | conflict | unavailable | mutationUnknown
deriving DecidableEq, Repr

/-- The driver exception behind a database error: its class, and the SQLSTATE the server sent. -/
structure DriverCause where
  integrity : Bool
  sqlstate : List Char
deriving DecidableEq, Repr

structure DatabaseFailure where
  integrity : Bool
  cause : Option DriverCause
deriving DecidableEq, Repr

/-- The server itself reported an integrity violation: an `IntegrityError` from a driver integrity
error of SQLSTATE class 23. -/
def DatabaseFailure.rejected (f : DatabaseFailure) : Bool :=
  match f.cause with
  | some cause => f.integrity && cause.integrity && ['2', '3'].isPrefixOf cause.sqlstate
  | none => false

inductive Error where
  | openbao (kind : OpenBaoErrorKind) (message : String)
  | validation (field : String) (message : String)
  | permissionDenied (message : String)
  | doesNotExist
  | keyError (key : String)
  | database (failure : DatabaseFailure)
  | schema (message : String)
  | audit (message : String)
  | raised (what : String)
deriving DecidableEq, Repr

namespace Error

def notFound : Error := .openbao .notFound "No secret exists at the requested path."

def conflict : Error := .openbao .conflict "The secret was modified concurrently; the write was refused."

def unavailable : Error := .openbao .unavailable "OpenBao is unreachable or sealed."

/-- A mutation that was sent, and whose outcome is not known. -/
def mutationUnknown : Error :=
  .openbao .mutationUnknown "OpenBao may have accepted the request; verify state before retrying."

/-- A statement the server or the connection refused, without evidence of an integrity violation. -/
def operational : Error := .database ⟨false, none⟩

/-- `isinstance(exc, IntegrityError)` with a server-reported class 23 cause. -/
def rejected : Error → Bool
  | .database failure => failure.rejected
  | _ => false

end Error

end NetboxOpenbao
