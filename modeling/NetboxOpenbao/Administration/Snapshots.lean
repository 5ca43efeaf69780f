import NetboxOpenbao.Administration.Cluster

/-!
# Snapshot uploads

The request body of a Raft snapshot restore: a stream that somebody else reads from, of a size declared beforehand. The
stream is any object with a `read` method, and may give less than asked, more, something that is not bytes, or raise.
-/

namespace NetboxOpenbao

namespace Cluster

/-- What `stream.read(amount)` does. -/
inductive StreamAnswer where
  | bytes (chunk : List UInt8)
  | other
  | raised (what : String)
deriving DecidableEq, Repr

/-- An object with a `read` method, which goes from one state to the next with each read. -/
structure SnapshotStream (σ : Type) where
  read : σ → Nat → StreamAnswer × σ

/-- `raise ValueError(message)`. -/
def valueError (message : String) : Error := .raised s!"ValueError: {message}"

/-- The body of an upload; `alreadyRead` is `_read`. -/
structure BoundedSnapshotReader (σ : Type) where
  stream : σ
  size : Nat
  alreadyRead : Nat
deriving DecidableEq, Repr

/-- One call of `read`: what it gave, the reader it left, and what the stream had answered if it was asked. -/
structure SnapshotRead (σ : Type) where
  outcome : Except Error (List UInt8)
  reader : BoundedSnapshotReader σ
  answer : Option StreamAnswer

namespace BoundedSnapshotReader

variable {σ : Type}

/-- `BoundedSnapshotReader(stream, size)`. -/
def init (stream : σ) (size : Json) : Except Error (BoundedSnapshotReader σ) :=
  match size with
  | .int n =>
      if 0 < n && n ≤ maxSnapshotBytes then .ok ⟨stream, n.toNat, 0⟩
      else .error (valueError "Snapshot size is outside the allowed range.")
  | _ => .error (valueError "Snapshot size is outside the allowed range.")

/-- What is asked of the stream for `amount`, with `remaining` bytes to come. -/
def requested (remaining : Int) (amount : Option Int) : Int :=
  match amount with
  | none => remaining
  | some n => if n < 0 || n > remaining then remaining else n

/-- `reader.read(amount)`. -/
def read (stream : SnapshotStream σ) (reader : BoundedSnapshotReader σ) (amount : Option Int) : SnapshotRead σ :=
  let remaining : Int := reader.size - reader.alreadyRead
  if remaining ≤ 0 then ⟨.ok [], reader, none⟩
  else
    let amount := requested remaining amount
    if amount == 0 then ⟨.ok [], reader, none⟩
    else
      let (answer, state) := stream.read reader.stream amount.toNat
      let reader := { reader with stream := state }
      match answer with
      | .raised what => ⟨.error (.raised what), reader, some answer⟩
      | .other => ⟨.error (valueError "Snapshot stream returned invalid data."), reader, some answer⟩
      | .bytes chunk =>
          if chunk.isEmpty then
            ⟨.error (valueError "Snapshot stream ended before its declared size."), reader, some answer⟩
          else if chunk.length > amount then
            ⟨.error (valueError "Snapshot stream exceeded its requested chunk size."), reader, some answer⟩
          else
            let reader := { reader with alreadyRead := reader.alreadyRead + chunk.length }
            if reader.alreadyRead > reader.size then
              ⟨.error (valueError "Snapshot stream exceeded its declared size."), reader, some answer⟩
            else ⟨.ok chunk, reader, some answer⟩

/-- A sequence of reads, each with the amount it was called with. -/
def reads (stream : SnapshotStream σ) (reader : BoundedSnapshotReader σ) :
    List (Option Int) → List (Option Int × SnapshotRead σ)
  | [] => []
  | amount :: rest =>
      let call := reader.read stream amount
      (amount, call) :: reads stream call.reader rest

end BoundedSnapshotReader

end Cluster

end NetboxOpenbao
