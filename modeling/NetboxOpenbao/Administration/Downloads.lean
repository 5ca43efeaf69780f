import NetboxOpenbao.Administration.Snapshots

/-!
# Snapshot downloads

The response body of a Raft snapshot, handed on chunk by chunk. `chunks()` is a generator: calling it runs nothing, each
`next` runs it to its next `yield` or to its end, and closing it while it waits at a `yield` runs its `finally`. Any
number of generators can be made of one download, and each of them can be resumed or closed at any time.
-/

namespace NetboxOpenbao

namespace Cluster

/-- The response: what iterating over `response.raw.stream(...)` still gives before it ends, and whether `close` was
called. -/
structure SnapshotResponse where
  coming : List StreamAnswer
  closed : Bool
deriving DecidableEq, Repr

def SnapshotResponse.close (response : SnapshotResponse) : SnapshotResponse := { response with closed := true }

structure SnapshotDownload where
  response : SnapshotResponse
  declaredSize : Option Int
  opened : Bool
deriving DecidableEq, Repr

/-- Where a generator stands: not begun, at the `yield` with the `total` so far, or over. -/
inductive ChunksFrame where
  | created
  | suspended (total : Nat)
  | finished
deriving DecidableEq, Repr

/-- What `next` on a generator did. -/
inductive Resumed where
  | yielded (chunk : List UInt8)
  | returned
  | raised (error : Error)
deriving DecidableEq, Repr

namespace SnapshotDownload

/-- `SnapshotDownload(response, declared_size)`. -/
def init (response : SnapshotResponse) (declaredSize : Option Int) : SnapshotDownload :=
  ⟨response, declaredSize, false⟩

def oneUse : Error := .raised "RuntimeError: Snapshot download streams are one-use."

/-- The check after the loop. -/
def checkLength (declaredSize : Option Int) (total : Nat) : Resumed :=
  match declaredSize with
  | none => .returned
  | some size =>
      if (total : Int) != size then .raised (valueError "Snapshot stream length did not match its declared size.")
      else .returned

/-- The loop over the stream and the check after it, from a place with `total` bytes so far: what stopped it, the frame
it left and what the stream has left. -/
def loop (declaredSize : Option Int) (total : Nat) : List StreamAnswer → Resumed × ChunksFrame × List StreamAnswer
  | [] => (checkLength declaredSize total, .finished, [])
  | .raised what :: coming => (.raised (.raised what), .finished, coming)
  | .other :: coming => (.raised (valueError "Snapshot stream returned invalid data."), .finished, coming)
  | .bytes chunk :: coming =>
      let total := total + chunk.length
      if total > maxSnapshotBytes then
        (.raised (valueError "Snapshot stream exceeded the allowed size."), .finished, coming)
      else if !chunk.isEmpty then (.yielded chunk, .suspended total, coming)
      else loop declaredSize total coming

/-- The body of the `try`, with its `finally` when it is left for good. -/
def proceed (download : SnapshotDownload) (total : Nat) : Resumed × ChunksFrame × SnapshotDownload :=
  let (resumed, frame, coming) := loop download.declaredSize total download.response.coming
  let response := { download.response with coming }
  (resumed, frame, { download with response := if frame = .finished then response.close else response })

/-- `next(generator)`. -/
def resume (download : SnapshotDownload) : ChunksFrame → Resumed × ChunksFrame × SnapshotDownload
  | .created =>
      if download.opened then (.raised oneUse, .finished, download)
      else proceed { download with opened := true } 0
  | .suspended total => proceed download total
  | .finished => (.returned, .finished, download)

/-- `generator.close()`, or the end of its last reference. -/
def abandon (download : SnapshotDownload) : ChunksFrame → SnapshotDownload
  | .suspended _ => { download with response := download.response.close }
  | .created | .finished => download

/-- `download.close()`. -/
def close (download : SnapshotDownload) : SnapshotDownload := { download with response := download.response.close }

end SnapshotDownload

/-- `download_raft_snapshot`, from the response on, with what it closes when it refuses. `contentLength` is the header, if
there is one, with what `int` makes of it, if it is a number. -/
def downloadRaftSnapshot (response : SnapshotResponse) (contentEncoding : Option String)
    (contentLength : Option (Option Int)) : Except (Error × SnapshotResponse) SnapshotDownload :=
  let invalid := .error (.openbao .unavailable "OpenBao returned an invalid snapshot response.", response.close)
  let encoding := Text.lower (Text.strip (contentEncoding.getD ""))
  if encoding != "" && encoding != "identity" then invalid
  else
    match contentLength with
    | none => .ok (SnapshotDownload.init response none)
    | some none => invalid
    | some (some size) =>
        if 0 < size && size ≤ maxSnapshotBytes then .ok (SnapshotDownload.init response (some size)) else invalid

/-- A generator of a download, with what it has given so far and how it ended, if it did. -/
structure Iteration where
  frame : ChunksFrame
  given : List UInt8
  ended : Option (Except Error Unit)

/-- `download.chunks()`. -/
def Iteration.fresh : Iteration := ⟨.created, [], none⟩

/-- A generator after a `next` that did `resumed` and left it at `frame`. -/
def Iteration.after (iteration : Iteration) (resumed : Resumed) (frame : ChunksFrame) : Iteration :=
  match iteration.frame, resumed with
  | .finished, _ => iteration
  | _, .yielded chunk => { iteration with frame, given := iteration.given ++ chunk }
  | _, .returned => { iteration with frame, ended := some (.ok ()) }
  | _, .raised error => { iteration with frame, ended := some (.error error) }

/-- A download, the generators made of it, and the order in which they were first resumed. -/
structure DownloadUse where
  download : SnapshotDownload
  iterations : List Iteration
  started : List Nat

inductive DownloadAction where
  | chunks
  | next (i : Nat)
  | abandon (i : Nat)
  | close

namespace DownloadUse

/-- A download of which no generator has been made. -/
def init (coming : List StreamAnswer) (declaredSize : Option Int) : DownloadUse :=
  ⟨SnapshotDownload.init ⟨coming, false⟩ declaredSize, [], []⟩

def step (s : DownloadUse) : DownloadAction → DownloadUse
  | .chunks => { s with iterations := s.iterations ++ [.fresh] }
  | .next i =>
      match s.iterations[i]? with
      | none => s
      | some iteration =>
          let (resumed, frame, download) := s.download.resume iteration.frame
          { download,
            iterations := s.iterations.set i (iteration.after resumed frame),
            started := if iteration.frame = .created then s.started ++ [i] else s.started }
  | .abandon i =>
      match s.iterations[i]? with
      | none => s
      | some iteration =>
          { s with
            download   := s.download.abandon iteration.frame,
            iterations := s.iterations.set i { iteration with frame := .finished } }
  | .close => { s with download := s.download.close }

end DownloadUse

end Cluster

end NetboxOpenbao
