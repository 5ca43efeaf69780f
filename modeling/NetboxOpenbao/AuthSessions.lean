import Mathlib.Logic.Function.Basic
import NetboxOpenbao.Models

/-!
# Tokens and TLS sessions

What one process keeps of a row of authentication material: the objects it has loaded from it, the clients its backends
hold, the tokens in Django's cache and the pooled TLS sessions. A revision stands for the identity the row had then.
A token or a session remembers the revision it was made with, which no code reads.
-/

namespace NetboxOpenbao

namespace AuthSessions

/-! ### What is kept -/

/-- The object of a row in memory. `delete()` takes its primary key. -/
structure MaterialObject where
  stored : Bool
  revision : Nat
deriving DecidableEq, Repr

/-- The identity in the key of a pooled session: none for a session without a certificate, `missing` without a row. -/
inductive Identity where
  | unnamed
  | missing
  | revision (r : Nat)
deriving DecidableEq, Repr

/-- The keys of the two pools. `verify` is `ca_cert_path or tls_verify`. -/
inductive SessionKey where
  | direct (apiUrl : String) (tlsVerify : Bool) (caCertPath : String) (identity : Identity)
  | broker (apiUrl : String) (identity : Identity) (verify : String × Bool)
deriving DecidableEq, Repr

def SessionKey.identity : SessionKey → Identity
  | .direct _ _ _ identity => identity
  | .broker _ identity _ => identity

/-- The client of a direct backend, or the session of a broker backend: the revisions its token and its TLS session are
from. -/
structure Client where
  token : Option Nat
  session : Option Nat
deriving DecidableEq, Repr

/-- The revisions a request made with the client presents. -/
def Client.origins (client : Client) : List Nat := client.token.toList ++ client.session.toList

/-- A backend object: `engine`, `auth_material`, and `_client` or `_session`. -/
structure BackendObject (ι : Type) where
  engine : SecretEngine
  material : Option ι
  client : Option Client

def isBroker (engine : SecretEngine) : Bool := engine.backend == .broker

def isCertificate (engine : SecretEngine) : Bool := engine.authMethod == "cert"

/-- The key of the session of a backend whose material has the given revision. -/
def sessionKey (engine : SecretEngine) (revision : Option Nat) : SessionKey :=
  let identity := match revision with
    | some r => Identity.revision r
    | none => .missing
  if isBroker engine then
    .broker engine.apiUrl identity
      (engine.caCertPath, if engine.caCertPath = "" then engine.tlsVerify else true)
  else .direct engine.apiUrl engine.tlsVerify engine.caCertPath (if isCertificate engine then identity else .unnamed)

/-- What the process shares: the cached tokens by revision, and the two pools. -/
structure Shared where
  tokens : Nat → Option Nat
  sessions : SessionKey → Option (Option Nat)

namespace Shared

/-- `_get_session`: the pooled session of the key, or a new one of the material's certificate. -/
def getSession (shared : Shared) (key : SessionKey) : Option (Option Nat × Shared) :=
  match shared.sessions key with
  | some origin => some (origin, shared)
  | none =>
      match key.identity with
      | .missing => none
      | .unnamed => some (none, { shared with sessions := Function.update shared.sessions key (some none) })
      | .revision r => some (some r, { shared with sessions := Function.update shared.sessions key (some (some r)) })

def cacheGet (shared : Shared) (revision : Option Nat) : Option Nat := revision.bind shared.tokens

def cacheSet (shared : Shared) (revision : Option Nat) (token : Option Nat) : Shared :=
  match revision with
  | some r => { shared with tokens := Function.update shared.tokens r token }
  | none => shared

/-- What `invalidate_auth_material_sessions` runs after the commit: `close_auth_material_sessions` of both pools, and the
token. -/
def invalidate (shared : Shared) (revision : Nat) : Shared where
  tokens := Function.update shared.tokens revision none
  sessions key := if key.identity = .revision revision then none else shared.sessions key

end Shared

/-! ### One call -/

/-- Where a call is: in `refresh_auth_material`, its query and its `refresh_from_db`; in `_get_client` or `_get_session`
after it; at the login; at the cache; at the request; or in `health`, which refreshes nothing. -/
inductive Phase where
  | refreshing
  | reloading
  | refreshed
  | building (token : Option Nat)
  | login (session : Option Nat)
  | storing (client : Client)
  | requesting (client : Client)
  | probing
deriving DecidableEq, Repr

/-- What a call works on: its backend, the object the backend has, and what the process shares. -/
structure Locals (ι : Type) where
  object : Option MaterialObject
  backend : BackendObject ι
  shared : Shared

/-- What a step of a call leaves: where it is next, unless it has returned or raised, what it has presented, and the
locals. -/
structure Acted (ι : Type) where
  next : Option Phase
  presented : Option Client
  locals : Locals ι

namespace Locals

variable {ι : Type}

def revision (locals : Locals ι) : Option Nat := locals.object.map MaterialObject.revision

def raises (locals : Locals ι) : Acted ι := ⟨none, none, locals⟩

def goes (locals : Locals ι) (phase : Phase) : Acted ι := ⟨some phase, none, locals⟩

/-- `refresh_auth_material`, as far as its query. The client goes with the identity. -/
def refresh (locals : Locals ι) (row : Option Nat) : Acted ι :=
  match locals.object with
  | none => locals.goes .refreshed
  | some object =>
      if !object.stored then locals.goes .refreshed
      else match row with
        | none =>
            { locals with
              object := none
              backend := { locals.backend with material := none, client := none } }.goes .refreshed
        | some r => if r = object.revision then locals.goes .refreshed else locals.goes .reloading

/-- `refresh_from_db`. -/
def reload (locals : Locals ι) (row : Option Nat) : Acted ι :=
  match row with
  | none => locals.raises
  | some r =>
      { locals with
        object := some ⟨true, r⟩
        backend := { locals.backend with client := none } }.goes .refreshed

/-- After the refresh: the client there is, or a cached token, or neither. -/
def lookup (locals : Locals ι) : Acted ι :=
  match locals.backend.client with
  | some client => locals.goes (.requesting client)
  | none =>
      if isBroker locals.backend.engine then locals.goes (.building none)
      else locals.goes (.building (locals.shared.cacheGet locals.revision))

/-- `_build_client`, or the session of the broker. -/
def build (locals : Locals ι) (token : Option Nat) : Acted ι :=
  match locals.shared.getSession (sessionKey locals.backend.engine locals.revision) with
  | none => locals.raises
  | some (session, shared) =>
      if isBroker locals.backend.engine || token.isSome then
        let client : Client := ⟨token, session⟩
        { locals with shared, backend := { locals.backend with client := some client } }.goes (.requesting client)
      else { locals with shared }.goes (.login session)

/-- `_login`, which is itself a request over the session. -/
def authenticate (locals : Locals ι) (session : Option Nat) (fails : Bool) : Acted ι :=
  match locals.revision with
  | none => locals.raises
  | some r => ⟨if fails then none else some (.storing ⟨some r, session⟩), some ⟨none, session⟩, locals⟩

/-- The token goes to the cache under the identity the object has by then. -/
def store (locals : Locals ι) (client : Client) : Acted ι :=
  { locals with
    shared := locals.shared.cacheSet locals.revision client.token
    backend := { locals.backend with client := some client } }.goes (.requesting client)

/-- The client of `health`, of a direct backend. -/
def probe (locals : Locals ι) : Acted ι :=
  match locals.shared.getSession (sessionKey locals.backend.engine locals.revision) with
  | none => locals.raises
  | some (session, shared) => { locals with shared }.goes (.requesting ⟨none, session⟩)

/-- `invalidate_token`. A broker backend drops the session it holds. -/
def invalidateToken (locals : Locals ι) : Locals ι :=
  if isBroker locals.backend.engine then
    match locals.backend.client with
    | none => locals
    | some client =>
        { locals with
          backend := { locals.backend with client := none }
          shared := { locals.shared with
            sessions := Function.update locals.shared.sessions
              (sessionKey locals.backend.engine client.session) none } }
  else
    let shared := locals.shared.cacheSet locals.revision none
    { locals with
      backend := { locals.backend with client := none }
      shared := if isCertificate locals.backend.engine then
          { shared with
            sessions := Function.update shared.sessions (sessionKey locals.backend.engine locals.revision) none }
        else shared }

/-- A step of a call that sees `row` in the table. -/
def act (locals : Locals ι) (phase : Phase) (row : Option Nat) (fails : Bool) : Acted ι :=
  match phase, fails with
  | .login session, _ => locals.authenticate session fails
  | .requesting client, _ => ⟨none, some client, locals⟩
  | _, true => locals.raises
  | .refreshing, false => locals.refresh row
  | .reloading, false => locals.reload row
  | .refreshed, false => locals.lookup
  | .building token, false => locals.build token
  | .storing client, false => locals.store client
  | .probing, false => locals.probe

end Locals

/-! ### The system -/

/-- A call of a backend. `floor` is what was committed when it started. -/
structure Call (β : Type) where
  backend : β
  floor : Option Nat
  phase : Phase

/-- A request: what was committed when its call started, and the revisions it presents. -/
structure Presentation where
  floor : Option Nat
  origins : List Nat
deriving DecidableEq, Repr

/-- The open transaction that writes the row: the row as it sees it, and the revisions to invalidate. -/
structure Writing where
  row : Option Nat
  callbacks : List Nat

/-- The revision of the committed row, unless it is deleted, the transaction that has it locked, the callbacks of what is
committed, and everything the process has in memory. -/
structure State (θ β ι : Type) where
  committed : Option Nat
  writing : Option Writing
  callbacks : List Nat
  objects : ι → Option MaterialObject
  backends : β → Option (BackendObject ι)
  calls : θ → Option (Call β)
  shared : Shared
  presented : List Presentation

/-- `own`: the step is taken inside the transaction that writes the row. -/
inductive Event (θ β ι : Type) where
  | load (i : ι) (own : Bool)
  | getBackend (b : β) (engine : SecretEngine) (material : Option ι)
  | call (t : θ) (b : β) (health : Bool)
  | act (t : θ) (own fails : Bool)
  | invalidateToken (b : β)
  | save (i : ι)
  | delete (i : ι)
  | commit
  | rollback
  | callback
  | expire (revision : Nat)

namespace State

variable {θ β ι : Type} [DecidableEq θ] [DecidableEq β] [DecidableEq ι]

/-- The row as a step sees it. -/
def row (state : State θ β ι) (own : Bool) : Option Nat :=
  match own, state.writing with
  | true, some writing => writing.row
  | _, _ => state.committed

def locals (state : State θ β ι) (backend : BackendObject ι) : Locals ι :=
  ⟨backend.material.bind state.objects, backend, state.shared⟩

/-- What the locals of a backend leave in the state. -/
def keep (state : State θ β ι) (b : β) (before : BackendObject ι) (after : Locals ι) : State θ β ι :=
  { state with
    objects := match before.material, after.object with
      | some i, some object => Function.update state.objects i (some object)
      | _, _ => state.objects
    backends := Function.update state.backends b (some after.backend)
    shared := after.shared }

def step (state : State θ β ι) : Event θ β ι → State θ β ι
  | .load i own =>
      match state.objects i, state.row own with
      | none, some r => { state with objects := Function.update state.objects i (some ⟨true, r⟩) }
      | _, _ => state
  | .getBackend b engine material =>
      match state.backends b with
      | none => { state with backends := Function.update state.backends b (some ⟨engine, material, none⟩) }
      | some _ => state
  | .call t b health =>
      match state.calls t, state.backends b with
      | none, some backend =>
          let phase := if health && !isBroker backend.engine then Phase.probing else .refreshing
          { state with calls := Function.update state.calls t (some ⟨b, state.committed, phase⟩) }
      | _, _ => state
  | .act t own fails =>
      match state.calls t with
      | none => state
      | some call =>
          match state.backends call.backend with
          | none => state
          | some backend =>
              let acted := (state.locals backend).act call.phase (state.row own) fails
              { state.keep call.backend backend acted.locals with
                calls := Function.update state.calls t (acted.next.map fun phase => { call with phase })
                presented := state.presented ++
                  (acted.presented.map fun client => (⟨call.floor, client.origins⟩ : Presentation)).toList }
  | .invalidateToken b =>
      match state.backends b with
      | none => state
      | some backend => state.keep b backend (state.locals backend).invalidateToken
  | .save i =>
      match state.objects i, state.row true with
      | some ⟨true, _⟩, some r =>
          { state with
            writing := some ⟨some (r + 1), (state.writing.elim [] Writing.callbacks) ++ [r]⟩
            objects := Function.update state.objects i (some ⟨true, r + 1⟩) }
      | _, _ => state
  | .delete i =>
      match state.objects i, state.row true with
      | some ⟨true, r⟩, some _ =>
          { state with
            writing := some ⟨none, (state.writing.elim [] Writing.callbacks) ++ [r]⟩
            objects := Function.update state.objects i (some ⟨false, r⟩) }
      | _, _ => state
  | .commit =>
      match state.writing with
      | none => state
      | some writing =>
          { state with
            committed := writing.row
            writing := none
            callbacks := state.callbacks ++ writing.callbacks }
  | .rollback => { state with writing := none }
  | .callback =>
      match state.callbacks with
      | [] => state
      | revision :: rest => { state with callbacks := rest, shared := state.shared.invalidate revision }
  | .expire revision =>
      { state with
        shared := { state.shared with tokens := Function.update state.shared.tokens revision none } }

end State

end AuthSessions

end NetboxOpenbao
