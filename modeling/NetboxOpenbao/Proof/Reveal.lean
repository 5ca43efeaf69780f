import NetboxOpenbao.Proof.Versions

/-!
# What a consumer is served

A reveal with nothing going wrong: the gates of the tier, then one read of the server at the live version. Its
result depends on the settings, on a few columns of the row, and on what is at the row's location.
-/

namespace NetboxOpenbao

open Effect Effect.Prog

/-! ### Programs with nothing going wrong -/

/-- No fault, nobody else acting, no transaction. -/
structure World.Calm (config : Config) (store : Location → Cell) (w : World) : Prop where
  config : w.db.config = config
  store : w.ext.store = store
  fault : ∀ n, w.env.fault n = .none
  acts : w.acts = fun _ => []
  inAtomic : w.conn.inAtomic = false

/-- Run calmly, the program changes nothing a reveal looks at, and ends in `r`. -/
structure Yields {α : Type} (config : Config) (store : Location → Cell) (x : M α) (r : Except Error α) :
    Prop where
  quiet : Steps (Quiet Database.SameRows) x
  result : ∀ w : World, w.Calm config store → (x w).1 = r

section

variable {config : Config} {store : Location → Cell}

theorem World.Calm.quiet {w u : World} (h : w.Calm config store) (hquiet : Quiet Database.SameRows w u) :
    u.Calm config store := by
  have hext : Interference (fun _ => []) w.ext u.ext := by
    rw [← h.acts]
    exact hquiet.ext
  exact {
    config := hquiet.db.config.trans h.config
    store := by rw [hext.eq_of_none, h.store]
    fault := by rw [hquiet.env]; exact h.fault
    acts := hquiet.acts.trans h.acts
    inAtomic := hquiet.inAtomic.trans h.inAtomic }

namespace Yields

theorem pure {α : Type} (a : α) : Yields config store (Pure.pure a : M α) (.ok a) :=
  ⟨Steps.pure a, fun _ _ => rfl⟩

theorem throw {α : Type} (e : Error) : Yields config store (MonadExcept.throw e : M α) (.error e) :=
  ⟨Steps.throw e, fun _ _ => rfl⟩

theorem bind {α β : Type} {x : M α} {f : α → M β} {r : Except Error α} {g : α → Except Error β}
    (hx : Yields config store x r) (hf : ∀ a, Yields config store (f a) (g a)) :
    Yields config store (x >>= f) (r >>= g) := by
  refine ⟨Steps.bind hx.quiet fun a => (hf a).quiet, fun w hw => ?_⟩
  have hresult := hx.result w hw
  match hrun : x w with
  | (.error e, u) =>
      rw [hrun] at hresult
      rw [bind_run_error hrun, ← hresult]
      rfl
  | (.ok a, u) =>
      rw [hrun] at hresult
      rw [bind_run_ok hrun, ← hresult]
      exact (hf a).result u (hw.quiet (hx.quiet.of_ok hrun))

theorem query {α : Type} {q : Database → Except Error α} {r : Except Error α}
    (hq : ∀ db, db.config = config → q db = r) : Yields config store (NetboxOpenbao.query q) r := by
  refine ⟨query_quiet q, fun w hw => ?_⟩
  have hr : q w.db = r := hq w.db hw.config
  unfold NetboxOpenbao.query statement
  simp only [hw.fault]
  have hopen : w.ticked.conn.refuses = false := by
    change w.conn.refuses = false
    simp [Connection.refuses, hw.inAtomic]
  rw [hopen]
  cases r with
  | ok a =>
      have hread : (q w.ticked.db).map (fun a => (a, w.ticked.db)) = .ok (a, w.ticked.db) := by
        rw [show q w.ticked.db = .ok a from hr]
        rfl
      rw [hread]
      rfl
  | error e =>
      have hread : (q w.ticked.db).map (fun a => (a, w.ticked.db)) = .error e := by
        rw [show q w.ticked.db = .error e from hr]
        rfl
      rw [hread]
      rfl

/-- An audit row is written or not; either way what follows decides. -/
theorem log {β : Type} {c : Credential} {user : Option User} {action : AccessAction} {success : Bool}
    {reason message : String} {request : Option Nat} {f : Option Nat → M β} {r : Except Error β}
    (hf : ∀ id, Yields config store (f id) r) :
    Yields config store (logAccess c user action success reason message request >>= f) r := by
  refine ⟨Steps.bind logAccess_quiet fun id => (hf id).quiet, fun w hw => ?_⟩
  obtain ⟨id, u, hrun⟩ := logAccess_returns c user action success reason message request w
  rw [bind_run_ok hrun]
  exact (hf id).result u (hw.quiet (logAccess_quiet.of_ok hrun))

/-- A handler that raises the error again changes no result. -/
theorem rethrow {α : Type} {x : M α} {handler : Error → M α} {r : Except Error α}
    (hx : Yields config store x r) (hhandler : ∀ e, Yields config store (handler e) (.error e)) :
    Yields config store (tryCatch x handler) r := by
  refine ⟨Steps.tryCatch hx.quiet fun e => (hhandler e).quiet, fun w hw => ?_⟩
  have hresult := hx.result w hw
  rw [tryCatch_run]
  match hrun : x w with
  | (.ok a, u) =>
      rw [hrun] at hresult
      exact hresult
  | (.error e, u) =>
      rw [hrun] at hresult
      exact ((hhandler e).result u (hw.quiet (hx.quiet.of_error hrun))).trans hresult

end Yields

/-! ### A reveal -/

def policyIn (config : Config) (row : Credential) : Except Error CredentialPolicy :=
  match config.policies row.policyId with
  | some policy => .ok policy
  | none => .error .doesNotExist

/-- The group gate of the tier. -/
def gateIn (config : Config) (row : Credential) : Option User → Except Error Unit
  | none => .ok ()
  | some user =>
    if user.isSuperuser then .ok ()
    else policyIn config row >>= fun policy =>
      if permits policy user then .ok ()
      else .error (.permissionDenied
        "Your groups are not permitted to access credentials under this policy.")

def reasonIn (policy : CredentialPolicy) (reason : String) : Except Error Unit :=
  if policy.requireReason && stripped reason == "" then
    .error (.validation "reason" "This credential's policy requires a reason for every reveal.")
  else .ok ()

def backendIn (config : Config) (engineId : Nat) : Except Error Backend :=
  match config.engines engineId with
  | some engine => .ok ⟨engineId, engine.slug, engine.backend, engine.kvVersion⟩
  | none => .error .doesNotExist

/-- What is served of the material in `cell`. -/
def servedIn (config : Config) (row : Credential) (cell : Cell) : Except Error Payload :=
  backendIn config row.engineId >>= fun backend => backend.readCell cell row.liveKvVersion

/-- A reveal without a version: the gates, the material, and how long it may be shown. -/
def revealed (config : Config) (row : Credential) (cell : Cell) (user : Option User) (reason : String) :
    Except Error (Payload × Nat) :=
  gateIn config row user >>= fun _ => policyIn config row >>= fun policy => reasonIn policy reason >>= fun _ =>
    servedIn config row cell >>= fun data => .ok (data, revealTtlOf config policy)

theorem policyOf_yields (row : Credential) :
    Yields config store (query fun db => policyOf db row) (policyIn config row) := by
  refine .query fun db hdb => ?_
  subst hdb
  rfl

theorem enforcePolicyAccess_yields (row : Credential) (user : Option User) (action : AccessAction)
    (request : Option Nat) :
    Yields config store (enforcePolicyAccess row user (some action) request) (gateIn config row user) := by
  unfold enforcePolicyAccess gateIn
  cases user with
  | none => exact .pure ()
  | some user =>
      simp only
      split
      · exact .pure ()
      · refine .bind (policyOf_yields row) fun policy => ?_
        split
        · exact .pure ()
        · have hrefusal : Yields config store (auditRefusal row user (some action) request) (.ok ()) :=
            .log fun _ => .pure ()
          exact .bind hrefusal fun _ => .throw _

theorem requireReason_yields (row : Credential) (policy : CredentialPolicy) (user : Option User)
    (request : Option Nat) (reason : String) :
    Yields config store (requireReason row policy user request reason) (reasonIn policy reason) := by
  unfold requireReason reasonIn
  split
  · exact .log fun _ => .throw _
  · exact .pure ()

theorem backendRead_yields (b : Backend) (path : String) (version : Option Nat) :
    Yields config store (backendRead b path version) (b.readCell (store (b.location path)) version) := by
  refine ⟨backendRead_quiet b path version, fun w hw => ?_⟩
  have hticked : w.ticked.ext.store = store := by
    have hsame : w.ticked.ext = w.ext := by
      simp [World.ticked, hw.acts]
    rw [hsame, hw.store]
  have htick : tick w = (.ok .none, w.ticked) := by rw [tick, hw.fault]
  show (backendRead b path version w).1 = _
  unfold backendRead
  rw [bind_run_ok htick]
  show b.readCell (w.ticked.ext.store (b.location path)) version = _
  rw [hticked]

theorem readMaterial_yields (row : Credential) (b : Backend) (user : Option User) (request : Option Nat)
    (reason : String) (version : Option Nat) :
    Yields config store (readMaterial row b user request reason version)
      (b.readCell (store (b.location row.path)) version) := by
  have haudit : ∀ error : Error, Yields config store
      (auditBackendError row user .reveal reason request error) (.ok ()) := by
    intro error
    unfold auditBackendError
    split
    · exact .log fun _ => .pure ()
    · exact .pure ()
  apply Yields.rethrow (backendRead_yields b row.path version)
  intro error
  exact .bind (haudit error) fun _ => .throw error

theorem getBackend_yields (engineId : Nat) :
    Yields config store (getBackend engineId) (backendIn config engineId) := by
  refine .query fun db hdb => ?_
  subst hdb
  unfold backendIn
  cases db.config.engines engineId with
  | none => rfl
  | some engine => rfl

/-- The backend of an engine reads at that engine. -/
theorem servedIn_eq (row : Credential) :
    servedIn config row (store row.location) =
      backendIn config row.engineId >>= fun b => b.readCell (store (b.location row.path)) row.liveKvVersion := by
  unfold servedIn backendIn
  split <;> rfl

theorem revealMaterial_yields (row : Credential) (user : Option User) (request : Option Nat) (reason : String) :
    Yields config store (revealMaterial row user request reason none)
      (revealed config row (store row.location) user reason) := by
  unfold revealed
  rw [servedIn_eq]
  apply Yields.bind (enforcePolicyAccess_yields row user .reveal request)
  intro _
  apply Yields.bind (policyOf_yields row)
  intro policy
  apply Yields.bind (requireReason_yields row policy user request reason)
  intro _
  rw [bind_assoc]
  apply Yields.bind (getBackend_yields row.engineId)
  intro b
  apply Yields.bind (readMaterial_yields row b user request reason row.liveKvVersion)
  intro data
  apply Yields.log
  intro _
  have hconfig : Yields config store (query fun db => .ok db.config) (.ok config) :=
    .query fun db hdb => by rw [hdb]
  exact Yields.bind hconfig fun config => .pure (data, revealTtlOf config policy)

end

end NetboxOpenbao
