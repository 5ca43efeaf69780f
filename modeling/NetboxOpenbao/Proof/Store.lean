import NetboxOpenbao.Proof.Reads

/-!
# The material write

What `store_credential` may do to the servers and to its owner's ledger: nothing; an attempt whose write
never happened or whose answer was lost; or one write, whose version the new attempt records.
-/

namespace NetboxOpenbao

open Effect Effect.Prog

/-! ### The owner's records -/

theorem modifyOwner_frame {D : Database → Database → Prop} [Restorable D]
    (f : MaterialTransaction → MaterialTransaction) : Steps (Frame D) (modifyOwner f) :=
  fun w => { refl_of (Frame D) w with }

theorem quiet_frame {α : Type} {D : Database → Database → Prop} [Restorable D] {x : M α}
    (h : Steps (Quiet D) x) : Steps (Frame Database.Extends) x :=
  h.mono fun _ _ hquiet => hquiet.toExtends.frame

theorem currentMaterialTransaction_run {w : World} {o : MaterialTransaction} (h : w.owner = some o) :
    currentMaterialTransaction w = (.ok o, w) := by
  unfold currentMaterialTransaction
  rw [bind_run_ok (get_run w), h]
  rfl

theorem modifyOwner_run (f : MaterialTransaction → MaterialTransaction) (w : World) :
    modifyOwner f w = (.ok (), { w with owner := w.owner.map f }) := rfl

/-- The ledger with one more attempt. -/
def Ledger.opened (l : Ledger) (a : MaterialAttempt) : Ledger := { l with attempts := l.attempts ++ [a] }

theorem World.ledger_eq {w : World} {l : Ledger} (h : w.ledger = some l) :
    ∃ o, w.owner = some o ∧ o.ledger = l := Option.map_eq_some_iff.mp h

theorem openAttempt_run {w : World} {l : Ledger} (h : w.ledger = some l) (a : MaterialAttempt) :
    ∃ o, w.owner = some o ∧ o.ledger = l ∧ openAttempt a w =
      (.ok l.attempts.length, { w with owner := some { o with attempts := o.attempts ++ [a] } }) := by
  obtain ⟨o, ho, rfl⟩ := World.ledger_eq h
  refine ⟨o, ho, rfl, ?_⟩
  unfold openAttempt
  rw [bind_run_ok (currentMaterialTransaction_run ho)]
  simp only [modifyOwner, bind_run, modify_run, pure_run, ho, Option.map_some]
  rfl

theorem modify_last {α : Type} (f : α → α) (xs : List α) (x : α) :
    (xs ++ [x]).modify xs.length f = xs ++ [f x] := by
  induction xs with
  | nil => rfl
  | cons y ys ih => simpa using ih

/-- Replacing the last attempt of a ledger. -/
theorem updateAttempt_ledger {w : World} {l : Ledger} {a : MaterialAttempt}
    (h : w.ledger = some (l.opened a)) (f : MaterialAttempt → MaterialAttempt) :
    (updateAttempt l.attempts.length f w).2.ledger = some (l.opened (f a)) := by
  obtain ⟨o, ho, hledger⟩ := World.ledger_eq h
  have hattempts : o.attempts = l.attempts ++ [a] := congrArg Ledger.attempts hledger
  have hmodify : o.attempts.modify l.attempts.length f = l.attempts ++ [f a] := by
    rw [hattempts]
    exact modify_last f l.attempts a
  have hrun : (updateAttempt l.attempts.length f w).2.ledger =
      some { o.ledger with attempts := o.attempts.modify l.attempts.length f } := by
    simp only [updateAttempt, modifyOwner, modify_run, World.ledger, ho, Option.map_some]
    rfl
  rw [hrun, hmodify, hledger]
  rfl

/-! ### The write itself -/

/-- A backend handle as `get_backend` makes it from the settings. -/
def BackendOf (config : Config) (b : Backend) : Prop :=
  ∃ engine, config.engines b.engine = some engine ∧ b = ⟨b.engine, engine.slug, engine.backend, engine.kvVersion⟩

/-- The audit row an attempt names: new since `w`, and its own wherever it is still found. -/
def Audited (w w' : World) (a : MaterialAttempt) (success : Bool) : Prop :=
  ∀ id, a.auditId = some id → w.db.nextId ≤ id ∧ id < w'.db.nextId ∧
    ∀ row ∈ w'.db.accessLog, row.id = id →
      row.credentialUuidSnapshot = a.credential.uuid ∧ row.action = a.action ∧ row.success = success

/-- The parts of a write: who asks, where, and with which precondition. -/
structure WriteRequest where
  location : Location
  data : Payload
  cas : Option Nat

/-- The servers after an accepted write. -/
def Ext.accepted (e : Ext) (location : Location) (cell : Cell) (call : BackendCall) : Ext :=
  (e.put location cell).record call

/-- What a store may do to the servers and to the ledger `l` it starts from, when it returns the version
`got` or fails. -/
inductive Stored (req : WriteRequest) (got : Option Nat) (w : World) (l : Ledger) (w' : World) : Prop
  | untouched (hgot : got = none) (hledger : w'.ledger = some l) (hext : Interference w.acts w.ext w'.ext)
  | opened (hgot : got = none) (a : MaterialAttempt) (hledger : w'.ledger = some (l.opened a))
      (hversion : a.version = none) (haudit : a.auditId = none) (hext : Interference w.acts w.ext w'.ext)
  | lost (hgot : got = none) (a : MaterialAttempt) (e : Ext) (cell : Cell) (version : Nat)
      (hledger : w'.ledger = some (l.opened a)) (hversion : a.version = none) (haudit : a.auditId = none)
      (hbackend : BackendOf w.db.config a.backend) (hlocation : a.location = req.location)
      (hbefore : Interference w.acts w.ext e)
      (hwrite : a.backend.writeCell (e.store req.location) req.data req.cas = .ok (version, cell))
      (hafter : Interference w.acts
        (e.accepted req.location cell (.foreign req.location version)) w'.ext)
  | written (a : MaterialAttempt) (e : Ext) (cell : Cell) (version : Nat)
      (hgot : got = none ∨ got = some version)
      (hledger : w'.ledger = some (l.opened a)) (hversion : a.version = some version)
      (haudit : Audited w w' a true)
      (hbackend : BackendOf w.db.config a.backend) (hlocation : a.location = req.location)
      (hbefore : Interference w.acts w.ext e)
      (hwrite : a.backend.writeCell (e.store req.location) req.data req.cas = .ok (version, cell))
      (hafter : Interference w.acts
        (e.accepted req.location cell (.wrote l.operationId req.location version)) w'.ext)

theorem Audited.of_none {w w' : World} {a : MaterialAttempt} {success : Bool} (h : a.auditId = none) :
    Audited w w' a success := by
  intro id hid
  rw [h] at hid
  cases hid

/-- Later changes do not touch the audit row of an attempt, earlier ones did not know it. -/
theorem Audited.frame {u v w w' : World} {a : MaterialAttempt} {success : Bool} (h : Audited v w a success)
    (hbefore : u.db.Extends v.db) (hafter : w.db.Extends w'.db) : Audited u w' a success := by
  intro id hid
  obtain ⟨hlow, hlt, hrow⟩ := h id hid
  refine ⟨Nat.le_trans hbefore.nextId hlow, Nat.lt_of_lt_of_le hlt hafter.nextId, ?_⟩
  intro row hmem hrowid
  exact hrow row (hafter.accessLog row hmem (by omega)) hrowid

namespace Stored

variable {req : WriteRequest} {got : Option Nat} {l : Ledger} {u w w' : World}
  {D : Database → Database → Prop} [Restorable D]

/-- Quiet code before a store belongs to it. -/
theorem of_quiet (hquiet : Quiet D u w) (h : Stored req got w l w') : Stored req got u l w' := by
  have hext : u.db.Extends w.db := Restorable.extends' hquiet.db
  have hinterference : ∀ {e}, Interference w.acts w.ext e → Interference u.acts u.ext e :=
    fun hstep => hquiet.ext.trans (hquiet.acts ▸ hstep)
  have hlate : ∀ {e e'}, Interference w.acts e e' → Interference u.acts e e' :=
    fun hstep => hquiet.acts ▸ hstep
  have hconfig : ∀ {b}, BackendOf w.db.config b → BackendOf u.db.config b :=
    fun hb => hext.config ▸ hb
  cases h with
  | untouched hgot hledger hext => exact .untouched hgot hledger (hinterference hext)
  | opened hgot a hledger hversion haudit hext =>
      exact .opened hgot a hledger hversion haudit (hinterference hext)
  | lost hgot a e cell version hledger hversion haudit hbackend hlocation hbefore hwrite hafter =>
      exact .lost hgot a e cell version hledger hversion haudit (hconfig hbackend) hlocation
        (hinterference hbefore) hwrite (hlate hafter)
  | written a e cell version hgot hledger hversion haudit hbackend hlocation hbefore hwrite hafter =>
      exact .written a e cell version hgot hledger hversion (haudit.frame hext (Database.Extends.refl _))
        (hconfig hbackend) hlocation (hinterference hbefore) hwrite (hlate hafter)

end Stored

/-! ### Storing material -/

theorem getBackend_ok {id : Nat} {w w' : World} {b : Backend} (h : getBackend id w = (.ok b, w')) :
    b.engine = id ∧ BackendOf w.db.config b ∧ w' = w.ticked := by
  obtain ⟨hq, hw'⟩ := query_ok h
  cases hengine : w.db.config.engines id with
  | none => simp [hengine] at hq
  | some engine =>
      simp only [hengine, Except.ok.injEq] at hq
      subst hq
      exact ⟨rfl, ⟨engine, hengine, rfl⟩, hw'⟩

theorem backendWrite_cases (operation : Nat) (b : Backend) (path : String) (data : Payload)
    (cas : Option Nat) (w : World) :
    (∃ e, backendWrite operation b path data cas w = (.error e, w.ticked)) ∨
    (∃ cell version, b.writeCell (w.ticked.ext.store (b.location path)) data cas = .ok (version, cell) ∧
      ((∃ e, backendWrite operation b path data cas w = (.error e, { w.ticked with
          ext := w.ticked.ext.accepted (b.location path) cell (.foreign (b.location path) version) })) ∨
        backendWrite operation b path data cas w = (.ok version, { w.ticked with
          ext := w.ticked.ext.accepted (b.location path) cell (.wrote operation (b.location path) version) }))) := by
  unfold backendWrite
  simp only
  cases hwrite : b.writeCell (w.ticked.ext.store (b.location path)) data cas with
  | error e => cases w.env.fault w.clock <;> exact .inl ⟨_, rfl⟩
  | ok out =>
      obtain ⟨version, cell⟩ := out
      cases w.env.fault w.clock with
      | none => exact .inr ⟨cell, version, rfl, .inr rfl⟩
      | lost => exact .inr ⟨cell, version, rfl, .inl ⟨_, rfl⟩⟩
      | refused => exact .inl ⟨_, rfl⟩
      | commitFailed f => exact .inl ⟨_, rfl⟩

/-- The row a completed `log_access` left, wherever its key is still found. -/
theorem logAccess_row {c : Credential} {user : Option User} {action : AccessAction} {success : Bool}
    {reason message : String} {request : Option Nat} {w w' : World} {id : Nat}
    (h : logAccess c user action success reason message request w = (.ok (some id), w')) :
    w.db.nextId ≤ id ∧ id < w'.db.nextId ∧ ∀ row ∈ w'.db.accessLog, row.id = id →
      row = { accessRow c user action success reason message request with id := id } := by
  unfold logAccess at h
  rw [tryCatch_run] at h
  match hrun : (do
      let id ← atomic (saving fun db =>
        .ok (db.nextId, db.insertLog (accessRow c user action success reason message request)))
      pure (some id) : M (Option Nat)) w with
  | (.error e, u) =>
      rw [hrun] at h
      cases h
  | (.ok audit, u) =>
      rw [hrun] at h
      cases h
      obtain ⟨drawn, v, hatomic, hpure⟩ := bind_ok hrun
      obtain ⟨heq, rfl⟩ := pure_ok hpure
      cases heq
      obtain ⟨u, v', hu, hsaving, hdb⟩ := atomic_ok hatomic
      obtain ⟨db, hinsert, rfl⟩ := saving_ok hsaving
      rw [hu] at hinsert
      cases hinsert
      refine ⟨Nat.le_refl _, ?_, ?_⟩
      · rcases hdb with hdb | hdb <;> simp [hdb]
      · intro row hrow hid
        rcases hdb with hdb | hdb
        · rw [hdb] at hrow
          rcases List.mem_append.mp hrow with hold | hnew
          · exact absurd (w.db.accessLog_lt row hold) (by omega)
          · exact List.mem_singleton.mp hnew
        · rw [hdb] at hrow
          exact absurd (w.db.accessLog_lt row hrow) (by omega)

theorem updateAttempt_frame {D : Database → Database → Prop} [Restorable D] (index : Nat)
    (f : MaterialAttempt → MaterialAttempt) : Steps (Frame D) (updateAttempt index f) :=
  modifyOwner_frame _

theorem updateAttempt_ok (index : Nat) (f : MaterialAttempt → MaterialAttempt) (w : World) :
    updateAttempt index f w = (.ok (), (updateAttempt index f w).2) := rfl

theorem updateAttempt_db (index : Nat) (f : MaterialAttempt → MaterialAttempt) (w : World) :
    (updateAttempt index f w).2.db = w.db ∧ (updateAttempt index f w).2.ext = w.ext ∧
      (updateAttempt index f w).2.acts = w.acts := ⟨rfl, rfl, rfl⟩

/-- After the write: the attempt holds its version, and everything that follows only adds its audit. -/
theorem auditAttempt_stored {req : WriteRequest} {l : Ledger} {w u : World} {a : MaterialAttempt}
    {e : Ext} {cell : Cell} {version : Nat} (c : Credential) (user : Option User) (request : Option Nat)
    (hledger : u.ledger = some (l.opened a)) (hversion : a.version = some version)
    (huuid : a.credential.uuid = c.uuid)
    (hext : w.db.Extends u.db) (hacts : u.acts = w.acts)
    (hbackend : BackendOf w.db.config a.backend) (hlocation : a.location = req.location)
    (hbefore : Interference w.acts w.ext e)
    (hwrite : a.backend.writeCell (e.store req.location) req.data req.cas = .ok (version, cell))
    (hafter : Interference w.acts (e.accepted req.location cell (.wrote l.operationId req.location version))
      u.ext) :
    (auditAttempt l.attempts.length c user a.action request u).1 = .ok () ∧
      Stored req (some version) w l (auditAttempt l.attempts.length c user a.action request u).2 := by
  have hlog : Steps (Quiet Database.SameRows) (logAccess c user a.action true "" "" request) := logAccess_quiet
  unfold auditAttempt
  match hrun : logAccess c user a.action true "" "" request u with
  | (.error err, v) =>
      -- the handler of `log_access` catches everything
      exfalso
      unfold logAccess at hrun
      rw [tryCatch_run] at hrun
      split at hrun <;> cases hrun
  | (.ok audit, v) =>
      have hquiet : Quiet Database.SameRows u v := hlog.of_ok hrun
      rw [bind_run_ok hrun, updateAttempt_ok]
      refine ⟨rfl, ?_⟩
      have hv : v.ledger = some (l.opened a) := hquiet.ledger.trans hledger
      refine .written { a with auditId := audit } e cell version (.inr rfl)
        (updateAttempt_ledger hv _) hversion ?_ hbackend hlocation hbefore hwrite ?_
      · intro id hid
        obtain rfl : audit = some id := hid
        obtain ⟨hlow, hlt, hrow⟩ := logAccess_row hrun
        refine ⟨Nat.le_trans hext.nextId hlow, hlt, fun row hmem hrowid => ?_⟩
        rw [hrow row hmem hrowid]
        exact ⟨huuid.symm, rfl, rfl⟩
      · exact hafter.trans (hacts ▸ hquiet.ext)

theorem written_uuid (c : Credential) (fingerprint : String) (version : Nat) (promote : Bool)
    (action : AccessAction) (time : Time) :
    (written c fingerprint version promote action time).1.uuid = c.uuid := by
  unfold written recordKeyVersion clearStagedKey
  cases promote <;> by_cases hrotate : action = .rotate <;> by_cases hstage : action = .stage <;>
    simp [hrotate, hstage]

theorem openAttempt_frame (a : MaterialAttempt) : Steps (Frame Database.Extends) (openAttempt a) :=
  Steps.bind (quiet_frame currentMaterialTransaction_quiet) fun _ =>
    Steps.bind (modifyOwner_frame _) fun _ => Steps.pure _

theorem Frame.of_ext {D : Database → Database → Prop} [Restorable D] (w : World) (ext : Ext) :
    Frame D w { w.ticked with ext } := { refl_of (Frame D) w with }

theorem writeAttempt_frame (index : Nat) (b : Backend) (path : String) (data : Payload) (cas : Option Nat) :
    Steps (Frame Database.Extends) (writeAttempt index b path data cas) := by
  refine Steps.bind (quiet_frame currentMaterialTransaction_quiet) fun owner => ?_
  refine Steps.bind ?_ fun version => ?_
  · intro w
    rcases backendWrite_cases owner.operationId b path data cas w with
      ⟨e, h⟩ | ⟨cell, version, -, ⟨e, h⟩ | h⟩
    · rw [h]
      exact Frame.of_ext w w.ticked.ext
    · rw [h]
      exact Frame.of_ext w _
    · rw [h]
      exact Frame.of_ext w _
  · exact Steps.bind (updateAttempt_frame _ _) fun _ => Steps.pure _

theorem recordWrite_frame (r : StoreRequest) (index : Nat) (c : Credential) (fingerprint : String)
    (version : Nat) : Steps (Frame Database.Extends) (recordWrite r index c fingerprint version) := by
  refine Steps.bind (quiet_frame (D := Database.Extends) now_quiet) fun time => ?_
  refine Steps.bind (quiet_frame (saveFields_quiet _ _)) fun _ => ?_
  refine Steps.bind (quiet_frame (deferCustomMetadata_quiet _)) fun _ => ?_
  refine Steps.bind ?_ fun _ => Steps.pure _
  exact Steps.bind (quiet_frame logAccess_quiet) fun _ => updateAttempt_frame _ _

theorem storeMaterial_frame (r : StoreRequest) (c : Credential) (payload : Payload) (fingerprint : String) :
    Steps (Frame Database.Extends) (storeMaterial r c payload fingerprint) := by
  refine Steps.bind (quiet_frame (D := Database.Extends) (query_quiet _)) fun backend => ?_
  refine Steps.bind (openAttempt_frame _) fun index => ?_
  refine Steps.bind (writeAttempt_frame _ _ _ _ _) fun version => ?_
  exact recordWrite_frame _ _ _ _ _

/-- The version a store returned. -/
def storedVersion (out : Except Error (Credential × Nat)) : Option Nat := out.toOption.map Prod.snd

/-- From the write on, a store can no longer lose the version it recorded. -/
theorem recordWrite_stored {req : WriteRequest} {l : Ledger} {w u : World} {a : MaterialAttempt}
    {e : Ext} {cell : Cell} {version : Nat} (r : StoreRequest) (c : Credential) (fingerprint : String)
    (hledger : u.ledger = some (l.opened a)) (hversion : a.version = some version)
    (haudit : a.auditId = none) (huuid : a.credential.uuid = c.uuid) (haction : a.action = r.action)
    (hext : w.db.Extends u.db) (hacts : u.acts = w.acts)
    (hbackend : BackendOf w.db.config a.backend) (hlocation : a.location = req.location)
    (hbefore : Interference w.acts w.ext e)
    (hwrite : a.backend.writeCell (e.store req.location) req.data req.cas = .ok (version, cell))
    (hafter : Interference w.acts (e.accepted req.location cell (.wrote l.operationId req.location version))
      u.ext) :
    Stored req (storedVersion (recordWrite r l.attempts.length c fingerprint version u).1) w l
      (recordWrite r l.attempts.length c fingerprint version u).2 := by
  -- the state in which the attempt has a version and no audit row yet
  have hwritten : ∀ {v}, Quiet Database.Extends u v → Stored req none w l v := by
    intro v hquiet
    exact .written a e cell version (.inl rfl) (hquiet.ledger.trans hledger) hversion
      (Audited.of_none haudit) hbackend hlocation hbefore hwrite (hafter.trans (hacts ▸ hquiet.ext))
  unfold recordWrite
  rw [bind_run_ok (show now u = (.ok u.env.now, u) from rfl)]
  have huuid' : a.credential.uuid =
      (written c fingerprint version r.promote r.action u.env.now).1.uuid :=
    huuid.trans (written_uuid _ _ _ _ _ _).symm
  match written c fingerprint version r.promote r.action u.env.now, huuid' with
  | (c', fields), huuid' =>
  simp only
  match hsave : saveFields c' fields u with
  | (.error err, v) =>
      rw [bind_run_error hsave]
      exact hwritten ((saveFields_quiet _ _).of_error hsave)
  | (.ok (), v) =>
      have hsaved : Quiet Database.Extends u v := (saveFields_quiet _ _).of_ok hsave
      rw [bind_run_ok hsave, bind_run_ok (show deferCustomMetadata (c'.pk.getD 0) v =
        (.ok (), (deferCustomMetadata (c'.pk.getD 0) v).2) from rfl)]
      have hquiet : Quiet Database.Extends u (deferCustomMetadata (c'.pk.getD 0) v).2 :=
        hsaved.trans ((deferCustomMetadata_quiet _) v).toExtends
      have hfinal := auditAttempt_stored c' r.user r.request (hquiet.ledger.trans hledger) hversion huuid'
        (hext.trans hquiet.db) (hquiet.acts.trans hacts) hbackend hlocation hbefore hwrite
        (hafter.trans (hacts ▸ hquiet.ext))
      rw [haction] at hfinal
      obtain ⟨hok, hstored⟩ := hfinal
      rw [bind_run_ok (Prod.ext hok rfl)]
      exact hstored

theorem writeAttempt_run {w : World} {o : MaterialTransaction} (ho : w.owner = some o) (index : Nat)
    (b : Backend) (path : String) (data : Payload) (cas : Option Nat) :
    writeAttempt index b path data cas w = (do
      let version ← backendWrite o.operationId b path data cas
      updateAttempt index fun a => { a with version := some version }
      return version : M Nat) w := by
  unfold writeAttempt
  rw [bind_run_ok (currentMaterialTransaction_run ho)]

/-- The material part of a store, from any world with an owner. -/
theorem storeMaterial_stored (r : StoreRequest) (c : Credential) (payload : Payload) (fingerprint : String)
    {w : World} {l : Ledger} (hl : w.ledger = some l) :
    Stored ⟨⟨c.engineId, c.path⟩, payload, r.cas⟩ (storedVersion (storeMaterial r c payload fingerprint w).1)
      w l (storeMaterial r c payload fingerprint w).2 := by
  unfold storeMaterial
  match hget : getBackend c.engineId w with
  | (.error err, u) =>
      have hquiet : Quiet Database.SameRows w u := (query_quiet _).of_error hget
      rw [bind_run_error hget]
      exact .untouched rfl (hquiet.ledger.trans hl) hquiet.ext
  | (.ok b, u) =>
      have hquiet : Quiet Database.SameRows w u := (query_quiet _).of_ok hget
      obtain ⟨hengine, hbackend, -⟩ := getBackend_ok hget
      have hbackend' : BackendOf u.db.config b := hquiet.db.config ▸ hbackend
      have hlocation : b.location c.path = ⟨c.engineId, c.path⟩ := by
        rw [Backend.location, hengine]
      rw [bind_run_ok hget]
      refine Stored.of_quiet hquiet ?_
      have hu : u.ledger = some l := hquiet.ledger.trans hl
      obtain ⟨o, ho, hledger, hopen⟩ := openAttempt_run hu ⟨c, b, c.path, r.user, r.action, none, none⟩
      rw [bind_run_ok hopen]
      have hop : o.operationId = l.operationId := congrArg Ledger.operationId hledger
      generalize hv : ({ u with owner := some { o with attempts :=
        o.attempts ++ [⟨c, b, c.path, r.user, r.action, none, none⟩] } } : World) = v
      have hvledger : v.ledger = some (l.opened ⟨c, b, c.path, r.user, r.action, none, none⟩) := by
        rw [← hv, ← hledger]
        rfl
      have hvext : v.ext = u.ext ∧ v.acts = u.acts ∧ v.db = u.db := by
        rw [← hv]
        exact ⟨rfl, rfl, rfl⟩
      have hvowner : ∃ o', v.owner = some o' ∧ o'.operationId = l.operationId := by
        rw [← hv]
        exact ⟨_, rfl, hop⟩
      obtain ⟨o', ho', hop'⟩ := hvowner
      have htick : Interference u.acts u.ext v.ticked.ext := by
        rw [← hvext.1, ← hvext.2.1]
        exact Interference.ticked v
      rw [bind_run, writeAttempt_run ho']
      rw [hop']
      rcases backendWrite_cases l.operationId b c.path payload r.cas v with
        ⟨err, hrun⟩ | ⟨cell, version, hcell, ⟨err, hrun⟩ | hrun⟩
      · rw [bind_run_error hrun]
        exact .opened rfl _ hvledger rfl rfl htick
      · rw [bind_run_error hrun]
        rw [hlocation] at hcell
        refine .lost rfl _ v.ticked.ext cell version hvledger rfl rfl hbackend' hlocation htick hcell ?_
        rw [hlocation]
        exact Interference.refl _
      · rw [hlocation] at hcell hrun
        rw [bind_run_ok hrun, bind_run_ok (updateAttempt_ok _ _ _)]
        simp only [pure_run]
        refine recordWrite_stored r c fingerprint (updateAttempt_ledger hvledger _) rfl rfl rfl rfl
          ?_ hvext.2.1 hbackend' hlocation htick hcell ?_
        · rw [(updateAttempt_db _ _ _).1, ← hvext.2.2]
          exact Database.Extends.refl _
        · exact Interference.refl _

variable [library : MaterialLibrary]

/-- A store either failed before it touched anything but the row, or came to its material part: the
payload prepared, the subject locked, the row persisted. -/
inductive StoreReaches (r : StoreRequest) (w : World) : Prop
  | early (e : Error) (hfailed : (storeBody r w).1 = .error e)
      (hquiet : Quiet Database.Extends w (storeBody r w).2)
  | material (payload : Payload) (metadata : Metadata) (fingerprint : String) (subject : Option Credential)
      (c : Credential) (u locked saved v : World)
      (hprepare : prepareMaterial w.db.config r.credentialType r.payload = .ok (payload, metadata))
      (hfingerprint : deriveKeyFingerprint w.db.config r.credentialType payload = .ok fingerprint)
      (hstart : Quiet Database.SameRows w u) (hlock : lockSubject r u = (.ok subject, locked))
      (hpersist : r.persist.run subject metadata locked = (.ok c, saved))
      (hquiet : Quiet Database.SameRows saved v)
      (hstore : storeBody r w = storeMaterial r c payload fingerprint v)

theorem storeBody_reaches (r : StoreRequest) (w : World) : StoreReaches r w := by
  have hfailed : ∀ {e : Error} {u : World}, storeBody r w = (.error e, u) → Quiet Database.Extends w u →
      StoreReaches r w := by
    intro e u hrun hquiet
    exact .early e (by rw [hrun]) (by rw [hrun]; exact hquiet)
  obtain ⟨out, hout⟩ : ∃ out, storeBody r w = out := ⟨_, rfl⟩
  have hbody := hout
  unfold storeBody at hbody
  match hconfig : query (fun db => .ok db.config) w with
  | (.error e, u) =>
      rw [bind_run_error hconfig] at hbody
      exact hfailed (hout.trans hbody.symm) ((query_quiet _).of_error hconfig)
  | (.ok config, u) =>
      have hu : Quiet Database.SameRows w u := (query_quiet _).of_ok hconfig
      obtain ⟨hdb, -⟩ := query_ok hconfig
      obtain rfl : w.db.config = config := Except.ok.inj hdb
      rw [bind_run_ok hconfig, bind_run, resume_run] at hbody
      cases hprepare : prepareMaterial w.db.config r.credentialType r.payload with
      | error e =>
          rw [hprepare] at hbody
          exact hfailed (hout.trans hbody.symm) hu.toExtends
      | ok prepared =>
      obtain ⟨payload, metadata⟩ := prepared
      rw [hprepare] at hbody
      simp only at hbody
      rw [bind_run, resume_run] at hbody
      cases hfingerprint : deriveKeyFingerprint w.db.config r.credentialType payload with
      | error e =>
          rw [hfingerprint] at hbody
          exact hfailed (hout.trans hbody.symm) hu.toExtends
      | ok fingerprint =>
      rw [hfingerprint] at hbody
      simp only at hbody
      match hlock : lockSubject r u with
      | (.error e, locked) =>
          rw [bind_run_error hlock] at hbody
          exact hfailed (hout.trans hbody.symm) (hu.trans ((lockSubject_quiet r).of_error hlock)).toExtends
      | (.ok subject, locked) =>
      have hlocked : Quiet Database.Extends w locked :=
        (hu.trans ((lockSubject_quiet r).of_ok hlock)).toExtends
      rw [bind_run_ok hlock] at hbody
      match hpersist : r.persist.run subject metadata locked with
      | (.error e, saved) =>
          rw [bind_run_error hpersist] at hbody
          exact hfailed (hout.trans hbody.symm) (hlocked.trans ((Persist.run_quiet _ _ _).of_error hpersist))
      | (.ok c, saved) =>
      have hsaved : Quiet Database.Extends w saved :=
        hlocked.trans ((Persist.run_quiet _ _ _).of_ok hpersist)
      rw [bind_run_ok hpersist] at hbody
      match hrefresh : refreshMaterialSelectors c saved with
      | (.error e, v) =>
          rw [bind_run_error hrefresh] at hbody
          exact hfailed (hout.trans hbody.symm) (hsaved.trans ((query_quiet _).of_error hrefresh))
      | (.ok (), v) =>
      rw [bind_run_ok hrefresh, bind_run_ok (modifyOwner_run _ v)] at hbody
      have hv : Quiet Database.SameRows saved v := (query_quiet _).of_ok hrefresh
      have hdeclared := hv.trans (Quiet.of_graph v (f := fun o =>
        { o with graphIds := o.graphIds.update .credential c.pk.toList }) fun _ => rfl)
      exact .material payload metadata fingerprint subject c u locked saved _ hprepare hfingerprint hu hlock
        hpersist hdeclared (hout.trans hbody.symm)

/-- What a whole `store_credential` body does to the servers and to the ledger. -/
theorem storeBody_stored (r : StoreRequest) {w : World} {l : Ledger} (hl : w.ledger = some l) :
    ∃ req, Stored req (storedVersion (storeBody r w).1) w l (storeBody r w).2 := by
  cases storeBody_reaches r w with
  | early e hfailed hquiet =>
      rw [hfailed]
      exact ⟨⟨⟨0, ""⟩, [], none⟩, .untouched rfl (hquiet.ledger.trans hl) hquiet.ext⟩
  | material payload metadata fingerprint subject c u locked saved v hprepare hfingerprint hstart hlock
      hpersist hquiet hstore =>
      have hv : Quiet Database.Extends w v :=
        ((hstart.trans ((lockSubject_quiet r).of_ok hlock)).toExtends.trans
          ((Persist.run_quiet _ _ _).of_ok hpersist)).trans hquiet.toExtends
      rw [hstore]
      exact ⟨_, Stored.of_quiet hv (storeMaterial_stored r c payload fingerprint (hv.ledger.trans hl))⟩

theorem storeBody_frame (r : StoreRequest) : Steps (Frame Database.Extends) (storeBody r) := by
  refine Steps.bind (quiet_frame (D := Database.Extends) (query_quiet _)) fun config => ?_
  refine Steps.bind (Steps.resume _) fun prepared => ?_
  refine Steps.bind (Steps.resume _) fun fingerprint => ?_
  refine Steps.bind (quiet_frame (lockSubject_quiet r)) fun subject => ?_
  refine Steps.bind (quiet_frame (Persist.run_quiet _ _ _)) fun c => ?_
  refine Steps.bind (quiet_frame (D := Database.Extends) (query_quiet _)) fun _ => ?_
  refine Steps.bind (modifyOwner_frame _) fun _ => ?_
  exact storeMaterial_frame r c prepared.1 fingerprint

end NetboxOpenbao
