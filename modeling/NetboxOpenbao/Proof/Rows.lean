import NetboxOpenbao.Proof.Store

/-!
# What a service that returned leaves in the row

A service locks the row, builds an instance from it, saves the instance and later some of its columns.
Inside the transaction the row is then exactly what the pure functions of the service make of it.
-/

namespace NetboxOpenbao

open Effect Effect.Prog

theorem currentMaterialTransaction_ok {w w' : World} {o : MaterialTransaction}
    (h : currentMaterialTransaction w = (.ok o, w')) : w.owner = some o ∧ w' = w := by
  unfold currentMaterialTransaction at h
  rw [bind_run_ok (get_run w)] at h
  cases howner : w.owner with
  | none =>
      rw [howner] at h
      cases h
  | some owner =>
      rw [howner] at h
      cases h
      exact ⟨rfl, rfl⟩

/-! ### Saving some columns -/

theorem saveFields_ok {held : Credential} {fields : List MaterialField} {w w' : World}
    (h : saveFields held fields w = (.ok (), w')) : ∃ pk row, held.pk = some pk ∧
      w.db.credentials pk = some row ∧ w'.db = w.db.putCredential pk (copyFields held row fields) := by
  obtain ⟨db, hq, rfl⟩ := saving_ok h
  cases hpk : held.pk with
  | none =>
      rw [hpk] at hq
      cases hq
  | some pk =>
      rw [hpk] at hq
      simp only at hq
      cases hrow : w.db.credentials pk with
      | none =>
          rw [hrow] at hq
          cases hq
      | some row =>
          rw [hrow] at hq
          cases hq
          exact ⟨pk, row, rfl, hrow, rfl⟩

/-- The columns a completed write saves are the only ones it changes. -/
theorem copyFields_written (c : Credential) (fingerprint : String) (version : Nat) (promote : Bool)
    (action : AccessAction) (time : Time) :
    copyFields (written c fingerprint version promote action time).1 c
      (written c fingerprint version promote action time).2 =
        (written c fingerprint version promote action time).1 := by
  unfold written recordKeyVersion clearStagedKey
  cases promote <;> by_cases hrotate : action = .rotate <;> by_cases hstage : action = .stage <;>
    simp [hrotate, hstage, copyFields, MaterialField.copy]

theorem copyFields_promoted (c : Credential) (time : Time) :
    copyFields (promoted c time).1 c (promoted c time).2 = (promoted c time).1 := by
  unfold promoted promoteKeyIdentity recordKeyVersion clearStagedKey
  simp [copyFields, MaterialField.copy]

theorem copyFields_discarded (c : Credential) :
    copyFields (discarded c).1 c (discarded c).2 = (discarded c).1 := by
  unfold discarded clearStagedKey
  simp [copyFields, MaterialField.copy]

/-! ### Column by column -/

/-- The row after a write that goes live. -/
theorem written_promote (c : Credential) (fingerprint : String) (version : Nat) (action : AccessAction)
    (time : Time) : (written c fingerprint version true action time).1 = { c with
      kvVersion := some version
      liveKvVersion := some version
      stagedKvVersion := none
      liveKeyFingerprint := fingerprint
      liveKeyVersion := if fingerprint = "" then none else some version
      stagedKeyFingerprint := ""
      stagedKeyVersion := none
      lastVerified := some time
      lastRotated := if action = .rotate then some time else c.lastRotated
      status := if action = .stage then .staged else c.status } := by
  unfold written recordKeyVersion clearStagedKey
  by_cases hrotate : action = .rotate <;> by_cases hstage : action = .stage <;> simp [hrotate, hstage]

/-- The row after a write that stages a candidate. -/
theorem written_stage (c : Credential) (fingerprint : String) (version : Nat) (time : Time) :
    (written c fingerprint version false .stage time).1 = { c with
      kvVersion := some version
      stagedKvVersion := some version
      stagedKeyFingerprint := fingerprint
      stagedKeyVersion := if fingerprint = "" then none else some version
      lastVerified := some time
      status := .staged } := by
  simp [written, recordKeyVersion]

/-- The fingerprint a promotion records for the version that goes live. -/
def promotedFingerprint (c : Credential) : String :=
  if c.stagedKeyVersion = c.stagedKvVersion then c.stagedKeyFingerprint else ""

theorem promoted_eq (c : Credential) (time : Time) : (promoted c time).1 = { c with
    liveKvVersion := c.stagedKvVersion
    stagedKvVersion := none
    liveKeyFingerprint := promotedFingerprint c
    liveKeyVersion := if promotedFingerprint c = "" then none else c.stagedKvVersion
    stagedKeyFingerprint := ""
    stagedKeyVersion := none
    lastRotated := some time
    status := .active } := rfl

theorem discarded_eq (c : Credential) : (discarded c).1 = { c with
    stagedKvVersion := none
    stagedKeyFingerprint := ""
    stagedKeyVersion := none
    status := .active } := rfl

/-- The instance `stage_material` goes on with. -/
def pinned (c : Credential) : Credential :=
  if c.liveKvVersion.isNone && c.kvVersion.isSome then { c with liveKvVersion := c.kvVersion } else c

theorem pinned_of_live {c : Credential} (h : c.liveKvVersion ≠ none) : pinned c = c := by
  unfold pinned
  rw [if_neg]
  simp [h]

@[simp] theorem pinned_pk (c : Credential) : (pinned c).pk = c.pk := by
  unfold pinned
  split <;> rfl

@[simp] theorem pinned_engineId (c : Credential) : (pinned c).engineId = c.engineId := by
  unfold pinned
  split <;> rfl

@[simp] theorem pinned_policyId (c : Credential) : (pinned c).policyId = c.policyId := by
  unfold pinned
  split <;> rfl

/-- The live pointer after pinning: the promoted version, or the one the row names. -/
theorem pinned_liveKvVersion (c : Credential) :
    (pinned c).liveKvVersion = (c.liveKvVersion <|> c.kvVersion) := by
  unfold pinned
  cases hlive : c.liveKvVersion <;> cases hversion : c.kvVersion <;> simp [hlive]

@[simp] theorem pinned_path (c : Credential) : (pinned c).path = c.path := by
  unfold pinned
  split <;> rfl

@[simp] theorem pinned_credentialType (c : Credential) : (pinned c).credentialType = c.credentialType := by
  unfold pinned
  split <;> rfl

@[simp] theorem pinned_columns (c : Credential) : (pinned c).columns = c.columns := by
  unfold pinned
  split <;> rfl

@[simp] theorem pinned_kvVersion (c : Credential) : (pinned c).kvVersion = c.kvVersion := by
  unfold pinned
  split <;> rfl

/-- The row with what was extracted from its material. -/
def withMetadata (c : Credential) (metadata : Metadata) : Credential :=
  { c with columns := metadata.apply c.columns }

@[simp] theorem written_pk (c : Credential) (fingerprint : String) (version : Nat) (promote : Bool)
    (action : AccessAction) (time : Time) : (written c fingerprint version promote action time).1.pk = c.pk := by
  unfold written recordKeyVersion clearStagedKey
  cases promote <;> by_cases hrotate : action = .rotate <;> by_cases hstage : action = .stage <;>
    simp [hrotate, hstage]

theorem pinLiveVersion_ok {c c' : Credential} {pk : Nat} {w w' : World} (hpk : c.pk = some pk)
    (hrow : w.db.credentials pk = some c) (h : pinLiveVersion c w = (.ok c', w')) :
    c' = pinned c ∧ w'.db.credentials = (w.db.putCredential pk (pinned c)).credentials := by
  unfold pinLiveVersion at h
  unfold pinned
  split at h
  · next hpin =>
      rw [if_pos hpin]
      obtain ⟨_, u, hsave, h⟩ := bind_ok h
      obtain ⟨rfl, rfl⟩ := pure_ok h
      obtain ⟨pk', row, hpk', hrow', hdb⟩ := saveFields_ok hsave
      obtain rfl : pk = pk' := Option.some.inj (hpk.symm.trans hpk')
      obtain rfl : c = row := Option.some.inj (hrow.symm.trans hrow')
      exact ⟨rfl, by rw [hdb]; rfl⟩
  · next hpin =>
      rw [if_neg hpin]
      obtain ⟨rfl, rfl⟩ := pure_ok h
      refine ⟨rfl, ?_⟩
      funext k
      by_cases hk : k = pk
      · subst hk
        rw [Database.putCredential_self, hrow]
      · rw [Database.putCredential_of_ne _ _ hk]

/-! ### Locks -/

/-- What `lock_material_subjects` returns for one subject is its row. -/
theorem lockMaterialSubjects_ok {c : Credential} {additional : List Nat} {locked : List (Nat × Credential)}
    {w w' : World} (h : lockMaterialSubjects [c] additional w = (.ok locked, w')) {pk : Nat} (hpk : c.pk = some pk) :
    locked.lookup pk = w.db.credentials pk := by
  have hdb : ∀ {α : Type} {x : M α} {u v : World} {a : α}, Steps (Quiet Database.SameRows) x →
      x u = (.ok a, v) → u.db.credentials pk = w.db.credentials pk → v.db.credentials pk = w.db.credentials pk :=
    fun hx hrun hu => by rw [(hx.of_ok hrun).db.credentials, hu]
  obtain ⟨selectors, u1, hselectors, h⟩ := bind_ok h
  have hids : selectors.ids = [pk] := by
    obtain ⟨rows, v, -, hrest⟩ := bind_ok hselectors
    obtain ⟨rfl, -⟩ := pure_ok hrest
    simp [hpk]
  have h1 : u1.db.credentials pk = w.db.credentials pk :=
    hdb (Steps.bind (query_quiet _) fun _ => Steps.pure _) hselectors rfl
  obtain ⟨_, u2, hdeclare, h⟩ := bind_ok h
  have h2 := hdb (declareGraph_quiet _) hdeclare h1
  obtain ⟨policies, u3, hpolicies, h⟩ := bind_ok h
  have h3 := hdb (query_quiet _) hpolicies h2
  obtain ⟨_, u4, hdeclare', h⟩ := bind_ok h
  have h4 := hdb (declareGraph_quiet _) hdeclare' h3
  obtain ⟨engines, u5, hengines, h⟩ := bind_ok h
  have h5 := hdb (query_quiet _) hengines h4
  obtain ⟨rows, u6, hrows, h⟩ := bind_ok h
  obtain ⟨hlocked, -⟩ := query_ok hrows
  obtain ⟨_, u7, -, h⟩ := bind_ok h
  obtain ⟨_, u8, -, h⟩ := bind_ok h
  obtain ⟨rfl, -⟩ := pure_ok h
  have hrows : rows = lockedRows u5.db selectors.ids := (Except.ok.inj hlocked).symm
  rw [hrows, hids, ← h5]
  unfold lockedRows
  cases hrow : u5.db.credentials pk with
  | none => simp [hrow]
  | some row => simp [hrow]

theorem lockedRow_ok {locked : List (Nat × Credential)} {pk : Option Nat} {row : Credential} {w w' : World}
    (h : lockedRow locked pk w = (.ok row, w')) :
    w' = w ∧ ∃ id, pk = some id ∧ locked.lookup id = some row := by
  unfold lockedRow at h
  cases hpk : pk with
  | none =>
      rw [hpk] at h
      cases h
  | some id =>
      rw [hpk] at h
      cases hlookup : locked.lookup id with
      | none =>
          simp only [Option.bind_some, hlookup] at h
          cases h
      | some found =>
          simp only [Option.bind_some, hlookup] at h
          cases h
          exact ⟨rfl, id, rfl, hlookup⟩

/-- The subject leaves the lock with its version state refreshed. -/
theorem lockMaterialSubject_ok {c : Credential} {targetPolicy : Option Nat} {subject : Option Credential}
    {w w' : World} {pk : Nat} {row : Credential} (hpk : c.pk = some pk) (hrow : w.db.credentials pk = some row)
    (h : lockMaterialSubject (some c) targetPolicy w = (.ok subject, w')) :
    subject = some (refreshVersions c row) := by
  unfold lockMaterialSubject at h
  simp only at h
  obtain ⟨locked, u, hlock, h⟩ := bind_ok h
  have hfound := lockMaterialSubjects_ok hlock hpk
  rw [hpk] at h
  simp only at h
  obtain ⟨fresh, v, hfresh, h⟩ := bind_ok h
  obtain ⟨-, id, hid, hlookup⟩ := lockedRow_ok hfresh
  obtain rfl : pk = id := Option.some.inj hid
  obtain ⟨_, x, -, h⟩ := bind_ok h
  obtain ⟨_, y, -, h⟩ := bind_ok h
  obtain ⟨rfl, -⟩ := pure_ok h
  rw [hfound, hrow] at hlookup
  rw [Option.some.inj hlookup]

/-- The tier and the engine of a locked instance are there. -/
theorem lockMaterialSubject_selectors {c : Credential} {targetPolicy : Option Nat} {subject : Option Credential}
    {w w' : World} {pk : Nat} (hpk : c.pk = some pk)
    (h : lockMaterialSubject (some c) targetPolicy w = (.ok subject, w')) :
    (w.db.config.policies c.policyId).isSome = true ∧ (w.db.config.engines c.engineId).isSome = true := by
  unfold lockMaterialSubject at h
  simp only at h
  obtain ⟨locked, u, hlock, h⟩ := bind_ok h
  rw [hpk] at h
  simp only at h
  obtain ⟨fresh, v, hfresh, h⟩ := bind_ok h
  obtain ⟨_, x, hselectors, h⟩ := bind_ok h
  have hu : Quiet Database.SameRows w u := (lockMaterialSubjects_quiet _ _).of_ok hlock
  have hv : Quiet Database.SameRows u v := (lockedRow_quiet _ _).of_ok hfresh
  have hconfig : v.db.config = w.db.config := hv.db.config.trans hu.db.config
  have hfound := (query_ok hselectors).1
  rw [hconfig] at hfound
  split at hfound
  · next hpolicy hengine => simp [hpolicy, hengine]
  · cases hfound

theorem refreshVersions_self (c : Credential) : refreshVersions c c = c := rfl

/-! ### Saving whole rows -/

/-- `_apply_defaults` touches an engine that has not been set, and nothing else. -/
theorem applyDefaults_ok {db : Database} {c c' : Credential} (h : applyDefaults db c = .ok c') :
    c' = { c with engineId := c'.engineId } ∧ (c.engineId ≠ 0 → c' = c) := by
  unfold applyDefaults at h
  split at h
  · next hblank =>
      have hzero : c.engineId = 0 := by simpa using (Bool.and_eq_true_iff.mp hblank).2
      cases hpolicy : policyOf db c with
      | error e =>
          rw [hpolicy] at h
          cases h
      | ok policy =>
          rw [hpolicy] at h
          cases h
          exact ⟨rfl, fun hne => absurd hzero hne⟩
  · cases h
    exact ⟨rfl, fun _ => rfl⟩

/-- The default only depends on the tier and the engine of the instance. -/
theorem applyDefaults_congr {db db' : Database} {c c' d d' : Credential} (hconfig : db'.config = db.config)
    (hpolicy : d.policyId = c.policyId) (hengine : d.engineId = c.engineId) (h : applyDefaults db c = .ok c')
    (h' : applyDefaults db' d = .ok d') : d'.policyId = c'.policyId ∧ d'.engineId = c'.engineId := by
  unfold applyDefaults at h h'
  rw [hpolicy, hengine] at h'
  have hsame : policyOf db' d = policyOf db c := by
    unfold policyOf
    rw [hconfig, hpolicy]
  split at h
  · next hblank =>
      rw [if_pos hblank, hsame] at h'
      cases hfound : policyOf db c with
      | error e =>
          rw [hfound] at h
          cases h
      | ok policy =>
          rw [hfound] at h h'
          obtain rfl := Except.ok.inj h
          obtain rfl := Except.ok.inj h'
          exact ⟨rfl, rfl⟩
  · next hset =>
      rw [if_neg hset] at h'
      obtain rfl := Except.ok.inj h
      obtain rfl := Except.ok.inj h'
      exact ⟨hpolicy, hengine⟩

/-- The credential is on the engine of its tier. -/
def Config.Matches (config : Config) (c : Credential) : Prop :=
  ∃ policy, config.policies c.policyId = some policy ∧ policy.engineId = c.engineId

theorem clean_matches {db : Database} {c : Credential} (h : clean db c = .ok ()) : db.config.Matches c := by
  unfold clean policyOf at h
  simp only [bind, Except.bind] at h
  cases hpolicy : db.config.policies c.policyId with
  | none =>
      rw [hpolicy] at h
      split at h <;> cases h
  | some policy =>
      refine ⟨policy, hpolicy, ?_⟩
      by_cases hsame : policy.engineId = c.engineId
      · exact hsame
      · have hdiffers : (policy.engineId != c.engineId) = true := by simpa using hsame
        rw [hpolicy] at h
        simp only [hdiffers, if_true] at h
        split at h <;> cases h

theorem fullClean_ok {c c' : Credential} {w w' : World} (h : fullClean c w = (.ok c', w')) :
    applyDefaults w.db c = .ok c' ∧ w.db.config.Matches c' ∧ w'.db = w.db := by
  obtain ⟨cleaned, u, hquery, h⟩ := bind_ok h
  obtain ⟨hdefaults, rfl⟩ := query_ok hquery
  obtain ⟨_, v, hclean, h⟩ := bind_ok h
  obtain ⟨hcleaned, rfl⟩ := query_ok hclean
  obtain ⟨rfl, rfl⟩ := pure_ok h
  refine ⟨hdefaults, ?_, rfl⟩
  cases hvalid : clean w.db cleaned with
  | ok u => exact clean_matches hvalid
  | error e =>
      have hvalid' : clean w.ticked.db cleaned = .error e := hvalid
      rw [hvalid'] at hcleaned
      cases hcleaned

theorem saveCredential_ok {c saved : Credential} {pk : Nat} {w w' : World} (hpk : c.pk = some pk)
    (h : saveCredential c w = (.ok saved, w')) :
    applyDefaults w.db c = .ok saved ∧ w'.db = w.db.putCredential pk saved := by
  obtain ⟨defaulted, u, hquery, h⟩ := bind_ok h
  obtain ⟨hdefaults, rfl⟩ := query_ok hquery
  have hpk' : defaulted.pk = some pk := by
    rw [(applyDefaults_ok hdefaults).1]
    exact hpk
  rw [hpk'] at h
  simp only at h
  obtain ⟨db, hq, rfl⟩ := saving_ok h
  split at hq
  · cases hq
  · cases hq
    exact ⟨hdefaults, rfl⟩

theorem query_conn {α : Type} {q : Database → Except Error α} {w w' : World} {a : α}
    (h : query q w = (.ok a, w')) : w'.conn = w.conn := by
  rw [(query_ok h).2]
  rfl

theorem saving_conn {α : Type} {q : Database → Except Error (α × Database)} {w w' : World} {a : α}
    (h : saving q w = (.ok a, w')) : w'.conn = w.conn := by
  obtain ⟨db, -, rfl⟩ := saving_ok h
  rfl

/-- A new row is there under the number it drew. -/
theorem saveCredential_new {c saved : Credential} {w w' : World} (hin : w.conn.inAtomic = true)
    (hpk : c.pk = none) (h : saveCredential c w = (.ok saved, w')) : ∃ defaulted,
      applyDefaults w.db c = .ok defaulted ∧ saved = insertedRow w.db defaulted ∧
      w'.db.credentials = (w.db.putCredential w.db.nextId saved).credentials := by
  obtain ⟨defaulted, u, hquery, h⟩ := bind_ok h
  obtain ⟨hdefaults, rfl⟩ := query_ok hquery
  have hpk' : defaulted.pk = none := by
    rw [(applyDefaults_ok hdefaults).1]
    exact hpk
  rw [hpk'] at h
  simp only at h
  have hconn : ∀ {u v : World} {b : Credential}, (do
      query fun _ => .ok ()
      saving fun db => insertCredential db defaulted : M Credential) u = (.ok b, v) → v.conn = u.conn := by
    intro u v b hrun
    obtain ⟨_, z, hopen, hinsert⟩ := bind_ok hrun
    rw [saving_conn hinsert, query_conn hopen]
  obtain ⟨x, y, hx, hbody, hdb⟩ := atomic_kept (w := w.ticked) hin hconn h
  obtain ⟨_, z, hopen, hinsert⟩ := bind_ok hbody
  obtain ⟨-, rfl⟩ := query_ok hopen
  obtain ⟨db, hq, rfl⟩ := saving_ok hinsert
  obtain ⟨hsaved, rfl⟩ := insertCredential_ok hq
  have hx : x.ticked.db = w.db := hx
  rw [hx] at hsaved hdb
  exact ⟨defaulted, hdefaults, hsaved, by rw [hdb]; rfl⟩

/-! ### Persisting -/

theorem Persist.validate_ok {persist : Persist} {c c' : Credential} {w w' : World}
    (h : persist.validate c w = (.ok c', w')) :
    c' = { c with engineId := c'.engineId } ∧ (c.engineId ≠ 0 → c' = c) ∧ w'.db = w.db := by
  unfold Persist.validate at h
  split at h
  · obtain ⟨hdefaults, -, hdb⟩ := fullClean_ok h
    obtain ⟨hc, hengine⟩ := applyDefaults_ok hdefaults
    exact ⟨hc, hengine, hdb⟩
  · obtain ⟨rfl, rfl⟩ := pure_ok h
    exact ⟨rfl, fun _ => rfl, rfl⟩

/-- What a persist callback saves of an existing credential: the instance it built with its metadata. -/
theorem Persist.run_ok {persist : Persist} {subject : Option Credential} {metadata : Metadata}
    {saved : Credential} {pk : Nat} {w w' : World} (hpk : (persist.build subject).pk = some pk)
    (h : persist.run subject metadata w = (.ok saved, w')) :
    saved = { withMetadata (persist.build subject) metadata with engineId := saved.engineId } ∧
      ((persist.build subject).engineId ≠ 0 → saved = withMetadata (persist.build subject) metadata) ∧
      w'.db.credentials = (w.db.putCredential pk saved).credentials := by
  obtain ⟨c, u, hvalidate, h⟩ := bind_ok h
  obtain ⟨hc, hengine, hdb⟩ := Persist.validate_ok hvalidate
  obtain ⟨c', v, hsave, h⟩ := bind_ok h
  obtain ⟨_, x, hconforms, h⟩ := bind_ok h
  obtain ⟨-, rfl⟩ := query_ok hconforms
  obtain ⟨rfl, rfl⟩ := pure_ok h
  have hcpk : c.pk = some pk := by
    rw [hc]
    exact hpk
  obtain ⟨hdefaults, hdb'⟩ := saveCredential_ok hcpk hsave
  obtain ⟨hc', hengine'⟩ := applyDefaults_ok hdefaults
  refine ⟨?_, fun hne => ?_, ?_⟩
  · rw [hc', hc]
    rfl
  · have hsame : c = withMetadata (persist.build subject) metadata := hengine hne
    rw [hengine' (by rw [hsame]; exact hne), hsame]
  · change v.db.credentials = _
    rw [hdb', hdb]

/-! ### The material part -/

theorem auditAttempt_credentials (index : Nat) (c : Credential) (user : Option User) (action : AccessAction)
    (request : Option Nat) (w : World) :
    (auditAttempt index c user action request w).2.db.credentials = w.db.credentials := by
  have hlog : Steps (Quiet Database.SameRows) (logAccess c user action true "" "" request) := logAccess_quiet
  have hquiet := hlog w
  unfold auditAttempt
  rw [bind_run]
  split
  · next hrun =>
      rw [hrun] at hquiet
      exact hquiet.db.credentials
  · next hrun =>
      rw [hrun] at hquiet
      exact hquiet.db.credentials

theorem recordWrite_ok {r : StoreRequest} {index : Nat} {c c' : Credential} {fingerprint : String}
    {version version' : Nat} {pk : Nat} {w w' : World} (hpk : c.pk = some pk)
    (hrow : ∀ row, w.db.credentials pk = some row → row = c)
    (h : recordWrite r index c fingerprint version w = (.ok (c', version'), w')) :
    version' = version ∧ w.db.credentials pk = some c ∧
      c' = (written c fingerprint version r.promote r.action w.env.now).1 ∧
      w'.db.credentials = (w.db.putCredential pk c').credentials := by
  unfold recordWrite at h
  rw [bind_run_ok (show now w = (.ok w.env.now, w) from rfl)] at h
  simp only at h
  obtain ⟨_, u, hsave, h⟩ := bind_ok h
  obtain ⟨_, v, hdefer, h⟩ := bind_ok h
  obtain ⟨_, x, haudit, h⟩ := bind_ok h
  obtain ⟨heq, rfl⟩ := pure_ok h
  obtain ⟨rfl, rfl⟩ := Prod.mk.inj heq
  obtain ⟨pk', row, hpk', hrow', hdb⟩ := saveFields_ok hsave
  obtain rfl : pk = pk' := Option.some.inj (hpk.symm.trans ((written_pk _ _ _ _ _ _).symm.trans hpk'))
  obtain rfl : row = c := hrow row hrow'
  refine ⟨rfl, hrow', rfl, ?_⟩
  have hcredentials := auditAttempt_credentials index
    (written row fingerprint version r.promote r.action w.env.now).1 r.user r.action r.request v
  rw [haudit] at hcredentials
  have hv : v.db = u.db := by
    cases hdefer
    rfl
  rw [show x.db.credentials = _ from hcredentials, hv, hdb, copyFields_written]

/-- The material part of a store that returned: it found the row it was given, wrote, and saved. -/
theorem storeMaterial_ok {r : StoreRequest} {c c' : Credential} {payload : Payload} {fingerprint : String}
    {version : Nat} {pk : Nat} {w w' : World} (hpk : c.pk = some pk)
    (hrow : ∀ row, w.db.credentials pk = some row → row = c)
    (h : storeMaterial r c payload fingerprint w = (.ok (c', version), w')) :
    w.db.credentials pk = some c ∧ c' = (written c fingerprint version r.promote r.action w.env.now).1 ∧
      w'.db.credentials = (w.db.putCredential pk c').credentials := by
  obtain ⟨b, u, hget, h⟩ := bind_ok h
  obtain ⟨-, -, rfl⟩ := getBackend_ok hget
  obtain ⟨index, v, hopen, h⟩ := bind_ok h
  obtain ⟨version', x, hwrite, h⟩ := bind_ok h
  have hv : v.db = w.db ∧ v.env = w.env := by
    obtain ⟨owner, y, hcurrent, hopen⟩ := bind_ok hopen
    obtain ⟨_, z, hmodify, hpure⟩ := bind_ok hopen
    obtain ⟨-, rfl⟩ := pure_ok hpure
    cases hmodify
    have hquiet := currentMaterialTransaction_ok hcurrent
    rw [hquiet.2]
    exact ⟨rfl, rfl⟩
  have hx : x.db = v.db ∧ x.env = v.env := by
    obtain ⟨owner, y, hcurrent, hwrite⟩ := bind_ok hwrite
    obtain ⟨version'', z, hbackend, hwrite⟩ := bind_ok hwrite
    obtain ⟨_, z', hupdate, hpure⟩ := bind_ok hwrite
    obtain ⟨-, rfl⟩ := pure_ok hpure
    cases hupdate
    obtain ⟨-, rfl⟩ := currentMaterialTransaction_ok hcurrent
    rcases backendWrite_cases owner.operationId b c.path payload r.cas y with
      ⟨e, hrun⟩ | ⟨cell, number, -, ⟨e, hrun⟩ | hrun⟩
    · rw [hbackend] at hrun
      cases hrun
    · rw [hbackend] at hrun
      cases hrun
    · rw [hbackend] at hrun
      cases hrun
      exact ⟨rfl, rfl⟩
  have hdb : x.db = w.db := hx.1.trans hv.1
  have henv : x.env = w.env := hx.2.trans hv.2
  obtain ⟨rfl, hfound, hc', hsaved⟩ := recordWrite_ok hpk (by rwa [hdb]) h
  exact ⟨hdb ▸ hfound, henv ▸ hc', by rw [hsaved, hdb]⟩

end NetboxOpenbao
