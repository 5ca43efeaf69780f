import NetboxOpenbao.Proof.Transitions

/-!
# The bodies of the operations

Every operation on an existing credential runs one body under its owner, and every body does what `Ran`
says.
-/

namespace NetboxOpenbao

open Effect Effect.Prog

variable [library : MaterialLibrary]

section

variable {config : Config} {time : Time} {pk : Nat} {row : Credential} {w : World}

omit library in
/-- What `synchronized_material_change` hands to the change is the row, in the same settings at the same
time. -/
theorem synchronizedBody_ran {α : Type} {plan : Plan} {held : Credential} {f : Credential → M α}
    (hpk : held.pk = some pk) (hrow : w.db.credentials pk = some row)
    (h : ∀ u, u.db.config = w.db.config → u.env = w.env → u.db.credentials pk = some row →
      Ran plan (f row u).1.isOk u (f row u).2) :
    Ran plan (synchronizedBody held f w).1.isOk w (synchronizedBody held f w).2 := by
  refine Ran.bind (lockMaterialSubjects_quiet _ _) fun locked u _ hu => ?_
  refine Ran.bind (lockedRow_quiet _ _) fun _ v _ hv => ?_
  refine Ran.bind (query_quiet _) fun fresh x hfresh hx => ?_
  obtain ⟨hfound, -⟩ := query_ok hfresh
  have hall : Quiet Database.SameRows w x := (hu.trans hv).trans hx
  have hvrow : v.db.credentials pk = some row := by
    rw [hv.db.credentials, hu.db.credentials, hrow]
  rw [hpk, Option.bind_some, hvrow] at hfound
  cases hfound
  exact h x hall.db.config hall.env (by rw [hall.db.credentials, hrow])

/-- `write_material` on the row as it stands. -/
theorem writeMaterial_ran {plan : Plan} {c : Credential} {payload : Payload} {cas : Option Nat}
    {user : Option User} {request : Option Nat} {action : AccessAction} {promote : Bool}
    (hpk : c.pk = some pk) (hrow : w.db.credentials pk = some c) (hengine : c.engineId ≠ 0)
    (hallowed : ∀ {data metadata fingerprint}, Prepared w.db.config c.credentialType payload data metadata
        fingerprint → plan.requests ⟨⟨c.engineId, c.path⟩, data, cas⟩ ∧
        ∀ version, plan.commits (some (⟨⟨c.engineId, c.path⟩, data, cas⟩, version)) pk
          (written (withMetadata c metadata) fingerprint version promote action w.env.now).1) :
    Ran plan (writeMaterial c payload cas user request action promote w).1.isOk w
      (writeMaterial c payload cas user request action promote w).2 := by
  refine storeExisting_ran hpk ?_ ?_
  · intro u locked subject hu hlock
    have hsubject : subject = some (refreshVersions c c) :=
      lockMaterialSubject_ok hpk (by rw [hu, hrow]) hlock
    rw [hsubject, refreshVersions_self]
    rfl
  · intro data metadata fingerprint saved hprepared _ hsaved
    rw [hsaved hengine]
    exact hallowed hprepared

theorem rotateBody_ran {held : Credential} {payload : Payload} {user : Option User} {request : Option Nat}
    (hconfig : w.db.config = config) (htime : w.env.now = time) (hpk : row.pk = some pk)
    (hengine : row.engineId ≠ 0) (hrow : w.db.credentials pk = some row) :
    Ran (Operation.plan (.rotate held payload user request) config time pk row)
      (rotateBody payload user request row w).1.isOk w (rotateBody payload user request row w).2 := by
  refine Ran.bind enforcePolicyAccess_quiet fun _ u _ hu => ?_
  have huconfig : u.db.config = config := hu.db.config.trans hconfig
  have hutime : u.env.now = time := by rw [hu.env, htime]
  subst huconfig hutime
  exact writeMaterial_ran hpk (by rw [hu.db.credentials, hrow]) hengine fun hprepared =>
    ⟨.rotate hprepared, fun _ => ⟨rfl, .rotate hprepared⟩⟩

theorem stageBody_ran {held : Credential} {payload : Payload} {user : Option User} {request : Option Nat}
    (hconfig : w.db.config = config) (htime : w.env.now = time) (hpk : row.pk = some pk)
    (hengine : row.engineId ≠ 0) (hrow : w.db.credentials pk = some row) :
    Ran (Operation.plan (.stage held payload user request) config time pk row)
      (stageBody payload user request row w).1.isOk w (stageBody payload user request row w).2 := by
  refine Ran.bind enforcePolicyAccess_quiet fun _ u _ hu => ?_
  refine Ran.bind (raiseIf_quiet _ _) fun _ v hraise hv => ?_
  have hstaged : row.stagedKvVersion = none := by
    have hnone := (raiseIf_ok hraise).1
    simpa [Credential.hasStagedVersion] using hnone
  have hvrow : v.db.credentials pk = some row := by rw [hv.db.credentials, hu.db.credentials, hrow]
  match hpin : pinLiveVersion row v with
  | (.error e, x) =>
      rw [bind_run_error hpin]
      exact Ran.early ((pinLiveVersion_quiet row).of_error hpin)
  | (.ok c, x) =>
      rw [bind_run_ok hpin]
      obtain ⟨rfl, hcredentials⟩ := pinLiveVersion_ok hpk hvrow hpin
      have hx : Quiet Database.Extends v x := (pinLiveVersion_quiet row).of_ok hpin
      have hxconfig : x.db.config = config := by
        rw [hx.db.config, hv.db.config, hu.db.config, hconfig]
      have hxtime : x.env.now = time := by rw [hx.env, hv.env, hu.env, htime]
      subst hxconfig hxtime
      refine Ran.before hx ?_ ?_
      · rintro wrote _ row' ⟨rfl, -⟩
        rw [Database.putCredential_congr hcredentials, Database.putCredential_putCredential]
      · refine writeMaterial_ran (by simpa using hpk) ?_ (by simpa using hengine) fun hprepared => ?_
        · rw [hcredentials, Database.putCredential_self]
        · rw [pinned_credentialType] at hprepared
          rw [pinned_engineId, pinned_path, pinned_kvVersion]
          exact ⟨.stage hstaged hprepared, fun _ => ⟨rfl, .stage hstaged hprepared⟩⟩

theorem promoteBody_ran {held : Credential} {user : Option User} {request : Option Nat} {verified : Bool}
    {note : String} (htime : w.env.now = time) (hpk : row.pk = some pk)
    (hrow : w.db.credentials pk = some row) :
    Ran (Operation.plan (.promote held user request verified note) config time pk row)
      (promoteBody user request verified note row w).1.isOk w
      (promoteBody user request verified note row w).2 := by
  refine Ran.bind enforcePolicyAccess_quiet fun _ u _ hu => ?_
  refine Ran.bind (raiseIf_quiet _ _) fun _ v hraise hv => ?_
  refine Ran.bind (query_quiet _) fun backend x _ hx => ?_
  refine Ran.bind (listStaged_quiet _ _ _ _) fun versions y _ hy => ?_
  refine Ran.bind (confirmStaged_quiet _ _ _ _) fun _ z _ hz => ?_
  rw [bind_run_ok (show now z = (.ok z.env.now, z) from rfl)]
  simp only
  obtain ⟨staged, hstaged⟩ : ∃ staged, row.stagedKvVersion = some staged := by
    have hsome := (raiseIf_ok hraise).1
    simpa [Credential.hasStagedVersion, Option.isSome_iff_exists] using hsome
  have hzrow : z.db.credentials pk = some row := by
    rw [hz.db.credentials, hy.db.credentials, hx.db.credentials, hv.db.credentials, hu.db.credentials, hrow]
  have hztime : z.env.now = time := by rw [hz.env, hy.env, hx.env, hv.env, hu.env, htime]
  subst hztime
  match hsave : saveFields (promoted row z.env.now).1 (promoted row z.env.now).2 z with
  | (.error e, s) =>
      rw [bind_run_error hsave]
      exact Ran.early ((saveFields_quiet _ _).of_error hsave)
  | (.ok (), s) =>
      rw [bind_run_ok hsave]
      obtain ⟨pk', row', hpk', hrow', hdb⟩ := saveFields_ok hsave
      obtain rfl : pk = pk' := Option.some.inj (hpk.symm.trans hpk')
      obtain rfl : row = row' := Option.some.inj (hzrow.symm.trans hrow')
      have hlog : Steps (Quiet Database.SameRows) (do
          let _ ← logAccess (promoted row z.env.now).1 user .promote true (promotionReason verified note) ""
            request
          pure (promoted row z.env.now).1) := Steps.bind logAccess_quiet fun _ => Steps.pure _
      refine Ran.silent (((saveFields_quiet _ _).of_ok hsave).trans (hlog s).toExtends) fun _ => ?_
      refine ⟨pk, _, ⟨rfl, .promote hstaged⟩, ?_⟩
      rw [(hlog s).db.credentials, hdb, copyFields_promoted]

theorem discardBody_ran {held : Credential} {user : Option User} {request : Option Nat}
    (hconfig : w.db.config = config) (hpk : row.pk = some pk) (hrow : w.db.credentials pk = some row) :
    Ran (Operation.plan (.discard held user request) config time pk row)
      (discardBody user request row w).1.isOk w (discardBody user request row w).2 := by
  refine Ran.bind enforcePolicyAccess_quiet fun _ u _ hu => ?_
  refine Ran.bind (raiseIf_quiet _ _) fun _ v hraise hv => ?_
  refine Ran.bind (query_quiet _) fun backend x hget hx => ?_
  simp only
  obtain ⟨hengine, hbackend, -⟩ := getBackend_ok hget
  have hbackend : BackendOf config backend := by
    rw [← hconfig, ← hu.db.config, ← hv.db.config]
    exact hbackend
  obtain ⟨staged, hstaged⟩ : ∃ staged, row.stagedKvVersion = some staged := by
    have hsome := (raiseIf_ok hraise).1
    simpa [Credential.hasStagedVersion, Option.isSome_iff_exists] using hsome
  have hxrow : x.db.credentials pk = some row := by
    rw [hx.db.credentials, hv.db.credentials, hu.db.credentials, hrow]
  match hsave : saveFields (discarded row).1 (discarded row).2 x with
  | (.error e, s) =>
      rw [bind_run_error hsave]
      exact Ran.early ((saveFields_quiet _ _).of_error hsave)
  | (.ok (), s) =>
      rw [bind_run_ok hsave]
      obtain ⟨pk', row', hpk', hrow', hdb⟩ := saveFields_ok hsave
      obtain rfl : pk = pk' := Option.some.inj (hpk.symm.trans hpk')
      obtain rfl : row = row' := Option.some.inj (hxrow.symm.trans hrow')
      have hsaved : Quiet Database.Extends x s := (saveFields_quiet _ _).of_ok hsave
      unfold deferDiscard
      match hlog : logAccess (discarded row).1 user .discard false
          ("discarded version " ++ toString (row.stagedKvVersion.getD 0))
          "Staged pointer cleared; exact-version cleanup is pending commit." request s with
      | (.error e, t) =>
          rw [bind_run, bind_run_error hlog]
          exact Ran.early (hsaved.trans (logAccess_quiet.of_error hlog).toExtends)
      | (.ok audit, t) =>
          have hquiet : Quiet Database.SameRows s t := logAccess_quiet.of_ok hlog
          have hall : Quiet Database.Extends x t := hsaved.trans hquiet.toExtends
          rw [bind_run, bind_run_ok hlog]
          intro _ l hl hattempts hdeletions
          obtain ⟨o, ho, rfl⟩ := World.ledger_eq (hall.ledger.trans hl)
          refine ⟨{ o.ledger with deletions := o.deletions ++
              [⟨(discarded row).1, backend, (discarded row).1.path, user, .discard, row.stagedKvVersion, audit⟩] },
            none, {
            config := hall.db.config
            ledger := ?_
            operationId := rfl
            reached := .idle (by simp [hattempts]) hall.ext
            deletes := ?_
            commits := fun _ => ⟨pk, _, ⟨rfl, .discard hstaged⟩, ?_⟩ }⟩
          · simp only [deferDeletion, modifyOwner_run, pure_run, World.ledger, ho, Option.map_some]
            rfl
          · intro d hd
            have hnil : o.deletions = [] := hdeletions
            rw [hnil] at hd
            rw [List.mem_singleton.mp hd]
            refine ⟨⟨held, user, request, rfl⟩, rfl, ?_, hbackend⟩
            change backend.location (discarded row).1.path = _
            rw [Backend.location, hengine]
            rfl
          · change t.db.credentials = _
            rw [hquiet.db.credentials, hdb, copyFields_discarded]

/-! ### Updates -/

omit library in
theorem Edits.apply_pk (edits : Edits) (c : Credential) : (edits.apply c).pk = c.pk := rfl

omit library in
theorem saveCredential_conn {c saved : Credential} {u v : World} (hpk : c.pk = some pk)
    (h : saveCredential c u = (.ok saved, v)) : v.conn = u.conn := by
  obtain ⟨defaulted, x, hquery, h⟩ := bind_ok h
  obtain ⟨hdefaults, rfl⟩ := query_ok hquery
  have hpk' : defaulted.pk = some pk := by
    rw [(applyDefaults_ok hdefaults).1]
    exact hpk
  rw [hpk'] at h
  simp only at h
  exact saving_conn (w := u.ticked) h

omit library in
/-- An update without material that returned left the instance in the row. -/
theorem saveEdits_ok {c saved : Credential} {conforms : Database → Credential → Except Error Unit}
    {after : World} (hin : w.conn.inAtomic = true) (hpk : c.pk = some pk)
    (h : CredentialViewSet.saveEdits c conforms w = (.ok saved, after)) :
    saved = { c with engineId := saved.engineId } ∧ (c.engineId ≠ 0 → saved.engineId = c.engineId) ∧
      after.db.credentials = (w.db.putCredential pk saved).credentials := by
  unfold CredentialViewSet.saveEdits at h
  have hconn : ∀ {u v : World} {b : Credential}, (do
      let saved ← saveCredential c
      query fun db => conforms db saved
      return saved : M Credential) u = (.ok b, v) → v.conn = u.conn := by
    intro u v b hrun
    obtain ⟨saved', x, hsave, hrun⟩ := bind_ok hrun
    obtain ⟨_, y, hconforms, hpure⟩ := bind_ok hrun
    obtain ⟨-, rfl⟩ := pure_ok hpure
    rw [query_conn hconforms, saveCredential_conn hpk hsave]
  obtain ⟨x, y, hx, hbody, hdb⟩ := atomic_kept hin hconn h
  obtain ⟨saved', z, hsave, hbody⟩ := bind_ok hbody
  obtain ⟨_, z', hconforms, hpure⟩ := bind_ok hbody
  obtain ⟨rfl, rfl⟩ := pure_ok hpure
  obtain ⟨-, rfl⟩ := query_ok hconforms
  obtain ⟨hdefaults, hzdb⟩ := saveCredential_ok hpk hsave
  refine ⟨(applyDefaults_ok hdefaults).1, fun hne => by rw [(applyDefaults_ok hdefaults).2 hne], ?_⟩
  rw [hdb]
  change z.db.credentials = _
  rw [hzdb, hx]

theorem performUpdate_ran {held : Credential} {edits : Edits} {payload : Option Payload} {user : Option User}
    {request : Option Nat} {conforms : Database → Credential → Except Error Unit}
    (hconfig : w.db.config = config) (htime : w.env.now = time) (hpk : held.pk = some pk)
    (hrow : w.db.credentials pk = some row) :
    Ran (Operation.plan (.update held edits payload user request conforms) config time pk row)
      (CredentialViewSet.performUpdate held edits payload user request conforms w).1.isOk w
      (CredentialViewSet.performUpdate held edits payload user request conforms w).2 := by
  refine Ran.bind (lockMaterialSubject_quiet _ _) fun subject u hlock hu => ?_
  obtain rfl : subject = some (refreshVersions (edits.apply held) row) :=
    lockMaterialSubject_ok hpk hrow hlock
  obtain ⟨hpolicy, hfound⟩ := lockMaterialSubject_selectors ((edits.apply_pk held).trans hpk) hlock
  have hselected : ∀ engine, ((updated held edits row).engineId ≠ 0 →
      engine = (updated held edits row).engineId) → Selected config (updated held edits row) engine := by
    intro engine hsame
    rw [hconfig] at hpolicy hfound
    obtain ⟨hpolicyId, hengineId⟩ := updated_selectors held edits row
    exact ⟨by rw [hpolicyId]; exact hpolicy, by rw [hengineId]; exact hfound, hsame⟩
  simp only [Option.getD_some]
  refine Ran.bind (enforceUpdateAccess_quiet _ _ _ _) fun _ v _ hv => ?_
  have hvrow : v.db.credentials pk = some row := by rw [hv.db.credentials, hu.db.credentials, hrow]
  have hvconfig : v.db.config = config := by rw [hv.db.config, hu.db.config, hconfig]
  have hvtime : v.env.now = time := by rw [hv.env, hu.env, htime]
  -- what an update without material saves
  have hedits : CredentialViewSet.carries payload = false →
      Ran (Operation.plan (.update held edits payload user request conforms) config time pk row)
        (CredentialViewSet.saveEdits (updated held edits row) conforms v).1.isOk v
        (CredentialViewSet.saveEdits (updated held edits row) conforms v).2 := by
    intro hcarries
    have hbase : (updated held edits row).pk = some pk := hpk
    generalize hupdated : updated held edits row = c at hbase
    intro hin
    match hsave : CredentialViewSet.saveEdits c conforms v with
    | (.error e, x) => exact Ran.early ((saveEdits_quiet _ _).of_error hsave) hin
    | (.ok saved, x) =>
        obtain ⟨hsaved, hengine, hcredentials⟩ := saveEdits_ok hin hbase hsave
        have hcommit : Commits config time row (.update held edits payload user request conforms) none saved := by
          rw [← hupdated] at hengine
          rw [hsaved, ← hupdated]
          exact .edit (hselected _ hengine) hcarries
        exact Ran.silent ((saveEdits_quiet _ _).of_ok hsave)
          (fun _ => ⟨pk, saved, ⟨rfl, hcommit⟩, hcredentials⟩) hin
  match payload with
  | none => exact hedits rfl
  | some [] => exact hedits rfl
  | some (entry :: entries) =>
      subst hvconfig hvtime
      have hbase : (updated held edits row).pk = some pk := hpk
      refine Ran.map (storeExisting_ran hbase ?_ ?_)
      · intro x locked subject hx hsubject
        have hagain : subject = some (refreshVersions (refreshVersions (edits.apply held) row) row) :=
          lockMaterialSubject_ok hpk (by rw [hx, hvrow]) hsubject
        rw [hagain]
        rfl
      · intro data metadata fingerprint c hprepared hc hsame
        have hengine : (updated held edits row).engineId ≠ 0 → c.engineId = (updated held edits row).engineId :=
          fun hne => by rw [hsame hne]; rfl
        obtain ⟨engine, rfl⟩ : ∃ engine,
            c = { withMetadata (updated held edits row) metadata with engineId := engine } := ⟨_, hc⟩
        have hprepared : Prepared v.db.config (updated held edits row).credentialType (entry :: entries) data
            metadata fingerprint := hprepared
        exact ⟨Requests.update hprepared rfl,
          fun version => ⟨rfl, Commits.update hprepared (hselected engine hengine) rfl⟩⟩

end

/-! ### Creates -/

/-- What a create may write, and the row it may leave. -/
def createPlan (config : Config) (time : Time) (uuid : String) (attributes : Edits) (payload : Payload) :
    Plan where
  requests req := req.cas = some 0 ∧ ∃ metadata fingerprint,
    Prepared config (attributes.credentialType.getD "") payload req.data metadata fingerprint
  commits wrote pk row' := ∃ req version metadata fingerprint, wrote = some (req, version) ∧
    Prepared config (attributes.credentialType.getD "") payload req.data metadata fingerprint ∧
    row' = (written { withMetadata (attributes.apply (Credential.new uuid)) metadata with
      pk := some pk, engineId := req.location.engine, path := req.location.path } fingerprint version true
        .write time).1 ∧ config.Matches row'
  deletes deletions := deletions = []
  deletes_nil := rfl

theorem createBody_outcome {uuid : String} {attributes : Edits} {payload : Payload}
    {conforms : Database → Credential → Except Error Unit} {w : World} {l : Ledger} {r : StoreRequest} (hin : w.conn.inAtomic = true) (hl : w.ledger = some l)
    (hpersist : r.persist = .create uuid attributes conforms)
    (htype : r.credentialType = attributes.credentialType.getD "") (hpayload : r.payload = payload)
    (hcas : r.cas = some 0) (haction : r.action = .write) (hpromote : r.promote = true)
    {cleaned : Credential} (hcleaned : applyDefaults w.db (attributes.apply (Credential.new uuid)) = .ok cleaned)
    (hmatches : w.db.config.Matches cleaned) :
    StoreOutcome r (createPlan w.db.config w.env.now uuid attributes payload) w l (storeBody r w).1
      (storeBody r w).2 := by
  cases storeBody_reaches r w with
  | early e hfailed hquiet =>
      rw [hfailed]
      exact .early e hquiet
  | material data metadata fingerprint subject c u locked saved v hprepare hfingerprint hstart hlock
      hrun hquiet hstore =>
      have hlocked : Quiet Database.SameRows w locked := hstart.trans ((lockSubject_quiet r).of_ok hlock)
      have hv : Quiet Database.Extends w v :=
        (hlocked.toExtends.trans ((Persist.run_quiet _ _ _).of_ok hrun)).trans hquiet.toExtends
      rw [hpersist] at hrun
      obtain ⟨built, x, hvalidate, hrun⟩ := bind_ok hrun
      obtain ⟨rfl, rfl⟩ := pure_ok hvalidate
      obtain ⟨inserted, y, hsave, hrun⟩ := bind_ok hrun
      obtain ⟨_, z, hconforms, hpure⟩ := bind_ok hrun
      obtain ⟨rfl, rfl⟩ := pure_ok hpure
      obtain ⟨-, rfl⟩ := query_ok hconforms
      obtain ⟨defaulted, hdefaults, hinserted, hput⟩ :=
        saveCredential_new (hlocked.inAtomic.trans hin) rfl hsave
      have hcredentials : v.db.credentials = (w.db.putCredential locked.db.nextId inserted).credentials := by
        rw [hquiet.db.credentials]
        change y.db.credentials = _
        rw [hput]
        exact Database.putCredential_congr hlocked.db.credentials _ _
      have hrow : ∀ row, v.db.credentials locked.db.nextId = some row → row = inserted := by
        intro row hrow
        rw [hcredentials, Database.putCredential_self] at hrow
        exact (Option.some.inj hrow).symm
      have hprepared : Prepared w.db.config (attributes.credentialType.getD "") payload data metadata
          fingerprint := by
        rw [htype, hpayload] at hprepare
        rw [htype] at hfingerprint
        exact ⟨hprepare, hfingerprint⟩
      have hshape : inserted = { withMetadata (attributes.apply (Credential.new uuid)) metadata with
          pk := some locked.db.nextId, engineId := inserted.engineId, path := inserted.path } := by
        rw [hinserted]
        unfold insertedRow
        rw [(applyDefaults_ok hdefaults).1]
        rfl
      have htier : w.db.config.Matches inserted := by
        have hlockedConfig : locked.db.config = w.db.config := hlocked.db.config
        obtain ⟨hpolicy, hengine⟩ : defaulted.policyId = cleaned.policyId ∧
            defaulted.engineId = cleaned.engineId := by
          apply applyDefaults_congr hlockedConfig _ _ hcleaned hdefaults <;> rfl
        obtain ⟨policy, hfound, hsame⟩ := hmatches
        rw [hinserted]
        exact ⟨policy, hpolicy ▸ hfound, hsame.trans hengine.symm⟩
      rw [hstore]
      refine .reached ⟨⟨inserted.engineId, inserted.path⟩, data, r.cas⟩ ⟨hcas, metadata, fingerprint, hprepared⟩
        ?_ (Stored.of_quiet hv (storeMaterial_stored r inserted data fingerprint (hv.ledger.trans hl))) ?_
      · exact (storeMaterial_frame r inserted data fingerprint v).db.config.trans hv.db.config
      · intro c' version hout
        have hpk : inserted.pk = some locked.db.nextId := by
          rw [hinserted]
          rfl
        obtain ⟨-, hc', hsaved⟩ := storeMaterial_ok hpk hrow (Prod.ext hout rfl)
        refine ⟨locked.db.nextId, ⟨_, version, metadata, fingerprint, rfl, hprepared, ?_, ?_⟩, ?_⟩
        · rw [hc', haction, hpromote, hv.env, ← hshape]
        · rw [hc', haction, hpromote, written_promote]
          exact htier
        · rw [hsaved, Database.putCredential_congr hcredentials, Database.putCredential_putCredential]

theorem performCreate_ran {config : Config} {time : Time} {uuid : String} {attributes : Edits}
    {payload : Payload} {user : Option User} {request : Option Nat}
    {conforms : Database → Credential → Except Error Unit} {w : World} (hconfig : w.db.config = config)
    (htime : w.env.now = time) : Ran (createPlan config time uuid attributes payload)
      (CredentialViewSet.performCreate uuid attributes payload user request conforms w).1.isOk w
      (CredentialViewSet.performCreate uuid attributes payload user request conforms w).2 := by
  refine Ran.bind (fullClean_quiet _) fun cleaned u hclean hu => ?_
  obtain ⟨hdefaults, hmatches, hdb⟩ := fullClean_ok hclean
  rw [← hdb] at hdefaults hmatches
  have huconfig : u.db.config = config := hu.db.config.trans hconfig
  have hutime : u.env.now = time := by rw [hu.env, htime]
  subst huconfig hutime
  exact storeCredential_ran fun hin hl => createBody_outcome hin hl rfl rfl rfl rfl rfl rfl hdefaults hmatches

end NetboxOpenbao
