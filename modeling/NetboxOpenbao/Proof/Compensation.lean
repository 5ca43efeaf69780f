import NetboxOpenbao.Proof.Recovery

/-!
# Commit whole, or compensate

What an outermost owner guarantees for every block it runs. When its transaction became durable, every
write and discard it recorded is complete and has its audit row. When a nested owner raised or a witness was
lost, nothing of it is committed, and recovery asks for the deletion of every version it wrote, newest
first. In no other case does recovery delete anything, and never a version somebody else wrote.
-/

namespace NetboxOpenbao

open Effect Effect.Prog

/-! ### Before an owner -/

/-- The deletes still to come were left by earlier owners. -/
def World.PendingEarlier (w : World) : Prop := ∀ d ∈ w.ext.pending, d.issuer.operation < w.operations

/-- The record is one a run can have left: every version of this engine handed out once, and pending deletes
of earlier owners only. -/
structure World.Recorded (engine : Nat) (w : World) : Prop where
  numbered : w.ext.Numbered engine
  earlier : w.PendingEarlier

theorem World.Recorded.of_nil {engine : Nat} {w : World} (hcalls : w.ext.calls = [])
    (hpending : w.ext.pending = []) : w.Recorded engine where
  numbered := ⟨by simp [hcalls], by simp [hcalls]⟩
  earlier := by simp [World.PendingEarlier, hpending]

theorem materialTransaction_run {α : Type} {body : M α} {w left : World} {exit : Exit α} (hidle : w.Idle)
    (h : ownedTransaction body w = (.ok exit, left)) : materialTransaction body w = settle exit left := by
  have hraise : raiseIf w.conn.inAtomic (.openbao .base
      "An outer material transaction requires autocommit before application transactions.") w = (.ok (), w) := by
    rw [hidle.inAtomic]
    rfl
  unfold materialTransaction
  rw [bind_run_ok (get_run w), hidle.owner]
  simp only
  rw [bind_run_ok (get_run w), bind_run_ok hraise, bind_run_ok h]

/-! ### The end of the body -/

/-- A witness check that passed found an audit row for every attempt, and changed nothing but the
servers. -/
theorem witness_ok {attempts : List MaterialAttempt} {w w' : World}
    (h : witness attempts w = (.ok (), w')) :
    w'.db = w.db ∧ w'.conn = w.conn ∧ (attempts ≠ [] → w.conn.refuses = false) ∧
      ∀ a ∈ attempts, ∃ id, a.auditId = some id ∧ w.db.hasLog id = true := by
  induction attempts generalizing w with
  | nil =>
      cases h
      exact ⟨rfl, rfl, fun hne => absurd rfl hne, fun _ ha => absurd ha List.not_mem_nil⟩
  | cons a rest ih =>
      obtain ⟨retained, u, hretains, h⟩ := bind_ok h
      obtain ⟨_, v, hraise, hwitness⟩ := bind_ok h
      obtain ⟨hretained, rfl⟩ := raiseIf_ok hraise
      cases hid : a.auditId with
      | none =>
          rw [retains, hid] at hretains
          cases hretains
          cases hretained
      | some id =>
          rw [retains, hid] at hretains
          have hopen : w.conn.refuses = false := statement_open hretains
          obtain ⟨hlog, rfl⟩ := query_ok hretains
          cases hlog
          obtain ⟨hdb, hconn, -, hrest⟩ := ih hwitness
          refine ⟨hdb, hconn, fun _ => hopen, fun b hb => ?_⟩
          rcases List.mem_cons.mp hb with rfl | hb
          · exact ⟨id, hid, by simpa using hretained⟩
          · exact hrest b hb

/-- What is known when the body of an owner's block returned. -/
structure BodyOk {α : Type} (body : M α) (w : World) (o : MaterialTransaction) (a : α) (after : World) :
    Prop where
  run : ∃ u, body { w.owned with onCommit := [.markCommitted] } = (.ok a, u) ∧ after.db = u.db ∧
    Interference u.acts u.ext after.ext
  failed : o.failed = false
  witnessed : ∀ a ∈ o.attempts ++ o.deletions, ∃ id, a.auditId = some id ∧ after.db.hasLog id = true
  open' : o.attempts ++ o.deletions ≠ [] → after.conn.refuses = false

theorem ownedBody_ok {α : Type} {body : M α} {w after : World} {o : MaterialTransaction} {a : α}
    (h : ownedBody body w.owned = (.ok a, after)) (ho : after.owner = some o) : BodyOk body w o a after := by
  unfold ownedBody at h
  rw [bind_run_ok (modify_run _ w.owned)] at h
  obtain ⟨b, u, hbody, h⟩ := bind_ok h
  obtain ⟨owner, v, hcurrent, h⟩ := bind_ok h
  obtain ⟨_, x, hraise, h⟩ := bind_ok h
  obtain ⟨_, y, hwitness, h⟩ := bind_ok h
  cases h
  obtain ⟨hfailed, rfl⟩ := raiseIf_ok hraise
  have hcurrent : u.owner = some owner ∧ x = u := by
    unfold currentMaterialTransaction at hcurrent
    rw [bind_run_ok (get_run u)] at hcurrent
    cases howner : u.owner with
    | none =>
        rw [howner] at hcurrent
        cases hcurrent
    | some o =>
        rw [howner] at hcurrent
        cases hcurrent
        exact ⟨rfl, rfl⟩
  obtain ⟨howner, rfl⟩ := hcurrent
  have hquiet : Quiet Database.SameRows x after := (witness_quiet _).of_ok hwitness
  obtain ⟨hdb, hconn, hopen, hall⟩ := witness_ok hwitness
  have hledger : o.ledger = owner.ledger := by
    have := hquiet.ledger
    rw [World.ledger, World.ledger, ho, howner] at this
    exact Option.some.inj this
  obtain ⟨hattempts, hdeletions, hfail⟩ : o.attempts = owner.attempts ∧ o.deletions = owner.deletions ∧
      o.failed = owner.failed :=
    ⟨congrArg Ledger.attempts hledger, congrArg Ledger.deletions hledger, congrArg Ledger.failed hledger⟩
  exact {
    run := ⟨x, hbody, hdb, hquiet.ext⟩
    failed := hfail.trans hfailed
    witnessed := by
      rw [hattempts, hdeletions, hdb]
      exact hall
    open' := by
      rw [hattempts, hdeletions, hconn]
      exact hopen }

/-! ### The record of an owner's calls -/

/-- The versions recovery deletes: none unless the transaction is known to be undone. -/
def Exit.compensated {α : Type} (exit : Exit α) : List (Location × Nat) :=
  match exit.result with
  | .ok _ => []
  | .error _ =>
    if exit.owner.committed || exit.unknown then []
    else (exit.owner.attempts.filterMap MaterialAttempt.obtained).reverse

/-- What an owner and its aftermath leave on the record. -/
structure OwnerCalls {α : Type} (w : World) (exit : Exit α) (new : List BackendCall) : Prop where
  wrote : new.filterMap (BackendCall.ownWrite w.operations) =
    exit.owner.attempts.filterMap MaterialAttempt.obtained
  deleted : new.filterMap (BackendCall.deletedBy (.recovery w.operations)) = exit.compensated

theorem MaterialAttempt.pendingDelete_target (issuer : Issuer) (a : MaterialAttempt) :
    (a.pendingDelete issuer).map PendingDelete.target = a.obtained := by
  unfold pendingDelete obtained
  rw [Option.map_map]
  rfl

theorem Exit.deletes_target {α : Type} (exit : Exit α) {e : Error} (h : exit.result = .error e) :
    exit.deletes.map PendingDelete.target = exit.compensated := by
  unfold deletes compensated
  rw [h]
  simp only
  split
  · rfl
  · rw [List.map_filterMap, ← List.filterMap_reverse]
    congr 1
    funext a
    exact a.pendingDelete_target _

/-- The record of an owner: its writes are its attempts, its compensations are its own. -/
theorem Exits.calls {α : Type} {body : M α} {w left : World} {exit : Exit α} (hbody : Steps Books body)
    (h : Exits body w exit left) (hearlier : w.PendingEarlier) :
    ∃ new, (settle exit left).2.ext.calls = w.ext.calls ++ new ∧ OwnerCalls w exit new ∧
      ∀ engine, w.db.config.Kv2 engine → w.ext.Numbered engine → (settle exit left).2.ext.Numbered engine := by
  have hsettle := settle_aftermath exit left
  -- the deletes of others are in nobody's name but theirs
  have hothers : ∀ {calls : List BackendCall},
      (∀ issuer location version, BackendCall.delete issuer location version ∈ calls →
        ∃ d ∈ w.ext.pending, d.issuer = issuer) →
      calls.filterMap (BackendCall.deletedBy (.recovery w.operations)) = [] := by
    intro calls hcalls
    refine Issued.deletedBy_nil (P := fun i => ∃ d ∈ w.ext.pending, d.issuer = i) ?_ hcalls
    rintro ⟨d, hd, hissuer⟩
    have := hearlier d hd
    rw [hissuer] at this
    exact Nat.lt_irrefl _ this
  obtain ⟨early, hcalls, hwrote, hdeletes, hpending, hoperation, hnumbered⟩ : ∃ early,
      left.ext.calls = w.ext.calls ++ early ∧
      early.filterMap (BackendCall.ownWrite w.operations) =
        exit.owner.attempts.filterMap MaterialAttempt.obtained ∧
      (∀ issuer location version, BackendCall.delete issuer location version ∈ early →
        ∃ d ∈ w.ext.pending, d.issuer = issuer) ∧
      (∀ d ∈ left.ext.pending, d ∈ w.ext.pending) ∧ exit.owner.operationId = w.operations ∧
      ∀ engine, w.db.config.Kv2 engine → w.ext.Numbered engine → left.ext.Numbered engine := by
    have htick : Interference w.acts w.ext w.ticked.ext := Interference.ticked w
    obtain ⟨hpending, new, hnew, hnone, hdelete⟩ := htick.disturbed
    cases h with
    | unopened hexit hw' =>
        subst hexit hw'
        exact ⟨new, hnew, BackendCall.ownWrites_nil hnone _, hdelete, hpending, rfl,
          fun _ _ hnum => htick.numbered hnum⟩
    | ran result after o more durable hrun ho honCommit howner hjournal hdb hext hdurable hdefinite
        hreturned hraised hknown hacts henv hnone' hconn hoperations =>
        obtain ⟨o', more', ho', -, hentry⟩ := ownedBody_after hbody w
        rw [hrun] at ho' hentry
        obtain rfl : o = o' := Option.some.inj (ho.symm.trans ho')
        obtain ⟨attempts, during, hattempts, hduring, hown, -, hdelete'⟩ := hentry.written
        obtain ⟨hpending'', late, hlate, hnone'', hdelete''⟩ := hext.disturbed
        have hfresh : o.attempts = attempts := hattempts
        refine ⟨new ++ during ++ late, ?_, ?_, ?_, ?_, ?_, ?_⟩
        · rw [hlate, hduring]
          change w.ticked.ext.calls ++ during ++ late = _
          rw [hnew]
          simp only [List.append_assoc]
        · rw [List.filterMap_append, List.filterMap_append, BackendCall.ownWrites_nil hnone,
            BackendCall.ownWrites_nil hnone'', List.append_nil, List.nil_append, howner]
          exact hown.trans (congrArg _ hfresh.symm)
        · intro issuer l v hmem
          rcases List.mem_append.mp hmem with hin | hin
          · rcases List.mem_append.mp hin with hin | hin
            · exact hdelete issuer l v hin
            · obtain ⟨d, hd, hissuer⟩ := hdelete' issuer l v hin
              exact ⟨d, hpending d hd, hissuer⟩
          · obtain ⟨d, hd, hissuer⟩ := hdelete'' issuer l v hin
            exact ⟨d, hpending d (hentry.pending d hd), hissuer⟩
        · exact fun d hd => hpending d (hentry.pending d (hpending'' d hd))
        · rw [howner]
          exact hentry.operationId
        · exact fun engine hkv hnum => hext.numbered (hentry.numbered engine hkv (htick.numbered hnum))
  obtain ⟨late, hlate, hnone, hdelete, hdeleted⟩ := hsettle.ext.calls exit.deletes_issuer
  refine ⟨early ++ late, by rw [hlate, hcalls, List.append_assoc], ⟨?_, ?_⟩, fun engine hkv hnum =>
    hsettle.ext.numbered (hnumbered engine hkv hnum)⟩
  · rw [List.filterMap_append, BackendCall.ownWrites_nil hnone, List.append_nil, hwrote]
  · rw [List.filterMap_append, hothers hdeletes, List.nil_append]
    cases hresult : exit.result with
    | ok a =>
        have hissuer : exit.issuer = .cleanup w.operations := by
          unfold Exit.issuer
          rw [hresult, hoperation]
        have hcompensated : exit.compensated = [] := by
          unfold Exit.compensated
          rw [hresult]
        rw [hcompensated]
        refine Issued.deletedBy_nil (P := fun i => i = .cleanup w.operations ∨ ∃ d ∈ w.ext.pending, d.issuer = i)
          ?_ ?_
        · rintro (hcleanup | ⟨d, hd, hi⟩)
          · cases hcleanup
          · have := hearlier d hd
            rw [hi] at this
            exact Nat.lt_irrefl _ this
        · intro i l v hmem
          rcases hdelete i l v hmem with hi | ⟨d, hd, hi⟩
          · exact .inl (hi.trans hissuer)
          · exact .inr ⟨d, hpending d hd, hi⟩
    | error e =>
        have hissuer : exit.issuer = .recovery w.operations := by
          unfold Exit.issuer
          rw [hresult, hoperation]
        rw [← exit.deletes_target hresult, ← hissuer]
        refine hdeleted fun d hd hi => ?_
        have := hearlier d (hpending d hd)
        rw [hi, hissuer] at this
        exact Nat.lt_irrefl _ this

theorem Exits.ended {α : Type} {body : M α} {w left : World} {exit : Exit α} (hbody : Steps Books body)
    (h : Exits body w exit left) :
    ∃ events, left.journal = w.journal ++ events ∧
      ∀ e, exit.result = .error e → exit.owner.committed = false → exit.unknown = false →
        exit.owner.attempts ≠ [] → events.getLast? = some (.ended false) ∧
          left.db.credentials = w.db.credentials ∧ left.db.accessLog = w.db.accessLog := by
  cases h with
  | unopened hexit hw' =>
      subst hexit hw'
      exact ⟨[], by simp [World.ticked], fun _ _ _ _ hne => absurd rfl hne⟩
  | ran result after o more durable hrun ho honCommit howner hjournal hdb hext hdurable hdefinite
      hreturned hraised hknown hacts henv hnone hconn hoperations =>
      obtain ⟨o', -, -, -, hentry⟩ := ownedBody_after hbody w
      rw [hrun] at hentry
      obtain ⟨events, hevents, -⟩ := hentry.journal
      replace hevents : after.journal = w.journal ++ events := hevents
      refine ⟨events ++ [.ended durable], by rw [hjournal, hevents, List.append_assoc], ?_⟩
      intro e hresult hcommitted hunknown _
      obtain rfl : durable = false := hdefinite e hresult hcommitted hunknown
      replace hdb : left.db = after.db.rollbackTo w.db := hdb
      exact ⟨by simp, by rw [hdb]; rfl, by rw [hdb]; rfl⟩

/-! ### Commit whole -/

/-- Every write and every discard an owner recorded is complete, and its audit row is there. -/
structure Complete (owner : MaterialTransaction) (db : Database) : Prop where
  attempts : ∀ a ∈ owner.attempts, ∃ version id row, a.version = some version ∧ a.auditId = some id ∧
    row ∈ db.accessLog ∧ row.id = id ∧ row.credentialUuidSnapshot = a.credential.uuid ∧
    row.action = a.action ∧ row.success = true
  deletions : ∀ a ∈ owner.deletions, ∃ id row, a.auditId = some id ∧ row ∈ db.accessLog ∧ row.id = id ∧
    row.credentialUuidSnapshot = a.credential.uuid ∧ row.action = a.action ∧ row.success = false

/-- A nested owner block raised, or a savepoint rollback took away the audit row of an attempt or of a
discard. -/
def Spoiled (owner : MaterialTransaction) (events : List Event) : Prop :=
  Event.blockRaised ∈ events ∨
    ∃ ids, Event.rolledBack ids ∈ events ∧ ∃ a ∈ owner.attempts ++ owner.deletions, ∃ id ∈ ids,
      a.auditId = some id

/-- What happened to an owner that ran its body: the events, and what a body that returned is good for. -/
theorem ownedBody_events {α : Type} {body : M α} (hbody : Steps Books body) {w after : World}
    {result : Except Error α} {o : MaterialTransaction} (hrun : ownedBody body w.owned = (result, after))
    (ho : after.owner = some o) :
    o.committed = false ∧ ∃ events, after.journal = w.journal ++ events ∧
      (∀ a, result = .ok a → Complete o after.db ∧ ¬ Spoiled o events) := by
  obtain ⟨o', -, ho', -, hentry⟩ := ownedBody_after hbody w
  rw [hrun] at ho' hentry
  obtain rfl : o = o' := Option.some.inj (ho.symm.trans ho')
  obtain ⟨events, hevents, hraised, hgone⟩ := hentry.journal
  refine ⟨hentry.committed, events, hevents, ?_⟩
  rintro a rfl
  have hok : BodyOk body w o a after := ownedBody_ok hrun ho
  obtain ⟨attempts, -, hattempts, -, -, haudited, -⟩ := hentry.written
  obtain ⟨deletions, hdeletions, haudited'⟩ := hentry.deletions
  replace hattempts : o.attempts = attempts := hattempts
  replace hdeletions : o.deletions = deletions := hdeletions
  refine ⟨⟨fun b hb => ?_, fun b hb => ?_⟩, ?_⟩
  · obtain ⟨id, hid, hlog⟩ := hok.witnessed b (List.mem_append_left _ hb)
    obtain ⟨row, hrow, hrowid⟩ := Database.hasLog_iff.mp hlog
    obtain ⟨haudit, hcompleted⟩ := haudited b (hattempts ▸ hb)
    obtain ⟨huuid, haction, hsuccess⟩ := (haudit id hid).2.2 row hrow hrowid
    cases hversion : b.version with
    | none =>
        rw [hcompleted hversion] at hid
        cases hid
    | some version => exact ⟨version, id, row, rfl, hid, hrow, hrowid, huuid, haction, hsuccess⟩
  · obtain ⟨id, hid, hlog⟩ := hok.witnessed b (List.mem_append_right _ hb)
    obtain ⟨row, hrow, hrowid⟩ := Database.hasLog_iff.mp hlog
    obtain ⟨huuid, haction, hsuccess⟩ := (haudited' b (hdeletions ▸ hb) id hid).2.2 row hrow hrowid
    exact ⟨id, row, hid, hrow, hrowid, huuid, haction, hsuccess⟩
  · rintro (hmem | ⟨ids, hmem, b, hb, id, hid, hauditId⟩)
    · have hfailed : o.failed = true := hraised hmem
      rw [hok.failed] at hfailed
      cases hfailed
    · obtain ⟨id', hid', hlog⟩ := hok.witnessed b hb
      obtain rfl : id = id' := Option.some.inj (hauditId.symm.trans hid')
      rw [(hgone ids hmem id hid).2.2] at hlog
      cases hlog

theorem Spoiled.ended {owner : MaterialTransaction} {events : List Event} {durable : Bool}
    (h : Spoiled owner (events ++ [.ended durable])) : Spoiled owner events := by
  rcases h with hmem | ⟨ids, hmem, hrest⟩
  · rcases List.mem_append.mp hmem with hmem | hmem
    · exact .inl hmem
    · cases List.mem_singleton.mp hmem
  · rcases List.mem_append.mp hmem with hmem | hmem
    · exact .inr ⟨ids, hmem, hrest⟩
    · cases List.mem_singleton.mp hmem

/-- For every block of code under an outermost owner. When the transaction became durable, everything the
owner recorded is complete. When a nested owner raised or a witness was rolled back, the transaction did not
become durable, no row of it is left, and unless its outcome is unknown recovery asks for the deletion of
every version the owner got, newest first; it is known when the connection is open and the rollback went well. -/
theorem owner_commits_whole_or_compensates [library : MaterialLibrary] (block : Block) (w : World) (hidle : w.Idle)
    (hearlier : w.PendingEarlier) :
    ∃ exit left events new, ownedTransaction block.run w = (.ok exit, left) ∧
      materialTransaction block.run w = settle exit left ∧ left.journal = w.journal ++ events ∧
      (settle exit left).2.ext.calls = w.ext.calls ++ new ∧
      (events.getLast? = some (.ended true) →
        Complete exit.owner left.db ∧ ¬ Spoiled exit.owner events ∧
        ∀ a ∈ exit.owner.attempts, ∃ version, a.version = some version ∧
          .wrote w.operations a.location version ∈ new) ∧
      (Spoiled exit.owner events →
        events.getLast? = some (.ended false) ∧ left.db.credentials = w.db.credentials ∧
        left.db.accessLog = w.db.accessLog ∧ (∃ e, exit.result = .error e) ∧
        (∃ e after, ownedBody block.run w.owned = (.error e, after) ∧
          (after.conn.closed = false → after.env.fault after.clock = .none → exit.unknown = false)) ∧
        (exit.unknown = false →
          new.filterMap (BackendCall.deletedBy (.recovery w.operations)) =
            (new.filterMap (BackendCall.ownWrite w.operations)).reverse)) := by
  obtain ⟨exit, left, hrun, hexits⟩ := ownedTransaction_exits block.run_books w
  obtain ⟨new, hnew, hcalls, -⟩ := hexits.calls block.run_books hearlier
  cases hexits with
  | unopened hexit hw' =>
      subst hexit hw'
      refine ⟨_, _, [], new, hrun, materialTransaction_run hidle hrun, by simp [World.ticked], hnew, by simp, ?_⟩
      rintro (hmem | ⟨ids, hmem, -⟩)
      · exact absurd hmem List.not_mem_nil
      · exact absurd hmem List.not_mem_nil
  | ran result after o more durable hbody ho honCommit howner hjournal hdb hext hdurable hdefinite
      hreturned hraised hknown hacts henv hnone hconn hoperations =>
      obtain ⟨hcommitted, events, hevents, hok⟩ := ownedBody_events block.run_books hbody ho
      have hattempts : exit.owner.attempts = o.attempts := by
        rw [howner]
        rfl
      have hspoiled : ∀ {events}, Spoiled exit.owner events → Spoiled o events := by
        rw [howner]
        exact id
      refine ⟨exit, left, events ++ [.ended durable], new, hrun, materialTransaction_run hidle hrun,
        by rw [hjournal, hevents, List.append_assoc], hnew, ?_, ?_⟩
      · intro hlast
        obtain rfl : durable = true := by simpa using hlast
        obtain ⟨a, rfl⟩ := hdurable rfl
        obtain ⟨hcomplete, hclean⟩ := hok a rfl
        have hleft : left.db = after.db := hdb
        refine ⟨?_, fun hbad => hclean (hspoiled hbad).ended, fun b hb => ?_⟩
        · rw [hleft, howner]
          exact ⟨hcomplete.attempts, hcomplete.deletions⟩
        · obtain ⟨version, id, row, hversion, -⟩ := hcomplete.attempts b (hattempts ▸ hb)
          refine ⟨version, hversion, ?_⟩
          have hmem : (b.location, version) ∈ new.filterMap (BackendCall.ownWrite w.operations) := by
            rw [hcalls.wrote, List.mem_filterMap]
            exact ⟨b, hb, by simp [MaterialAttempt.obtained, hversion]⟩
          obtain ⟨call, hcall, hwrite⟩ := List.mem_filterMap.mp hmem
          rw [← BackendCall.ownWrite_eq_some.mp hwrite]
          exact hcall
      · intro hbad
        have herror : ∃ e, result = .error e := by
          cases result with
          | ok a => exact absurd (hspoiled hbad).ended (hok a rfl).2
          | error e => exact ⟨e, rfl⟩
        obtain ⟨e, rfl⟩ := herror
        have hundone : durable = false := by
          cases durable with
          | false => rfl
          | true =>
              obtain ⟨a, ha⟩ := hdurable rfl
              cases ha
        subst hundone
        have hleft : left.db = after.db.rollbackTo w.db := hdb
        obtain ⟨⟨f, hresult⟩, hmark⟩ := hraised e rfl
        refine ⟨by simp, by rw [hleft]; rfl, by rw [hleft]; rfl, ⟨f, hresult⟩, ⟨e, after, hbody, hknown e rfl⟩,
          fun hdefinite => ?_⟩
        rw [hcalls.deleted, hcalls.wrote, Exit.compensated, hresult]
        simp [hmark, hcommitted, hdefinite]

/-- A nested owner that stores material and then raises, and code that carries on as if nothing had
happened. -/
def Sample.swallowed : Block :=
  .handle (.owned (.seq
    (.call (.operation (.rotate (Sample.credential "password") [("password", .str "new")] none none)))
    (.raise (.raised "RuntimeError")))) fun _ => .done

theorem Sample.swallowed_calls : (@materialTransaction Unit (@Block.run Sample.library Sample.swallowed)
    Sample.world).2.ext.calls = [.wrote 0 Sample.location 1, .delete (.recovery 0) Sample.location 1] := by
  decide +kernel

theorem Sample.swallowed_exit :
    ((@ownedTransaction Unit (@Block.run Sample.library Sample.swallowed) Sample.world).1.toOption.map Exit.unknown,
      (@ownedTransaction Unit (@Block.run Sample.library Sample.swallowed) Sample.world).2.journal) =
    (some false, [.blockRaised, .ended false]) := by
  decide +kernel

theorem owner_commits_whole_or_compensates_swallowed :
    ∃ exit left new,
      ownedTransaction (@Block.run Sample.library Sample.swallowed) Sample.world = (.ok exit, left) ∧
      (settle exit left).2.ext.calls = new ∧ left.db.credentials = Sample.world.db.credentials ∧
      new.filterMap (BackendCall.deletedBy (.recovery 0)) = (new.filterMap (BackendCall.ownWrite 0)).reverse := by
  obtain ⟨exit, left, events, new, hrun, -, hevents, hnew, -, hspoiled⟩ :=
    @owner_commits_whole_or_compensates Sample.library Sample.swallowed Sample.world
      (Site.start_idle _ _ _) (by simp [World.PendingEarlier, Sample.world, Site.start, Sample.site])
  have hexit := Sample.swallowed_exit
  rw [hrun] at hexit
  obtain ⟨hunknown, hjournal⟩ := Prod.mk.inj hexit
  have hraised : Event.blockRaised ∈ events := by
    rw [show events = _ from hevents.symm.trans hjournal]
    exact List.mem_cons_self
  obtain ⟨-, hcredentials, -, -, -, hdeleted⟩ := hspoiled (.inl hraised)
  exact ⟨exit, left, new, hrun, hnew, hcredentials, hdeleted (Option.some.inj hunknown)⟩

/-! ### Delete only what was written and rolled back -/

/-- For every block of code under an outermost owner. A delete that recovery asks for names a version this
owner wrote, on a KV v2 engine one nobody else did, and the transaction is rolled back for certain. When it
committed, when its outcome is unknown, or when no version came back, recovery asks for no delete at all. -/
theorem recovery_deletes_own_rolled_back_writes [library : MaterialLibrary] (block : Block) (w : World)
    (engine : Nat) (hidle : w.Idle) (hkv : w.db.config.Kv2 engine) (hrecorded : w.Recorded engine) :
    ∃ exit left events new, ownedTransaction block.run w = (.ok exit, left) ∧
      materialTransaction block.run w = settle exit left ∧ left.journal = w.journal ++ events ∧
      (settle exit left).2.ext.calls = w.ext.calls ++ new ∧
      (∀ location version, .delete (.recovery w.operations) location version ∈ new →
        events.getLast? = some (.ended false) ∧ left.db.credentials = w.db.credentials ∧
        left.db.accessLog = w.db.accessLog ∧ exit.owner.committed = false ∧ exit.unknown = false ∧
        .wrote w.operations location version ∈ new ∧
        (location.engine = engine → ∀ call ∈ w.ext.calls ++ new, call.Writes location version →
          call = .wrote w.operations location version)) ∧
      (events.getLast? = some (.ended true) ∨ exit.owner.committed = true ∨ exit.unknown = true ∨
          (∀ a ∈ exit.owner.attempts, a.version = none) →
        ∀ location version, .delete (.recovery w.operations) location version ∉ new) := by
  obtain ⟨exit, left, hrun, hexits⟩ := ownedTransaction_exits block.run_books w
  obtain ⟨new, hnew, hcalls, hnumbered⟩ := hexits.calls block.run_books hrecorded.earlier
  obtain ⟨events, hevents, hended⟩ := hexits.ended block.run_books
  -- the deletes of recovery are the versions of the attempts, after a known rollback
  have hdelete : ∀ {location version}, BackendCall.delete (.recovery w.operations) location version ∈ new →
      (∃ e, exit.result = .error e) ∧ exit.owner.committed = false ∧ exit.unknown = false ∧
        (location, version) ∈ exit.owner.attempts.filterMap MaterialAttempt.obtained := by
    intro location version hmem
    have hin : (location, version) ∈ exit.compensated := by
      rw [← hcalls.deleted, List.mem_filterMap]
      exact ⟨_, hmem, BackendCall.deletedBy_eq_some.mpr rfl⟩
    unfold Exit.compensated at hin
    cases hresult : exit.result with
    | ok a =>
        rw [hresult] at hin
        cases hin
    | error e =>
        rw [hresult] at hin
        simp only at hin
        split at hin
        · cases hin
        · next hknown =>
            simp only [Bool.or_eq_true, not_or, Bool.not_eq_true] at hknown
            exact ⟨⟨e, rfl⟩, hknown.1, hknown.2, List.mem_reverse.mp hin⟩
  have hundone : ∀ {location version}, BackendCall.delete (.recovery w.operations) location version ∈ new →
      events.getLast? = some (.ended false) ∧ left.db.credentials = w.db.credentials ∧
        left.db.accessLog = w.db.accessLog := by
    intro location version hmem
    obtain ⟨⟨e, hresult⟩, hcommitted, hknown, hattempt⟩ := hdelete hmem
    refine hended e hresult hcommitted hknown fun hnil => ?_
    rw [hnil] at hattempt
    cases hattempt
  refine ⟨exit, left, events, new, hrun, materialTransaction_run hidle hrun, hevents, hnew, ?_, ?_⟩
  · intro location version hmem
    obtain ⟨-, hcommitted, hknown, hattempt⟩ := hdelete hmem
    obtain ⟨hlast, hcredentials, hlog⟩ := hundone hmem
    have hwrote : BackendCall.wrote w.operations location version ∈ new := by
      rw [← hcalls.wrote] at hattempt
      obtain ⟨call, hcall, hown⟩ := List.mem_filterMap.mp hattempt
      rw [← BackendCall.ownWrite_eq_some.mp hown]
      exact hcall
    refine ⟨hlast, hcredentials, hlog, hcommitted, hknown, hwrote, fun hengine call hcall hwrites => ?_⟩
    have hnum := hnumbered engine hkv hrecorded.numbered
    rw [← hnew] at hcall
    exact hnum.unique hcall (hnew ▸ List.mem_append_right _ hwrote) hengine hwrites ⟨rfl, rfl⟩
  · intro hcases location version hmem
    obtain ⟨-, hcommitted, hknown, hattempt⟩ := hdelete hmem
    rcases hcases with hlast | hmark | hunknown | hversions
    · rw [(hundone hmem).1] at hlast
      cases hlast
    · rw [hcommitted] at hmark
      cases hmark
    · rw [hknown] at hunknown
      cases hunknown
    · obtain ⟨a, ha, hobtained⟩ := List.mem_filterMap.mp hattempt
      rw [MaterialAttempt.obtained, hversions a ha] at hobtained
      cases hobtained

theorem recovery_deletes_own_rolled_back_writes_swallowed :
    ∃ exit left new,
      ownedTransaction (@Block.run Sample.library Sample.swallowed) Sample.world = (.ok exit, left) ∧
      (settle exit left).2.ext.calls = new ∧ .delete (.recovery 0) Sample.location 1 ∈ new ∧
      left.db.credentials = Sample.world.db.credentials ∧ .wrote 0 Sample.location 1 ∈ new := by
  obtain ⟨exit, left, events, new, hrun, hmaterial, -, hnew, hdelete, -⟩ :=
    @recovery_deletes_own_rolled_back_writes Sample.library Sample.swallowed Sample.world 1
      (Site.start_idle _ _ _) (Sample.config_kv2 1) (.of_nil rfl rfl)
  have hmem : BackendCall.delete (.recovery 0) Sample.location 1 ∈ new := by
    have hcalls := Sample.swallowed_calls
    rw [hmaterial, hnew] at hcalls
    rw [show new = _ from hcalls]
    decide
  obtain ⟨-, hcredentials, -, -, -, hwrote, -⟩ := hdelete _ _ hmem
  exact ⟨exit, left, new, hrun, hnew, hmem, hcredentials, hwrote⟩

end NetboxOpenbao
