import NetboxOpenbao.Proof.Owner

/-!
# After the transaction

Recovery and staged cleanup issue exactly the deletes `Exit.deletes` lists, in that order, whatever goes
wrong at any of them. Every delete recovery issues is of a version its own transaction wrote, and it
issues one only after a rollback.
-/

namespace NetboxOpenbao

open Effect Effect.Prog

/-! ### Deletes issued one after another -/

/-- The servers are asked for the deletes `ds` in order; each is carried out or not, and other parties act
in between. -/
inductive Issued (acts : Nat → List Act) : List PendingDelete → Ext → Ext → Prop
  | done {e e' : Ext} (h : Interference acts e e') : Issued acts [] e e'
  | issue {d : PendingDelete} {ds : List PendingDelete} {e f e' : Ext} (h : Interference acts e f)
      (accepted : Bool) (hrest : Issued acts ds (f.issue d accepted) e') : Issued acts (d :: ds) e e'

def PendingDelete.target (d : PendingDelete) : Location × Nat := (d.backend.location d.path, d.version)

def Issuer.operation : Issuer → Nat
  | .recovery operation | .cleanup operation => operation

namespace Issued

variable {acts : Nat → List Act} {ds es : List PendingDelete} {e f g : Ext}

theorem before (h : Interference acts e f) (h' : Issued acts ds f g) : Issued acts ds e g := by
  cases h' with
  | done hlate => exact .done (h.trans hlate)
  | issue hlate accepted hrest => exact .issue (h.trans hlate) accepted hrest

theorem append (h : Issued acts ds e f) (h' : Issued acts es f g) : Issued acts (ds ++ es) e g := by
  induction h with
  | done hearly => exact h'.before hearly
  | issue hearly accepted _ ih => exact .issue hearly accepted (ih h')

theorem numbered {engine : Nat} (h : Issued acts ds e f) (he : e.Numbered engine) : f.Numbered engine := by
  induction h with
  | done hearly => exact hearly.numbered he
  | issue hearly accepted _ ih => exact ih ((hearly.numbered he).issue _ accepted)

theorem deletedBy_nil {calls : List BackendCall} {issuer : Issuer} {P : Issuer → Prop} (hP : ¬ P issuer)
    (h : ∀ i location version, .delete i location version ∈ calls → P i) :
    calls.filterMap (BackendCall.deletedBy issuer) = [] := by
  rw [List.filterMap_eq_nil_iff]
  intro call hcall
  cases hdeleted : call.deletedBy issuer with
  | none => rfl
  | some target =>
      obtain ⟨location, version⟩ := target
      rw [BackendCall.deletedBy_eq_some.mp hdeleted] at hcall
      exact absurd (h _ _ _ hcall) hP

/-- What the record shows of deletes issued by `issuer`: these and no others in its name, and no writes of
any owner. -/
theorem calls {issuer : Issuer} (h : Issued acts ds e f) (hissuer : ∀ d ∈ ds, d.issuer = issuer) :
    ∃ new, f.calls = e.calls ++ new ∧ (∀ op location version, .wrote op location version ∉ new) ∧
      (∀ i location version, BackendCall.delete i location version ∈ new →
        i = issuer ∨ ∃ d ∈ e.pending, d.issuer = i) ∧
      ((∀ d ∈ e.pending, d.issuer ≠ issuer) →
        new.filterMap (BackendCall.deletedBy issuer) = ds.map PendingDelete.target) := by
  induction h with
  | done hearly =>
      obtain ⟨-, new, hnew, hnone, hdelete⟩ := hearly.disturbed
      refine ⟨new, hnew, hnone, fun i l v hmem => .inr (hdelete i l v hmem), fun hpending => ?_⟩
      exact deletedBy_nil (P := fun i => ∃ d ∈ _, d.issuer = i)
        (fun ⟨d, hd, hi⟩ => hpending d hd hi) hdelete
  | @issue d ds e f g hearly accepted hrest ih =>
      obtain ⟨hpending, new, hnew, hnone, hdelete⟩ := hearly.disturbed
      obtain ⟨late, hlate, hnone', hdelete', hdeleted⟩ := ih fun d' hd' => hissuer d' (List.mem_cons_of_mem _ hd')
      have hd : d.issuer = issuer := hissuer d List.mem_cons_self
      rw [Ext.issue_calls, hnew] at hlate
      rw [Ext.issue_pending] at hdelete' hdeleted
      refine ⟨new ++ [.delete d.issuer (d.backend.location d.path) d.version] ++ late, ?_, ?_, ?_, ?_⟩
      · rw [hlate]
        simp only [List.append_assoc]
      · intro op l v hmem
        rcases List.mem_append.mp hmem with hin | hin
        · rcases List.mem_append.mp hin with hin | hin
          · exact hnone op l v hin
          · cases List.mem_singleton.mp hin
        · exact hnone' op l v hin
      · intro i l v hmem
        rcases List.mem_append.mp hmem with hin | hin
        · rcases List.mem_append.mp hin with hin | hin
          · exact .inr (hdelete i l v hin)
          · cases List.mem_singleton.mp hin
            exact .inl hd
        · rcases hdelete' i l v hin with hi | ⟨d', hd', hi⟩
          · exact .inl hi
          · exact .inr ⟨d', hpending d' hd', hi⟩
      · intro hforeign
        have hnil : new.filterMap (BackendCall.deletedBy issuer) = [] :=
          deletedBy_nil (P := fun i => ∃ d ∈ e.pending, d.issuer = i)
            (fun ⟨d', hd', hi⟩ => hforeign d' hd' hi) hdelete
        rw [List.filterMap_append, List.filterMap_append, hnil,
          hdeleted fun d' hd' => hforeign d' (hpending d' hd')]
        simp [BackendCall.deletedBy, hd, PendingDelete.target]

end Issued

/-! ### What recovery and cleanup do to the world -/

/-- No credential row changes, and the servers are asked for the deletes `ds`. -/
structure Aftermath (ds : List PendingDelete) (w w' : World) : Prop where
  config : w'.db.config = w.db.config
  credentials : w'.db.credentials = w.db.credentials
  nextId : w.db.nextId ≤ w'.db.nextId
  operations : w'.operations = w.operations
  env : w'.env = w.env
  acts : w'.acts = w.acts
  inAtomic : w'.conn.inAtomic = w.conn.inAtomic
  ledger : w'.ledger = w.ledger
  ext : Issued w.acts ds w.ext w'.ext

theorem Aftermath.of_quiet {w w' : World} (h : Quiet Database.SameRows w w') : Aftermath [] w w' where
  config := h.db.config
  credentials := h.db.credentials
  nextId := h.db.nextId
  operations := h.operations
  env := h.env
  acts := h.acts
  inAtomic := h.inAtomic
  ledger := h.ledger
  ext := .done h.ext

theorem Aftermath.trans {ds es : List PendingDelete} {w w' w'' : World} (h : Aftermath ds w w')
    (h' : Aftermath es w' w'') : Aftermath (ds ++ es) w w'' where
  config := h'.config.trans h.config
  credentials := h'.credentials.trans h.credentials
  nextId := Nat.le_trans h.nextId h'.nextId
  operations := h'.operations.trans h.operations
  env := h'.env.trans h.env
  acts := h'.acts.trans h.acts
  inAtomic := h'.inAtomic.trans h.inAtomic
  ledger := h'.ledger.trans h.ledger
  ext := h.ext.append (h.acts ▸ h'.ext)

theorem Aftermath.last {ds : List PendingDelete} {w w' w'' : World} (h : Aftermath ds w w')
    (h' : Aftermath [] w' w'') : Aftermath ds w w'' := by
  have hall := h.trans h'
  rwa [List.append_nil] at hall

/-- A delete is asked for once, whether it succeeds, fails, or succeeds unnoticed. -/
theorem backendDelete_aftermath (issuer : Issuer) (b : Backend) (path : String) (version : Nat) (w : World) :
    Aftermath [⟨issuer, b, path, version⟩] w (backendDelete issuer b path version w).2 := by
  have hissued : ∃ accepted, (backendDelete issuer b path version w).2 =
      { w.ticked with ext := w.ticked.ext.issue ⟨issuer, b, path, version⟩ accepted } := by
    unfold backendDelete
    simp only
    split
    · exact ⟨false, rfl⟩
    · cases w.env.fault w.clock with
      | none => exact ⟨true, rfl⟩
      | refused => exact ⟨false, rfl⟩
      | lost => exact ⟨true, rfl⟩
      | commitFailed f => exact ⟨false, rfl⟩
  obtain ⟨accepted, hstate⟩ := hissued
  rw [hstate]
  exact {
    config := rfl
    credentials := rfl
    nextId := Nat.le_refl _
    operations := rfl
    env := rfl
    acts := rfl
    inAtomic := rfl
    ledger := rfl
    ext := .issue (Interference.ticked w) accepted (.done (Interference.refl _)) }

/-- The delete an owner still has to issue for an attempt whose version it knows. -/
def MaterialAttempt.pendingDelete (issuer : Issuer) (a : MaterialAttempt) : Option PendingDelete :=
  a.version.map fun version => ⟨issuer, a.backend, a.path, version⟩

theorem compensate_aftermath (owner : MaterialTransaction) (unknown : Bool) (a : MaterialAttempt) (w : World) :
    Aftermath (if owner.committed || unknown then []
      else (a.pendingDelete (.recovery owner.operationId)).toList) w (compensate owner unknown a w).2 := by
  unfold compensate MaterialAttempt.pendingDelete
  cases hcommitted : owner.committed with
  | true => exact Aftermath.of_quiet (Quiet.refl w)
  | false =>
      cases unknown with
      | true => exact Aftermath.of_quiet (Quiet.refl w)
      | false =>
          cases hversion : a.version with
          | none => exact Aftermath.of_quiet (Quiet.refl w)
          | some version =>
              have hdelete := backendDelete_aftermath (.recovery owner.operationId) a.backend a.path version w
              simp only [Bool.false_eq_true, if_false, Bool.or_self, Option.map_some, Option.toList_some]
              rw [tryCatch_run, bind_run]
              match hrun : backendDelete (.recovery owner.operationId) a.backend a.path version w with
              | (.ok (), u) =>
                  rw [hrun] at hdelete
                  exact hdelete
              | (.error e, u) =>
                  rw [hrun] at hdelete
                  exact hdelete

theorem compensate_returns (owner : MaterialTransaction) (unknown : Bool) (a : MaterialAttempt) (w : World) :
    ∃ message w', compensate owner unknown a w = (.ok message, w') := by
  unfold compensate
  split
  · exact ⟨_, _, rfl⟩
  · cases unknown with
    | true => exact ⟨_, _, rfl⟩
    | false =>
        cases a.version with
        | none => exact ⟨_, _, rfl⟩
        | some version =>
            simp only
            rw [tryCatch_run, bind_run]
            match backendDelete (.recovery owner.operationId) a.backend a.path version w with
            | (.ok (), u) => exact ⟨_, _, rfl⟩
            | (.error e, u) => exact ⟨_, _, rfl⟩

theorem recordRecovery_returns (owner : MaterialTransaction) (a : MaterialAttempt) (message : String)
    (w : World) : ∃ w', recordRecovery owner a message w = (.ok (), w') := by
  unfold recordRecovery
  rw [tryCatch_run]
  split <;> exact ⟨_, rfl⟩

/-- Recovery goes through all attempts: a compensation that fails does not stop the next one. -/
theorem recoverAttempts_aftermath (owner : MaterialTransaction) (unknown : Bool)
    (attempts : List MaterialAttempt) (w : World) :
    ∃ w', recoverAttempts owner unknown attempts w = (.ok (), w') ∧
      Aftermath (if owner.committed || unknown then []
        else attempts.filterMap (MaterialAttempt.pendingDelete (.recovery owner.operationId))) w w' := by
  induction attempts generalizing w with
  | nil =>
      refine ⟨w, rfl, ?_⟩
      rw [List.filterMap_nil, ite_self]
      exact Aftermath.of_quiet (Quiet.refl w)
  | cons a rest ih =>
      obtain ⟨message, u, hcompensate⟩ := compensate_returns owner unknown a w
      obtain ⟨v, hrecord⟩ := recordRecovery_returns owner a message u
      obtain ⟨w', hrest, hafter⟩ := ih v
      have hfirst := compensate_aftermath owner unknown a w
      rw [hcompensate] at hfirst
      have hsecond : Aftermath [] u v := .of_quiet ((recordRecovery_quiet owner a message).of_ok hrecord)
      refine ⟨w', ?_, ?_⟩
      · unfold recoverAttempts
        rw [bind_run_ok hcompensate, bind_run_ok hrecord]
        exact hrest
      · have hall := hfirst.trans (hsecond.trans hafter)
        cases hforbidden : owner.committed || unknown with
        | true =>
            rw [hforbidden] at hall
            exact hall
        | false =>
            rw [hforbidden] at hall
            simp only [Bool.false_eq_true, if_false, List.nil_append] at hall ⊢
            rw [List.filterMap_cons]
            cases hpending : a.pendingDelete (.recovery owner.operationId) with
            | none => rwa [hpending] at hall
            | some d => rwa [hpending] at hall

theorem recordDeletions_quiet (owner : MaterialTransaction) (unknown : Bool)
    (deletions : List MaterialAttempt) :
    Steps (Quiet Database.SameRows) (recordDeletions owner unknown deletions) := by
  induction deletions with
  | nil => exact Steps.pure ()
  | cons deletion rest ih => exact Steps.bind (recordRecovery_quiet _ _ _) fun _ => ih

theorem recover_aftermath (owner : MaterialTransaction) (unknown : Bool) (w : World) :
    Aftermath (if owner.committed || unknown then []
      else owner.attempts.reverse.filterMap (MaterialAttempt.pendingDelete (.recovery owner.operationId)))
      w (recover owner unknown w).2 := by
  obtain ⟨u, hrun, hafter⟩ := recoverAttempts_aftermath owner unknown owner.attempts.reverse w
  unfold recover
  rw [bind_run_ok hrun]
  exact hafter.last (.of_quiet (recordDeletions_quiet owner unknown owner.deletions u))

/-! ### Staged cleanup -/

theorem deleteStaged_aftermath (owner : MaterialTransaction) (deletion : MaterialAttempt) (w : World) :
    Aftermath (deletion.pendingDelete (.cleanup owner.operationId)).toList w
      (deleteStaged owner deletion w).2 := by
  unfold deleteStaged MaterialAttempt.pendingDelete
  cases deletion.version with
  | none => exact Aftermath.of_quiet (Quiet.refl w)
  | some version => exact backendDelete_aftermath _ _ _ _ w

/-- A statement that touches the audit log only. -/
theorem statement_aftermath {α : Type} {q : Database → Except Error (α × Database)}
    (hq : ∀ {db a db'}, q db = .ok (a, db') →
      db'.config = db.config ∧ db'.credentials = db.credentials ∧ db.nextId ≤ db'.nextId) (w : World) :
    Aftermath [] w (statement q w).2 := by
  have hticked : Aftermath [] w w.ticked := .of_quiet (Quiet.ticked w)
  have hdb : ∀ {a db'}, q w.ticked.db = .ok (a, db') → ∀ conn : Connection,
      conn.inAtomic = w.conn.inAtomic → Aftermath [] w { w.ticked with db := db', conn } := by
    intro a db' h conn hconn
    obtain ⟨hconfig, hcredentials, hnext⟩ := hq h
    exact { hticked with
      config := hconfig
      credentials := hcredentials
      nextId := hnext
      inAtomic := hconn }
  have hconn : ∀ conn : Connection, conn.inAtomic = w.conn.inAtomic → Aftermath [] w { w.ticked with conn } :=
    fun conn h => { hticked with inAtomic := h }
  unfold statement
  simp only
  split
  · exact hticked
  · cases w.env.fault w.clock with
    | none =>
        cases hrun : q w.ticked.db with
        | ok out => exact hdb hrun _ rfl
        | error e => exact hticked
    | lost =>
        cases hrun : q w.ticked.db with
        | ok out => exact hdb hrun _ rfl
        | error e => exact hconn _ rfl
    | refused => exact hconn _ rfl
    | commitFailed f => exact hconn _ rfl

theorem updateDeletionLog_ok (deletion : MaterialAttempt) {db db' : Database} {updated : Bool}
    (h : updateDeletionLog deletion db = .ok (updated, db')) :
    db'.config = db.config ∧ db'.credentials = db.credentials ∧ db.nextId ≤ db'.nextId := by
  unfold updateDeletionLog at h
  cases hid : deletion.auditId with
  | none =>
      rw [hid] at h
      cases h
      exact ⟨rfl, rfl, Nat.le_refl _⟩
  | some id =>
      rw [hid] at h
      cases h
      exact ⟨rfl, rfl, Nat.le_refl _⟩

theorem removeDeletion_aftermath (owner : MaterialTransaction) (deletion : MaterialAttempt) (w : World) :
    Aftermath (deletion.pendingDelete (.cleanup owner.operationId)).toList w
      (removeDeletion owner deletion w).2 := by
  have hdelete := deleteStaged_aftermath owner deletion w
  unfold removeDeletion
  match hrun : deleteStaged owner deletion w with
  | (.error e, u) =>
      rw [hrun] at hdelete
      rw [bind_run_error hrun]
      exact hdelete
  | (.ok (), u) =>
      rw [hrun] at hdelete
      rw [bind_run_ok hrun]
      have hstatement := statement_aftermath (updateDeletionLog_ok deletion) u
      refine hdelete.last ?_
      rw [bind_run]
      split
      · next updated v hok =>
          rw [hok] at hstatement
          have hraise : Aftermath [] v (raiseIf (!updated)
              (.openbao .base "The committed discard audit is unavailable.") v).2 :=
            .of_quiet (raiseIf_quiet _ _ v)
          exact hstatement.trans hraise
      · next e v herror =>
          rw [herror] at hstatement
          exact hstatement

theorem finishEach_aftermath (owner : MaterialTransaction) (deletions : List MaterialAttempt) (w : World) :
    ∃ incomplete w', finishEach owner deletions w = (.ok incomplete, w') ∧
      Aftermath (deletions.filterMap (MaterialAttempt.pendingDelete (.cleanup owner.operationId))) w w' := by
  induction deletions generalizing w with
  | nil => exact ⟨false, w, rfl, Aftermath.of_quiet (Quiet.refl w)⟩
  | cons deletion rest ih =>
      have hfinish : ∃ incomplete u, finishDeletion owner deletion w = (.ok incomplete, u) ∧
          Aftermath (deletion.pendingDelete (.cleanup owner.operationId)).toList w u := by
        have hremove := removeDeletion_aftermath owner deletion w
        unfold finishDeletion
        rw [tryCatch_run, bind_run]
        match hrun : removeDeletion owner deletion w with
        | (.ok (), u) =>
            rw [hrun] at hremove
            exact ⟨false, u, rfl, hremove⟩
        | (.error e, u) =>
            rw [hrun] at hremove
            obtain ⟨v, hrecord⟩ := recordRecovery_returns owner deletion
              "Discard committed; cleanup or its audit requires reconciliation." u
            have hquiet := (recordRecovery_quiet owner deletion
              "Discard committed; cleanup or its audit requires reconciliation.").of_ok hrecord
            refine ⟨true, v, ?_, hremove.last (.of_quiet hquiet)⟩
            simp only
            rw [bind_run_ok hrecord]
            rfl
      obtain ⟨incomplete, u, hrun, hfirst⟩ := hfinish
      obtain ⟨others, v, hrest, hafter⟩ := ih u
      refine ⟨incomplete || others, v, ?_, ?_⟩
      · unfold finishEach
        rw [bind_run_ok hrun, bind_run_ok hrest]
        rfl
      · have hall := hfirst.trans hafter
        rw [List.filterMap_cons]
        cases hpending : deletion.pendingDelete (.cleanup owner.operationId) with
        | none => simpa [hpending] using hall
        | some d => simpa [hpending] using hall

theorem finishDeletions_aftermath (owner : MaterialTransaction) (w : World) :
    Aftermath (if owner.committed then
      owner.deletions.filterMap (MaterialAttempt.pendingDelete (.cleanup owner.operationId)) else [])
      w (finishDeletions owner w).2 := by
  obtain ⟨incomplete, u, hrun, hafter⟩ := finishEach_aftermath owner owner.deletions w
  have hrest : Aftermath (owner.deletions.filterMap
      (MaterialAttempt.pendingDelete (.cleanup owner.operationId))) w
      ((finishEach owner owner.deletions >>= fun incomplete => raiseIf incomplete
        (.openbao .base "Discard committed; cleanup is incomplete and requires reconciliation.")) w).2 := by
    rw [bind_run_ok hrun]
    exact hafter.last (.of_quiet (raiseIf_quiet _ _ u))
  unfold finishDeletions
  cases hcommitted : owner.committed with
  | true =>
      simp only [Bool.not_true, Bool.and_false, if_true]
      exact hrest
  | false =>
      cases hdeletions : owner.deletions with
      | nil =>
          rw [hdeletions] at hrest
          exact hrest
      | cons deletion rest => exact Aftermath.of_quiet (Quiet.refl w)

/-- In whose name `settle` deletes. -/
def Exit.issuer {α : Type} (exit : Exit α) : Issuer :=
  match exit.result with
  | .ok _ => .cleanup exit.owner.operationId
  | .error _ => .recovery exit.owner.operationId

/-- What follows a transaction asks for exactly the deletes of its exit. -/
theorem settle_aftermath {α : Type} (exit : Exit α) (w : World) :
    Aftermath exit.deletes w (settle exit w).2 := by
  unfold settle Exit.deletes
  cases exit.result with
  | ok a =>
      have hfinish := finishDeletions_aftermath exit.owner w
      simp only
      rw [bind_run]
      match hrun : finishDeletions exit.owner w with
      | (.ok (), u) =>
          rw [hrun] at hfinish
          exact hfinish
      | (.error e, u) =>
          rw [hrun] at hfinish
          exact hfinish
  | error e =>
      have hrecover := recover_aftermath exit.owner exit.unknown w
      simp only
      rw [bind_run]
      match hrun : recover exit.owner exit.unknown w with
      | (.ok (), u) =>
          rw [hrun] at hrecover
          exact hrecover
      | (.error f, u) =>
          rw [hrun] at hrecover
          exact hrecover

theorem Exit.deletes_issuer {α : Type} (exit : Exit α) : ∀ d ∈ exit.deletes, d.issuer = exit.issuer := by
  intro d hd
  unfold Exit.deletes at hd
  unfold Exit.issuer
  have hissuer : ∀ {issuer : Issuer} {attempts : List MaterialAttempt},
      d ∈ attempts.filterMap (MaterialAttempt.pendingDelete issuer) → d.issuer = issuer := by
    intro issuer attempts hmem
    obtain ⟨a, -, ha⟩ := List.mem_filterMap.mp hmem
    obtain ⟨version, -, rfl⟩ := Option.map_eq_some_iff.mp ha
    rfl
  cases hresult : exit.result with
  | ok a =>
      rw [hresult] at hd
      simp only at hd
      split at hd
      · exact hissuer hd
      · cases hd
  | error e =>
      rw [hresult] at hd
      simp only at hd
      split at hd
      · cases hd
      · exact hissuer hd

end NetboxOpenbao
