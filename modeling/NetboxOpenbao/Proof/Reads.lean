import NetboxOpenbao.Proof.Quiet

/-!
# Services that only look, lock, log and save rows

Every part of a material service other than the write, the owner's records and nested transactions is
quiet: with `SameRows` when it saves nothing, with `Extends` when it saves a credential row.
-/

namespace NetboxOpenbao

open Effect Effect.Prog

/-! ### The access log and the policy gate -/

theorem resume_quiet {D : Database → Database → Prop} [Restorable D] {α : Type} (r : Except Error α) :
    Steps (Quiet D) (Prog.resume r : M α) := Steps.resume r

theorem logAccess_quiet {c : Credential} {user : Option User} {action : AccessAction} {success : Bool}
    {reason message : String} {request : Option Nat} :
    Steps (Quiet Database.SameRows) (logAccess c user action success reason message request) := by
  have hinsert : Steps (Quiet Database.SameRows) (atomic (saving fun db =>
      .ok (db.nextId, db.insertLog (accessRow c user action success reason message request)))) := by
    refine atomic_quiet (saving_quiet ?_)
    intro db id db' h
    cases h
    exact ⟨Database.Extends.insertLog _ _, rfl⟩
  exact Steps.tryCatch (Steps.bind hinsert fun _ => Steps.pure _) fun _ => Steps.pure _

/-- Logging never raises. -/
theorem logAccess_returns (c : Credential) (user : Option User) (action : AccessAction) (success : Bool)
    (reason message : String) (request : Option Nat) (w : World) :
    ∃ id u, logAccess c user action success reason message request w = (.ok id, u) := by
  unfold logAccess
  rw [tryCatch_run, bind_run]
  match atomic (saving fun db =>
      .ok (db.nextId, db.insertLog (accessRow c user action success reason message request))) w with
  | (.ok id, u) => exact ⟨some id, u, rfl⟩
  | (.error e, u) => exact ⟨none, u, rfl⟩

theorem enforcePolicyAccess_quiet {c : Credential} {user : Option User} {action : Option AccessAction}
    {request : Option Nat} :
    Steps (Quiet Database.SameRows) (enforcePolicyAccess c user action request) := by
  have haudit : ∀ user, Steps (Quiet Database.SameRows) (auditRefusal c user action request) := by
    intro user
    unfold auditRefusal
    cases action with
    | none => exact Steps.pure ()
    | some action => exact Steps.bind logAccess_quiet fun _ => Steps.pure ()
  unfold enforcePolicyAccess
  cases user with
  | none => exact Steps.pure ()
  | some user =>
      simp only
      split
      · exact Steps.pure ()
      · refine Steps.bind (query_quiet _) fun policy => ?_
        split
        · exact Steps.pure ()
        · exact Steps.bind (haudit user) fun _ => Steps.throw _

theorem enforceUpdateAccess_quiet (c : Credential) (user : Option User) (action : Option AccessAction)
    (request : Option Nat) :
    Steps (Quiet Database.SameRows) (enforceUpdateAccess c user action request) := by
  unfold enforceUpdateAccess
  cases c.pk with
  | none => exact Steps.pure ()
  | some pk =>
      refine Steps.bind (query_quiet _) fun committed => ?_
      cases committed with
      | none => exact Steps.pure ()
      | some committed => exact enforcePolicyAccess_quiet

/-! ### Locks -/

theorem currentMaterialTransaction_quiet : Steps (Quiet Database.SameRows) currentMaterialTransaction := by
  refine Steps.bind Steps.get fun w => ?_
  cases w.owner with
  | none => exact Steps.throw _
  | some owner => exact Steps.pure owner

theorem modifyOwner_quiet {f : MaterialTransaction → MaterialTransaction} (h : ∀ o, (f o).ledger = o.ledger) :
    Steps (Quiet Database.SameRows) (modifyOwner f) :=
  Steps.modify fun w => Quiet.of_graph w h

theorem declareGraph_quiet (identities : List (GraphKind × List Nat)) :
    Steps (Quiet Database.SameRows) (declareGraph identities) := by
  induction identities with
  | nil => exact Steps.pure ()
  | cons entry rest ih =>
      refine Steps.bind currentMaterialTransaction_quiet fun owner => ?_
      refine Steps.bind (raiseIf_quiet _ _) fun _ => ?_
      exact Steps.bind (modifyOwner_quiet fun _ => rfl) fun _ => ih

theorem checkParticipants_quiet (selectors : Selectors) (policies engines : List Nat)
    (locked : List (Nat × Credential)) :
    Steps (Quiet Database.SameRows) (checkParticipants selectors policies engines locked) := by
  induction locked with
  | nil => exact Steps.pure ()
  | cons entry rest ih => exact Steps.bind (Steps.resume _) fun _ => ih

theorem lockMaterialSubjects_quiet (subjects : List Credential) (additionalPolicyIds : List Nat) :
    Steps (Quiet Database.SameRows) (lockMaterialSubjects subjects additionalPolicyIds) := by
  have hselectors : Steps (Quiet Database.SameRows) (participantSelectors subjects additionalPolicyIds) :=
    Steps.bind (query_quiet _) fun _ => Steps.pure _
  refine Steps.bind hselectors fun selectors => ?_
  refine Steps.bind (declareGraph_quiet _) fun _ => ?_
  refine Steps.bind (query_quiet _) fun policies => ?_
  refine Steps.bind (declareGraph_quiet _) fun _ => ?_
  refine Steps.bind (query_quiet _) fun engines => ?_
  refine Steps.bind (query_quiet _) fun locked => ?_
  refine Steps.bind (checkParticipants_quiet _ _ _ _) fun _ => ?_
  exact Steps.bind (modifyOwner_quiet fun _ => rfl) fun _ => Steps.pure _

theorem lockedRow_quiet (locked : List (Nat × Credential)) (pk : Option Nat) :
    Steps (Quiet Database.SameRows) (lockedRow locked pk) := by
  unfold lockedRow
  cases pk.bind fun id => locked.lookup id with
  | none => exact Steps.throw _
  | some row => exact Steps.pure row

theorem refreshTargetPolicy_quiet (targetPolicy : Option Nat) :
    Steps (Quiet Database.SameRows) (refreshTargetPolicy targetPolicy) := by
  cases targetPolicy with
  | none => exact Steps.pure ()
  | some id => exact query_quiet _

theorem lockMaterialSubject_quiet (subject : Option Credential) (targetPolicy : Option Nat) :
    Steps (Quiet Database.SameRows) (lockMaterialSubject subject targetPolicy) := by
  unfold lockMaterialSubject
  match subject, targetPolicy with
  | none, none => exact Steps.throw _
  | none, some policyId => exact Steps.bind (lockMaterialSubjects_quiet _ _) fun _ => Steps.pure _
  | some subject, targetPolicy =>
      refine Steps.bind (lockMaterialSubjects_quiet _ _) fun locked => ?_
      cases hpk : subject.pk with
      | none => exact Steps.bind (query_quiet _) fun _ => Steps.pure _
      | some pk =>
          refine Steps.bind (lockedRow_quiet _ _) fun fresh => ?_
          refine Steps.bind (query_quiet _) fun _ => ?_
          exact Steps.bind (refreshTargetPolicy_quiet _) fun _ => Steps.pure _

theorem lockSubject_quiet (r : StoreRequest) : Steps (Quiet Database.SameRows) (lockSubject r) := by
  unfold lockSubject
  split
  · exact Steps.pure _
  · exact lockMaterialSubject_quiet _ _

/-! ### The servers, read only -/

theorem backendRead_quiet (b : Backend) (path : String) (version : Option Nat) :
    Steps (Quiet Database.SameRows) (backendRead b path version) := by
  refine Steps.bind tick_quiet fun fault => ?_
  cases fault with
  | none => exact Steps.bind Steps.get fun w => Steps.resume _
  | refused => exact Steps.throw _
  | lost => exact Steps.throw _
  | commitFailed f => exact Steps.throw _

theorem listVersions_quiet (b : Backend) (path : String) :
    Steps (Quiet Database.SameRows) (listVersions b path) := by
  refine Steps.bind tick_quiet fun fault => ?_
  cases fault with
  | none => exact Steps.bind Steps.get fun w => Steps.resume _
  | refused => exact Steps.throw _
  | lost => exact Steps.throw _
  | commitFailed f => exact Steps.throw _

theorem auditBackendError_quiet {c : Credential} {user : Option User} {action : AccessAction}
    {reason : String} {request : Option Nat} {error : Error} :
    Steps (Quiet Database.SameRows) (auditBackendError c user action reason request error) := by
  cases error with
  | openbao kind message => exact Steps.bind logAccess_quiet fun _ => Steps.pure ()
  | _ => exact Steps.pure ()

theorem listStaged_quiet (c : Credential) (b : Backend) (user : Option User) (request : Option Nat) :
    Steps (Quiet Database.SameRows) (listStaged c b user request) :=
  Steps.tryCatch (listVersions_quiet _ _) fun _ =>
    Steps.bind auditBackendError_quiet fun _ => Steps.throw _

theorem confirmStaged_quiet (c : Credential) (versions : List (Nat × Bool)) (user : Option User)
    (request : Option Nat) : Steps (Quiet Database.SameRows) (confirmStaged c versions user request) := by
  unfold confirmStaged
  split
  · exact Steps.bind logAccess_quiet fun _ => Steps.throw _
  · exact Steps.pure ()

theorem requireReason_quiet (c : Credential) (policy : CredentialPolicy) (user : Option User)
    (request : Option Nat) (reason : String) :
    Steps (Quiet Database.SameRows) (requireReason c policy user request reason) := by
  unfold requireReason
  split
  · exact Steps.bind logAccess_quiet fun _ => Steps.throw _
  · exact Steps.pure ()

theorem revealMaterial_quiet (c : Credential) (user : Option User) (request : Option Nat) (reason : String)
    (version : Option Nat) :
    Steps (Quiet Database.SameRows) (revealMaterial c user request reason version) := by
  refine Steps.bind enforcePolicyAccess_quiet fun _ => ?_
  refine Steps.bind (query_quiet _) fun policy => ?_
  refine Steps.bind (requireReason_quiet _ _ _ _ _) fun _ => ?_
  refine Steps.bind (query_quiet _) fun backend => ?_
  refine Steps.bind ?_ fun data => ?_
  · exact Steps.tryCatch (backendRead_quiet _ _ _) fun _ =>
      Steps.bind auditBackendError_quiet fun _ => Steps.throw _
  · refine Steps.bind logAccess_quiet fun _ => ?_
    exact Steps.bind (query_quiet _) fun _ => Steps.pure _

/-! ### The witness -/

theorem witness_quiet (attempts : List MaterialAttempt) :
    Steps (Quiet Database.SameRows) (witness attempts) := by
  induction attempts with
  | nil => exact Steps.pure ()
  | cons attempt rest ih =>
      have hretains : Steps (Quiet Database.SameRows) (retains attempt) := by
        unfold retains
        cases attempt.auditId with
        | none => exact Steps.pure _
        | some id => exact query_quiet _
      refine Steps.bind hretains fun retained => ?_
      exact Steps.bind (raiseIf_quiet _ _) fun _ => ih

theorem recordRecovery_quiet (owner : MaterialTransaction) (attempt : MaterialAttempt) (message : String) :
    Steps (Quiet Database.SameRows) (recordRecovery owner attempt message) := by
  refine Steps.tryCatch (saving_quiet ?_) fun _ => Steps.pure ()
  intro db a db' h
  cases h
  exact ⟨Database.Extends.insertLog _ _, rfl⟩

/-! ### Saving rows -/

theorem saveFields_quiet (held : Credential) (fields : List MaterialField) :
    Steps (Quiet Database.Extends) (saveFields held fields) := by
  refine saving_quiet ?_
  intro db a db' h
  cases hpk : held.pk with
  | none => simp [hpk] at h
  | some pk =>
      cases hrow : db.credentials pk with
      | none => simp [hpk, hrow] at h
      | some row =>
          simp only [hpk, hrow, Except.ok.injEq, Prod.mk.injEq] at h
          obtain ⟨-, rfl⟩ := h
          exact Database.Extends.putCredential _ _ _

theorem Database.Extends.drawId (db : Database) : db.Extends db.drawId :=
  ⟨rfl, Nat.le_succ _, fun _ hrow _ => hrow⟩

theorem saveCredential_quiet (c : Credential) : Steps (Quiet Database.Extends) (saveCredential c) := by
  refine Steps.bind (query_quiet _) fun c => ?_
  cases hpk : c.pk with
  | some pk =>
      refine saving_quiet ?_
      intro db a db' h
      split at h
      · cases h
      · cases h
        exact Database.Extends.putCredential _ _ _
  | none =>
      refine atomic_quiet (Steps.bind (query_quiet _) fun _ => saving_quiet ?_)
      intro db a db' h
      obtain ⟨-, rfl⟩ := insertCredential_ok h
      exact (Database.Extends.drawId db).trans (Database.Extends.putCredential _ _ _)

theorem fullClean_quiet (c : Credential) : Steps (Quiet Database.SameRows) (fullClean c) :=
  Steps.bind (query_quiet _) fun _ => Steps.bind (query_quiet _) fun _ => Steps.pure _

theorem Persist.run_quiet (persist : Persist) (subject : Option Credential) (metadata : Metadata) :
    Steps (Quiet Database.Extends) (persist.run subject metadata) := by
  have hvalidate : ∀ c, Steps (Quiet Database.Extends) (persist.validate c) := by
    intro c
    unfold Persist.validate
    split
    · exact (fullClean_quiet c).mono fun _ _ => Quiet.toExtends
    · exact Steps.pure c
  refine Steps.bind (hvalidate _) fun c => ?_
  refine Steps.bind (saveCredential_quiet c) fun saved => ?_
  exact Steps.bind (query_quiet _) fun _ => Steps.pure saved

theorem saveEdits_quiet (c : Credential) (conforms : Database → Credential → Except Error Unit) :
    Steps (Quiet Database.Extends) (CredentialViewSet.saveEdits c conforms) :=
  atomic_quiet (Steps.bind (saveCredential_quiet c) fun _ =>
    Steps.bind (query_quiet _) fun _ => Steps.pure _)

theorem pinLiveVersion_quiet (c : Credential) : Steps (Quiet Database.Extends) (pinLiveVersion c) := by
  unfold pinLiveVersion
  split
  · exact Steps.bind (saveFields_quiet _ _) fun _ => Steps.pure _
  · exact Steps.pure c

theorem deferCustomMetadata_quiet (pk : Nat) : Steps (Quiet Database.SameRows) (deferCustomMetadata pk) :=
  Steps.modify fun w => Quiet.of_onCommit w (by simp)

end NetboxOpenbao
