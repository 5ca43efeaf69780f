import NetboxOpenbao.Proof.Calls
import NetboxOpenbao.Blocks

/-!
# An owner's books balance

Inside an owner's transaction every write whose version came back stands on the owner's list, in order and
with its location, and every audit row an attempt names is that attempt's own. `Books` says this of the
worlds before and after any code the owner runs; `Block.run` has it for every block.
-/

namespace NetboxOpenbao

open Effect Effect.Prog

/-! ### The relation -/

/-- The location and version of a write that got one. -/
def MaterialAttempt.obtained (a : MaterialAttempt) : Option (Location × Nat) :=
  a.version.map fun version => (a.location, version)

/-- An attempt that names an audit row has its version. -/
def MaterialAttempt.Completed (a : MaterialAttempt) : Prop := a.version = none → a.auditId = none

/-- What happened from world `w` with ledger `l` to world `w'` with ledger `l'`. -/
structure Entry (w : World) (l : Ledger) (w' : World) (l' : Ledger) : Prop extends SameBlock w w' where
  db : w.db.Extends w'.db
  operations : w'.operations = w.operations
  env : w'.env = w.env
  acts : w'.acts = w.acts
  operationId : l'.operationId = l.operationId
  committed : l'.committed = l.committed
  failed : l.failed = true → l'.failed = true
  written : ∃ more new, l'.attempts = l.attempts ++ more ∧ w'.ext.calls = w.ext.calls ++ new ∧
    new.filterMap (BackendCall.ownWrite l.operationId) = more.filterMap MaterialAttempt.obtained ∧
    (∀ a ∈ more, Audited w w' a true ∧ a.Completed) ∧
    ∀ issuer location version, .delete issuer location version ∈ new → ∃ d ∈ w.ext.pending, d.issuer = issuer
  deletions : ∃ more, l'.deletions = l.deletions ++ more ∧ ∀ a ∈ more, Audited w w' a false
  pending : ∀ d ∈ w'.ext.pending, d ∈ w.ext.pending
  journal : ∃ new, w'.journal = w.journal ++ new ∧ (Event.blockRaised ∈ new → l'.failed = true) ∧
    Event.Gone w.db.nextId w'.db new
  numbered : ∀ engine, w.db.config.Kv2 engine → w.ext.Numbered engine → w'.ext.Numbered engine

/-- Inside an owner's transaction, the books balance. -/
def Books (w w' : World) : Prop :=
  w.conn.inAtomic = true → ∀ l, w.ledger = some l → ∃ l', w'.ledger = some l' ∧ Entry w l w' l'

theorem Entry.trans {w w' w'' : World} {l l' l'' : Ledger} (h : Entry w l w' l') (h' : Entry w' l' w'' l'') :
    Entry w l w'' l'' where
  toSameBlock := h.toSameBlock.trans h'.toSameBlock
  db := h.db.trans h'.db
  operations := h'.operations.trans h.operations
  env := h'.env.trans h.env
  acts := h'.acts.trans h.acts
  operationId := h'.operationId.trans h.operationId
  committed := h'.committed.trans h.committed
  failed hfailed := h'.failed (h.failed hfailed)
  written := by
    obtain ⟨more, new, hmore, hnew, hown, haudit, hdelete⟩ := h.written
    obtain ⟨more', new', hmore', hnew', hown', haudit', hdelete'⟩ := h'.written
    refine ⟨more ++ more', new ++ new', by rw [hmore', hmore, List.append_assoc],
      by rw [hnew', hnew, List.append_assoc], ?_, ?_, ?_⟩
    · rw [List.filterMap_append, List.filterMap_append, hown, ← hown', h.operationId]
    · intro a ha
      rcases List.mem_append.mp ha with hold | hlate
      · exact ⟨(haudit a hold).1.frame (Database.Extends.refl _) h'.db, (haudit a hold).2⟩
      · exact ⟨(haudit' a hlate).1.frame h.db (Database.Extends.refl _), (haudit' a hlate).2⟩
    · intro issuer location version hmem
      rcases List.mem_append.mp hmem with hold | hlate
      · exact hdelete issuer location version hold
      · obtain ⟨d, hd, hissuer⟩ := hdelete' issuer location version hlate
        exact ⟨d, h.pending d hd, hissuer⟩
  deletions := by
    obtain ⟨more, hmore, haudit⟩ := h.deletions
    obtain ⟨more', hmore', haudit'⟩ := h'.deletions
    refine ⟨more ++ more', by rw [hmore', hmore, List.append_assoc], fun a ha => ?_⟩
    rcases List.mem_append.mp ha with hold | hlate
    · exact (haudit a hold).frame (Database.Extends.refl _) h'.db
    · exact (haudit' a hlate).frame h.db (Database.Extends.refl _)
  pending d hd := h.pending d (h'.pending d hd)
  journal := by
    obtain ⟨new, hnew, hraised, hgone⟩ := h.journal
    obtain ⟨new', hnew', hraised', hgone'⟩ := h'.journal
    refine ⟨new ++ new', by rw [hnew', hnew, List.append_assoc], ?_, ?_⟩
    · intro hmem
      rcases List.mem_append.mp hmem with hold | hlate
      · exact h'.failed (hraised hold)
      · exact hraised' hlate
    · exact (hgone.mono h'.db).append (hgone'.of_le h.db.nextId)
  numbered engine hkv hnum := h'.numbered engine (by rw [h.db.config]; exact hkv) (h.numbered engine hkv hnum)

theorem Entry.of_quiet {D : Database → Database → Prop} [Restorable D] {w w' : World} (h : Quiet D w w')
    (l : Ledger) : Entry w l w' l where
  toSameBlock := h.toSameBlock
  db := Restorable.extends' h.db
  operations := h.operations
  env := h.env
  acts := h.acts
  operationId := rfl
  committed := rfl
  failed := id
  written := by
    obtain ⟨-, new, hnew, hnone, hdelete⟩ := h.ext.disturbed
    exact ⟨[], new, by simp, hnew, BackendCall.ownWrites_nil hnone _, by simp, hdelete⟩
  deletions := ⟨[], by simp, by simp⟩
  pending := h.ext.disturbed.pending
  journal := by
    obtain ⟨new, hnew, hraised, hgone⟩ := h.journal
    exact ⟨new, hnew, fun hmem => absurd hmem hraised, hgone⟩
  numbered _ _ hnum := h.ext.numbered hnum

theorem Books.refl (w : World) : Books w w :=
  fun _ l hl => ⟨l, hl, Entry.of_quiet (Quiet.refl (D := Database.Extends) w) l⟩

theorem Books.trans {w w' w'' : World} (h : Books w w') (h' : Books w' w'') : Books w w'' := by
  intro hin l hl
  obtain ⟨l', hl', hentry⟩ := h hin l hl
  obtain ⟨l'', hl'', hentry'⟩ := h' (hentry.inAtomic.trans hin) l' hl'
  exact ⟨l'', hl'', hentry.trans hentry'⟩

instance : Std.Refl Books := ⟨Books.refl⟩

instance : IsTrans World Books := ⟨fun _ _ _ => Books.trans⟩

theorem Books.of_quiet {D : Database → Database → Prop} [Restorable D] {w w' : World} (h : Quiet D w w') :
    Books w w' :=
  fun _ l hl => ⟨l, h.ledger.trans hl, Entry.of_quiet h l⟩

theorem quiet_books {α : Type} {D : Database → Database → Prop} [Restorable D] {x : M α}
    (h : Steps (Quiet D) x) : Steps Books x := h.mono fun _ _ => Books.of_quiet

/-! ### The write, the staged deletion, and failure -/

theorem BackendOf.kvVersion {config : Config} {b : Backend} (h : BackendOf config b) (hkv : config.Kv2 b.engine) :
    b.kvVersion = 2 := by
  obtain ⟨engine, hengine, hb⟩ := h
  rw [hb]
  exact hkv _ hengine

/-- The ledger part of an entry that opened one attempt. -/
theorem Entry.of_frame {w w' : World} {l l' : Ledger} (h : Frame Database.Extends w w')
    (hattempt : ∃ more, l' = { l with attempts := l.attempts ++ more } ∧
      (∀ a ∈ more, Audited w w' a true ∧ a.Completed) ∧
      ∃ new, w'.ext.calls = w.ext.calls ++ new ∧
        new.filterMap (BackendCall.ownWrite l.operationId) = more.filterMap MaterialAttempt.obtained ∧
        ∀ issuer location version, .delete issuer location version ∈ new → ∃ d ∈ w.ext.pending, d.issuer = issuer)
    (hpending : ∀ d ∈ w'.ext.pending, d ∈ w.ext.pending)
    (hnumbered : ∀ engine, w.db.config.Kv2 engine → w.ext.Numbered engine → w'.ext.Numbered engine) : Entry w l w' l' := by
  obtain ⟨more, rfl, haudit, new, hnew, hown, hdelete⟩ := hattempt
  obtain ⟨events, hevents, hraised, hgone⟩ := h.journal
  exact {
    toSameBlock := h.toSameBlock
    db := h.db
    operations := h.operations
    env := h.env
    acts := h.acts
    operationId := rfl
    committed := rfl
    failed := id
    written := ⟨more, new, rfl, hnew, hown, haudit, hdelete⟩
    deletions := ⟨[], by simp, by simp⟩
    pending := hpending
    journal := ⟨events, hevents, fun hmem => absurd hmem hraised, hgone⟩
    numbered := hnumbered }

theorem Stored.entry {req : WriteRequest} {got : Option Nat} {w w' : World} {l : Ledger}
    (h : Stored req got w l w') (hframe : Frame Database.Extends w w') :
    ∃ l', w'.ledger = some l' ∧ Entry w l w' l' := by
  cases h with
  | untouched hgot hledger hext =>
      obtain ⟨hpending, new, hnew, hnone, hdelete⟩ := hext.disturbed
      refine ⟨l, hledger, .of_frame hframe ⟨[], by simp, by simp, new, hnew, ?_, hdelete⟩ hpending
        fun _ _ hnum => hext.numbered hnum⟩
      exact BackendCall.ownWrites_nil hnone _
  | opened hgot a hledger hversion haudit hext =>
      obtain ⟨hpending, new, hnew, hnone, hdelete⟩ := hext.disturbed
      refine ⟨l.opened a, hledger, .of_frame hframe ⟨[a], rfl, ?_, new, hnew, ?_, hdelete⟩ hpending
        fun _ _ hnum => hext.numbered hnum⟩
      · intro b hb
        rw [List.mem_singleton.mp hb]
        exact ⟨Audited.of_none haudit, fun _ => haudit⟩
      · rw [BackendCall.ownWrites_nil hnone]
        simp [MaterialAttempt.obtained, hversion]
  | lost hgot a e cell version hledger hversion haudit hbackend hlocation hbefore hwrite hafter =>
      obtain ⟨hpending, new, hnew, hown, hdelete⟩ :=
        hbefore.disturbed.around hafter.disturbed (by simp)
      refine ⟨l.opened a, hledger, .of_frame hframe ⟨[a], rfl, ?_, new, hnew, ?_, hdelete⟩ hpending ?_⟩
      · intro b hb
        rw [List.mem_singleton.mp hb]
        exact ⟨Audited.of_none haudit, fun _ => haudit⟩
      · rw [hown]
        simp [MaterialAttempt.obtained, hversion, BackendCall.ownWrite]
      · intro engine hkv hnum
        have hb : req.location.engine = engine → a.backend.kvVersion = 2 := by
          rintro rfl
          rw [← hlocation] at hkv
          exact hbackend.kvVersion hkv
        refine hafter.numbered ((hbefore.numbered hnum).written hb hwrite ?_)
        rintro l v ⟨rfl, rfl⟩
        exact ⟨rfl, rfl⟩
  | written a e cell version hgot hledger hversion haudit hbackend hlocation hbefore hwrite hafter =>
      obtain ⟨hpending, new, hnew, hown, hdelete⟩ :=
        hbefore.disturbed.around hafter.disturbed (by simp)
      refine ⟨l.opened a, hledger, .of_frame hframe ⟨[a], rfl, ?_, new, hnew, ?_, hdelete⟩ hpending ?_⟩
      · intro b hb
        rw [List.mem_singleton.mp hb]
        exact ⟨haudit, fun hnone => absurd (hversion.symm.trans hnone) (by simp)⟩
      · rw [hown]
        simp [MaterialAttempt.obtained, hversion, hlocation, BackendCall.ownWrite]
      · intro engine hkv hnum
        have hb : req.location.engine = engine → a.backend.kvVersion = 2 := by
          rintro rfl
          rw [← hlocation] at hkv
          exact hbackend.kvVersion hkv
        refine hafter.numbered ((hbefore.numbered hnum).written hb hwrite ?_)
        rintro l v ⟨rfl, rfl⟩
        exact ⟨rfl, rfl⟩

theorem storeBody_books [library : MaterialLibrary] (r : StoreRequest) : Steps Books (storeBody r) := by
  intro w _ l hl
  obtain ⟨req, hstored⟩ := storeBody_stored r hl
  exact hstored.entry (storeBody_frame r w)

/-- Handing a deletion to the owner, right after its audit row. -/
theorem deferDeletion_books {w u : World} {deletion : MaterialAttempt} (hquiet : Quiet Database.SameRows w u)
    (haudit : Audited w u deletion false) : Books w (deferDeletion deletion u).2 := by
  intro _ l hl
  have hu : u.ledger = some l := hquiet.ledger.trans hl
  obtain ⟨o, ho, rfl⟩ := World.ledger_eq hu
  have hrun : (deferDeletion deletion u).2 =
      { u with owner := some { o with deletions := o.deletions ++ [deletion] } } := by
    unfold deferDeletion
    rw [modifyOwner_run, ho]
    rfl
  rw [hrun]
  refine ⟨_, rfl, { Entry.of_quiet hquiet o.ledger with deletions := ⟨[deletion], rfl, ?_⟩ }⟩
  intro a ha
  rw [List.mem_singleton.mp ha]
  exact haudit

theorem materialTransaction_books {α : Type} {body : M α} (hbody : Steps Books body) :
    Steps Books (materialTransaction body) := by
  intro w hin l hl
  obtain ⟨o, ho, -⟩ := World.ledger_eq hl
  unfold materialTransaction
  rw [bind_run_ok (get_run w), ho]
  simp only
  rw [tryCatch_run]
  match hrun : body w with
  | (.ok a, u) => exact hbody.of_ok hrun hin l hl
  | (.error e, u) =>
      obtain ⟨l', hl', hentry⟩ := hbody.of_error hrun hin l hl
      obtain ⟨o', ho', rfl⟩ := World.ledger_eq hl'
      -- the block marks its owner failed before it passes the exception on
      refine ⟨{ o'.ledger with failed := true }, ?_, hentry.trans ?_⟩
      · simp [bind_run, modifyOwner_run, modify_run, throw_run, World.ledger, World.note, ho',
          MaterialTransaction.ledger]
      · exact { Entry.of_quiet (Quiet.refl (D := Database.Extends) u) o'.ledger with
          failed := fun _ => rfl
          journal := ⟨[.blockRaised], rfl, fun _ => rfl, fun ids hids => by
            cases List.mem_singleton.mp hids⟩ }

/-! ### Savepoints -/

theorem Audited.rollback {w w' w'' : World} {a : MaterialAttempt} {success : Bool}
    (h : Audited w w' a success) (hdb : w''.db = w'.db.rollbackTo w.db) : Audited w w'' a success := by
  intro id hid
  obtain ⟨hlow, hlt, -⟩ := h id hid
  rw [hdb]
  refine ⟨hlow, Nat.lt_of_lt_of_le hlt (Nat.le_max_left _ _), fun row hrow hrowid => ?_⟩
  have := w.db.accessLog_lt row hrow
  omega

/-- What a rollback to a savepoint leaves of a world. -/
theorem rollbackSavepoint_cases (before w : World) :
    (rollbackSavepoint before w).2 =
        { w.ticked with conn := { w.ticked.conn with needsRollback := true } } ∨
      (rollbackSavepoint before w).2 =
        ({ w.ticked with
          db := w.db.rollbackTo before.db
          onCommit := before.onCommit
          conn := { w.ticked.conn with needsRollback := false, aborted := false } }).note
            (.rolledBack (lostRows w.db before.db)) := by
  unfold rollbackSavepoint
  simp only
  split
  · exact .inr rfl
  · exact .inl rfl

theorem rollbackSavepoint_books {before w : World} (h : Books before w) :
    Books before (rollbackSavepoint before w).2 := by
  have htick : Books before w.ticked :=
    h.trans (Books.of_quiet (D := Database.Extends) (Quiet.ticked w))
  rcases rollbackSavepoint_cases before w with hrun | hrun
  · rw [hrun]
    exact htick.trans (Books.of_quiet (D := Database.Extends) (Quiet.of_conn rfl))
  · rw [hrun]
    intro hin l hl
    obtain ⟨l', hl', hentry⟩ := htick hin l hl
    refine ⟨l', hl', { hentry with
      db := Database.Extends.rollback _ _
      inAtomic := hentry.inAtomic
      onCommit := fun _ => ⟨[], by simp [World.note], List.not_mem_nil⟩
      written := ?_
      deletions := ?_
      journal := ?_ }⟩
    · obtain ⟨more, new, hmore, hnew, hown, haudit, hdelete⟩ := hentry.written
      exact ⟨more, new, hmore, hnew, hown, fun a ha => ⟨(haudit a ha).1.rollback rfl, (haudit a ha).2⟩, hdelete⟩
    · obtain ⟨more, hmore, haudit⟩ := hentry.deletions
      exact ⟨more, hmore, fun a ha => (haudit a ha).rollback rfl⟩
    · obtain ⟨new, hnew, hraised, hgone⟩ := hentry.journal
      refine ⟨new ++ [.rolledBack (lostRows w.db before.db)], ?_, ?_, ?_⟩
      · simp only [World.note, hnew, List.append_assoc]
      · intro hmem
        rcases List.mem_append.mp hmem with hold | hnote
        · exact hraised hold
        · cases List.mem_singleton.mp hnote
      · exact hgone.rollback.append (Event.Gone.lostRows hentry.db)

theorem atomic_books {α : Type} {body : M α} (hbody : Steps Books body) : Steps Books (atomic body) := by
  intro w hin
  have hsavepoint : Books w (savepoint body w).2 :=
    savepoint_steps (quiet_books (D := Database.Extends) (query_quiet _))
      (fun _ _ => rollbackSavepoint_books) hbody w
  unfold atomic
  rw [bind_run_ok (get_run w), if_pos hin]
  exact hsavepoint hin

/-! ### Services and blocks -/

theorem synchronizedBody_books {α : Type} {c : Credential} {f : Credential → M α}
    (hf : ∀ c, Steps Books (f c)) : Steps Books (synchronizedBody c f) := by
  refine Steps.bind (quiet_books (lockMaterialSubjects_quiet _ _)) fun locked => ?_
  refine Steps.bind (quiet_books (lockedRow_quiet _ _)) fun _ => ?_
  exact Steps.bind (quiet_books (D := Database.Extends) (query_quiet _)) hf

theorem synchronized_books {α : Type} {c : Credential} {user : Option User} {action : AccessAction}
    {request : Option Nat} {f : Credential → M α} (hf : ∀ c, Steps Books (f c)) :
    Steps Books (synchronized c user action request f) := by
  refine Steps.tryCatch (materialTransaction_books (synchronizedBody_books hf)) fun e => ?_
  exact Steps.bind (quiet_books logAccess_quiet) fun _ => Steps.throw e

theorem promoteBody_books (user : Option User) (request : Option Nat) (verified : Bool) (note : String)
    (c : Credential) : Steps Books (promoteBody user request verified note c) := by
  refine Steps.bind (quiet_books enforcePolicyAccess_quiet) fun _ => ?_
  refine Steps.bind (quiet_books (D := Database.Extends) (raiseIf_quiet _ _)) fun _ => ?_
  refine Steps.bind (quiet_books (D := Database.Extends) (query_quiet _)) fun backend => ?_
  refine Steps.bind (quiet_books (listStaged_quiet _ _ _ _)) fun versions => ?_
  refine Steps.bind (quiet_books (confirmStaged_quiet _ _ _ _)) fun _ => ?_
  refine Steps.bind (quiet_books (D := Database.Extends) now_quiet) fun time => ?_
  refine Steps.bind (quiet_books (saveFields_quiet _ _)) fun _ => ?_
  exact Steps.bind (quiet_books logAccess_quiet) fun _ => Steps.pure _

theorem deferDiscard_books (c : Credential) (backend : Backend) (staged : Option Nat) (user : Option User)
    (request : Option Nat) : Steps Books (deferDiscard c backend staged user request) := by
  intro w
  unfold deferDiscard
  match hlog : logAccess c user .discard false ("discarded version " ++ toString (staged.getD 0))
      "Staged pointer cleared; exact-version cleanup is pending commit." request w with
  | (.error e, u) =>
      rw [bind_run_error hlog]
      exact Books.of_quiet (logAccess_quiet.of_error hlog)
  | (.ok audit, u) =>
      rw [bind_run_ok hlog]
      refine deferDeletion_books (logAccess_quiet.of_ok hlog) ?_
      intro id hid
      obtain rfl : audit = some id := hid
      obtain ⟨hlow, hlt, hrow⟩ := logAccess_row hlog
      refine ⟨hlow, hlt, fun row hmem hrowid => ?_⟩
      rw [hrow row hmem hrowid]
      exact ⟨rfl, rfl, rfl⟩

theorem discardBody_books (user : Option User) (request : Option Nat) (c : Credential) :
    Steps Books (discardBody user request c) := by
  refine Steps.bind (quiet_books enforcePolicyAccess_quiet) fun _ => ?_
  refine Steps.bind (quiet_books (D := Database.Extends) (raiseIf_quiet _ _)) fun _ => ?_
  refine Steps.bind (quiet_books (D := Database.Extends) (query_quiet _)) fun backend => ?_
  refine Steps.bind (quiet_books (saveFields_quiet _ _)) fun _ => ?_
  exact Steps.bind (deferDiscard_books _ _ _ _ _) fun _ => Steps.pure _

theorem ignoring_books {α : Type} {x : M α} (h : Steps Books x) : Steps Books (ignoring x) :=
  Steps.bind h fun _ => Steps.pure ()

variable [library : MaterialLibrary]

theorem storeCredential_books (r : StoreRequest) : Steps Books (storeCredential r) :=
  materialTransaction_books (storeBody_books r)

theorem rotateBody_books (payload : Payload) (user : Option User) (request : Option Nat) (c : Credential) :
    Steps Books (rotateBody payload user request c) :=
  Steps.bind (quiet_books enforcePolicyAccess_quiet) fun _ => storeCredential_books _

theorem stageBody_books (payload : Payload) (user : Option User) (request : Option Nat) (c : Credential) :
    Steps Books (stageBody payload user request c) := by
  refine Steps.bind (quiet_books enforcePolicyAccess_quiet) fun _ => ?_
  refine Steps.bind (quiet_books (D := Database.Extends) (raiseIf_quiet _ _)) fun _ => ?_
  exact Steps.bind (quiet_books (pinLiveVersion_quiet _)) fun _ => storeCredential_books _

theorem performUpdate_books (loaded : Credential) (edits : Edits) (payload : Option Payload)
    (user : Option User) (request : Option Nat) (conforms : Database → Credential → Except Error Unit) :
    Steps Books (CredentialViewSet.performUpdate loaded edits payload user request conforms) := by
  refine Steps.bind (quiet_books (lockMaterialSubject_quiet _ _)) fun subject => ?_
  refine Steps.bind (quiet_books (enforceUpdateAccess_quiet _ _ _ _)) fun _ => ?_
  split
  · exact quiet_books (saveEdits_quiet _ _)
  · exact quiet_books (saveEdits_quiet _ _)
  · exact Steps.bind (storeCredential_books _) fun _ => Steps.pure _

theorem performCreate_books (uuid : String) (attributes : Edits) (payload : Payload) (user : Option User)
    (request : Option Nat) (conforms : Database → Credential → Except Error Unit) :
    Steps Books (CredentialViewSet.performCreate uuid attributes payload user request conforms) :=
  Steps.bind (quiet_books (fullClean_quiet _)) fun _ => storeCredential_books _

theorem Operation.run_books (operation : Operation) : Steps Books operation.run := by
  cases operation with
  | create uuid attributes payload user request conforms =>
      exact ignoring_books (materialTransaction_books (performCreate_books _ _ _ _ _ _))
  | rotate held payload user request => exact ignoring_books (synchronized_books (rotateBody_books _ _ _))
  | stage held payload user request => exact ignoring_books (synchronized_books (stageBody_books _ _ _))
  | promote held user request verified note =>
      exact ignoring_books (synchronized_books (promoteBody_books _ _ _ _))
  | discard held user request => exact ignoring_books (synchronized_books (discardBody_books _ _))
  | update held edits payload user request conforms =>
      exact ignoring_books (materialTransaction_books (performUpdate_books _ _ _ _ _ _))

theorem Service.run_books (service : Service) : Steps Books service.run := by
  cases service with
  | operation o => exact o.run_books
  | store r => exact ignoring_books (storeCredential_books r)
  | reveal c user request reason version => exact ignoring_books (quiet_books (revealMaterial_quiet _ _ _ _ _))

/-- Whatever an owner runs, its books balance. -/
theorem Block.run_books (block : Block) : Steps Books block.run := by
  induction block with
  | done => exact Steps.pure ()
  | call service => exact service.run_books
  | edit f =>
      refine quiet_books (D := Database.Extends) (saving_quiet ?_)
      intro db a db' h
      cases hf : f db.credentials with
      | error e => simp [hf, Except.map] at h
      | ok credentials =>
          simp only [hf, Except.map, Except.ok.injEq, Prod.mk.injEq] at h
          obtain ⟨-, rfl⟩ := h
          exact ⟨rfl, Nat.le_refl _, fun _ hrow _ => hrow⟩
  | defer raises =>
      exact Steps.modify fun w => Books.of_quiet (D := Database.Extends) (Quiet.of_onCommit w (by simp))
  | close =>
      refine Steps.modify fun w => ?_
      split
      · exact Books.of_quiet (D := Database.Extends) (Quiet.of_conn rfl)
      · exact Books.refl w
  | raise error => exact Steps.throw error
  | seq first second ihfirst ihsecond => exact Steps.bind ihfirst fun _ => ihsecond
  | branch test yes no ihyes ihno =>
      refine Steps.bind Steps.get fun w => ?_
      split
      · exact ihyes
      · exact ihno
  | handle block handler ihblock ihhandler => exact Steps.tryCatch ihblock ihhandler
  | owned block ih => exact materialTransaction_books ih
  | savepoint block ih => exact atomic_books ih

end NetboxOpenbao
