import NetboxOpenbao.Proof.Bodies

/-!
# One step of a site

A body that follows a plan, under its outermost owner: either nothing of it is left in the rows, and the
deletes that follow compensate its write; or its transition committed, and the deletes that follow are the
ones it left to its owner.
-/

namespace NetboxOpenbao

open Effect Effect.Prog

/-! ### Leaving the transaction -/

/-- Other parties act before and after a write. -/
theorem Reached.between {P : WriteRequest → Prop} {config : Config} {acts : Nat → List Act}
    {attempts : List MaterialAttempt} {wrote : Option (WriteRequest × Nat)} {d e f g : Ext}
    (hbefore : Interference acts d e) (h : Reached P config acts attempts wrote e f)
    (hafter : Interference acts f g) : Reached P config acts attempts wrote d g := by
  cases h with
  | idle hattempts hext => exact .idle hattempts ((hbefore.trans hext).trans hafter)
  | wrote req hreq a cell version call hcall hone hknown hbackend hlocation hearly hwrite hlate =>
      exact .wrote req hreq a cell version call hcall hone hknown hbackend hlocation (hbefore.trans hearly) hwrite
        (hlate.trans hafter)

/-- What a transaction leaves alone whatever happens in it. -/
structure LeftIdle (w left : World) : Prop extends left.Idle where
  config : left.db.config = w.db.config
  operations : left.operations = w.operations + 1
  acts : left.acts = w.acts

/-- How a transaction whose body followed a plan was left, with the deletes still to be issued. -/
inductive Left (plan : Plan) (w : World) : List PendingDelete → World → Prop
  | kept {ds : List PendingDelete} {left : World} (attempts : List MaterialAttempt)
      (wrote : Option (WriteRequest × Nat))
      (hreached : Reached plan.requests w.db.config w.acts attempts wrote w.ext left.ext)
      (hcredentials : left.db.credentials = w.db.credentials)
      (hdeletes : ds = [] ∨
        ds = attempts.reverse.filterMap (MaterialAttempt.pendingDelete (.recovery w.operations))) :
      Left plan w ds left
  | committed {ds : List PendingDelete} {left : World} (attempts deletions : List MaterialAttempt)
      (wrote : Option (WriteRequest × Nat)) (pk : Nat) (row' : Credential)
      (hreached : Reached plan.requests w.db.config w.acts attempts wrote w.ext left.ext)
      (hcommits : plan.commits wrote pk row')
      (hcredentials : left.db.credentials = (w.db.putCredential pk row').credentials)
      (hdeletions : plan.deletes deletions)
      (hdeletes : ds = [] ∨
        ds = deletions.filterMap (MaterialAttempt.pendingDelete (.cleanup w.operations))) :
      Left plan w ds left

/-- Where the caller's body starts, after the commit marker has been registered. -/
def World.owning (w : World) : World := { w.owned with onCommit := [.markCommitted] }

/-- The end of the body only looks. -/
theorem ownedBody_quiet {α : Type} (body : M α) (w : World) :
    Quiet Database.SameRows (body w.owning).2 (ownedBody body w.owned).2 ∧
      ((ownedBody body w.owned).1.isOk = true → (body w.owning).1.isOk = true) := by
  have hrest : ∀ a : α, Steps (Quiet Database.SameRows) (do
      let owner ← currentMaterialTransaction
      raiseIf owner.failed (.openbao .base "The material transaction was refused.")
      witness (owner.attempts ++ owner.deletions)
      pure a) := by
    intro a
    refine Steps.bind currentMaterialTransaction_quiet fun owner => ?_
    refine Steps.bind (raiseIf_quiet _ _) fun _ => ?_
    exact Steps.bind (witness_quiet _) fun _ => Steps.pure a
  unfold ownedBody
  rw [bind_run_ok (modify_run _ w.owned)]
  change Quiet Database.SameRows _ ((body >>= _) w.owning).2 ∧ _
  match hrun : body w.owning with
  | (.error e, u) =>
      rw [bind_run_error hrun]
      exact ⟨Quiet.refl u, fun h => by
        change ((body >>= _) w.owning).1.isOk = true at h
        rw [bind_run_error hrun] at h
        cases h⟩
  | (.ok a, u) =>
      rw [bind_run_ok hrun]
      exact ⟨hrest a u, fun _ => rfl⟩

theorem Exit.deletes_ok {α : Type} {exit : Exit α} {a : α} (h : exit.result = .ok a) :
    exit.deletes = if exit.owner.committed then
      exit.owner.deletions.filterMap (MaterialAttempt.pendingDelete (.cleanup exit.owner.operationId)) else [] := by
  unfold deletes
  rw [h]
  rfl

theorem Exit.deletes_error {α : Type} {exit : Exit α} {e : Error} (h : exit.result = .error e) :
    exit.deletes = if exit.owner.committed || exit.unknown then [] else
      exit.owner.attempts.reverse.filterMap
        (MaterialAttempt.pendingDelete (.recovery exit.owner.operationId)) := by
  unfold deletes
  rw [h]
  rfl

theorem ownedTransaction_left {α : Type} {plan : Plan} {body : M α} (hbooks : Steps Books body) {w : World}
    (hidle : w.Idle) (hran : Ran plan (body w.owning).1.isOk w.owning (body w.owning).2) :
    ∃ exit left, ownedTransaction body w = (.ok exit, left) ∧ LeftIdle w left ∧ Left plan w exit.deletes left := by
  obtain ⟨exit, left, hrun, hexits⟩ := ownedTransaction_exits hbooks w
  refine ⟨exit, left, hrun, ?_⟩
  have htick : Interference w.acts w.ext w.ticked.ext := Interference.ticked w
  cases hexits with
  | unopened hexit hw' =>
      subst hexit hw'
      exact ⟨⟨⟨hidle.inAtomic, rfl⟩, rfl, rfl, rfl⟩, .kept [] none (.idle (by simp) htick) rfl (.inl rfl)⟩
  | ran result after o more durable hbody ho honCommit howner hjournal hdb hext hdurable hdefinite
      hreturned hraised hknown hacts henv hnone hconn hoperations =>
      obtain ⟨o', -, ho', -, hentry⟩ := ownedBody_after hbooks w
      rw [hbody] at ho' hentry
      obtain rfl : o = o' := Option.some.inj (ho.symm.trans ho')
      obtain ⟨hquiet, hok⟩ := ownedBody_quiet body w
      rw [hbody] at hquiet hok
      obtain ⟨l, wrote, hfrom⟩ := hran rfl _ rfl rfl rfl
      have hledger : o.ledger = l := by
        have hafter : after.ledger = some l := hquiet.ledger.trans hfrom.ledger
        rw [World.ledger, ho] at hafter
        exact Option.some.inj hafter
      subst hledger
      have hconfig : after.db.config = w.db.config := hquiet.db.config.trans hfrom.config
      have hacts' : after.acts = w.acts := hentry.acts
      have huacts : (body w.owning).2.acts = w.acts := hquiet.acts.symm.trans hacts'
      have hreached : Reached plan.requests w.db.config w.acts o.attempts wrote w.ext left.ext :=
        Reached.between htick hfrom.reached ((huacts ▸ hquiet.ext).trans (hacts' ▸ hext))
      have hoperation : exit.owner.operationId = w.operations := by
        rw [howner]
        exact hfrom.operationId
      have hattempts : exit.owner.attempts = o.attempts := by
        rw [howner]
        rfl
      have hdeletions : exit.owner.deletions = o.deletions := by
        rw [howner]
        rfl
      have hsame : LeftIdle w left := {
        inAtomic := hconn
        owner := hnone
        config := by
          rw [hdb]
          cases durable with
          | true => exact hconfig
          | false => rfl
        operations := hoperations.trans hentry.operations
        acts := hacts.trans hacts' }
      refine ⟨hsame, ?_⟩
      cases durable with
      | true =>
          obtain ⟨a, rfl⟩ := hdurable rfl
          obtain ⟨pk, row', hcommits, hcredentials⟩ := hfrom.commits (hok rfl)
          have hput : left.db.credentials = (w.db.putCredential pk row').credentials := by
            rw [show left.db = after.db from hdb, hquiet.db.credentials, hcredentials]
            rfl
          refine .committed o.attempts o.deletions wrote pk row' hreached hcommits hput hfrom.deletes ?_
          cases hresult : exit.result with
          | ok b =>
              rw [exit.deletes_ok hresult, hdeletions, hoperation]
              split
              · exact .inr rfl
              · exact .inl rfl
          | error e =>
              rw [exit.deletes_error hresult]
              split
              · exact .inl rfl
              · next hunknown =>
                  simp only [Bool.or_eq_true, not_or, Bool.not_eq_true] at hunknown
                  cases hdefinite e hresult hunknown.1 hunknown.2
      | false =>
          refine .kept o.attempts wrote hreached (by rw [hdb]; rfl) ?_
          cases hresult : exit.result with
          | error e =>
              rw [exit.deletes_error hresult, hattempts, hoperation]
              split
              · exact .inl rfl
              · exact .inr rfl
          | ok b =>
              left
              rw [exit.deletes_ok hresult, hdeletions]
              split
              · next hcommitted =>
                  -- a silent rollback would have made the witness check fail
                  obtain ⟨rfl, -, -, hsilent⟩ := hreturned b hresult
                  have hbodyOk : BodyOk body w o b after := ownedBody_ok hbody ho
                  rcases hsilent hcommitted with hbefore | hdurable' | haborted
                  · have hfresh : o.committed = false := hentry.committed
                    rw [hfresh] at hbefore
                    cases hbefore
                  · cases hdurable'
                  · have hnil : o.deletions = [] := by
                      by_contra hne
                      have hopen := hbodyOk.open' (by simp [hne])
                      have hin : after.conn.inAtomic = true := hentry.inAtomic
                      simp [Connection.refuses, hin, haborted] at hopen
                    rw [hnil]
                    rfl
              · rfl

/-! ### Operations -/

theorem leaving_left {α : Type} {plan : Plan} {body : M α} (hbooks : Steps Books body) {w : World}
    (hidle : w.Idle) (hran : Ran plan (body w.owning).1.isOk w.owning (body w.owning).2) :
    ∃ ds left, leaving body w = (.ok ds, left) ∧ LeftIdle w left ∧ Left plan w ds left ∧
      Aftermath ds left (materialTransaction body w).2 := by
  obtain ⟨exit, left, hrun, hsame, hleft⟩ := ownedTransaction_left hbooks hidle hran
  refine ⟨exit.deletes, left, ?_, hsame, hleft, ?_⟩
  · unfold leaving
    rw [bind_run_ok hrun]
    rfl
  · rw [materialTransaction_run hidle hrun]
    exact settle_aftermath exit left

theorem ignoring_run {α : Type} (x : M α) (w : World) : (ignoring x w).2 = (x w).2 := by
  unfold ignoring
  rw [bind_run]
  match x w with
  | (.ok a, u) => rfl
  | (.error e, u) => rfl

/-- The audit of a failed change belongs to what follows the transaction. -/
theorem synchronized_aftermath {α : Type} {held : Credential} {user : Option User} {action : AccessAction}
    {request : Option Nat} {f : Credential → M α} {ds : List PendingDelete} {w left : World}
    (h : Aftermath ds left (materialTransaction (synchronizedBody held f) w).2) :
    Aftermath ds left (synchronized held user action request f w).2 := by
  unfold synchronized
  rw [tryCatch_run]
  match hrun : materialTransaction (synchronizedBody held f) w with
  | (.ok a, u) =>
      rw [hrun] at h
      exact h
  | (.error e, u) =>
      rw [hrun] at h
      have haudit : Steps (Quiet Database.SameRows) (do
          let _ ← logAccess held user action false ""
            "Material operation did not complete; inspect its reconciliation records." request
          throw e : M α) := Steps.bind logAccess_quiet fun _ => Steps.throw e
      exact h.last (.of_quiet (haudit u))

/-- An operation of the service layer on the credential numbered `pk`, held as some instance of it. -/
inductive Operation.On (pk : Nat) : Operation → Prop
  | rotate {held : Credential} (hpk : held.pk = some pk) (payload : Payload) (user : Option User)
      (request : Option Nat) : Operation.On pk (.rotate held payload user request)
  | stage {held : Credential} (hpk : held.pk = some pk) (payload : Payload) (user : Option User)
      (request : Option Nat) : Operation.On pk (.stage held payload user request)
  | promote {held : Credential} (hpk : held.pk = some pk) (user : Option User) (request : Option Nat)
      (verified : Bool) (note : String) : Operation.On pk (.promote held user request verified note)
  | discard {held : Credential} (hpk : held.pk = some pk) (user : Option User) (request : Option Nat) :
      Operation.On pk (.discard held user request)
  | update {held : Credential} (hpk : held.pk = some pk) (edits : Edits) (payload : Option Payload)
      (user : Option User) (request : Option Nat) (conforms : Database → Credential → Except Error Unit) :
      Operation.On pk (.update held edits payload user request conforms)

/-- The instance an operation holds. -/
def Operation.held : Operation → Option Credential
  | .create .. => none
  | .rotate held .. | .stage held .. | .promote held .. | .discard held .. | .update held .. => some held

theorem Operation.On.held {operation : Operation} {pk : Nat} (h : operation.On pk) :
    ∃ held, operation.held = some held ∧ held.pk = some pk := by
  cases h with
  | rotate hpk | stage hpk | promote hpk | discard hpk | update hpk => exact ⟨_, rfl, hpk⟩

/-- Where the material of a row lives. -/
def Credential.location (c : Credential) : Location := ⟨c.engineId, c.path⟩

/-- The row numbered `pk`, as a row of the database is. -/
structure Site.Row (s : Site) (pk : Nat) (row : Credential) : Prop where
  found : s.db.credentials pk = some row
  pk : row.pk = some pk
  engine : row.engineId ≠ 0

theorem synchronized_left {α : Type} {plan : Plan} {held : Credential} {user : Option User}
    {action : AccessAction} {request : Option Nat} {f : Credential → M α} {pk : Nat} {row : Credential}
    {w : World} (hbooks : ∀ c, Steps Books (f c)) (hpk : held.pk = some pk) (hidle : w.Idle)
    (hrow : w.site.Row pk row)
    (hran : ∀ u, u.db.config = w.db.config → u.env = w.env → u.db.credentials pk = some row →
      Ran plan (f row u).1.isOk u (f row u).2) :
    ∃ ds left, leaving (synchronizedBody held f) w = (.ok ds, left) ∧ LeftIdle w left ∧ Left plan w ds left ∧
      Aftermath ds left (ignoring (synchronized held user action request f) w).2 := by
  have hbody : Ran plan (synchronizedBody held f w.owning).1.isOk w.owning (synchronizedBody held f w.owning).2 :=
    synchronizedBody_ran hpk hrow.found hran
  obtain ⟨ds, left, hleave, hsame, hleft, hafter⟩ := leaving_left (synchronizedBody_books hbooks) hidle hbody
  refine ⟨ds, left, hleave, hsame, hleft, ?_⟩
  rw [ignoring_run]
  exact synchronized_aftermath hafter

variable [library : MaterialLibrary]

/-- An operation leaves its transaction by its plan, and then only issues deletes. -/
theorem Operation.leave_left {operation : Operation} {pk : Nat} {row : Credential} {w : World}
    (hon : operation.On pk) (hidle : w.Idle) (hrow : w.site.Row pk row) :
    ∃ ds left, operation.leave w = (.ok ds, left) ∧ LeftIdle w left ∧
      Left (operation.plan w.db.config w.env.now pk row) w ds left ∧ Aftermath ds left (operation.run w).2 := by
  cases hon with
  | rotate hpk payload user request =>
      exact synchronized_left (rotateBody_books payload user request) hpk hidle hrow fun u hconfig henv hu =>
        rotateBody_ran hconfig (congrArg Env.now henv) hrow.pk hrow.engine hu
  | stage hpk payload user request =>
      exact synchronized_left (stageBody_books payload user request) hpk hidle hrow fun u hconfig henv hu =>
        stageBody_ran hconfig (congrArg Env.now henv) hrow.pk hrow.engine hu
  | promote hpk user request verified note =>
      exact synchronized_left (promoteBody_books user request verified note) hpk hidle hrow
        fun u hconfig henv hu => promoteBody_ran (congrArg Env.now henv) hrow.pk hu
  | discard hpk user request =>
      exact synchronized_left (discardBody_books user request) hpk hidle hrow
        fun u hconfig henv hu => discardBody_ran hconfig hrow.pk hu
  | update hpk edits payload user request conforms =>
      obtain ⟨ds, left, hleave, hsame, hleft, hafter⟩ :=
        leaving_left (performUpdate_books _ edits payload user request conforms) hidle
          (performUpdate_ran (w := w.owning) rfl rfl hpk hrow.found)
      refine ⟨ds, left, hleave, hsame, hleft, ?_⟩
      change Aftermath ds left (ignoring _ w).2
      rw [ignoring_run]
      exact hafter

theorem Operation.create_left (uuid : String) (attributes : Edits) (payload : Payload) (user : Option User)
    (request : Option Nat) (conforms : Database → Credential → Except Error Unit) {w : World}
    (hidle : w.Idle) :
    ∃ ds left, (Operation.create uuid attributes payload user request conforms).leave w = (.ok ds, left) ∧
      LeftIdle w left ∧ Left (createPlan w.db.config w.env.now uuid attributes payload) w ds left ∧
      Aftermath ds left ((Operation.create uuid attributes payload user request conforms).run w).2 := by
  obtain ⟨ds, left, hleave, hsame, hleft, hafter⟩ :=
    leaving_left (performCreate_books uuid attributes payload user request conforms) hidle
      (performCreate_ran (w := w.owning) rfl rfl)
  refine ⟨ds, left, hleave, hsame, hleft, ?_⟩
  change Aftermath ds left (ignoring _ w).2
  rw [ignoring_run]
  exact hafter

/-- An operation writes where it leaves the row, and leaves the row on its path. -/
theorem Commits.location {config : Config} {time : Time} {row row' : Credential} {operation : Operation}
    {wrote : Option (WriteRequest × Nat)} {pk : Nat} (h : Commits config time row operation wrote row')
    (hon : operation.On pk) (hrow : row.pk = some pk)
    (hheld : ∀ held, operation.held = some held → held.path = row.path) :
    row'.pk = some pk ∧ row'.path = row.path ∧
      ∀ req version, wrote = some (req, version) → req.location = row'.location := by
  obtain ⟨held, hsome, hpk⟩ := hon.held
  have hpath := hheld held hsome
  cases h with
  | rotate _ =>
      rw [written_promote]
      refine ⟨hrow, rfl, fun req version hw => ?_⟩
      cases hw
      rfl
  | stage _ _ =>
      rw [written_stage]
      refine ⟨by simpa [withMetadata] using hrow, by simp [withMetadata], fun req version hw => ?_⟩
      cases hw
      simp [Credential.location, withMetadata]
  | promote _ => exact ⟨hrow, rfl, fun req version hw => by cases hw⟩
  | discard _ => exact ⟨hrow, rfl, fun req version hw => by cases hw⟩
  | edit =>
      obtain rfl := Option.some.inj hsome
      exact ⟨hpk, hpath, fun req version hw => by cases hw⟩
  | update _ =>
      obtain rfl := Option.some.inj hsome
      rw [written_promote]
      refine ⟨hpk, hpath, fun req version hw => ?_⟩
      cases hw
      rfl

/-! ### Steps of a site -/

/-- One step of a site by a plan: kept as it was up to the number counters and the servers, or taken along a
transition. -/
inductive Stepped (plan : Plan) (acts : Nat → List Act) (s s' : Site) : Prop
  | kept (attempts : List MaterialAttempt) (wrote : Option (WriteRequest × Nat)) (mid : Ext)
      (ds : List PendingDelete)
      (hreached : Reached plan.requests s.db.config acts attempts wrote s.ext mid)
      (hissued : Issued acts ds mid s'.ext) (hcredentials : s'.db.credentials = s.db.credentials)
      (hdeletes : ds = [] ∨
        ds = attempts.reverse.filterMap (MaterialAttempt.pendingDelete (.recovery s.operations)))
  | committed (attempts deletions : List MaterialAttempt) (wrote : Option (WriteRequest × Nat)) (mid : Ext)
      (ds : List PendingDelete) (pk : Nat) (row' : Credential)
      (hreached : Reached plan.requests s.db.config acts attempts wrote s.ext mid)
      (hissued : Issued acts ds mid s'.ext) (hcommits : plan.commits wrote pk row')
      (hcredentials : s'.db.credentials = (s.db.putCredential pk row').credentials)
      (hdeletions : plan.deletes deletions)
      (hdeletes : ds = [] ∨
        ds = deletions.filterMap (MaterialAttempt.pendingDelete (.cleanup s.operations)))

omit library in
theorem Left.stepped {plan : Plan} {s : Site} {env : Env} {acts : Nat → List Act} {ds : List PendingDelete}
    {left w' : World} (h : Left plan (s.start env acts) ds left) (hsame : LeftIdle (s.start env acts) left)
    (hafter : Aftermath ds left w') : Stepped plan acts s w'.site := by
  have hacts : left.acts = acts := hsame.acts
  have hissued : Issued acts ds left.ext w'.ext := hacts ▸ hafter.ext
  cases h with
  | kept attempts wrote hreached hcredentials hdeletes =>
      exact .kept attempts wrote left.ext ds hreached hissued (hafter.credentials.trans hcredentials) hdeletes
  | committed attempts deletions wrote pk row' hreached hcommits hcredentials hdeletions hdeletes =>
      exact .committed attempts deletions wrote left.ext ds pk row' hreached hissued hcommits
        (hafter.credentials.trans hcredentials) hdeletions hdeletes

theorem Site.step_stepped {s : Site} {c : Call} {pk : Nat} {row : Credential} (hon : c.operation.On pk)
    (hrow : s.Row pk row) :
    (s.step c).db.config = s.db.config ∧ (s.step c).operations = s.operations + 1 ∧
      Stepped (c.operation.plan s.db.config c.env.now pk row) c.acts s (s.step c) := by
  obtain ⟨ds, left, -, hsame, hleft, hafter⟩ :=
    c.operation.leave_left hon (s.start_idle c.env c.acts) hrow
  exact ⟨hafter.config.trans hsame.config, hafter.operations.trans hsame.operations,
    hleft.stepped hsame hafter⟩

theorem Site.create_stepped (s : Site) (env : Env) (acts : Nat → List Act) (uuid : String)
    (attributes : Edits) (payload : Payload) (user : Option User) (request : Option Nat)
    (conforms : Database → Credential → Except Error Unit) :
    (s.step ⟨.create uuid attributes payload user request conforms, env, acts⟩).db.config = s.db.config ∧
      Stepped (createPlan s.db.config env.now uuid attributes payload) acts s
        (s.step ⟨.create uuid attributes payload user request conforms, env, acts⟩) := by
  obtain ⟨ds, left, -, hsame, hleft, hafter⟩ :=
    Operation.create_left uuid attributes payload user request conforms (s.start_idle env acts)
  exact ⟨hafter.config.trans hsame.config, hleft.stepped hsame hafter⟩

end NetboxOpenbao
