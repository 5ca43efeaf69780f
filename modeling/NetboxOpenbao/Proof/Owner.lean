import NetboxOpenbao.Proof.Books

/-!
# How an outermost owner leaves its transaction

The body has run, its books balance, and the transaction became durable or it did not. `Exits` collects
what the owner knows afterwards and what is true, and relates the two: an owner that takes its rollback
for certain is right.
-/

namespace NetboxOpenbao

open Effect Effect.Prog

/-! ### Marking the commit -/

/-- An owner record with the commit marked or not. -/
def MaterialTransaction.marked (o : MaterialTransaction) (committed : Bool) : MaterialTransaction :=
  { o with committed }

theorem runHooks_owner (hooks : List Callback) {w : World} {o : MaterialTransaction} (ho : w.owner = some o) :
    ∃ committed, (runHooks hooks w).2 = { w with owner := some (o.marked committed) } ∧
      (o.committed = true → committed = true) ∧
      (∀ rest, hooks = .markCommitted :: rest → committed = true) := by
  induction hooks generalizing w o with
  | nil => exact ⟨o.committed, by rw [show o.marked o.committed = o from rfl, ← ho]; rfl, id, by simp⟩
  | cons hook rest ih =>
      have hself : w = { w with owner := some (o.marked o.committed) } := by
        rw [show o.marked o.committed = o from rfl, ← ho]
      match hook with
      | .markCommitted =>
          have hmark : ({ w with owner := w.owner.map fun o => { o with committed := true } } : World).owner =
              some (o.marked true) := by
            rw [ho]
            rfl
          obtain ⟨committed, hrun, hkeep, -⟩ := ih hmark
          have hcommitted : committed = true := hkeep rfl
          exact ⟨committed, hrun, fun _ => hcommitted, fun _ _ => hcommitted⟩
      | .projectMetadata _ =>
          obtain ⟨committed, hrun, hkeep, -⟩ := ih ho
          exact ⟨committed, hrun, hkeep, by simp⟩
      | .foreign none =>
          obtain ⟨committed, hrun, hkeep, -⟩ := ih ho
          exact ⟨committed, hrun, hkeep, by simp⟩
      | .foreign (some _) => exact ⟨o.committed, hself, id, by simp⟩

theorem leaveAtomic_owner (hooks : List Callback) {w : World} {o : MaterialTransaction}
    (ho : w.owner = some o) :
    (∃ committed, (leaveAtomic hooks w).2 = { w.ticked with owner := some (o.marked committed) } ∧
      (∀ rest, hooks = .markCommitted :: rest → committed = true)) ∨
    leaveAtomic hooks w = (.error .operational, w.ticked) := by
  have htick : tick w = (.ok (w.env.fault w.clock), w.ticked) := rfl
  unfold leaveAtomic
  rw [bind_run_ok htick]
  cases w.env.fault w.clock with
  | none =>
      obtain ⟨committed, hrun, -, hmark⟩ := runHooks_owner hooks (w := w.ticked) (o := o) ho
      exact .inl ⟨committed, hrun, hmark⟩
  | refused => exact .inr rfl
  | lost => exact .inr rfl
  | commitFailed f => exact .inr rfl

/-! ### The outcome of `COMMIT` -/

/-- A `COMMIT` that raised left the transaction undone or raised an error that is no proof of it. -/
theorem commit_error {start after left : World} {e : Error} (h : commit start after = (.error e, left)) :
    ∃ durable, left = after.ticked.ending start durable ∧ (e.rejected = true → durable = false) := by
  unfold commit at h
  simp only at h
  split at h
  · cases h
    exact ⟨false, rfl, fun _ => rfl⟩
  · split at h
    · cases h
    · cases h
      exact ⟨false, rfl, fun _ => rfl⟩
    · cases h
      exact ⟨_, rfl, fun hrejected => by cases hrejected⟩
    · next f _ =>
      cases h
      refine ⟨_, rfl, fun hrejected => ?_⟩
      rw [f.law hrejected]
      rfl

/-- A `COMMIT` without an error made the transaction durable, unless the server had aborted it. -/
theorem commit_ok {start after left : World} (h : commit start after = (.ok (), left)) :
    ∃ durable, left = after.ticked.ending start durable ∧ (durable = true ∨ after.conn.aborted = true) := by
  unfold commit at h
  simp only at h
  split at h
  · cases h
  · split at h
    · cases h
      refine ⟨_, rfl, ?_⟩
      change (!after.conn.aborted) = true ∨ after.conn.aborted = true
      cases after.conn.aborted <;> simp
    · cases h
    · cases h
    · cases h

/-! ### The exit -/

/-- The world the body of an outermost owner starts in. -/
def World.owned (w : World) : World :=
  ({ w with
    owner := some (MaterialTransaction.fresh w.operations)
    operations := w.operations + 1 } : World).ticked.begun

/-- What an owner takes away from its transaction, and what became of the transaction. -/
inductive Exits {α : Type} (body : M α) (w : World) (exit : Exit α) (w' : World) : Prop
  | unopened (hexit : exit = ⟨MaterialTransaction.fresh w.operations, .error .operational, true⟩)
      (hw' : w' = { w.ticked with owner := none, operations := w.operations + 1 })
  | ran (result : Except Error α) (after : World) (o : MaterialTransaction) (more : List Callback)
      (durable : Bool) (hrun : ownedBody body w.owned = (result, after)) (ho : after.owner = some o)
      (honCommit : after.onCommit = .markCommitted :: more)
      (howner : exit.owner = o.marked exit.owner.committed)
      (hjournal : w'.journal = after.journal ++ [.ended durable])
      (hdb : w'.db = if durable then after.db else after.db.rollbackTo w.db)
      (hext : Interference after.acts after.ext w'.ext)
      (hdurable : durable = true → ∃ a, result = .ok a)
      (hdefinite : ∀ e, exit.result = .error e → exit.owner.committed = false → exit.unknown = false →
        durable = false)
      (hreturned : ∀ a, exit.result = .ok a →
        result = .ok a ∧ exit.unknown = false ∧ (durable = true → exit.owner.committed = true) ∧
          (exit.owner.committed = true → o.committed = true ∨ durable = true ∨ after.conn.aborted = true))
      (hraised : ∀ e, result = .error e →
        (∃ f, exit.result = .error f) ∧ exit.owner.committed = o.committed)
      (hknown : ∀ e, result = .error e → after.conn.closed = false →
        after.env.fault after.clock = .none → exit.unknown = false)
      (hacts : w'.acts = after.acts) (henv : w'.env = after.env) (hnone : w'.owner = none)
      (hconn : w'.conn.inAtomic = false) (hoperations : w'.operations = after.operations)

/-- What `_unknown_rollback` and the context variable make of a block that has been left. -/
def exitOf {α : Type} (operationId : Nat) (left : Except AtomicFailure α) (w : World) : Exit α where
  owner := w.owner.getD (MaterialTransaction.fresh operationId)
  result := left.mapError AtomicFailure.error
  unknown := match left with
    | .ok _ => false
    | .error failure => unknownRollback failure w.conn

theorem ownedTransaction_run {α : Type} {body : M α} {w u : World} {left : Except AtomicFailure α}
    (h : outermostAtomic (ownedBody body) { w with
      owner := some (MaterialTransaction.fresh w.operations), operations := w.operations + 1 } =
        (.ok left, u)) :
    ownedTransaction body w = (.ok (exitOf w.operations left u), { u with owner := none }) := by
  unfold ownedTransaction
  rw [bind_run_ok (get_run w), bind_run_ok (modify_run _ w), bind_run_ok h, bind_run_ok (get_run u),
    bind_run_ok (modify_run _ u)]
  cases left <;> rfl

theorem ownedBody_after {α : Type} {body : M α} (hbody : Steps Books body) (w : World) :
    ∃ o more, (ownedBody body w.owned).2.owner = some o ∧
      (ownedBody body w.owned).2.onCommit = .markCommitted :: more ∧
      Entry { w.owned with onCommit := [.markCommitted] } (MaterialTransaction.fresh w.operations).ledger
        (ownedBody body w.owned).2 o.ledger := by
  have hrest : Steps Books (do
      let a ← body
      let owner ← currentMaterialTransaction
      raiseIf owner.failed (.openbao .base "The material transaction was refused.")
      witness (owner.attempts ++ owner.deletions)
      pure a) := by
    refine Steps.bind hbody fun a => ?_
    refine Steps.bind (quiet_books currentMaterialTransaction_quiet) fun owner => ?_
    refine Steps.bind (quiet_books (D := Database.Extends) (raiseIf_quiet _ _)) fun _ => ?_
    exact Steps.bind (quiet_books (witness_quiet _)) fun _ => Steps.pure a
  obtain ⟨l, hl, hentry⟩ := hrest { w.owned with onCommit := [.markCommitted] } rfl _ rfl
  obtain ⟨o, ho, rfl⟩ := World.ledger_eq hl
  obtain ⟨more, hmore, -⟩ := hentry.onCommit rfl
  exact ⟨o, more, ho, hmore, hentry⟩

theorem commit_left {start after left : World} {r : Except Error Unit} {durable : Bool}
    (h : left = after.ticked.ending start durable) (hcommit : commit start after = (r, left)) :
    left.owner = after.owner ∧ left.acts = after.acts ∧ left.env = after.env ∧
      left.operations = after.operations ∧ Interference after.acts after.ext left.ext := by
  subst h
  exact ⟨rfl, rfl, rfl, rfl, Interference.ticked after⟩

theorem Exits.uncommitted {α : Type} {body : M α} {w after v : World} {result : Except Error α} {o : MaterialTransaction}
    {more : List Callback} {left : Except AtomicFailure α} (hrun : ownedBody body w.owned = (result, after))
    (ho : after.owner = some o) (hmore : after.onCommit = .markCommitted :: more) (hv : v.owner = after.owner)
    (hjournal : v.journal = after.journal ++ [.ended false]) (hdb : v.db = after.db.rollbackTo w.db)
    (hext : Interference after.acts after.ext v.ext) (hacts : v.acts = after.acts) (henv : v.env = after.env)
    (hconn : v.conn.inAtomic = false) (hoperations : v.operations = after.operations)
    (hreturned : ∀ a, left = .ok a → result = .ok a) (hraised : ∀ e, result = .error e → ∃ f, left = .error f)
    (hknown : ∀ e, result = .error e → after.conn.closed = false → after.env.fault after.clock = .none →
      (exitOf w.operations left v).unknown = false) :
    Exits body w (exitOf w.operations left v) { v with owner := none } := by
  have howner : (exitOf w.operations left v).owner = o := by simp [exitOf, hv, ho]
  refine .ran result after o more false hrun ho hmore ?_ hjournal hdb hext (by simp) (fun _ _ _ _ => rfl)
    ?_ ?_ hknown hacts henv rfl hconn hoperations
  · rw [howner]
    rfl
  · intro a ha
    cases left with
    | error f => cases ha
    | ok b =>
        cases ha
        exact ⟨hreturned _ rfl, rfl, by simp, fun hcommitted => .inl (howner ▸ hcommitted)⟩
  · intro e he
    obtain ⟨f, rfl⟩ := hraised e he
    exact ⟨⟨_, rfl⟩, by rw [howner]⟩

theorem Exits.byCommit {α : Type} {body : M α} {w start after left : World} {a : α} {o : MaterialTransaction}
    {more : List Callback} {durable : Bool} {r : Except Error Unit} {exit : Exit α}
    (hrun : ownedBody body w.owned = (.ok a, after)) (ho : after.owner = some o)
    (hmore : after.onCommit = .markCommitted :: more) (hstart : start.db = w.db)
    (hcommit : commit start after = (r, left)) (hleft : left = after.ticked.ending start durable)
    (howner : exit.owner = o.marked exit.owner.committed)
    (hdefinite : ∀ e, exit.result = .error e → exit.owner.committed = false → exit.unknown = false →
      durable = false)
    (hreturned : ∀ b, exit.result = .ok b → a = b ∧ exit.unknown = false ∧ exit.owner.committed = true ∧
      (durable = true ∨ after.conn.aborted = true)) :
    Exits body w exit { left.ticked with owner := none } := by
  obtain ⟨-, hacts, henv, hoperations, hext⟩ := commit_left hleft hcommit
  refine .ran _ after o more durable hrun ho hmore howner ?_ ?_ ?_ (fun _ => ⟨a, rfl⟩) hdefinite ?_ ?_ ?_
    hacts henv rfl ?_ hoperations
  · rw [hleft]
    rfl
  · rw [hleft, ← hstart]
    rfl
  · exact hext.trans (hacts ▸ Interference.ticked left)
  · intro b hb
    obtain ⟨rfl, hknown, hmarked, hends⟩ := hreturned b hb
    exact ⟨rfl, hknown, fun _ => hmarked, fun _ => .inr hends⟩
  · intro e he
    cases he
  · intro e he
    cases he
  · change left.conn.inAtomic = false
    rw [hleft]
    rfl

/-- An outermost owner leaves in one of the ways `Exits` lists. -/
theorem ownedTransaction_exits {α : Type} {body : M α} (hbody : Steps Books body) (w : World) :
    ∃ exit w', ownedTransaction body w = (.ok exit, w') ∧ Exits body w exit w' := by
  rcases outermostAtomic_leaves (ownedBody body) { w with
      owner := some (MaterialTransaction.fresh w.operations), operations := w.operations + 1 } with
    hclosed | ⟨result, after, r, u, hrun, hout, hleaves⟩
  · exact ⟨_, _, ownedTransaction_run hclosed, .unopened rfl rfl⟩
  · refine ⟨_, _, ownedTransaction_run hout, ?_⟩
    obtain ⟨o, more, ho, hmore, -⟩ := ownedBody_after hbody w
    have hrun : ownedBody body w.owned = (result, after) := hrun
    rw [hrun] at ho hmore
    replace ho : after.owner = some o := ho
    replace hmore : after.onCommit = .markCommitted :: more := hmore
    cases hleaves with
    | closed hclosed =>
        refine .uncommitted hrun ho hmore rfl rfl rfl (Interference.refl _) rfl rfl rfl rfl ?_ ?_ ?_
        · intro a ha
          cases result with
          | ok b =>
              cases ha
              rfl
          | error e => cases ha
        · rintro e rfl
          exact ⟨_, rfl⟩
        · intro e he hopen
          rw [hclosed] at hopen
          cases hopen
    | raised hopen =>
        refine .uncommitted hrun ho hmore rfl rfl rfl (Interference.ticked _) rfl rfl rfl rfl ?_ ?_ ?_
        · intro a ha
          cases ha
        · intro e he
          exact ⟨_, rfl⟩
        · intro e he _ _
          rfl
    | raisedExit hopen hfault =>
        refine .uncommitted hrun ho hmore rfl rfl rfl (Interference.ticked _) rfl rfl rfl rfl ?_ ?_ ?_
        · intro a ha
          cases ha
        · intro e he
          exact ⟨_, rfl⟩
        · intro e he _ hnone
          exact absurd hnone hfault
    | marked hneeds hr =>
        refine .uncommitted hrun ho hmore rfl rfl rfl (Interference.ticked _) rfl rfl rfl rfl ?_ ?_ ?_
        · intro a ha
          rcases hr with rfl | rfl
          · cases ha
            rfl
          · cases ha
        · intro e he
          cases he
        · intro e he
          cases he
    | @uncommitted a after left e f hcommit hf =>
        obtain ⟨durable, hleft, hrejected⟩ := commit_error hcommit
        obtain ⟨howner, -⟩ := commit_left hleft hcommit
        have hexit : (exitOf w.operations (.error (.exit f) : Except AtomicFailure α) left.ticked).owner = o := by
          simp [exitOf, World.ticked, howner, ho]
        refine .byCommit hrun ho hmore rfl hcommit hleft ?_ ?_ ?_
        · rw [hexit]
          rfl
        · intro e' _ _ hknown
          have hf' : f.rejected = true := by simpa [exitOf, unknownRollback] using hknown
          rcases hf with rfl | rfl
          · exact hrejected hf'
          · cases hf'
        · intro b hb
          cases hb
    | @committed a after left _ hcommit hleave =>
        obtain ⟨durable, hleft, hdurable⟩ := commit_ok hcommit
        obtain ⟨howner, -⟩ := commit_left hleft hcommit
        rcases leaveAtomic_owner after.onCommit (howner.trans ho) with ⟨committed, hstate, hmark⟩ | hfail
        · rw [hleave] at hstate
          subst hstate
          refine .byCommit hrun ho hmore rfl hcommit hleft rfl ?_ ?_
          · intro e he
            cases he
          · intro b hb
            cases hb
            exact ⟨rfl, rfl, hmark more hmore, hdurable⟩
        · rw [hleave] at hfail
          cases hfail
    | @hookRaised a after left _ e hcommit hleave =>
        obtain ⟨durable, hleft, -⟩ := commit_ok hcommit
        obtain ⟨howner, -⟩ := commit_left hleft hcommit
        -- either the marker ran before the callback that raised, or nobody knows
        have hcases : ∃ committed, u = { left.ticked with owner := some (o.marked committed) } ∧
            (committed = true ∨ e = .operational) := by
          rcases leaveAtomic_owner after.onCommit (howner.trans ho) with ⟨committed, hstate, hmark⟩ | hfail
          · rw [hleave] at hstate
            exact ⟨committed, hstate, .inl (hmark more hmore)⟩
          · rw [hleave] at hfail
            cases hfail
            refine ⟨o.committed, ?_, .inr rfl⟩
            rw [show o.marked o.committed = o from rfl, ← ho, ← howner]
            rfl
        obtain ⟨committed, rfl, hknows⟩ := hcases
        refine .byCommit hrun ho hmore rfl hcommit hleft rfl ?_ ?_
        · intro e' _ hmark hknown
          rcases hknows with rfl | rfl
          · cases hmark
          · cases hknown
        · intro b hb
          cases hb

end NetboxOpenbao
