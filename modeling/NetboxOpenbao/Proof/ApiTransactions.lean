import NetboxOpenbao.ApiTransactions
import NetboxOpenbao.Proof.Compensation

/-!
# What an API operation answers

A response of the view reaches the caller after a commit that is known and cleaned up, or, when it reports an
error, after a rollback that is known. The exception is a view that went on after Django or the server had
marked the transaction for rollback: leaving it raises nothing.
-/

namespace NetboxOpenbao

open Effect Effect.Prog

theorem View.run_books [library : MaterialLibrary] (view : View) : Steps Books view.run := by
  induction view with
  | respond response => exact Steps.pure response
  | seq block next ih => exact Steps.bind block.run_books fun _ => ih
  | branch test yes no ihyes ihno =>
      refine Steps.bind Steps.get fun w => ?_
      split
      · exact ihyes
      · exact ihno
  | handle view handler ih ihhandler => exact Steps.tryCatch ih ihhandler
  | owned view ih => exact materialTransaction_books ih
  | savepoint view ih => exact atomic_books ih

/-! ### Staged cleanup -/

/-- Every deletion was carried out, and its audit row updated. -/
inductive Cleaned (owner : MaterialTransaction) : List MaterialAttempt → World → World → Prop
  | nil (w : World) : Cleaned owner [] w w
  | cons {deletion : MaterialAttempt} {rest : List MaterialAttempt} {w u v : World}
      (hremove : removeDeletion owner deletion w = (.ok (), u)) (hrest : Cleaned owner rest u v) :
      Cleaned owner (deletion :: rest) w v

theorem finishEach_cleaned {owner : MaterialTransaction} {deletions : List MaterialAttempt} {w v : World}
    (h : finishEach owner deletions w = (.ok false, v)) : Cleaned owner deletions w v := by
  induction deletions generalizing w with
  | nil =>
      cases h
      exact .nil _
  | cons deletion rest ih =>
      obtain ⟨incomplete, u, hfirst, h⟩ := bind_ok h
      obtain ⟨others, v', hothers, h⟩ := bind_ok h
      obtain ⟨hnone, rfl⟩ := pure_ok h
      obtain ⟨rfl, rfl⟩ := Bool.or_eq_false_iff.mp hnone
      refine .cons ?_ (ih hothers)
      unfold finishDeletion at hfirst
      rw [tryCatch_run, bind_run] at hfirst
      match hremove : removeDeletion owner deletion w with
      | (.ok (), t) =>
          rw [hremove] at hfirst
          cases hfirst
          rfl
      | (.error e, t) =>
          rw [hremove] at hfirst
          obtain ⟨_, x, -, hreport⟩ := bind_ok hfirst
          cases hreport

theorem finishDeletions_ok {owner : MaterialTransaction} {w v : World}
    (h : finishDeletions owner w = (.ok (), v)) : Cleaned owner owner.deletions w v := by
  unfold finishDeletions at h
  obtain ⟨_, u, hraise, hrest⟩ := bind_ok h
  obtain ⟨-, hu⟩ := raiseIf_ok hraise
  obtain ⟨incomplete, t, heach, hend⟩ := bind_ok hrest
  obtain ⟨hcomplete, ht⟩ := raiseIf_ok hend
  rw [hcomplete, hu] at heach
  rw [ht]
  exact finishEach_cleaned heach

theorem finishDeletions_nil {owner : MaterialTransaction} (h : owner.deletions = []) (w : World) :
    finishDeletions owner w = (.ok (), w) := by
  unfold finishDeletions
  rw [h]
  rfl

/-! ### Leaving -/

theorem commit_done {start after left : World} (h : commit start after = (.ok (), left)) :
    left = after.ticked.ending start !after.conn.aborted := by
  unfold commit at h
  simp only at h
  split at h
  · cases h
  · split at h
    · cases h
      rfl
    · cases h
    · cases h
    · cases h

/-- A transaction left without an exception is durable, unless it was to be rolled back. -/
theorem leaveOutermost_ok {α : Type} {start after u : World} {a b : α} {o : MaterialTransaction}
    (ho : after.owner = some o) (h : leaveOutermost start (.ok a) after = (.ok (.ok b), u)) :
    b = a ∧ ∃ durable, u.journal = after.journal ++ [.ended durable] ∧
      (durable = true ↔ after.conn.closed = false ∧ after.conn.needsRollback = false ∧
        after.conn.aborted = false) := by
  unfold leaveOutermost at h
  rw [bind_run_ok (get_run after)] at h
  cases hclosed : after.conn.closed with
  | true =>
      rw [hclosed, if_pos rfl, bind_run_ok (modify_run _ after)] at h
      cases h
      exact ⟨rfl, false, rfl, by simp⟩
  | false =>
      rw [hclosed, if_neg Bool.false_ne_true] at h
      simp only at h
      cases hmarked : after.conn.needsRollback with
      | true =>
          rw [hmarked, if_pos rfl, bind_run_ok (modify_run _ after)] at h
          rcases finishing_nil (.ok a) (after.ending start false) with hrun | ⟨hrun, -⟩
          · rw [hrun] at h
            cases h
            exact ⟨rfl, false, rfl, by simp⟩
          · rw [hrun] at h
            cases h
      | false =>
          rw [hmarked, if_neg Bool.false_ne_true, bind_run_ok (attempt_run _ after)] at h
          match hcommit : commit start after with
          | (.error e, left) =>
              rw [hcommit] at h
              rcases finishing_nil (α := α) (.error (.exit e)) left with hrun | ⟨hrun, -⟩ <;>
              · simp only [hrun] at h
                cases h
          | (.ok (), left) =>
              rw [hcommit] at h
              simp only at h
              have hleft := commit_done hcommit
              have howner : left.owner = some o := by rw [hleft]; exact ho
              unfold finishing at h
              rw [tryCatch_run, bind_run] at h
              match hleave : leaveAtomic after.onCommit left with
              | (.error e, v) =>
                  rw [hleave] at h
                  cases h
              | (.ok (), v) =>
                  rw [hleave] at h
                  obtain ⟨hout, hv⟩ := Prod.mk.inj h
                  cases hout
                  subst hv
                  have hjournal : v.journal = left.journal := by
                    have hstate : (leaveAtomic after.onCommit left).2 = v := congrArg Prod.snd hleave
                    rcases leaveAtomic_owner after.onCommit howner with ⟨committed, hrun, -⟩ | hrun
                    · rw [hrun] at hstate
                      rw [← hstate]
                      rfl
                    · rw [hrun] at hleave
                      cases hleave
                  refine ⟨rfl, !after.conn.aborted, ?_, by simp⟩
                  rw [hjournal, hleft]
                  rfl

theorem ownedTransaction_entered {α : Type} {body : M α} {w after u : World} {result : Except Error α}
    {left : Except AtomicFailure α} (hfault : w.env.fault w.clock = .none)
    (hbody : ownedBody body w.owned = (result, after)) (hleave : leaveOutermost w.owned result after = (.ok left, u)) :
    ownedTransaction body w = (.ok (exitOf w.operations left u), { u with owner := none }) := by
  let started : World := { w with
    owner := some (MaterialTransaction.fresh w.operations), operations := w.operations + 1 }
  have htick : tick started = (.ok (w.env.fault w.clock), started.ticked) := rfl
  refine ownedTransaction_run ?_
  unfold outermostAtomic
  rw [bind_run_ok htick, hfault]
  simp only
  rw [bind_run_ok (modify_run _ started.ticked), bind_run_ok (get_run _), bind_run_ok (attempt_run _ _)]
  change leaveOutermost w.owned (ownedBody body w.owned).1 (ownedBody body w.owned).2 = _
  rw [hbody]
  exact hleave

theorem ownedTransaction_returned {α : Type} {body : M α} {w left : World} {exit : Exit α} {a : α}
    (h : ownedTransaction body w = (.ok exit, left)) (hok : exit.result = .ok a) :
    w.env.fault w.clock = .none ∧ ∃ result after u, ownedBody body w.owned = (result, after) ∧
      leaveOutermost w.owned result after = (.ok (.ok a), u) ∧ exit = exitOf w.operations (.ok a) u ∧
      left = { u with owner := none } := by
  cases hfault : w.env.fault w.clock with
  | none =>
      obtain ⟨r, u, hleave, -⟩ :=
        leaveOutermost_leaves w.owned (ownedBody body w.owned).2 (ownedBody body w.owned).1
      rw [ownedTransaction_entered hfault rfl hleave] at h
      obtain ⟨hexit, rfl⟩ := Prod.mk.inj h
      obtain rfl := Except.ok.inj hexit
      cases r with
      | error failure => cases hok
      | ok b =>
          cases hok
          exact ⟨rfl, _, _, u, rfl, hleave, rfl, rfl⟩
  | refused | lost | commitFailed f =>
      let started : World := { w with
        owner := some (MaterialTransaction.fresh w.operations), operations := w.operations + 1 }
      have htick : tick started = (.ok (w.env.fault w.clock), started.ticked) := rfl
      have hout : outermostAtomic (ownedBody body) started = (.ok (.error (.exit .operational)), started.ticked) := by
        unfold outermostAtomic
        rw [bind_run_ok htick, hfault]
        rfl
      rw [ownedTransaction_run hout] at h
      obtain ⟨hexit, -⟩ := Prod.mk.inj h
      obtain rfl := Except.ok.inj hexit
      cases hok

/-! ### The answer -/

theorem settle_error {α : Type} {exit : Exit α} {e : Error} (h : exit.result = .error e) (w : World) :
    ∃ f u, settle exit w = (.error f, u) := by
  unfold settle
  rw [h]
  simp only
  match hrun : recover exit.owner exit.unknown w with
  | (.ok (), u) => exact ⟨e, u, by rw [bind_run_ok hrun]; rfl⟩
  | (.error f, u) => exact ⟨f, u, by rw [bind_run_error hrun]⟩

/-- What is answered after a failure: that the outcome is unknown, or an error of the view's own after a rollback
that is known. -/
theorem answerFailure_ok {known : Bool} {response : Option Response} {error : Error} {r : Response} {w u : World}
    (h : answerFailure known response error w = (.ok r, u)) :
    r = Response.unknownOutcome ∨ known = true ∧ response = some r ∧ 400 ≤ r.status := by
  unfold answerFailure at h
  split at h
  · exact .inl (pure_ok h).1.symm
  · split at h
    · split at h
      · next hstatus =>
          obtain ⟨rfl, -⟩ := pure_ok h
          exact .inr ⟨rfl, rfl, hstatus⟩
      · exact (throw_ok h).elim
    · exact (throw_ok h).elim
  · exact (throw_ok h).elim

theorem materialApiOperation_run {view : M Response} {w left : World} {exit : Exit Response} (hidle : w.Idle)
    (h : ownedTransaction view w = (.ok exit, left)) :
    materialApiOperation view w =
      (tryCatch (settle exit) (answerFailure exit.knownRollback (assigned view w)) : M Response) left := by
  have hraise : raiseIf w.conn.inAtomic (.openbao .base
      "An outer material transaction requires autocommit before application transactions.") w = (.ok (), w) := by
    rw [hidle.inAtomic]
    rfl
  unfold materialApiOperation
  rw [bind_run_ok (get_run w), hidle.owner]
  simp only
  rw [bind_run_ok hraise, bind_run_ok h]

theorem materialApiOperation_failed {view : M Response} {w left : World} {exit : Exit Response} {e : Error}
    (hidle : w.Idle) (h : ownedTransaction view w = (.ok exit, left)) (herror : exit.result = .error e) :
    ∃ f u, materialApiOperation view w = answerFailure exit.knownRollback (assigned view w) f u := by
  obtain ⟨f, u, hsettle⟩ := settle_error herror left
  refine ⟨f, u, ?_⟩
  rw [materialApiOperation_run hidle h, tryCatch_run, hsettle]

theorem materialApiOperation_cleaned {view : M Response} {w left u : World} {exit : Exit Response} {r : Response}
    (hidle : w.Idle) (h : ownedTransaction view w = (.ok exit, left)) (hok : exit.result = .ok r)
    (hfinish : finishDeletions exit.owner left = (.ok (), u)) : materialApiOperation view w = (.ok r, u) := by
  have hsettle : settle exit left = (.ok r, u) := by
    unfold settle
    rw [hok]
    simp only
    rw [bind_run_ok hfinish]
    rfl
  rw [materialApiOperation_run hidle h, tryCatch_run, hsettle]

theorem materialApiOperation_incomplete {view : M Response} {w left u : World} {exit : Exit Response}
    {r : Response} {e : Error} (hidle : w.Idle) (h : ownedTransaction view w = (.ok exit, left))
    (hok : exit.result = .ok r) (hfinish : finishDeletions exit.owner left = (.error e, u)) :
    materialApiOperation view w = answerFailure false (assigned view w) e u := by
  have hsettle : settle exit left = (.error e, u) := by
    unfold settle
    rw [hok]
    simp only
    rw [bind_run_error hfinish]
  have hknown : exit.knownRollback = false := by
    unfold Exit.knownRollback
    rw [hok]
  rw [materialApiOperation_run hidle h, tryCatch_run, hsettle, hknown]

/-- The transaction is committed, the owner knows, and every staged deletion was carried out and reported. -/
structure Exit.Completes (exit : Exit Response) (left : World) : Prop where
  committed : exit.owner.committed = true
  durable : left.journal.getLast? = some (.ended true)
  cleaned : ∃ u, Cleaned exit.owner exit.owner.deletions left u

section

variable [library : MaterialLibrary]

/-- What an API operation may answer with. -/
structure View.Reliable (view : View) (w : World) : Prop where
  success : ∀ r u, materialApiOperation view.run w = (.ok r, u) → r.status < 400 →
    ∃ exit left, ownedTransaction view.run w = (.ok exit, left) ∧ exit.result = .ok r ∧ exit.Completes left
  refused : ∀ exit left e r u, ownedTransaction view.run w = (.ok exit, left) → exit.result = .error e →
    materialApiOperation view.run w = (.ok r, u) → r = Response.unknownOutcome ∨
      assigned view.run w = some r ∧ 400 ≤ r.status ∧ exit.knownRollback = true ∧
        left.db.credentials = w.db.credentials ∧ left.db.accessLog = w.db.accessLog
  incomplete : ∀ exit left a e v r u, ownedTransaction view.run w = (.ok exit, left) → exit.result = .ok a →
    finishDeletions exit.owner left = (.error e, v) → materialApiOperation view.run w = (.ok r, u) →
    r = Response.unknownOutcome

/-- The view answers success on a connection that Django, or the server, will roll back when it is left, and
leaving it raises nothing. -/
def View.Swallows (view : View) (w : World) : Prop :=
  w.env.fault w.clock = .none ∧ ∃ r after, ownedBody view.run w.owned = (.ok r, after) ∧ r.status < 400 ∧
    (after.conn.closed = true ∨ after.conn.needsRollback = true ∨ after.conn.aborted = true) ∧
    ∃ u, leaveOutermost w.owned (.ok r) after = (.ok (.ok r), u)

omit library in
theorem Exits.undone {α : Type} {body : M α} {w left : World} {exit : Exit α} {e : Error}
    (h : Exits body w exit left) (herror : exit.result = .error e) (hknown : exit.knownRollback = true) :
    left.db.credentials = w.db.credentials ∧ left.db.accessLog = w.db.accessLog := by
  have hdefinite : exit.unknown = false ∧ exit.owner.committed = false := by
    unfold Exit.knownRollback at hknown
    rw [herror] at hknown
    simpa using hknown
  cases h with
  | unopened hexit hw' =>
      rw [hexit] at hdefinite
      cases hdefinite.1
  | ran result after o more durable hrun ho honCommit howner hjournal hdb hext hdurable hdefinite'
      hreturned hraised hknown' hacts henv hnone hconn hoperations =>
      have hundone : durable = false := hdefinite' e herror hdefinite.2 hdefinite.1
      rw [hdb, hundone]
      exact ⟨rfl, rfl⟩

/-- With material recorded, a view that returns leaves a connection that will commit. -/
theorem View.not_swallows_of_recorded {view : View} {w after : World} {r : Response} {o : MaterialTransaction}
    (hrun : ownedBody view.run w.owned = (.ok r, after)) (ho : after.owner = some o)
    (hrecorded : o.attempts ++ o.deletions ≠ []) :
    after.conn.closed = false ∧ after.conn.needsRollback = false ∧ after.conn.aborted = false := by
  have hopen := (ownedBody_ok hrun ho).open' hrecorded
  obtain ⟨o', -, -, -, hentry⟩ := ownedBody_after view.run_books w
  rw [hrun] at hentry
  have hinside : after.conn.inAtomic = true := hentry.inAtomic
  unfold Connection.refuses at hopen
  rw [hinside, Bool.true_and] at hopen
  simp only [Bool.or_eq_false_iff] at hopen
  exact ⟨hopen.1.1.2, hopen.1.1.1, hopen.1.2⟩

/-- A view that swallows is answered for although nothing was committed. -/
theorem View.Swallows.answered {view : View} {w : World} (hidle : w.Idle) (h : view.Swallows w) :
    ∃ r u exit left, materialApiOperation view.run w = (.ok r, u) ∧ r.status < 400 ∧
      ownedTransaction view.run w = (.ok exit, left) ∧ left.journal.getLast? = some (.ended false) := by
  obtain ⟨hfault, r, after, hbody, hstatus, hrefused, u, hleave⟩ := h
  obtain ⟨o, -, ho, -, -⟩ := ownedBody_after view.run_books w
  rw [hbody] at ho
  have hrun := ownedTransaction_entered hfault hbody hleave
  have hdeletions : o.deletions = [] := by
    by_cases hrecorded : o.attempts ++ o.deletions = []
    · exact (List.append_eq_nil_iff.mp hrecorded).2
    · obtain ⟨hclosed, hneeds, haborted⟩ := View.not_swallows_of_recorded hbody ho hrecorded
      rcases hrefused with h | h | h
      · rw [hclosed] at h
        cases h
      · rw [hneeds] at h
        cases h
      · rw [haborted] at h
        cases h
  have hnone : (exitOf w.operations (.ok r) u).owner.deletions = [] := by
    obtain ⟨exit, left, hrun', hexits⟩ := ownedTransaction_exits view.run_books w
    rw [hrun] at hrun'
    obtain ⟨hexit, -⟩ := Prod.mk.inj hrun'
    obtain rfl := Except.ok.inj hexit
    cases hexits with
    | unopened hexit => cases congrArg Exit.result hexit
    | ran result after' o' more durable hrun ho' honCommit howner =>
        rw [hbody] at hrun
        obtain ⟨-, rfl⟩ := Prod.mk.inj hrun
        obtain rfl : o = o' := Option.some.inj (ho.symm.trans ho')
        rw [howner]
        exact hdeletions
  obtain ⟨-, durable, hjournal, hdurable⟩ := leaveOutermost_ok ho hleave
  have hundone : durable = false := by
    rw [← Bool.not_eq_true, hdurable]
    rintro ⟨hclosed, hneeds, haborted⟩
    rw [hclosed, hneeds, haborted] at hrefused
    simp at hrefused
  refine ⟨r, _, _, _, materialApiOperation_cleaned hidle hrun rfl (finishDeletions_nil hnone _), hstatus, hrun, ?_⟩
  change u.journal.getLast? = _
  rw [hjournal, hundone]
  simp

/-- A success of a view that does not swallow was committed, and the owner knows. -/
theorem Exits.completes_of_not_swallowed {view : View} {w left : World} {exit : Exit Response} {r : Response}
    (h : Exits view.run w exit left) (hrun : ownedTransaction view.run w = (.ok exit, left))
    (hok : exit.result = .ok r) (hnot : ¬ view.Swallows w) (hstatus : r.status < 400) :
    exit.owner.committed = true ∧ left.journal.getLast? = some (.ended true) := by
  obtain ⟨hfault, result, after, v, hbody, hleave, -, hleft⟩ := ownedTransaction_returned hrun hok
  cases h with
  | unopened hexit hw' =>
      rw [hexit] at hok
      cases hok
  | ran result' after' o more durable hrun' ho honCommit howner hjournal hdb hext hdurable hdefinite hreturned =>
      rw [hbody] at hrun'
      obtain ⟨rfl, rfl⟩ := Prod.mk.inj hrun'
      obtain ⟨rfl, -, hcommitted, -⟩ := hreturned r hok
      obtain ⟨-, durable', hjournal', hgood⟩ := leaveOutermost_ok ho hleave
      have hcommits : durable' = true := by
        rw [hgood]
        by_cases hrefused : after.conn.closed = true ∨ after.conn.needsRollback = true ∨ after.conn.aborted = true
        · exact absurd ⟨hfault, r, after, hbody, hstatus, hrefused, v, hleave⟩ hnot
        · simpa [not_or] using hrefused
      have hsame : left.journal = v.journal := by rw [hleft]
      rw [hsame, hjournal', hcommits] at hjournal
      have hlast := List.append_cancel_left hjournal
      cases hlast
      refine ⟨hcommitted rfl, ?_⟩
      rw [hsame, hjournal', hcommits]
      simp

/-- Every view, whatever it raises and swallows, and whatever becomes of its transaction and of the cleanup: a
success is answered only after a commit that is known and a cleanup that is complete, a response of the view to a
failed owner only if it reports an error and the rollback is known, and everything else is replaced, if and only
if the view does not go on to a success on a connection that will be rolled back without an exception. -/
theorem api_reliable_iff_not_swallowed (view : View) (w : World) (hidle : w.Idle) :
    view.Reliable w ↔ ¬ view.Swallows w := by
  obtain ⟨exit, left, hrun, hexits⟩ := ownedTransaction_exits view.run_books w
  constructor
  · intro hreliable hswallows
    obtain ⟨r, u, exit', left', hok, hstatus, hrun', hlast⟩ := hswallows.answered hidle
    obtain ⟨exit'', left'', hrun'', -, hcompletes⟩ := hreliable.success r u hok hstatus
    rw [hrun''] at hrun'
    cases hrun'
    rw [hcompletes.durable] at hlast
    cases hlast
  · intro hnot
    refine ⟨fun r u hok hstatus => ?_, fun exit' left' e r u hrun' herror hok => ?_,
      fun exit' left' a e v r u hrun' hreturned hfinish hok => ?_⟩
    · -- a success is no answer to a failure, so the owner returned and its cleanup did
      cases hresult : exit.result with
      | error e =>
          obtain ⟨f, v, hanswer⟩ := materialApiOperation_failed hidle hrun hresult
          rw [hanswer] at hok
          rcases answerFailure_ok hok with rfl | ⟨-, -, herror⟩
          · exact absurd hstatus (by decide)
          · omega
      | ok a =>
          have hcompletes := hexits.completes_of_not_swallowed hrun hresult hnot
          match hfinish : finishDeletions exit.owner left with
          | (.error e, v) =>
              rw [materialApiOperation_incomplete hidle hrun hresult hfinish] at hok
              rcases answerFailure_ok hok with rfl | ⟨hknown, -⟩
              · exact absurd hstatus (by decide)
              · cases hknown
          | (.ok (), v) =>
              rw [materialApiOperation_cleaned hidle hrun hresult hfinish] at hok
              obtain ⟨hr, -⟩ := Prod.mk.inj hok
              obtain rfl := Except.ok.inj hr
              obtain ⟨hcommitted, hdurable⟩ := hcompletes hstatus
              exact ⟨exit, left, hrun, hresult, hcommitted, hdurable, v, finishDeletions_ok hfinish⟩
    · obtain ⟨rfl, rfl⟩ : exit' = exit ∧ left' = left := by
        rw [hrun] at hrun'
        cases hrun'
        exact ⟨rfl, rfl⟩
      obtain ⟨f, v, hanswer⟩ := materialApiOperation_failed hidle hrun herror
      rw [hanswer] at hok
      rcases answerFailure_ok hok with hunknown | ⟨hknown, hassigned, hstatus⟩
      · exact .inl hunknown
      · exact .inr ⟨hassigned, hstatus, hknown, hexits.undone herror hknown⟩
    · rw [materialApiOperation_incomplete hidle hrun' hreturned hfinish] at hok
      rcases answerFailure_ok hok with hunknown | ⟨hknown, -⟩
      · exact hunknown
      · cases hknown

end

namespace Sample

def okay : Response := ⟨200, .null, []⟩

def rotateView : View :=
  .seq (.call (.operation (.rotate (credential "password") [("password", .str "new")] none none))) (.respond okay)

/-- A view that goes on after a save of its own has failed. -/
def swallowing : View :=
  .seq (.handle (.edit fun _ => .error .operational) fun _ => .done) (.respond okay)

end Sample

theorem api_reliable_iff_not_swallowed_rotate : @View.Reliable Sample.library Sample.rotateView Sample.world := by
  have hend : (ownedBody (@View.run Sample.library Sample.rotateView) Sample.world.owned).2.conn =
      Connection.begun := by
    decide +kernel
  refine (@api_reliable_iff_not_swallowed Sample.library Sample.rotateView Sample.world
    (Site.start_idle _ _ _)).mpr ?_
  rintro ⟨_, r, after, hbody, _, hrefused, _⟩
  rw [hbody] at hend
  rw [show after.conn = Connection.begun from hend] at hrefused
  revert hrefused
  decide

theorem swallowed_failure_answers_success :
    (materialApiOperation (@View.run Sample.library Sample.swallowing) Sample.world).1.toOption.map (·.status) =
      some 200 ∧
    (ownedTransaction (@View.run Sample.library Sample.swallowing) Sample.world).2.journal = [.ended false] ∧
    ¬ @View.Reliable Sample.library Sample.swallowing Sample.world := by
  have hanswer : (materialApiOperation (@View.run Sample.library Sample.swallowing)
      Sample.world).1.toOption.map (·.status) = some 200 := by
    decide +kernel
  have hjournal : (ownedTransaction (@View.run Sample.library Sample.swallowing) Sample.world).2.journal =
      [.ended false] := by
    decide +kernel
  refine ⟨hanswer, hjournal, fun h => ?_⟩
  match hrun : materialApiOperation (@View.run Sample.library Sample.swallowing) Sample.world with
  | (.error e, u) =>
      rw [hrun] at hanswer
      cases hanswer
  | (.ok r, u) =>
      rw [hrun] at hanswer
      have hstatus : r.status = 200 := Option.some.inj hanswer
      obtain ⟨exit, left, howned, -, hcompletes⟩ :=
        @View.Reliable.success Sample.library _ _ h r u hrun (by omega)
      rw [howned] at hjournal
      have hlast := hcompletes.durable
      rw [show left.journal = _ from hjournal] at hlast
      cases hlast

end NetboxOpenbao
