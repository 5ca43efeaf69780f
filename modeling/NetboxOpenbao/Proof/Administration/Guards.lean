import NetboxOpenbao.Administration.ClusterViews
import NetboxOpenbao.Effect.Guarded
import NetboxOpenbao.Proof.Administration.Plane

/-!
# Rows that are durable before a call is made

What a history shows of an audit row that had to be durable: its block was an outermost one, and each of its statements
was answered.
-/

namespace NetboxOpenbao

open Effect Dialogue

/-- The statements of the block around a row that had to be durable, each of them answered. In autocommit mode they are
a transaction of their own. -/
def durableBlock (mode : ConnectionMode) (row : AdministrationLog) : List PlaneExchange :=
  if mode.autocommit then [⟨.begin, .ok ()⟩, ⟨.insertLog row, .ok ()⟩, ⟨.commit, .ok ()⟩]
  else [⟨.savepoint, .ok ()⟩, ⟨.insertLog row, .ok ()⟩, ⟨.releaseSavepoint, .ok ()⟩]

theorem durableBlock_writes {mode : ConnectionMode} {row : AdministrationLog} {x : PlaneExchange}
    (hx : x ∈ durableBlock mode row) : x.request.writesLog = true := by
  have hall : ∀ x ∈ durableBlock mode row, x.request.writesLog = true := by
    unfold durableBlock
    split <;> simp [AdminAsk.writesLog]
  exact hall x hx

section

variable {mode : ConnectionMode} {h : List PlaneExchange}

theorem atomicBlock_durable {body : Admin Unit} (he : Ends (atomicBlock mode true body) h (.ok ())) :
    mode.inAtomicBlock = false ∧ ∃ inside, Ends body inside (.ok ()) ∧
      h = if mode.autocommit then ⟨.begin, .ok ()⟩ :: (inside ++ [⟨.commit, .ok ()⟩])
        else ⟨.savepoint, .ok ()⟩ :: (inside ++ [⟨.releaseSavepoint, .ok ()⟩]) := by
  unfold atomicBlock at he
  split at he
  · exact absurd he Ends.raise_ok
  · next houter =>
      have houtermost : mode.inAtomicBlock = false := by simpa using houter
      refine ⟨houtermost, ?_⟩
      cases hcommit : mode.autocommit with
      | false =>
          simp only [houtermost, hcommit, Bool.not_false, Bool.or_true, if_true] at he
          obtain ⟨⟨⟩, rest, rfl, hrest⟩ := Admin.ask_ok he
          obtain ⟨h₁, h₂, outcome, rfl, hbody, hend⟩ := hrest.bind_attempt
          cases outcome with
          | ok u =>
              refine ⟨h₁, hbody, ?_⟩
              rw [Ends.request hend]
              rfl
          | error error =>
              obtain ⟨_, _, _, _, _, hraise⟩ := hend.bind_ok
              exact absurd hraise Ends.raise_ok
      | true =>
          simp only [houtermost, hcommit, Bool.not_true, Bool.or_false, Bool.false_eq_true, if_false] at he
          obtain ⟨⟨⟩, rest, rfl, hrest⟩ := Admin.ask_ok he
          obtain ⟨h₁, h₂, outcome, rfl, hblock, hend⟩ := hrest.bind_attempt
          cases outcome with
          | ok u =>
              obtain ⟨inside, hclose, u', rfl, hbody, hcommitted⟩ := hblock.bind_ok
              obtain ⟨rfl, -⟩ := Ends.pure_ok hend
              refine ⟨inside, hbody, ?_⟩
              rw [Ends.request hcommitted, List.append_nil]
              rfl
          | error error =>
              obtain ⟨_, _, _, _, _, hraise⟩ := hend.bind_ok
              exact absurd hraise Ends.raise_ok

/-- A row that had to be durable was inserted in an outermost block, and the block has ended. -/
theorem logAdministration_durable {cluster : OpenBaoCluster} {request : PlaneRequest} {entry : AuditEntry}
    (he : Ends (logAdministration mode cluster request entry true) h (.ok ())) :
    mode.inAtomicBlock = false ∧ h = durableBlock mode (entry.row cluster request) := by
  unfold logAdministration at he
  obtain ⟨h₁, h₂, outcome, rfl, hblock, hend⟩ := he.bind_attempt
  cases outcome with
  | error error => exact absurd hend Ends.raise_ok
  | ok u =>
      obtain ⟨rfl, -⟩ := Ends.pure_ok hend
      obtain ⟨houtermost, inside, hbody, hhistory⟩ := atomicBlock_durable hblock
      refine ⟨houtermost, ?_⟩
      split at hbody
      · exact absurd hbody Ends.raise_ok
      · rw [List.append_nil, hhistory, Ends.request hbody]
        rfl

theorem Admin.raiseIf_ends {condition : Bool} {error : Error} (he : Ends (Admin.raiseIf condition error) h (.ok ())) :
    condition = false ∧ h = [] := by
  cases condition with
  | true => exact absurd he Ends.raise_ok
  | false => exact ⟨rfl, (Ends.pure_ok he).1⟩

theorem logAdministration_error {cluster : OpenBaoCluster} {request : PlaneRequest} {entry : AuditEntry}
    {durable : Bool} {error : Error} (he : Ends (logAdministration mode cluster request entry durable) h (.error error)) :
    error = auditError := by
  unfold logAdministration at he
  obtain ⟨h₁, h₂, block, -, -, hlast⟩ := he.bind_attempt
  cases block with
  | ok u =>
      obtain ⟨-, hdone⟩ := Talks.done hlast
      cases hdone
  | error err =>
      obtain ⟨-, hdone⟩ := Talks.done hlast
      exact Except.error.inj (Dialogue.done.inj hdone)

/-- Outside any atomic block a row is written the same way whether or not it has to be durable. -/
theorem logAdministration_outermost {cluster : OpenBaoCluster} {request : PlaneRequest} {entry : AuditEntry}
    (houtermost : mode.inAtomicBlock = false) :
    logAdministration mode cluster request entry false = logAdministration mode cluster request entry true := by
  have hblock : ∀ body : Admin Unit, atomicBlock mode false body = atomicBlock mode true body := by
    intro body
    unfold atomicBlock
    simp only [houtermost, Bool.and_false]
  unfold logAdministration
  simp only [hblock]

theorem logAdministration_ends {cluster : OpenBaoCluster} {request : PlaneRequest} {entry : AuditEntry}
    (houtermost : mode.inAtomicBlock = false) (hfits : entry.targetIdentifiers.length ≤ 256) :
    Ends (logAdministration mode cluster request entry true) (durableBlock mode (entry.row cluster request))
      (.ok ()) := by
  obtain ⟨inAtomicBlock, autocommit⟩ := mode
  obtain rfl : inAtomicBlock = false := houtermost
  unfold logAdministration
  rw [if_neg (Nat.not_lt.mpr hfits)]
  cases autocommit <;>
  · iterate 3 refine Talks.of_ask rfl _ ?_
    exact .start _

theorem logAdministration_ok_iff {cluster : OpenBaoCluster} {request : PlaneRequest} {entry : AuditEntry}
    (houtermost : mode.inAtomicBlock = false) (hfits : entry.targetIdentifiers.length ≤ 256)
    {outcome : Except Error Unit} (he : Ends (logAdministration mode cluster request entry false) h outcome) :
    outcome = .ok () ↔ h = durableBlock mode (entry.row cluster request) := by
  rw [logAdministration_outermost houtermost] at he
  constructor
  · rintro rfl
    exact (logAdministration_durable he).2
  · rintro rfl
    exact he.unique (logAdministration_ends houtermost hfits)

theorem logBestEffort_ends {cluster : OpenBaoCluster} {request : PlaneRequest} {entry : AuditEntry}
    {result : Except Error Bool} (he : Ends (logBestEffort mode cluster request entry) h result) :
    ∃ complete, result = .ok complete := by
  unfold logBestEffort at he
  obtain ⟨h₁, h₂, outcome, -, hlog, hend⟩ := he.bind_attempt
  cases outcome with
  | ok u =>
      obtain ⟨-, hdone⟩ := Talks.done hend
      exact ⟨true, Dialogue.done.inj hdone⟩
  | error error =>
      obtain rfl := logAdministration_error hlog
      obtain ⟨-, hdone⟩ := Talks.done hend
      exact ⟨false, Dialogue.done.inj hdone⟩

theorem backendFailure_ends {α : Type} {cluster : OpenBaoCluster} {request : PlaneRequest}
    {action reason riskLevel : String} {error : Error} {result : Except Error α}
    (he : Ends (backendFailure mode cluster request action reason riskLevel error) h result) :
    ∃ err, result = .error err := by
  unfold backendFailure at he
  rcases he.bind with ⟨err, -, hsame⟩ | ⟨h₁, h₂, complete, -, -, hend⟩
  · exact ⟨err, hsame⟩
  · obtain ⟨-, hdone⟩ := Talks.done hend
    exact ⟨_, Dialogue.done.inj hdone⟩

/-- A program that checks, records that a call is authorized, and makes it: when it comes to the call, the checks have
passed and the row is durable. -/
theorem authorize_pending {α β : Type} {cluster : OpenBaoCluster} {request : PlaneRequest} {check : Admin α}
    {entry : α → AuditEntry} {producer : α → Admin β} {P : AdminAsk → Prop}
    (hlog : ∀ r : AdminAsk, r.writesLog = true → ¬ P r) (hcheck : check.Avoids P) {e : Admin β}
    (ht : Talks (check >>= fun a => logAdministration mode cluster request (entry a) true >>= fun _ => producer a) h e)
    {r : AdminAsk} (hr : e.pending = some r) (hP : P r) :
    ∃ a checking calling, Ends check checking (.ok a) ∧ mode.inAtomicBlock = false ∧
      h = checking ++ (durableBlock mode ((entry a).row cluster request) ++ calling) ∧ Talks (producer a) calling e := by
  obtain ⟨checking, after, a, rfl, hchecked, hauthorizing⟩ := ht.bind_pending hcheck hr hP
  obtain ⟨block, calling, u, rfl, hblock, hcalling⟩ :=
    hauthorizing.bind_pending (logAdministration_avoids hlog _ _) hr hP
  obtain ⟨houtermost, rfl⟩ := logAdministration_durable hblock
  exact ⟨a, checking, calling, hchecked, houtermost, rfl, hcalling⟩

theorem logBestEffort_complete_iff {cluster : OpenBaoCluster} {request : PlaneRequest} {entry : AuditEntry}
    (houtermost : mode.inAtomicBlock = false) (hfits : entry.targetIdentifiers.length ≤ 256) {complete : Bool}
    (he : Ends (logBestEffort mode cluster request entry) h (.ok complete)) :
    complete = true ↔ h = durableBlock mode (entry.row cluster request) := by
  unfold logBestEffort at he
  obtain ⟨h₁, h₂, outcome, rfl, hlog, hend⟩ := he.bind_attempt
  have hwritten := logAdministration_ok_iff houtermost hfits hlog
  cases outcome with
  | ok u =>
      obtain ⟨rfl, rfl⟩ := Ends.pure_ok hend
      rw [List.append_nil]
      exact iff_of_true rfl (hwritten.mp rfl)
  | error error =>
      obtain rfl := logAdministration_error hlog
      obtain ⟨rfl, rfl⟩ := Ends.pure_ok hend
      rw [List.append_nil]
      exact iff_of_false Bool.false_ne_true fun hsame => by cases hwritten.mpr hsame

/-- The row about a mutation of unknown outcome. -/
def unknownEntry (entry : AuditEntry) : AuditEntry :=
  { entry with
    outcome := "unknown"
    success := false
    statusCode := some 503
    message := "The cluster mutation outcome is unknown; no request material was retained." }

theorem mutationUnknownResponse_ends {cluster : OpenBaoCluster} {request : PlaneRequest} {entry : AuditEntry}
    (hfits : entry.targetIdentifiers.length ≤ 256) {result : Except Error PlaneResponse}
    (he : Ends (mutationUnknownResponse mode cluster request entry) h result) :
    ∃ status, result = .ok (unknownResponse status) ∧ (status = "best-effort" ∨ status = "failed") ∧
      (mode.inAtomicBlock = false →
        (status = "best-effort" ↔ h = durableBlock mode ((unknownEntry entry).row cluster request))) := by
  unfold mutationUnknownResponse at he
  obtain ⟨h₁, h₂, outcome, rfl, hlog, hend⟩ := he.bind_attempt
  replace hlog : Ends (logAdministration mode cluster request (unknownEntry entry) false) h₁ outcome := hlog
  replace hfits : (unknownEntry entry).targetIdentifiers.length ≤ 256 := hfits
  have hwritten := fun houtermost => logAdministration_ok_iff houtermost hfits hlog
  cases outcome with
  | ok u =>
      obtain ⟨rfl, hdone⟩ := Talks.done hend
      refine ⟨"best-effort", Dialogue.done.inj hdone, .inl rfl, fun houtermost => ?_⟩
      rw [List.append_nil]
      exact iff_of_true rfl ((hwritten houtermost).mp rfl)
  | error error =>
      obtain rfl := logAdministration_error hlog
      obtain ⟨rfl, hdone⟩ := Talks.done hend
      refine ⟨"failed", Dialogue.done.inj hdone, .inr rfl, fun houtermost => ?_⟩
      rw [List.append_nil]
      exact iff_of_false (by decide) fun hsame => by cases (hwritten houtermost).mpr hsame

end

end NetboxOpenbao
