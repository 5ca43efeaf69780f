import NetboxOpenbao.Administration.LifecycleViews
import NetboxOpenbao.Proof.Administration.Downloads
import NetboxOpenbao.Proof.Administration.FinalViews

/-!
# Lifecycle actions make the call they are authorized for

An action on a cluster comes to its call when its confirmation named the cluster, the state the server reported in the
same request allows it and the row that authorizes it is durable. What the view answers tells what became of the call
and of the row about it.
-/

namespace NetboxOpenbao

open Effect Dialogue

abbrev LifecycleExchange : Type := Exchange Error LifecycleAsk LifecycleAsk.Answer

/-- The actions of the views. -/
inductive LifecycleAction where
  | initializeCluster (attrs : InitializeClusterAttrs)
  | joinRaft (attrs : JoinRaftAttrs)
  | unsealCluster (attrs : UnsealClusterAttrs)
  | sealCluster (attrs : ConfirmClusterAttrs)
  | restoreRaftSnapshot (attrs : RestoreRaftSnapshotAttrs) (upload : SnapshotUpload) (force : Bool)

/-- The permission the cluster is looked up under. -/
def LifecycleAction.permission : LifecycleAction → String
  | .initializeCluster _ => "initialize"
  | .joinRaft _ => "join_raft"
  | .unsealCluster _ => "unseal"
  | .sealCluster _ => "seal"
  | .restoreRaftSnapshot _ _ force => if force then "force_restore_raft_snapshot" else "restore_raft_snapshot"

/-- The requests that change a server or hand out what it keeps. -/
def LifecycleAsk.Changes : LifecycleAsk → Prop
  | .plane _ | .initializationStatus => False
  | .initializeCluster _ | .joinRaft _ | .unsealCluster _ _ _ | .sealCluster | .restoreRaftSnapshot _ _
  | .downloadRaftSnapshot => True

/-- An exchange of a part that every administrative view has. -/
def ClusterAdmin.exchanged (x : PlaneExchange) : LifecycleExchange := ⟨.plane x.request, x.answer⟩

/-- What an action comes to: its rows before the call and after it, the call, and what is answered then. -/
structure LifecyclePlan where
  authorized : AuditEntry
  completed : AuditEntry
  unknown : AuditEntry
  call : LifecycleAsk
  payload : call.Answer → JsonObject
  status : Nat

def LifecycleView.plan {State : Type} (view : LifecycleView State) (reason : String) (state : State) :
    LifecyclePlan where
  authorized := view.authorizedEntry reason
  completed := view.completedEntry reason
  unknown := unknownEntry (view.entry reason)
  call := view.call
  payload := view.payload state
  status := view.status

/-- What the server reported that allows an action, and what the action comes to by it. -/
inductive LifecycleAction.Ready [Packaging] [UrlParsing] (slug : String) :
    LifecycleAction → List LifecycleExchange → LifecyclePlan → Prop
  | initializeCluster {attrs : InitializeClusterAttrs} {before : SealStatus}
      (hconfirmed : attrs.confirmation = "INITIALIZE " ++ slug) (hsecrets : attrs.validateSecrets = .ok ())
      (hversion : Packaging.supported before.version = true) (hfresh : before.initialized = false) :
      Ready slug (.initializeCluster attrs)
        [⟨.plane .sealStatus, .ok before⟩, ⟨.initializationStatus, .ok false⟩]
        ((initializeClusterView attrs.openbaoPayload).plan attrs.reason ())
  | joinRaft {attrs data : JoinRaftAttrs} {before : SealStatus} (hdata : attrs.validate slug = .ok data)
      (hversion : Packaging.supported before.version = true) (hfresh : before.initialized = false) :
      Ready slug (.joinRaft attrs) [⟨.plane .sealStatus, .ok before⟩, ⟨.initializationStatus, .ok false⟩]
        ((joinRaftView data.openbaoPayload).plan data.reason ())
  | unsealCluster {attrs data : UnsealClusterAttrs} {before : SealStatus} (hdata : attrs.validate slug = .ok data)
      (hversion : Packaging.supported before.version = true) (hinitialized : before.initialized = true)
      (hsealed : before.isSealed = true) :
      Ready slug (.unsealCluster attrs) [⟨.plane .sealStatus, .ok before⟩]
        ((unsealClusterView data).plan data.reason ())
  | sealCluster {attrs : ConfirmClusterAttrs} {before : SealStatus} {leader : LeaderStatus}
      (hconfirmed : attrs.confirmation = "SEAL " ++ slug) (hversion : Packaging.supported before.version = true)
      (hinitialized : before.initialized = true) (hunsealed : before.isSealed = false)
      (hleader : leader.haEnabled = true → leader.isSelf = true) :
      Ready slug (.sealCluster attrs) [⟨.plane .sealStatus, .ok before⟩, ⟨.plane .leaderStatus, .ok leader⟩]
        (sealClusterView.plan attrs.reason ())
  | restoreRaftSnapshot {attrs : RestoreRaftSnapshotAttrs} {upload : SnapshotUpload} {force : Bool} {size : Nat}
      {status : SealStatus} {leader : LeaderStatus} {config : RaftConfiguration}
      (hconfirmed : attrs.confirmation = (if force then "FORCE RESTORE SNAPSHOT " else "RESTORE SNAPSHOT ") ++ slug)
      (hsize : upload.size = .ok size) (hversion : Packaging.supported status.version = true)
      (hinitialized : status.initialized = true) (hunsealed : status.isSealed = false)
      (hraft : status.storageType = "raft") (hleader : leader.haEnabled = true → leader.isSelf = true)
      (hcluster : status.clusterId = attrs.clusterId) (hindex : config.index = attrs.configurationIndex) :
      Ready slug (.restoreRaftSnapshot attrs upload force)
        [⟨.plane .sealStatus, .ok status⟩, ⟨.plane .leaderStatus, .ok leader⟩,
          ⟨.plane .raftConfiguration, .ok config⟩]
        ((restoreRaftSnapshotView attrs size force).plan attrs.reason config)

/-- What a view has seen and done when it comes to the call of a plan. -/
structure LifecycleAuthorized [Packaging] [UrlParsing] (mode : ConnectionMode) (request : PlaneRequest)
    (action : LifecycleAction) (h : List LifecycleExchange) (cluster : OpenBaoCluster)
    (reading : List LifecycleExchange) (plan : LifecyclePlan) : Prop where
  outermost : mode.inAtomicBlock = false
  ready : action.Ready cluster.slug reading plan
  history : h = ⟨.plane (.cluster action.permission), .ok cluster⟩ :: ⟨.plane .backend, .ok ()⟩ ::
    (reading ++ (durableBlock mode (plan.authorized.row cluster request)).map ClusterAdmin.exchanged)

/-! ### Parts that make no call -/

namespace ClusterAdmin

variable {α β : Type} {h : List LifecycleExchange}

theorem plane_avoids (d : Admin α) : (plane d).Avoids LifecycleAsk.Changes := by
  induction d with
  | done result => trivial
  | ask r next ih => exact ⟨id, fun answer => ih _⟩

theorem plane_ends {d : Admin α} {result : Except Error α} (he : Ends (plane d) h result) :
    ∃ inside, Ends d inside result ∧ h = inside.map exchanged :=
  Ends.of_embed_same he

/-- It ends in a view as it ends by itself. -/
theorem ends_plane {d : Admin α} {inside : List PlaneExchange} {result : Except Error α} (he : Ends d inside result) :
    Ends (plane d) (inside.map exchanged) result :=
  @Ends.embed_same Error AdminAsk LifecycleAsk LifecycleAsk.Answer α LifecycleAsk.plane d inside result he

theorem exchanged_injective : Function.Injective exchanged := by
  rintro ⟨r, answer⟩ ⟨r', answer'⟩ h
  cases h
  rfl

theorem raiseIf_avoids (condition : Bool) (error : Error) : (raiseIf condition error).Avoids LifecycleAsk.Changes := by
  cases condition with
  | true => trivial
  | false => trivial

theorem raiseIf_ok {condition : Bool} {error : Error} {f : Unit → ClusterAdmin β} {b : β}
    (he : Ends (raiseIf condition error >>= f) h (.ok b)) : condition = false ∧ Ends (f ()) h (.ok b) := by
  cases condition with
  | true => exact absurd he Ends.raise_ok
  | false => exact ⟨rfl, he⟩

theorem raiseIf_ends {condition : Bool} {error : Error} (he : Ends (raiseIf condition error) h (.ok ())) :
    condition = false ∧ h = [] := by
  cases condition with
  | true => exact absurd he Ends.raise_ok
  | false => exact ⟨rfl, (Ends.pure_ok he).1⟩

theorem ask_ok {r : LifecycleAsk} {f : r.Answer → ClusterAdmin β} {b : β} (he : Ends (ask r >>= f) h (.ok b)) :
    ∃ a rest, h = ⟨r, .ok a⟩ :: rest ∧ Ends (f a) rest (.ok b) := Ends.request_bind he

end ClusterAdmin

section

variable [Packaging] {h : List LifecycleExchange}

theorem requireBaselineOf_ok {β : Type} {status : SealStatus} {f : Unit → ClusterAdmin β} {b : β}
    (he : Ends (requireBaselineOf status >>= f) h (.ok b)) :
    Packaging.supported status.version = true ∧ Ends (f ()) h (.ok b) := by
  obtain ⟨hsupported, hrest⟩ := ClusterAdmin.raiseIf_ok he
  exact ⟨by simpa using hsupported, hrest⟩

theorem checkUninitialized_avoids : checkUninitialized.Avoids LifecycleAsk.Changes := by
  refine Avoids.bind (Avoids.request id) fun before => ?_
  refine Avoids.bind (ClusterAdmin.raiseIf_avoids _ _) fun _ => ?_
  split
  · exact Avoids.raise _
  · exact Avoids.bind (Avoids.request id) fun _ => ClusterAdmin.raiseIf_avoids _ _

theorem checkUninitialized_ends (he : Ends checkUninitialized h (.ok ())) :
    ∃ before, Packaging.supported before.version = true ∧ before.initialized = false ∧
      h = [⟨.plane .sealStatus, .ok before⟩, ⟨.initializationStatus, .ok false⟩] := by
  obtain ⟨before, rest, rfl, hbaseline⟩ := ClusterAdmin.ask_ok he
  obtain ⟨hversion, hreading⟩ := requireBaselineOf_ok hbaseline
  cases hfresh : before.initialized with
  | true =>
      rw [hfresh] at hreading
      exact absurd hreading Ends.raise_ok
  | false =>
      rw [hfresh] at hreading
      obtain ⟨initialized, last, rfl, hlast⟩ := ClusterAdmin.ask_ok hreading
      obtain ⟨rfl, rfl⟩ := ClusterAdmin.raiseIf_ends hlast
      exact ⟨before, hversion, hfresh, rfl⟩

theorem checkSealed_avoids : checkSealed.Avoids LifecycleAsk.Changes :=
  Avoids.bind (Avoids.request id) fun _ =>
    Avoids.bind (ClusterAdmin.raiseIf_avoids _ _) fun _ => ClusterAdmin.raiseIf_avoids _ _

theorem checkSealed_ends (he : Ends checkSealed h (.ok ())) :
    ∃ before, Packaging.supported before.version = true ∧ before.initialized = true ∧ before.isSealed = true ∧
      h = [⟨.plane .sealStatus, .ok before⟩] := by
  obtain ⟨before, rest, rfl, hbaseline⟩ := ClusterAdmin.ask_ok he
  obtain ⟨hversion, hreading⟩ := requireBaselineOf_ok hbaseline
  obtain ⟨hstate, rfl⟩ := ClusterAdmin.raiseIf_ends hreading
  simp only [Bool.or_eq_false_iff, Bool.not_eq_false'] at hstate
  exact ⟨before, hversion, hstate.1, hstate.2, rfl⟩

omit [Packaging] in
theorem checkLeader_avoids : checkLeader.Avoids LifecycleAsk.Changes :=
  Avoids.bind (Avoids.request id) fun _ => ClusterAdmin.raiseIf_avoids _ _

omit [Packaging] in
theorem checkLeader_ends (he : Ends checkLeader h (.ok ())) :
    ∃ leader, (leader.haEnabled = true → leader.isSelf = true) ∧ h = [⟨.plane .leaderStatus, .ok leader⟩] := by
  obtain ⟨leader, rest, rfl, hlast⟩ := ClusterAdmin.ask_ok he
  obtain ⟨hstate, rfl⟩ := ClusterAdmin.raiseIf_ends hlast
  refine ⟨leader, fun henabled => ?_, rfl⟩
  rw [henabled] at hstate
  simpa using hstate

theorem checkUnsealed_avoids : checkUnsealed.Avoids LifecycleAsk.Changes :=
  Avoids.bind (Avoids.request id) fun _ =>
    Avoids.bind (ClusterAdmin.raiseIf_avoids _ _) fun _ =>
    Avoids.bind (ClusterAdmin.raiseIf_avoids _ _) fun _ => checkLeader_avoids

theorem checkUnsealed_ends (he : Ends checkUnsealed h (.ok ())) :
    ∃ before leader, Packaging.supported before.version = true ∧ before.initialized = true ∧
      before.isSealed = false ∧ (leader.haEnabled = true → leader.isSelf = true) ∧
      h = [⟨.plane .sealStatus, .ok before⟩, ⟨.plane .leaderStatus, .ok leader⟩] := by
  obtain ⟨before, rest, rfl, hbaseline⟩ := ClusterAdmin.ask_ok he
  obtain ⟨hversion, hreading⟩ := requireBaselineOf_ok hbaseline
  obtain ⟨hstate, hlast⟩ := ClusterAdmin.raiseIf_ok hreading
  obtain ⟨leader, hleader, rfl⟩ := checkLeader_ends hlast
  simp only [Bool.or_eq_false_iff, Bool.not_eq_false'] at hstate
  exact ⟨before, leader, hversion, hstate.1, hstate.2, hleader, rfl⟩

theorem checkRaft_avoids : checkRaft.Avoids LifecycleAsk.Changes :=
  Avoids.bind (Avoids.request id) fun _ =>
    Avoids.bind (ClusterAdmin.raiseIf_avoids _ _) fun _ =>
    Avoids.bind (ClusterAdmin.raiseIf_avoids _ _) fun _ =>
    Avoids.bind checkLeader_avoids fun _ => Avoids.pure _

/-- A server that stores its data in Raft and is its own leader, if there is one. -/
theorem checkRaft_ends {status : SealStatus} (he : Ends checkRaft h (.ok status)) :
    ∃ leader, Packaging.supported status.version = true ∧ status.initialized = true ∧ status.isSealed = false ∧
      status.storageType = "raft" ∧ (leader.haEnabled = true → leader.isSelf = true) ∧
      h = [⟨.plane .sealStatus, .ok status⟩, ⟨.plane .leaderStatus, .ok leader⟩] := by
  obtain ⟨read, rest, rfl, hbaseline⟩ := ClusterAdmin.ask_ok he
  obtain ⟨hversion, hreading⟩ := requireBaselineOf_ok hbaseline
  obtain ⟨hstate, hlast⟩ := ClusterAdmin.raiseIf_ok hreading
  obtain ⟨h₁, h₂, u, rfl, hchecked, hend⟩ := hlast.bind_ok
  obtain ⟨rfl, rfl⟩ := Ends.pure_ok hend
  obtain ⟨leader, hleader, rfl⟩ := checkLeader_ends hchecked
  simp only [Bool.or_eq_false_iff, Bool.not_eq_false', bne_eq_false_iff_eq] at hstate
  exact ⟨leader, hversion, hstate.1.1, hstate.1.2, hstate.2, hleader, rfl⟩

theorem freshRaftState_avoids (clusterId : String) (index : Nat) :
    (freshRaftState clusterId index).Avoids LifecycleAsk.Changes :=
  Avoids.bind checkRaft_avoids fun _ =>
    Avoids.bind (Avoids.request id) fun _ =>
    Avoids.bind (ClusterAdmin.raiseIf_avoids _ _) fun _ => Avoids.pure _

theorem freshRaftState_ends {clusterId : String} {index : Nat} {config : RaftConfiguration}
    (he : Ends (freshRaftState clusterId index) h (.ok config)) :
    ∃ status leader, Packaging.supported status.version = true ∧ status.initialized = true ∧
      status.isSealed = false ∧ status.storageType = "raft" ∧ (leader.haEnabled = true → leader.isSelf = true) ∧
      status.clusterId = clusterId ∧ config.index = index ∧
      h = [⟨.plane .sealStatus, .ok status⟩, ⟨.plane .leaderStatus, .ok leader⟩,
        ⟨.plane .raftConfiguration, .ok config⟩] := by
  obtain ⟨h₁, h₂, status, rfl, hchecked, hreading⟩ := he.bind_ok
  obtain ⟨leader, hversion, hinitialized, hunsealed, hraft, hleader, rfl⟩ := checkRaft_ends hchecked
  obtain ⟨read, rest, rfl, hcomparing⟩ := ClusterAdmin.ask_ok hreading
  obtain ⟨hsame, hend⟩ := ClusterAdmin.raiseIf_ok hcomparing
  obtain ⟨rfl, rfl⟩ := Ends.pure_ok hend
  simp only [Bool.or_eq_false_iff, bne_eq_false_iff_eq] at hsame
  exact ⟨status, leader, hversion, hinitialized, hunsealed, hraft, hleader, hsame.1, hsame.2, rfl⟩

/-! ### The call is authorized -/

section

variable {mode : ConnectionMode} {cluster : OpenBaoCluster} {request : PlaneRequest} {State : Type}
  {view : LifecycleView State} {reason : String}

omit [Packaging] in
theorem answerLifecycle_avoids (outcome : Except Error (State × view.call.Answer)) :
    (answerLifecycle mode cluster request view reason outcome).Avoids LifecycleAsk.Changes := by
  cases outcome with
  | error error =>
      unfold answerLifecycle
      dsimp only
      split
      · exact ClusterAdmin.plane_avoids _
      · split
        · exact ClusterAdmin.plane_avoids _
        · exact Avoids.raise _
  | ok out => exact Avoids.bind (ClusterAdmin.plane_avoids _) fun _ => Avoids.pure _

omit [Packaging] in
/-- A row that had to be durable is inserted in an outermost block that has ended. -/
theorem ClusterAdmin.durable_ends {entry : AuditEntry} {h : List LifecycleExchange}
    (he : Ends (ClusterAdmin.plane (logAdministration mode cluster request entry true)) h (.ok ())) :
    mode.inAtomicBlock = false ∧ h = (durableBlock mode (entry.row cluster request)).map ClusterAdmin.exchanged := by
  obtain ⟨inside, hlogged, rfl⟩ := ClusterAdmin.plane_ends he
  obtain ⟨houtermost, rfl⟩ := logAdministration_durable hlogged
  exact ⟨houtermost, rfl⟩

omit [Packaging] in
/-- A view that comes to its call has checked the server, and the row is durable. -/
theorem lifecycleMutation_pending (hcheck : view.check.Avoids LifecycleAsk.Changes) {h : List LifecycleExchange}
    {e : ClusterAdmin PlaneResponse} (ht : Talks (lifecycleMutation mode cluster request view reason) h e)
    {r : LifecycleAsk} (hr : e.pending = some r) (hchanges : r.Changes) :
    ∃ state reading, mode.inAtomicBlock = false ∧ Ends view.check reading (.ok state) ∧ r = view.call ∧
      h = ⟨.plane .backend, .ok ()⟩ ::
        (reading ++ (durableBlock mode ((view.authorizedEntry reason).row cluster request)).map
          ClusterAdmin.exchanged) := by
  obtain ⟨d', hrunning, hd'⟩ :=
    ht.attempt_pending (P := LifecycleAsk.Changes) answerLifecycle_avoids hr hchanges
  obtain ⟨h₁, h₂, u, rfl, hbackend, hchecking⟩ :=
    hrunning.bind_pending (P := LifecycleAsk.Changes) (Avoids.request id) hd' hchanges
  obtain rfl := Ends.request hbackend
  obtain ⟨reading, h₃, state, rfl, hchecked, hauthorizing⟩ := hchecking.bind_pending hcheck hd' hchanges
  obtain ⟨block, calling, u', rfl, hblock, hcalling⟩ :=
    hauthorizing.bind_pending (ClusterAdmin.plane_avoids _) hd' hchanges
  obtain ⟨houtermost, rfl⟩ := ClusterAdmin.durable_ends hblock
  obtain ⟨rfl, rfl⟩ := Talks.request_pending (fun _ => Avoids.pure _) hcalling hd' hchanges
  refine ⟨state, reading, houtermost, hchecked, rfl, ?_⟩
  rw [List.append_nil]
  rfl

end

end

section

variable [Packaging] [UrlParsing]

def lifecycleAction (mode : ConnectionMode) (request : PlaneRequest) : LifecycleAction → ClusterAdmin PlaneResponse
  | .initializeCluster attrs => OpenBaoClusterViewSet.initializeCluster mode request attrs
  | .joinRaft attrs => OpenBaoClusterViewSet.joinRaft mode request attrs
  | .unsealCluster attrs => OpenBaoClusterViewSet.unsealCluster mode request attrs
  | .sealCluster attrs => OpenBaoClusterViewSet.sealCluster mode request attrs
  | .restoreRaftSnapshot attrs upload force => OpenBaoClusterViewSet.restoreRaftSnapshot mode request attrs upload force

omit [Packaging] [UrlParsing] in
theorem validateConfirmation_ok {expected given : String} (h : validateConfirmation expected given = .ok ()) :
    given = expected := by
  unfold validateConfirmation at h
  split at h
  · cases h
  · next hsame => simpa using hsame

omit [Packaging] [UrlParsing] in
theorem InitializeClusterAttrs.validate_ok {attrs data : InitializeClusterAttrs} {slug : String}
    (h : attrs.validate slug = .ok data) :
    data = attrs ∧ attrs.confirmation = "INITIALIZE " ++ slug ∧ attrs.validateSecrets = .ok () := by
  obtain ⟨u, hconfirmed, h₁⟩ := Fallible.bind_ok h
  obtain ⟨u', hsecrets, h₂⟩ := Fallible.bind_ok h₁
  exact ⟨(Except.ok.inj h₂).symm, validateConfirmation_ok hconfirmed, hsecrets⟩

omit [Packaging] [UrlParsing] in
/-- A view that has looked its cluster up and admitted its data. -/
theorem admitted_pending {α : Type} {permission : String} {checks : OpenBaoCluster → Except Error α}
    {next : OpenBaoCluster → α → ClusterAdmin PlaneResponse} {h : List LifecycleExchange}
    {e : ClusterAdmin PlaneResponse}
    (ht : Talks (do
      let cluster ← ClusterAdmin.ask (.plane (.cluster permission))
      let data ← ClusterAdmin.ofExcept (checks cluster)
      next cluster data) h e) {r : LifecycleAsk} (hr : e.pending = some r) (hchanges : r.Changes) :
    ∃ cluster data rest, h = ⟨.plane (.cluster permission), .ok cluster⟩ :: rest ∧ checks cluster = .ok data ∧
      Talks (next cluster data) rest e := by
  obtain ⟨h₁, h₂, cluster, rfl, hlooked, hadmitting⟩ :=
    ht.bind_pending (P := LifecycleAsk.Changes) (Avoids.request id) hr hchanges
  obtain rfl := Ends.request hlooked
  obtain ⟨h₃, h₄, data, rfl, hadmitted, hrest⟩ :=
    hadmitting.bind_pending (P := LifecycleAsk.Changes) (Avoids.done _) hr hchanges
  obtain ⟨rfl, hdata⟩ := Talks.done hadmitted
  exact ⟨cluster, data, h₄, rfl, (Dialogue.done.inj hdata).symm, hrest⟩

/-- Whatever the backend and the database answer: a view that comes to the call of its action has looked the cluster up
under the permission of the action, its data was admitted for the name of that cluster, the state the server reported in
the same request allows the action, and the row about it is durable. The call is the one the admitted data come to. -/
theorem lifecycle_call_authorized {mode : ConnectionMode} {request : PlaneRequest} {action : LifecycleAction}
    {h : List LifecycleExchange} {e : ClusterAdmin PlaneResponse}
    (ht : Talks (lifecycleAction mode request action) h e)
    {r : LifecycleAsk} (hr : e.pending = some r) (hchanges : r.Changes) :
    ∃ cluster reading plan, LifecycleAuthorized mode request action h cluster reading plan ∧ r = plan.call := by
  cases action with
  | initializeCluster attrs =>
      obtain ⟨cluster, data, rest, rfl, hdata, hrunning⟩ := admitted_pending ht hr hchanges
      obtain ⟨rfl, hconfirmed, hsecrets⟩ := InitializeClusterAttrs.validate_ok hdata
      obtain ⟨state, reading, houtermost, hchecked, rfl, rfl⟩ :=
        lifecycleMutation_pending checkUninitialized_avoids hrunning hr hchanges
      obtain ⟨before, hversion, hfresh, rfl⟩ := checkUninitialized_ends hchecked
      exact ⟨cluster, _, _, ⟨houtermost, .initializeCluster hconfirmed hsecrets hversion hfresh, rfl⟩, rfl⟩
  | joinRaft attrs =>
      obtain ⟨cluster, data, rest, rfl, hdata, hrunning⟩ := admitted_pending ht hr hchanges
      obtain ⟨state, reading, houtermost, hchecked, rfl, rfl⟩ :=
        lifecycleMutation_pending checkUninitialized_avoids hrunning hr hchanges
      obtain ⟨before, hversion, hfresh, rfl⟩ := checkUninitialized_ends hchecked
      exact ⟨cluster, _, _, ⟨houtermost, .joinRaft hdata hversion hfresh, rfl⟩, rfl⟩
  | unsealCluster attrs =>
      obtain ⟨cluster, data, rest, rfl, hdata, hrunning⟩ := admitted_pending ht hr hchanges
      obtain ⟨state, reading, houtermost, hchecked, rfl, rfl⟩ :=
        lifecycleMutation_pending checkSealed_avoids hrunning hr hchanges
      obtain ⟨before, hversion, hinitialized, hsealed, rfl⟩ := checkSealed_ends hchecked
      exact ⟨cluster, _, _, ⟨houtermost, .unsealCluster hdata hversion hinitialized hsealed, rfl⟩, rfl⟩
  | sealCluster attrs =>
      obtain ⟨cluster, ⟨⟩, rest, rfl, hdata, hrunning⟩ := admitted_pending ht hr hchanges
      obtain ⟨state, reading, houtermost, hchecked, rfl, rfl⟩ :=
        lifecycleMutation_pending checkUnsealed_avoids hrunning hr hchanges
      obtain ⟨before, leader, hversion, hinitialized, hunsealed, hleader, rfl⟩ := checkUnsealed_ends hchecked
      have hready := LifecycleAction.Ready.sealCluster (validateConfirmation_ok hdata) hversion hinitialized hunsealed
        hleader
      exact ⟨cluster, _, _, ⟨houtermost, hready, rfl⟩, rfl⟩
  | restoreRaftSnapshot attrs upload force =>
      obtain ⟨cluster, ⟨⟩, rest, rfl, hdata, hsizing⟩ := admitted_pending ht hr hchanges
      obtain ⟨h₁, h₂, size, rfl, hadmitted, hrunning⟩ :=
        hsizing.bind_pending (P := LifecycleAsk.Changes) (Avoids.done _) hr hchanges
      obtain ⟨rfl, hsize⟩ := Talks.done hadmitted
      obtain ⟨config, reading, houtermost, hchecked, rfl, rfl⟩ :=
        lifecycleMutation_pending (freshRaftState_avoids _ _) hrunning hr hchanges
      obtain ⟨status, leader, hversion, hinitialized, hunsealed, hraft, hleader, hcluster, hindex, rfl⟩ :=
        freshRaftState_ends hchecked
      have hready := LifecycleAction.Ready.restoreRaftSnapshot (validateConfirmation_ok hdata)
        (Dialogue.done.inj hsize).symm hversion hinitialized hunsealed hraft hleader hcluster hindex
      exact ⟨cluster, _, _, ⟨houtermost, hready, rfl⟩, rfl⟩

/-- What has become of an action that is over. -/
inductive LifecycleOutcome (mode : ConnectionMode) (request : PlaneRequest) (action : LifecycleAction) :
    List LifecycleExchange → Except Error PlaneResponse → Prop
  | uncalled {h : List LifecycleExchange} {error : Error} (hquiet : ∀ x ∈ h, ¬ x.request.Changes) :
      LifecycleOutcome mode request action h (.error error)
  | unread {h : List LifecycleExchange} {status : String} (hquiet : ∀ x ∈ h, ¬ x.request.Changes)
      (hraised : ∃ x ∈ h, ∃ error, x.answer = .error error ∧ error.isUnknown = true) :
      LifecycleOutcome mode request action h (.ok (unknownResponse status))
  | refused {before reading after : List LifecycleExchange} {cluster : OpenBaoCluster} {plan : LifecyclePlan}
      {raised error : Error} (hauthorized : LifecycleAuthorized mode request action before cluster reading plan)
      (hknown : raised.isUnknown = false) (hquiet : ∀ x ∈ after, ¬ x.request.Changes) :
      LifecycleOutcome mode request action (before ++ ⟨plan.call, .error raised⟩ :: after) (.error error)
  | unknown {before reading after : List LifecycleExchange} {cluster : OpenBaoCluster} {plan : LifecyclePlan}
      {raised : Error} {status : String}
      (hauthorized : LifecycleAuthorized mode request action before cluster reading plan)
      (hunknown : raised.isUnknown = true) (hstatus : status = "best-effort" ∨ status = "failed")
      (haudited : status = "best-effort" ↔
        after = (durableBlock mode (plan.unknown.row cluster request)).map ClusterAdmin.exchanged)
      (hquiet : ∀ x ∈ after, ¬ x.request.Changes) :
      LifecycleOutcome mode request action (before ++ ⟨plan.call, .error raised⟩ :: after)
        (.ok (unknownResponse status))
  | accepted {before reading after : List LifecycleExchange} {cluster : OpenBaoCluster} {plan : LifecyclePlan}
      {answer : plan.call.Answer} {complete : Bool}
      (hauthorized : LifecycleAuthorized mode request action before cluster reading plan)
      (haudited : complete = true ↔
        after = (durableBlock mode (plan.completed.row cluster request)).map ClusterAdmin.exchanged)
      (hquiet : ∀ x ∈ after, ¬ x.request.Changes) :
      LifecycleOutcome mode request action (before ++ ⟨plan.call, .ok answer⟩ :: after)
        (.ok { mutationResponse (plan.payload answer) complete with status := plan.status })

/-! ### How a view ends -/

/-- What the checks raise is a conflict, or what a request was answered. -/
abbrev Known (error : Error) : Prop := error.isUnknown = false

omit [Packaging] [UrlParsing] in
theorem ClusterAdmin.raiseIf_passes {condition : Bool} {error : Error} (hknown : Known error) :
    (ClusterAdmin.raiseIf condition error).Passes Known := by
  cases condition with
  | true => exact Passes.raise hknown
  | false => exact Passes.pure ()

omit [UrlParsing] in
theorem checkUninitialized_passes : checkUninitialized.Passes Known := by
  refine Passes.bind (Passes.request _) fun before => ?_
  refine Passes.bind (ClusterAdmin.raiseIf_passes rfl) fun _ => ?_
  split
  · exact Passes.raise rfl
  · exact Passes.bind (Passes.request _) fun _ => ClusterAdmin.raiseIf_passes rfl

omit [UrlParsing] in
theorem checkSealed_passes : checkSealed.Passes Known :=
  Passes.bind (Passes.request _) fun _ =>
    Passes.bind (ClusterAdmin.raiseIf_passes rfl) fun _ => ClusterAdmin.raiseIf_passes rfl

omit [Packaging] [UrlParsing] in
theorem checkLeader_passes : checkLeader.Passes Known :=
  Passes.bind (Passes.request _) fun _ => ClusterAdmin.raiseIf_passes rfl

omit [UrlParsing] in
theorem checkUnsealed_passes : checkUnsealed.Passes Known :=
  Passes.bind (Passes.request _) fun _ =>
    Passes.bind (ClusterAdmin.raiseIf_passes rfl) fun _ =>
    Passes.bind (ClusterAdmin.raiseIf_passes rfl) fun _ => checkLeader_passes

omit [UrlParsing] in
theorem freshRaftState_passes (clusterId : String) (index : Nat) : (freshRaftState clusterId index).Passes Known :=
  Passes.bind (Passes.bind (Passes.request _) fun _ =>
      Passes.bind (ClusterAdmin.raiseIf_passes rfl) fun _ =>
      Passes.bind (ClusterAdmin.raiseIf_passes rfl) fun _ =>
      Passes.bind checkLeader_passes fun _ => Passes.pure _) fun _ =>
    Passes.bind (Passes.request _) fun _ =>
    Passes.bind (ClusterAdmin.raiseIf_passes rfl) fun _ => Passes.pure _

section

omit [Packaging] [UrlParsing]

variable {mode : ConnectionMode} {cluster : OpenBaoCluster} {request : PlaneRequest} {State : Type}
  {view : LifecycleView State} {reason : String} {h : List LifecycleExchange}

/-- The `try` of a view: it failed before its call, or the call is the last thing it did. -/
theorem runLifecycle_ends (hcheck : view.check.Avoids LifecycleAsk.Changes) (hpasses : view.check.Passes Known)
    {outcome : Except Error (State × view.call.Answer)}
    (he : Ends (runLifecycle mode cluster request view reason) h outcome) :
    (∃ error, outcome = .error error ∧ (∀ x ∈ h, ¬ x.request.Changes) ∧
      (error.isUnknown = true → ∃ x ∈ h, x.answer = .error error)) ∨
    ∃ state reading answer, mode.inAtomicBlock = false ∧ Ends view.check reading (.ok state) ∧
      h = (⟨.plane .backend, .ok ()⟩ ::
        (reading ++ (durableBlock mode ((view.authorizedEntry reason).row cluster request)).map
          ClusterAdmin.exchanged)) ++ [⟨view.call, answer⟩] ∧
      outcome = answer.map fun a => (state, a) := by
  have hbackend : (ClusterAdmin.ask (.plane .backend)).Avoids LifecycleAsk.Changes := Avoids.request id
  rcases he.bind with ⟨error, hasked, rfl⟩ | ⟨h₁, h₂, u, rfl, hasked, hchecking⟩
  · refine .inl ⟨error, rfl, hbackend.ends hasked, fun _ => ?_⟩
    rw [Ends.request hasked]
    exact ⟨_, List.mem_singleton_self _, rfl⟩
  obtain rfl := Ends.request hasked
  rcases hchecking.bind with ⟨error, hchecked, rfl⟩ | ⟨reading, h₃, state, rfl, hchecked, hauthorizing⟩
  · refine .inl ⟨error, rfl, List.forall_mem_cons.mpr ⟨id, hcheck.ends hchecked⟩, fun hunknown => ?_⟩
    rcases hpasses _ _ hchecked with hknown | ⟨x, hx, hanswer⟩
    · exact absurd (hunknown.symm.trans hknown) (by decide)
    · exact ⟨x, List.mem_cons_of_mem _ hx, hanswer⟩
  rcases hauthorizing.bind with ⟨error, hlogged, rfl⟩ | ⟨block, h₄, u', rfl, hlogged, hcalling⟩
  · obtain ⟨inside, hrow, hsame⟩ := ClusterAdmin.plane_ends hlogged
    obtain rfl := logAdministration_error hrow
    have hquiet : ∀ x ∈ reading ++ h₃, ¬ x.request.Changes :=
      List.forall_mem_append.mpr ⟨hcheck.ends hchecked, (ClusterAdmin.plane_avoids _).ends hlogged⟩
    exact .inl ⟨auditError, rfl, List.forall_mem_cons.mpr ⟨id, hquiet⟩, fun hunknown => by cases hunknown⟩
  obtain ⟨houtermost, rfl⟩ := ClusterAdmin.durable_ends hlogged
  refine .inr ?_
  rcases hcalling.bind with ⟨error, hcalled, rfl⟩ | ⟨h₅, h₆, answer, rfl, hcalled, hreturned⟩
  · obtain rfl := Ends.request hcalled
    refine ⟨state, reading, .error error, houtermost, hchecked, ?_, rfl⟩
    simp
  · obtain rfl := Ends.request hcalled
    obtain ⟨rfl, hdone⟩ := Talks.done hreturned
    refine ⟨state, reading, .ok answer, houtermost, hchecked, ?_, Dialogue.done.inj hdone⟩
    simp

/-- The answer to a failure of unknown outcome. -/
theorem answerLifecycle_unknown {error : Error} (hunknown : error.isUnknown = true)
    {result : Except Error PlaneResponse}
    (he : Ends (answerLifecycle mode cluster request view reason (.error error)) h result) :
    ∃ status, result = .ok (unknownResponse status) ∧ (status = "best-effort" ∨ status = "failed") ∧
      (mode.inAtomicBlock = false → (status = "best-effort" ↔
        h = (durableBlock mode ((unknownEntry (view.entry reason)).row cluster request)).map
          ClusterAdmin.exchanged)) := by
  unfold answerLifecycle at he
  dsimp only at he
  rw [if_pos hunknown] at he
  obtain ⟨inside, hanswered, rfl⟩ := ClusterAdmin.plane_ends he
  obtain ⟨status, rfl, hstatus, haudited⟩ := mutationUnknownResponse_ends (Nat.zero_le _) hanswered
  refine ⟨status, rfl, hstatus, fun houtermost => (haudited houtermost).trans ?_⟩
  exact (List.map_injective_iff.mpr ClusterAdmin.exchanged_injective).eq_iff.symm

/-- Any other failure raises. -/
theorem answerLifecycle_known {error : Error} (hknown : error.isUnknown = false) {result : Except Error PlaneResponse}
    (he : Ends (answerLifecycle mode cluster request view reason (.error error)) h result) :
    ∃ err, result = .error err := by
  unfold answerLifecycle at he
  dsimp only at he
  rw [if_neg (by simp [hknown])] at he
  split at he
  · obtain ⟨inside, hanswered, -⟩ := ClusterAdmin.plane_ends he
    exact backendFailure_ends hanswered
  · obtain ⟨-, hdone⟩ := Talks.done he
    exact ⟨error, Dialogue.done.inj hdone⟩

/-- The answer to a call that was answered. -/
theorem answerLifecycle_ok {state : State} {answer : view.call.Answer} {result : Except Error PlaneResponse}
    (he : Ends (answerLifecycle mode cluster request view reason (.ok (state, answer))) h result) :
    ∃ complete, result = .ok { mutationResponse (view.payload state answer) complete with status := view.status } ∧
      (mode.inAtomicBlock = false → (complete = true ↔
        h = (durableBlock mode ((view.completedEntry reason).row cluster request)).map ClusterAdmin.exchanged)) := by
  rcases he.bind with ⟨error, hlogged, rfl⟩ | ⟨h₁, h₂, complete, rfl, hlogged, hanswered⟩
  · obtain ⟨inside, hbest, -⟩ := ClusterAdmin.plane_ends hlogged
    obtain ⟨complete, hsame⟩ := logBestEffort_ends hbest
    cases hsame
  · obtain ⟨rfl, hdone⟩ := Talks.done hanswered
    obtain ⟨inside, hbest, rfl⟩ := ClusterAdmin.plane_ends hlogged
    refine ⟨complete, Dialogue.done.inj hdone, fun houtermost => ?_⟩
    rw [List.append_nil, logBestEffort_complete_iff houtermost (Nat.zero_le _) hbest]
    exact (List.map_injective_iff.mpr ClusterAdmin.exchanged_injective).eq_iff.symm

end

/-- A view that has looked its cluster up, once what its checks pass makes its action ready. -/
theorem lifecycleMutation_outcome {mode : ConnectionMode} {cluster : OpenBaoCluster} {request : PlaneRequest}
    {State : Type} {view : LifecycleView State} {reason : String} {action : LifecycleAction}
    (hcheck : view.check.Avoids LifecycleAsk.Changes) (hpasses : view.check.Passes Known)
    (hready : ∀ state reading, Ends view.check reading (.ok state) →
      action.Ready cluster.slug reading (view.plan reason state))
    {h : List LifecycleExchange} {result : Except Error PlaneResponse}
    (he : Ends (lifecycleMutation mode cluster request view reason) h result) :
    LifecycleOutcome mode request action (⟨.plane (.cluster action.permission), .ok cluster⟩ :: h) result := by
  obtain ⟨running, after, outcome, rfl, hrun, hanswered⟩ := he.bind_attempt
  have hafter := (answerLifecycle_avoids outcome).ends hanswered
  rcases runLifecycle_ends hcheck hpasses hrun with ⟨error, rfl, hquiet, hraised⟩ |
    ⟨state, reading, answer, houtermost, hchecked, rfl, rfl⟩
  · have hall : ∀ x ∈ (⟨.plane (.cluster action.permission), .ok cluster⟩ : LifecycleExchange) :: (running ++ after),
        ¬ x.request.Changes :=
      List.forall_mem_cons.mpr ⟨id, List.forall_mem_append.mpr ⟨hquiet, hafter⟩⟩
    cases hunknown : error.isUnknown with
    | true =>
        obtain ⟨status, rfl, -⟩ := answerLifecycle_unknown hunknown hanswered
        obtain ⟨x, hx, hanswer⟩ := hraised hunknown
        exact .unread hall ⟨x, List.mem_cons_of_mem _ (List.mem_append_left _ hx), error, hanswer, hunknown⟩
    | false =>
        obtain ⟨err, rfl⟩ := answerLifecycle_known hunknown hanswered
        exact .uncalled hall
  · have hauthorized : LifecycleAuthorized mode request action
        (⟨.plane (.cluster action.permission), .ok cluster⟩ :: ⟨.plane .backend, .ok ()⟩ ::
          (reading ++ (durableBlock mode ((view.authorizedEntry reason).row cluster request)).map
            ClusterAdmin.exchanged)) cluster reading (view.plan reason state) :=
      ⟨houtermost, hready state reading hchecked, rfl⟩
    rw [List.append_assoc, ← List.cons_append]
    cases answer with
    | error error =>
        cases hunknown : error.isUnknown with
        | true =>
            obtain ⟨status, rfl, hstatus, haudited⟩ := answerLifecycle_unknown hunknown hanswered
            exact .unknown hauthorized hunknown hstatus (haudited houtermost) hafter
        | false =>
            obtain ⟨err, rfl⟩ := answerLifecycle_known hunknown hanswered
            exact .refused hauthorized hunknown hafter
    | ok answer =>
        obtain ⟨complete, rfl, haudited⟩ := answerLifecycle_ok hanswered
        exact .accepted hauthorized (haudited houtermost) hafter

omit [Packaging] [UrlParsing] in
/-- A view that is over: it was stopped before it began, or it has looked its cluster up and admitted its data. -/
theorem admitted_ends {α : Type} {permission : String} {checks : OpenBaoCluster → Except Error α}
    {next : OpenBaoCluster → α → ClusterAdmin PlaneResponse} {h : List LifecycleExchange}
    {result : Except Error PlaneResponse}
    (he : Ends (do
      let cluster ← ClusterAdmin.ask (.plane (.cluster permission))
      let data ← ClusterAdmin.ofExcept (checks cluster)
      next cluster data) h result) :
    ((∀ x ∈ h, ¬ x.request.Changes) ∧ ∃ error, result = .error error) ∨
      ∃ cluster data rest, h = ⟨.plane (.cluster permission), .ok cluster⟩ :: rest ∧ checks cluster = .ok data ∧
        Ends (next cluster data) rest result := by
  rcases he.bind with ⟨error, hlooked, rfl⟩ | ⟨h₁, h₂, cluster, rfl, hlooked, hadmitting⟩
  · obtain rfl := Ends.request hlooked
    exact .inl ⟨by simp [LifecycleAsk.Changes], error, rfl⟩
  obtain rfl := Ends.request hlooked
  rcases hadmitting.bind with ⟨error, hadmitted, rfl⟩ | ⟨h₃, h₄, data, rfl, hadmitted, hrest⟩
  · obtain ⟨rfl, -⟩ := Talks.done hadmitted
    exact .inl ⟨by simp [LifecycleAsk.Changes], error, rfl⟩
  · obtain ⟨rfl, hdata⟩ := Talks.done hadmitted
    exact .inr ⟨cluster, data, h₄, rfl, (Dialogue.done.inj hdata).symm, hrest⟩

/-- Whatever the backend and the database answer: an action that is over made no call and raised, or reports an unknown
outcome because a read did; or it was authorized for the one call it made and tells what became of it: what the server
answered, that nothing is known, or an error. What it says of its audit row holds exactly if the row was written. -/
theorem lifecycle_outcome_honest {mode : ConnectionMode} {request : PlaneRequest} {action : LifecycleAction}
    {h : List LifecycleExchange} {result : Except Error PlaneResponse}
    (he : Ends (lifecycleAction mode request action) h result) : LifecycleOutcome mode request action h result := by
  cases action with
  | initializeCluster attrs =>
      rcases admitted_ends he with ⟨hquiet, error, rfl⟩ | ⟨cluster, data, rest, rfl, hdata, hrunning⟩
      · exact .uncalled hquiet
      obtain ⟨rfl, hconfirmed, hsecrets⟩ := InitializeClusterAttrs.validate_ok hdata
      refine lifecycleMutation_outcome checkUninitialized_avoids checkUninitialized_passes
        (fun _ reading hchecked => ?_) hrunning
      obtain ⟨before, hversion, hfresh, rfl⟩ := checkUninitialized_ends hchecked
      exact .initializeCluster hconfirmed hsecrets hversion hfresh
  | joinRaft attrs =>
      rcases admitted_ends he with ⟨hquiet, error, rfl⟩ | ⟨cluster, data, rest, rfl, hdata, hrunning⟩
      · exact .uncalled hquiet
      refine lifecycleMutation_outcome checkUninitialized_avoids checkUninitialized_passes
        (fun _ reading hchecked => ?_) hrunning
      obtain ⟨before, hversion, hfresh, rfl⟩ := checkUninitialized_ends hchecked
      exact .joinRaft hdata hversion hfresh
  | unsealCluster attrs =>
      rcases admitted_ends he with ⟨hquiet, error, rfl⟩ | ⟨cluster, data, rest, rfl, hdata, hrunning⟩
      · exact .uncalled hquiet
      refine lifecycleMutation_outcome checkSealed_avoids checkSealed_passes (fun _ reading hchecked => ?_) hrunning
      obtain ⟨before, hversion, hinitialized, hsealed, rfl⟩ := checkSealed_ends hchecked
      exact .unsealCluster hdata hversion hinitialized hsealed
  | sealCluster attrs =>
      rcases admitted_ends he with ⟨hquiet, error, rfl⟩ | ⟨cluster, ⟨⟩, rest, rfl, hdata, hrunning⟩
      · exact .uncalled hquiet
      refine lifecycleMutation_outcome checkUnsealed_avoids checkUnsealed_passes (fun _ reading hchecked => ?_) hrunning
      obtain ⟨before, leader, hversion, hinitialized, hunsealed, hleader, rfl⟩ := checkUnsealed_ends hchecked
      exact .sealCluster (validateConfirmation_ok hdata) hversion hinitialized hunsealed hleader
  | restoreRaftSnapshot attrs upload force =>
      rcases admitted_ends he with ⟨hquiet, error, rfl⟩ | ⟨cluster, ⟨⟩, rest, rfl, hdata, hsizing⟩
      · exact .uncalled hquiet
      rcases hsizing.bind with ⟨error, hrefused, rfl⟩ | ⟨h₁, h₂, size, rfl, hadmitted, hrunning⟩
      · obtain ⟨rfl, -⟩ := Talks.done hrefused
        exact .uncalled (by simp [LifecycleAsk.Changes])
      obtain ⟨rfl, hsize⟩ := Talks.done hadmitted
      refine lifecycleMutation_outcome (freshRaftState_avoids _ _) (freshRaftState_passes _ _)
        (fun config reading hchecked => ?_) hrunning
      obtain ⟨status, leader, hversion, hinitialized, hunsealed, hraft, hleader, hcluster, hindex, rfl⟩ :=
        freshRaftState_ends hchecked
      exact .restoreRaftSnapshot (validateConfirmation_ok hdata) (Dialogue.done.inj hsize).symm hversion hinitialized
        hunsealed hraft hleader hcluster hindex

end

namespace Sample

/-- A parser that takes every URL for one without a host. -/
@[reducible] def hostless : UrlParsing where
  runValidation url := .ok url
  urlsplit _ := ⟨"https", none, none, none, "", "", true⟩

def reviewedRaft : RaftConfiguration := ⟨10, []⟩

def selfLed : LeaderStatus := ⟨true, true, "", "", "", 0, 0⟩

def restoring : RestoreRaftSnapshotAttrs := ⟨"recovery drill", "RESTORE SNAPSHOT bao", "bao", 10⟩

def restoreAction : LifecycleAction :=
  .restoreRaftSnapshot restoring ⟨"application/octet-stream", none, some 4096⟩ false

def restoreView : LifecycleView RaftConfiguration := @restoreRaftSnapshotView packaging restoring 4096 false

def restoreReading : List LifecycleExchange :=
  [⟨.plane .sealStatus, .ok unsealed⟩, ⟨.plane .leaderStatus, .ok selfLed⟩,
    ⟨.plane .raftConfiguration, .ok reviewedRaft⟩]

theorem restore_checked :
    Ends (@freshRaftState packaging "bao" 10) restoreReading (.ok reviewedRaft) := by
  iterate 3 refine Talks.of_ask rfl _ ?_
  exact .start _

/-- The row of a restore, which is durable. -/
def restoreLogged (entry : AuditEntry) : List LifecycleExchange :=
  (logged (entry.row openBaoCluster planeRequest)).map ClusterAdmin.exchanged

theorem restoreRow (entry : AuditEntry) (durable : Bool) (hfits : entry.targetIdentifiers.length ≤ 256) :
    Ends (ClusterAdmin.plane (logAdministration ⟨false, true⟩ openBaoCluster planeRequest entry durable))
      (restoreLogged entry) (.ok ()) :=
  ClusterAdmin.ends_plane (logRow planeRequest entry durable hfits)

/-- The cluster is looked up and the request admitted. -/
def restoreAdmitted : List LifecycleExchange :=
  [⟨.plane (.cluster "restore_raft_snapshot"), .ok openBaoCluster⟩]

def restoreCalling : List LifecycleExchange :=
  [⟨.plane .backend, .ok ()⟩] ++
    (restoreReading ++ (restoreLogged (restoreView.authorizedEntry "recovery drill") ++ []))

theorem restore_waits :
    Waits (@lifecycleAction packaging hostless ⟨false, true⟩ planeRequest restoreAction)
      (restoreAdmitted ++ ([] ++ ([] ++ restoreCalling))) (.restoreRaftSnapshot 4096 false) := by
  refine Ends.waits (a := openBaoCluster) (.answered (.ok _) (.start _)) ?_
  refine Ends.waits (a := ()) (.start _) (Ends.waits (a := 4096) (.start _) ?_)
  refine Waits.bind (Waits.attempt ?_)
  refine Ends.waits (a := ()) (.answered (.ok _) (.start _)) (Ends.waits restore_checked ?_)
  refine Ends.waits (restoreRow _ _ (by decide)) ?_
  exact Waits.bind (Waits.request _)

end Sample

theorem lifecycle_call_authorized_restore : ∃ cluster reading plan,
    @LifecycleAuthorized Sample.packaging Sample.hostless ⟨false, true⟩ Sample.planeRequest Sample.restoreAction
      (Sample.restoreAdmitted ++ ([] ++ ([] ++ Sample.restoreCalling))) cluster reading plan ∧
      LifecycleAsk.restoreRaftSnapshot 4096 false = plan.call := by
  obtain ⟨e, ht, hr⟩ := Sample.restore_waits
  exact @lifecycle_call_authorized Sample.packaging Sample.hostless _ _ _ _ _ ht _ hr trivial

namespace Sample

/-- The call fails, and nothing is known of it. -/
def restoreLost : Error := .openbao .mutationUnknown ""

def restoreEnding : List LifecycleExchange :=
  restoreAdmitted ++ ([] ++ ([] ++ (([⟨.plane .backend, .ok ()⟩] ++ (restoreReading ++
    (restoreLogged (restoreView.authorizedEntry "recovery drill") ++
      [⟨.restoreRaftSnapshot 4096 false, .error restoreLost⟩]))) ++
    restoreLogged (unknownEntry (restoreView.entry "recovery drill")))))

theorem restore_ends :
    Ends (@lifecycleAction packaging hostless ⟨false, true⟩ planeRequest restoreAction) restoreEnding
      (.ok (unknownResponse "best-effort")) := by
  refine Ends.andThen (a := openBaoCluster) (.answered (.ok _) (.start _)) ?_
  refine Ends.andThen (a := ()) (.start _) (Ends.andThen (a := 4096) (.start _) ?_)
  refine Ends.andThen (a := .error restoreLost) (Ends.attempted ?_) ?_
  · refine Ends.andThen (a := ()) (.answered (.ok _) (.start _)) (Ends.andThen restore_checked ?_)
    exact Ends.andThen (restoreRow _ _ (by decide)) (.answered (.error restoreLost) (.start _))
  · have hanswered : Ends (mutationUnknownResponse ⟨false, true⟩ openBaoCluster planeRequest
        (restoreView.entry "recovery drill"))
        (logged ((unknownEntry (restoreView.entry "recovery drill")).row openBaoCluster planeRequest) ++ [])
        (.ok (unknownResponse "best-effort")) :=
      Ends.andThen (logRow _ _ _ (by decide)).attempted (.start _)
    rw [List.append_nil] at hanswered
    exact ClusterAdmin.ends_plane hanswered

end Sample

theorem lifecycle_outcome_honest_restore :
    @LifecycleOutcome Sample.packaging Sample.hostless ⟨false, true⟩ Sample.planeRequest Sample.restoreAction
      Sample.restoreEnding (.ok (unknownResponse "best-effort")) :=
  @lifecycle_outcome_honest Sample.packaging Sample.hostless _ _ _ _ _ Sample.restore_ends

end NetboxOpenbao
