import NetboxOpenbao.Proof.Administration.FinalViews

/-!
# Secret-engine actions make the calls they are authorized for

A mount action, an operation of the explorer or a journey comes to its first call when it has been prepared against the
live server and the row that authorizes it is durable, and it makes the calls of what was prepared, one after another.
-/

namespace NetboxOpenbao

open Effect Dialogue

/-- The actions of the three views. -/
inductive EngineAction where
  | mutate (mutation : EngineMutation) (reason : String)
  | explore (data : ExplorerData)
  | journey (data : ExplorerData)

/-- The permission the cluster is looked up under. -/
def EngineAction.permission : EngineAction → String
  | .mutate mutation _ => mutation.permission
  | .explore _ => "explore_secret_operations"
  | .journey _ => "view_secret_engines"

/-- The requests that change an engine or return what it keeps. -/
def AdminAsk.Engages : AdminAsk → Prop
  | .enableSecretEngine _ _ | .tuneSecretEngine _ _ | .remountSecretEngine _ _ | .disableSecretEngine _
  | .executeMountedOperation _ => True
  | _ => False

theorem writesLog_engages (r : AdminAsk) (hlog : r.writesLog = true) : ¬ r.Engages := by
  cases r <;> first | exact id | cases hlog

/-- What an action has been prepared for: the row that authorizes it, and its calls in their order. -/
structure EnginePlan where
  entry : AuditEntry
  calls : List AdminAsk

/-- The call of a mount action. -/
def EngineMutation.call : EngineMutation → AdminAsk
  | .enable mountPath configuration => .enableSecretEngine mountPath configuration
  | .tune mountPath configuration => .tuneSecretEngine mountPath configuration
  | .remount source destination => .remountSecretEngine source destination
  | .disable mountPath => .disableSecretEngine mountPath

/-- What the inventory is asked before a mount is disabled. -/
def EngineMutation.inventory : EngineMutation → List PlaneExchange
  | .disable mountPath => [⟨.mountInUse mountPath, .ok false⟩]
  | _ => []

def explorerPlan (data : ExplorerData) (prepared : PreparedOperation) : EnginePlan where
  entry := explorerAuthorized prepared data.reason
  calls := [.executeMountedOperation
    (mountedCall prepared data.mountPath prepared.operation.method data.query data.body)]

/-- The two reads of a comparison, or the one call of another journey. -/
def journeyPlan (data : ExplorerData) (prepared : PreparedJourney) : EnginePlan where
  entry := journeyAuthorized prepared.journey data.reason prepared.prepared.document.digest
  calls :=
    let call := mountedCall prepared.prepared data.mountPath
    if prepared.journey.journeyId == "kv2.diff" then
      [.executeMountedOperation (call "GET" [("version", data.query.get "from_version" .null)] []),
       .executeMountedOperation (call "GET" [("version", data.query.get "to_version" .null)] [])]
    else
      [.executeMountedOperation (call prepared.prepared.operation.method
        (withFixed data.query prepared.journey.fixedQuery) data.body)]

section

variable [Packaging]

def engineView (mode : ConnectionMode) (request : PlaneRequest) : EngineAction → Admin PlaneResponse
  | .mutate mutation reason => engineMutation mode request mutation reason
  | .explore data => executeSecretOperation mode request data
  | .journey data => executeSecretEngineJourney mode request data

/-- The exchanges by which an action has been prepared for a plan. -/
def EngineAction.Prepared (cluster : OpenBaoCluster) : EngineAction → List PlaneExchange → EnginePlan → Prop
  | .mutate mutation reason, h, plan => ∃ preflight document mounts,
      h = mutation.inventory ++ preflight ++ [⟨.listSecretEngines, .ok mounts⟩] ∧
        Ends (prepareEngineOperation mutation) preflight (.ok document) ∧
        mutation.checkMounts (mounts.map SecretEngineMount.path) = .ok () ∧
        plan = ⟨mutation.authorized reason document.digest, [mutation.call]⟩
  | .explore data, h, plan => ∃ prepared,
      Ends (prepareExplorerExecution cluster data) h (.ok prepared) ∧ plan = explorerPlan data prepared
  | .journey data, h, plan => ∃ prepared,
      Ends (prepareEngineJourney cluster data) h (.ok prepared) ∧ plan = journeyPlan data prepared

/-! ### Parts that make no call -/

theorem engineDocument_quiet : engineDocument.Avoids AdminAsk.Engages := engineDocument_avoids id id id

theorem prepareEngineOperation_quiet (mutation : EngineMutation) :
    (prepareEngineOperation mutation).Avoids AdminAsk.Engages :=
  Avoids.bind engineDocument_quiet fun _ => Avoids.bind (Admin.raiseIf_avoids _ _) fun _ => Avoids.pure _

theorem prepareExplorerExecution_quiet (cluster : OpenBaoCluster) (data : ExplorerData) :
    (prepareExplorerExecution cluster data).Avoids AdminAsk.Engages :=
  Avoids.bind engineDocument_quiet fun _ =>
    Avoids.bind (Admin.raiseIf_avoids _ _) fun _ =>
    Avoids.bind (Admin.ofExcept_avoids _) fun _ =>
    Avoids.bind (Admin.ofExcept_avoids _) fun _ =>
    Avoids.bind (Admin.ask_avoids id) fun _ =>
    Avoids.bind (Admin.raiseIf_avoids _ _) fun _ =>
    Avoids.bind (Admin.ask_avoids id) fun _ =>
    Avoids.bind (Admin.ofExcept_avoids _) fun _ =>
    Avoids.bind (Admin.ofExcept_avoids _) fun _ =>
    Avoids.bind (Admin.raiseIf_avoids _ _) fun _ => Avoids.pure _

theorem prepareEngineJourney_quiet (cluster : OpenBaoCluster) (data : ExplorerData) :
    (prepareEngineJourney cluster data).Avoids AdminAsk.Engages :=
  Avoids.bind engineDocument_quiet fun _ =>
    Avoids.bind (Admin.raiseIf_avoids _ _) fun _ =>
    Avoids.bind (Admin.ask_avoids id) fun _ =>
    Avoids.bind (Admin.ofExcept_avoids _) fun _ =>
    Avoids.bind (Admin.ask_avoids id) fun _ =>
    Avoids.bind (Admin.raiseIf_avoids _ _) fun _ =>
    Avoids.bind (Admin.raiseIf_avoids _ _) fun _ =>
    Avoids.bind (Admin.ofExcept_avoids _) fun _ =>
    Avoids.bind (Admin.ofExcept_avoids _) fun _ =>
    Avoids.bind (Admin.ofExcept_avoids _) fun _ =>
    Avoids.bind (Admin.raiseIf_avoids _ _) fun _ => Avoids.pure _

omit [Packaging] in
theorem auditCompleted_quiet (mode : ConnectionMode) (cluster : OpenBaoCluster) (request : PlaneRequest)
    (operation risk method path digest reason : String) :
    (auditCompleted mode cluster request operation risk method path digest reason).Avoids AdminAsk.Engages :=
  logBestEffort_avoids writesLog_engages _

omit [Packaging] in
theorem answerEngineFailure_quiet (mode : ConnectionMode) (cluster : OpenBaoCluster) (request : PlaneRequest)
    (action operation risk method path digest reason : String) (error : Error) :
    (answerEngineFailure mode cluster request action operation risk method path digest reason error).Avoids
      AdminAsk.Engages := by
  unfold answerEngineFailure
  split
  · exact Avoids.bind (logBestEffort_avoids writesLog_engages _) fun _ => Avoids.pure _
  · split
    · exact backendFailure_avoids writesLog_engages _ _ _ _
    · exact Admin.raise_avoids _

omit [Packaging] in
theorem answerUnprepared_quiet (mode : ConnectionMode) (cluster : OpenBaoCluster) (request : PlaneRequest)
    (action risk reason : String) (error : Error) :
    (answerUnprepared mode cluster request action risk reason error).Avoids AdminAsk.Engages := by
  unfold answerUnprepared
  split
  · exact Admin.raise_avoids _
  · split
    · exact backendFailure_avoids writesLog_engages _ _ _ _
    · exact Admin.raise_avoids _

omit [Packaging] in
theorem answerSchemaError_quiet {handler : Error → Admin PlaneResponse}
    (hhandler : ∀ error, (handler error).Avoids AdminAsk.Engages) (error : Error) :
    (answerSchemaError handler error).Avoids AdminAsk.Engages := by
  unfold answerSchemaError
  split
  · exact Admin.raise_avoids _
  · exact hhandler _

/-! ### The calls of a plan -/

omit [Packaging] in
theorem produce_pending {mutation : EngineMutation} {h : List PlaneExchange} {e : Admin JsonObject}
    (ht : Talks mutation.produce h e) {r : AdminAsk} (hr : e.pending = some r) (hengages : r.Engages) :
    h = [] ∧ r = mutation.call := by
  cases mutation with
  | enable mountPath configuration => exact ht.request_pending (fun _ => Avoids.pure _) hr hengages
  | tune mountPath configuration => exact ht.request_pending (fun _ => Avoids.pure _) hr hengages
  | remount source destination =>
      refine ht.request_pending (fun result => ?_) hr hengages
      cases result <;> exact Avoids.pure _
  | disable mountPath => exact ht.request_pending (fun _ => Avoids.pure _) hr hengages

omit [Packaging] in
theorem runEngineJourney_pending {data : ExplorerData} {prepared : PreparedJourney} {h : List PlaneExchange}
    {e : Admin JsonObject} (ht : Talks (runEngineJourney data prepared) h e) {r : AdminAsk}
    (hr : e.pending = some r) (hengages : r.Engages) :
    h.map Exchange.request ++ [r] <+: (journeyPlan data prepared).calls := by
  unfold runEngineJourney at ht
  unfold journeyPlan
  dsimp only at ht ⊢
  split at ht
  · next hdiff =>
      rw [if_pos hdiff]
      have hask : Talks (.ask (.executeMountedOperation (mountedCall prepared.prepared data.mountPath "GET"
          [("version", data.query.get "from_version" .null)] [])) _) h e := ht
      cases hask with
      | start =>
          obtain rfl := Option.some.inj hr
          exact ⟨[_], rfl⟩
      | answered answer later =>
          cases answer with
          | error error =>
              obtain ⟨-, rfl⟩ := Talks.done later
              cases hr
          | ok before =>
              obtain ⟨rfl, rfl⟩ := Talks.request_pending (fun _ => Avoids.pure _) later hr hengages
              exact ⟨[], rfl⟩
  · next hother =>
      rw [if_neg hother]
      obtain ⟨rfl, rfl⟩ := Talks.request ht hr
      exact ⟨[], rfl⟩

/-- What a view shows that waits for the call `r`: its plan, and the calls of the plan that were answered. -/
structure EngineAuthorized (mode : ConnectionMode) (request : PlaneRequest) (action : EngineAction)
    (h : List PlaneExchange) (r : AdminAsk) (cluster : OpenBaoCluster) (plan : EnginePlan)
    (preparing answered : List PlaneExchange) : Prop where
  outermost : mode.inAtomicBlock = false
  prepared : action.Prepared cluster preparing plan
  quiet : ∀ x ∈ preparing, ¬ x.request.Engages
  history : h = ⟨.cluster action.permission, .ok cluster⟩ ::
    (preparing ++ durableBlock mode (plan.entry.row cluster request) ++ answered)
  next : answered.map Exchange.request ++ [r] <+: plan.calls

omit [Packaging] in
theorem EngineMutation.inventory_quiet (mutation : EngineMutation) : ∀ x ∈ mutation.inventory, ¬ x.request.Engages := by
  cases mutation <;> simp [EngineMutation.inventory, AdminAsk.Engages]

theorem engineMutation_pending {mode : ConnectionMode} {request : PlaneRequest} {mutation : EngineMutation}
    {reason : String} {h : List PlaneExchange} {e : Admin PlaneResponse}
    (ht : Talks (engineMutation mode request mutation reason) h e) {r : AdminAsk} (hr : e.pending = some r)
    (hengages : r.Engages) : ∃ cluster plan preparing answered,
      EngineAuthorized mode request (.mutate mutation reason) h r cluster plan preparing answered := by
  obtain ⟨h₁, h₂, cluster, rfl, hlooked, hasking⟩ :=
    ht.bind_pending (P := AdminAsk.Engages) (Admin.ask_avoids id) hr hengages
  obtain rfl := Ends.request hlooked
  extract_lets afterwards at hasking
  obtain ⟨inUse, inventory, h₃, rfl, hinventory, hchecking⟩ : ∃ inUse inventory h₃, h₂ = inventory ++ h₃ ∧
      (inUse = false → inventory = mutation.inventory) ∧ Talks (afterwards inUse) h₃ e := by
    clear_value afterwards
    cases mutation with
    | disable mountPath =>
        obtain ⟨h₃, h₄, inUse, rfl, hasked, hchecking⟩ :=
          hasking.bind_pending (P := AdminAsk.Engages) (Admin.ask_avoids id) hr hengages
        obtain rfl := Ends.request hasked
        exact ⟨inUse, _, h₄, rfl, fun hunused => by rw [hunused]; rfl, hchecking⟩
    | _ => exact ⟨false, [], h₂, rfl, fun _ => rfl, hasking⟩
  obtain ⟨h₄, h₅, u, rfl, hunused, hpreparing⟩ := hchecking.bind_pending (Admin.raiseIf_avoids _ _) hr hengages
  obtain ⟨hfree, rfl⟩ := Admin.raiseIf_ends hunused
  obtain rfl := hinventory hfree
  obtain ⟨preflight, running, outcome, rfl, hattempted, hrunning⟩ :=
    hpreparing.bind_pending (prepareEngineOperation_quiet mutation).attempt hr hengages
  obtain ⟨outcome', hprepared, hsame⟩ := hattempted.attempt
  obtain rfl := Except.ok.inj hsame
  cases outcome with
  | error error => exact absurd hengages (((answerUnprepared_quiet _ _ _ _ _ _ error).talks hrunning).2 r hr)
  | ok document =>
      obtain ⟨d', hproducing, hd'⟩ := hrunning.attempt_pending (P := AdminAsk.Engages) (fun outcome => by
        cases outcome with
        | error error => exact answerEngineFailure_quiet _ _ _ _ _ _ _ _ _ _ error
        | ok result => exact Avoids.bind (auditCompleted_quiet _ _ _ _ _ _ _ _ _) fun _ => Avoids.pure _) hr hengages
      obtain ⟨h₆, h₇, mounts, rfl, hlisted, hadmitting⟩ :=
        hproducing.bind_pending (P := AdminAsk.Engages) (Admin.ask_avoids id) hd' hengages
      obtain rfl := Ends.request hlisted
      obtain ⟨h₈, h₉, u, rfl, hadmitted, hauthorizing⟩ :=
        hadmitting.bind_pending (Admin.ofExcept_avoids _) hd' hengages
      obtain ⟨rfl, hallowed⟩ := Talks.done hadmitted
      obtain ⟨block, calling, u', rfl, hblock, hcalling⟩ :=
        hauthorizing.bind_pending (logAdministration_avoids writesLog_engages _ _) hd' hengages
      obtain ⟨houtermost, rfl⟩ := logAdministration_durable hblock
      obtain ⟨rfl, rfl⟩ := produce_pending hcalling hd' hengages
      refine ⟨cluster, ⟨mutation.authorized reason document.digest, [mutation.call]⟩,
        mutation.inventory ++ preflight ++ [⟨.listSecretEngines, .ok mounts⟩], [], houtermost,
        ⟨preflight, document, mounts, rfl, hprepared, (Dialogue.done.inj hallowed).symm, rfl⟩, ?_, ?_, ⟨[], rfl⟩⟩
      · intro x hx
        rcases List.mem_append.mp hx with hx | hx
        · rcases List.mem_append.mp hx with hx | hx
          · exact mutation.inventory_quiet x hx
          · exact (prepareEngineOperation_quiet mutation).ends hprepared x hx
        · rw [List.mem_singleton.mp hx]
          exact id
      · simp [EngineAction.permission]

theorem executeSecretOperation_pending {mode : ConnectionMode} {request : PlaneRequest} {data : ExplorerData}
    {h : List PlaneExchange} {e : Admin PlaneResponse} (ht : Talks (executeSecretOperation mode request data) h e)
    {r : AdminAsk} (hr : e.pending = some r) (hengages : r.Engages) : ∃ cluster plan preparing answered,
      EngineAuthorized mode request (.explore data) h r cluster plan preparing answered := by
  obtain ⟨h₁, h₂, cluster, rfl, hlooked, hpreparing⟩ :=
    ht.bind_pending (P := AdminAsk.Engages) (Admin.ask_avoids id) hr hengages
  obtain rfl := Ends.request hlooked
  obtain ⟨preparing, running, outcome, rfl, hattempted, hrunning⟩ :=
    hpreparing.bind_pending (prepareExplorerExecution_quiet cluster data).attempt hr hengages
  obtain ⟨outcome', hprepared, hsame⟩ := hattempted.attempt
  obtain rfl := Except.ok.inj hsame
  cases outcome with
  | error error =>
      have hquiet := answerSchemaError_quiet (answerUnprepared_quiet mode cluster request "secret-operation-execute"
        "write" data.reason) error
      exact absurd hengages ((hquiet.talks hrunning).2 r hr)
  | ok prepared =>
      obtain ⟨d', hproducing, hd'⟩ := hrunning.attempt_pending (P := AdminAsk.Engages) (fun outcome => by
        cases outcome with
        | error error => exact answerSchemaError_quiet (answerEngineFailure_quiet _ _ _ _ _ _ _ _ _ _) error
        | ok result => exact Avoids.bind (auditCompleted_quiet _ _ _ _ _ _ _ _ _) fun _ => Avoids.pure _) hr hengages
      obtain ⟨block, calling, u, rfl, hblock, hcalling⟩ :=
        hproducing.bind_pending (logAdministration_avoids writesLog_engages _ _) hd' hengages
      obtain ⟨houtermost, rfl⟩ := logAdministration_durable hblock
      obtain ⟨rfl, rfl⟩ := Talks.request hcalling hd'
      refine ⟨cluster, explorerPlan data prepared, preparing, [], houtermost, ⟨prepared, hprepared, rfl⟩,
        (prepareExplorerExecution_quiet cluster data).ends hprepared, ?_, ⟨[], rfl⟩⟩
      rw [List.append_nil, List.append_nil]
      rfl

theorem executeSecretEngineJourney_pending {mode : ConnectionMode} {request : PlaneRequest} {data : ExplorerData}
    {h : List PlaneExchange} {e : Admin PlaneResponse} (ht : Talks (executeSecretEngineJourney mode request data) h e)
    {r : AdminAsk} (hr : e.pending = some r) (hengages : r.Engages) : ∃ cluster plan preparing answered,
      EngineAuthorized mode request (.journey data) h r cluster plan preparing answered := by
  obtain ⟨h₁, h₂, cluster, rfl, hlooked, hpreparing⟩ :=
    ht.bind_pending (P := AdminAsk.Engages) (Admin.ask_avoids id) hr hengages
  obtain rfl := Ends.request hlooked
  obtain ⟨preparing, running, outcome, rfl, hattempted, hrunning⟩ :=
    hpreparing.bind_pending (prepareEngineJourney_quiet cluster data).attempt hr hengages
  obtain ⟨outcome', hprepared, hsame⟩ := hattempted.attempt
  obtain rfl := Except.ok.inj hsame
  cases outcome with
  | error error =>
      have hquiet := answerSchemaError_quiet (answerUnprepared_quiet mode cluster request
        "secret-engine-journey-execute" "write" data.reason) error
      exact absurd hengages ((hquiet.talks hrunning).2 r hr)
  | ok prepared =>
      obtain ⟨d', hproducing, hd'⟩ := hrunning.attempt_pending (P := AdminAsk.Engages) (fun outcome => by
        cases outcome with
        | error error => exact answerSchemaError_quiet (answerEngineFailure_quiet _ _ _ _ _ _ _ _ _ _) error
        | ok result => exact Avoids.bind (auditCompleted_quiet _ _ _ _ _ _ _ _ _) fun _ => Avoids.pure _) hr hengages
      obtain ⟨block, calling, u, rfl, hblock, hcalling⟩ :=
        hproducing.bind_pending (logAdministration_avoids writesLog_engages _ _) hd' hengages
      obtain ⟨houtermost, rfl⟩ := logAdministration_durable hblock
      refine ⟨cluster, journeyPlan data prepared, preparing, calling, houtermost, ⟨prepared, hprepared, rfl⟩,
        (prepareEngineJourney_quiet cluster data).ends hprepared, ?_, runEngineJourney_pending hcalling hd' hengages⟩
      rw [List.append_assoc]
      rfl

/-- Whatever the backend, the inventory and the database answer: a view that comes to a call of an engine has prepared
its action against the live server, the row that authorizes it is durable, and the call is the next one of its plan. -/
theorem engine_call_authorized {mode : ConnectionMode} {request : PlaneRequest} {action : EngineAction}
    {h : List PlaneExchange} {e : Admin PlaneResponse} (ht : Talks (engineView mode request action) h e) {r : AdminAsk}
    (hr : e.pending = some r) (hengages : r.Engages) : ∃ cluster plan preparing answered,
      EngineAuthorized mode request action h r cluster plan preparing answered := by
  cases action with
  | mutate mutation reason => exact engineMutation_pending ht hr hengages
  | explore data => exact executeSecretOperation_pending ht hr hengages
  | journey data => exact executeSecretEngineJourney_pending ht hr hengages

end

/-! ### The answer says what became of the calls -/

/-- A view succeeds exactly if it has made a call and each of its calls was answered. A call of unknown outcome is
answered as such, and one that was refused raises. -/
structure EngineHonest (h : List PlaneExchange) (result : Except Error PlaneResponse) : Prop where
  succeeds_iff : (∃ response, result = .ok response ∧ response.status / 100 = 2) ↔
    (∃ x ∈ h, x.request.Engages) ∧ ∀ x ∈ h, x.request.Engages → ∃ a, x.answer = .ok a
  unknown : ∀ x ∈ h, x.request.Engages → ∀ error, x.answer = .error error → error.isUnknown = true →
    result = .ok (unknownResponse "preflight-only")
  refused : ∀ x ∈ h, x.request.Engages → ∀ error, x.answer = .error error → error.isUnknown = false →
    ∃ err, result = .error err

/-- How a view goes on after its calls: a failure is answered as unknown exactly if the error is, and a result is a
success. -/
structure Answers {α : Type} (k : Except Error α → Admin PlaneResponse) : Prop where
  quiet : ∀ outcome, (k outcome).Avoids AdminAsk.Engages
  unknown : ∀ error h result, Ends (k (.error error)) h result → error.isUnknown = true →
    result = .ok (unknownResponse "preflight-only")
  refused : ∀ error h result, Ends (k (.error error)) h result → error.isUnknown = false → ∃ err, result = .error err
  done : ∀ a h result, Ends (k (.ok a)) h result → ∃ response, result = .ok response ∧ response.status / 100 = 2

theorem Answers.succeeds_iff {α : Type} {k : Except Error α → Admin PlaneResponse} (answers : Answers k)
    {outcome : Except Error α} {h : List PlaneExchange} {result : Except Error PlaneResponse}
    (he : Ends (k outcome) h result) :
    (∃ response, result = .ok response ∧ response.status / 100 = 2) ↔ ∃ a, outcome = .ok a := by
  cases outcome with
  | ok a => exact ⟨fun _ => ⟨a, rfl⟩, fun _ => answers.done a h result he⟩
  | error error =>
      refine ⟨?_, fun ⟨a, hsame⟩ => by cases hsame⟩
      rintro ⟨response, rfl, hstatus⟩
      cases hunknown : error.isUnknown with
      | true =>
          obtain rfl := Except.ok.inj (answers.unknown error h _ he hunknown)
          exact absurd hstatus (by decide)
      | false =>
          obtain ⟨err, hsame⟩ := answers.refused error h _ he hunknown
          cases hsame

/-- Only the calls matter. -/
theorem EngineHonest.congr {h h' : List PlaneExchange} {result : Except Error PlaneResponse}
    (honest : EngineHonest h result) (hsame : ∀ x : PlaneExchange, x.request.Engages → (x ∈ h' ↔ x ∈ h)) :
    EngineHonest h' result where
  succeeds_iff := by
    rw [honest.succeeds_iff]
    constructor
    · rintro ⟨⟨x, hx, hengages⟩, hall⟩
      exact ⟨⟨x, (hsame x hengages).mpr hx, hengages⟩, fun y hy hy' => hall y ((hsame y hy').mp hy) hy'⟩
    · rintro ⟨⟨x, hx, hengages⟩, hall⟩
      exact ⟨⟨x, (hsame x hengages).mp hx, hengages⟩, fun y hy hy' => hall y ((hsame y hy').mpr hy) hy'⟩
  unknown x hx hengages := honest.unknown x ((hsame x hengages).mp hx) hengages
  refused x hx hengages := honest.refused x ((hsame x hengages).mp hx) hengages

theorem EngineHonest.after {h₁ h₂ : List PlaneExchange} {result : Except Error PlaneResponse}
    (hquiet : ∀ x ∈ h₁, ¬ x.request.Engages) (honest : EngineHonest h₂ result) : EngineHonest (h₁ ++ h₂) result := by
  refine honest.congr fun x hengages => ⟨fun hx => ?_, List.mem_append_right _⟩
  exact (List.mem_append.mp hx).resolve_left fun hbefore => hquiet x hbefore hengages

/-- No call, and an exception. -/
theorem EngineHonest.raised {h : List PlaneExchange} {err : Error} (hquiet : ∀ x ∈ h, ¬ x.request.Engages) :
    EngineHonest h (.error err) where
  succeeds_iff := by
    constructor
    · rintro ⟨response, hsame, -⟩
      cases hsame
    · rintro ⟨⟨x, hx, hengages⟩, -⟩
      exact absurd hengages (hquiet x hx)
  unknown x hx hengages := absurd hengages (hquiet x hx)
  refused x hx hengages := absurd hengages (hquiet x hx)

/-- A program that makes its calls, and what the view answers after it. -/
theorem Answers.honest {α : Type} {run : Admin α} {k : Except Error α → Admin PlaneResponse} (answers : Answers k)
    (hrun : Accounts AdminAsk.Engages run) {h : List PlaneExchange} {result : Except Error PlaneResponse}
    (he : Ends (run.attempt >>= k) h result) : EngineHonest h result := by
  obtain ⟨running, answering, outcome, rfl, hends, hanswered⟩ := he.bind_attempt
  have accounted := hrun running outcome hends
  have hquiet := (answers.quiet outcome).ends hanswered
  have honest : EngineHonest running result := by
    constructor
    · rw [answers.succeeds_iff hanswered, accounted.ok_iff]
    · intro x hx hengages error herror hunknown
      rw [accounted.raised x hx hengages error herror] at hanswered
      exact answers.unknown error answering result hanswered hunknown
    · intro x hx hengages error herror hknown
      rw [accounted.raised x hx hengages error herror] at hanswered
      exact answers.refused error answering result hanswered hknown
  refine honest.congr fun x hengages => ⟨fun hx => ?_, List.mem_append_left _⟩
  exact (List.mem_append.mp hx).resolve_right fun hafter => hquiet x hafter hengages

section

variable {mode : ConnectionMode} {cluster : OpenBaoCluster} {request : PlaneRequest}

theorem answerEngineFailure_ends {action operation risk method path digest reason : String} {error : Error}
    {h : List PlaneExchange} {result : Except Error PlaneResponse}
    (he : Ends (answerEngineFailure mode cluster request action operation risk method path digest reason error) h
      result) :
    (error.isUnknown = true → result = .ok (unknownResponse "preflight-only")) ∧
      (error.isUnknown = false → ∃ err, result = .error err) := by
  unfold answerEngineFailure at he
  cases hunknown : error.isUnknown with
  | true =>
      rw [hunknown, if_pos rfl] at he
      refine ⟨fun _ => ?_, ?_⟩
      · rcases he.bind with ⟨err, hlogged, rfl⟩ | ⟨h₁, h₂, complete, -, -, hanswered⟩
        · obtain ⟨complete, hsame⟩ := logBestEffort_ends hlogged
          cases hsame
        · obtain ⟨-, hdone⟩ := Talks.done hanswered
          exact Dialogue.done.inj hdone
      · intro hknown
        cases hknown
  | false =>
      rw [hunknown, if_neg Bool.false_ne_true] at he
      refine ⟨?_, fun _ => ?_⟩
      · intro hunknown
        cases hunknown
      split at he
      · exact backendFailure_ends he
      · obtain ⟨-, hdone⟩ := Talks.done he
        exact ⟨error, Dialogue.done.inj hdone⟩

theorem answerSchemaError_ends {handler : Error → Admin PlaneResponse} {error : Error} {h : List PlaneExchange}
    {result : Except Error PlaneResponse} (he : Ends (answerSchemaError handler error) h result) :
    (error.isUnknown = false ∧ ∃ err, result = .error err) ∨ Ends (handler error) h result := by
  unfold answerSchemaError at he
  split at he
  · obtain ⟨-, hdone⟩ := Talks.done he
    exact .inl ⟨rfl, _, Dialogue.done.inj hdone⟩
  · exact .inr he

theorem answerUnprepared_ends {action risk reason : String} {error : Error} {h : List PlaneExchange}
    {result : Except Error PlaneResponse}
    (he : Ends (answerUnprepared mode cluster request action risk reason error) h result) :
    ∃ err, result = .error err := by
  unfold answerUnprepared at he
  split at he
  · obtain ⟨-, hdone⟩ := Talks.done he
    exact ⟨_, Dialogue.done.inj hdone⟩
  · split at he
    · exact backendFailure_ends he
    · obtain ⟨-, hdone⟩ := Talks.done he
      exact ⟨_, Dialogue.done.inj hdone⟩

/-- A success is answered whether or not its row could be written. -/
theorem auditCompleted_done {operation risk method path digest reason : String} {payload : JsonObject}
    {h : List PlaneExchange} {result : Except Error PlaneResponse}
    (he : Ends (auditCompleted mode cluster request operation risk method path digest reason >>= fun complete =>
      (pure (mutationResponse payload complete) : Admin PlaneResponse)) h result) :
    ∃ response, result = .ok response ∧ response.status / 100 = 2 := by
  rcases he.bind with ⟨err, hlogged, -⟩ | ⟨h₁, h₂, complete, -, -, hanswered⟩
  · obtain ⟨complete, hsame⟩ := logBestEffort_ends hlogged
    cases hsame
  · obtain ⟨-, hdone⟩ := Talks.done hanswered
    have hstatus : (mutationResponse payload complete).status = 200 := by cases complete <;> rfl
    exact ⟨_, Dialogue.done.inj hdone, by rw [hstatus]⟩

end

/-- The entries of a dict, of which another value has none. -/
def entriesOf : Json → JsonObject
  | .dict entries => entries
  | _ => []

theorem call_accounts {α : Type} {r : AdminAsk} (hr : r.Engages) (g : r.Answer → α) :
    Accounts AdminAsk.Engages (Admin.ask r >>= fun a => (pure (g a) : Admin α)) := Accounts.request hr g

theorem both_accounts {α : Type} {r s : AdminAsk} (hr : r.Engages) (hs : s.Engages) (g : r.Answer → s.Answer → α) :
    Accounts AdminAsk.Engages (Admin.ask r >>= fun a => Admin.ask s >>= fun b => (pure (g a b) : Admin α)) :=
  Accounts.two hr hs g

theorem produce_accounts (mutation : EngineMutation) : Accounts AdminAsk.Engages mutation.produce := by
  cases mutation with
  | remount source destination =>
      have hproduce : (EngineMutation.remount source destination).produce =
          Admin.ask (.remountSecretEngine source destination) >>= fun answer => pure (entriesOf answer) := by
        refine congrArg (Admin.ask (.remountSecretEngine source destination) >>= ·) (funext fun answer => ?_)
        cases answer <;> rfl
      rw [hproduce]
      exact call_accounts (r := .remountSecretEngine source destination) trivial entriesOf
  | enable mountPath configuration =>
      exact call_accounts (r := .enableSecretEngine mountPath configuration) trivial fun _ => []
  | tune mountPath configuration =>
      exact call_accounts (r := .tuneSecretEngine mountPath configuration) trivial fun _ => []
  | disable mountPath =>
      exact call_accounts (r := .disableSecretEngine mountPath) trivial fun _ => []

/-- A program that is one call. -/
theorem mounted_accounts (call : MountedCall) : Accounts AdminAsk.Engages (Admin.ask (.executeMountedOperation call)) := by
  have hcall : (Admin.ask (.executeMountedOperation call) >>= fun result => pure result) =
      Admin.ask (.executeMountedOperation call) := request_bind_pure _
  rw [← hcall]
  exact call_accounts (r := .executeMountedOperation call) trivial id

theorem runEngineJourney_accounts (data : ExplorerData) (prepared : PreparedJourney) :
    Accounts AdminAsk.Engages (runEngineJourney data prepared) := by
  unfold runEngineJourney
  dsimp only
  split
  · exact both_accounts (r := .executeMountedOperation _) (s := .executeMountedOperation _) trivial trivial _
  · exact mounted_accounts _

section

variable [Packaging] {mode : ConnectionMode} {request : PlaneRequest}

theorem engineMutation_honest {mutation : EngineMutation} {reason : String} {h : List PlaneExchange}
    {result : Except Error PlaneResponse} (he : Ends (engineMutation mode request mutation reason) h result) :
    EngineHonest h result := by
  rcases he.bind with ⟨err, hlooked, rfl⟩ | ⟨h₁, h₂, cluster, rfl, hlooked, hasking⟩
  · exact .raised ((Admin.ask_avoids id).ends hlooked)
  refine .after ((Admin.ask_avoids (P := AdminAsk.Engages) id).ends hlooked) ?_
  extract_lets afterwards at hasking
  have hafterwards : ∀ inUse h result, Ends (afterwards inUse) h result → EngineHonest h result := by
    intro inUse h result he
    rcases he.bind with ⟨err, hchecked, rfl⟩ | ⟨h₁, h₂, u, rfl, hchecked, hpreparing⟩
    · exact .raised ((Admin.raiseIf_avoids _ _).ends hchecked)
    refine .after ((Admin.raiseIf_avoids _ _).ends hchecked) ?_
    obtain ⟨preparing, running, outcome, rfl, hprepared, hrunning⟩ := hpreparing.bind_attempt
    refine .after ((prepareEngineOperation_quiet mutation).ends hprepared) ?_
    cases outcome with
    | error error =>
        obtain ⟨err, rfl⟩ := answerUnprepared_ends hrunning
        exact .raised ((answerUnprepared_quiet _ _ _ _ _ _ error).ends hrunning)
    | ok document =>
        refine Answers.honest ⟨?_, ?_, ?_, ?_⟩ ?_ hrunning
        · intro outcome
          cases outcome with
          | error error => exact answerEngineFailure_quiet _ _ _ _ _ _ _ _ _ _ error
          | ok result => exact Avoids.bind (auditCompleted_quiet _ _ _ _ _ _ _ _ _) fun _ => Avoids.pure _
        · exact fun error h result hanswered => (answerEngineFailure_ends hanswered).1
        · exact fun error h result hanswered => (answerEngineFailure_ends hanswered).2
        · exact fun payload h result hanswered => auditCompleted_done hanswered
        · exact .after (Admin.ask_avoids id) fun mounts => .after (Admin.ofExcept_avoids _) fun _ =>
            .after (logAdministration_avoids writesLog_engages _ _) fun _ => produce_accounts mutation
  clear_value afterwards
  cases mutation with
  | disable mountPath =>
      rcases hasking.bind with ⟨err, hasked, rfl⟩ | ⟨h₁, h₂, inUse, rfl, hasked, hchecking⟩
      · exact .raised ((Admin.ask_avoids id).ends hasked)
      · exact .after ((Admin.ask_avoids (P := AdminAsk.Engages) id).ends hasked) (hafterwards inUse _ _ hchecking)
  | _ => exact hafterwards false _ _ hasking

omit [Packaging] in
/-- A request that could not be prepared has made no call. -/
theorem unprepared_honest {cluster : OpenBaoCluster} {action reason : String} {error : Error} {h : List PlaneExchange}
    {result : Except Error PlaneResponse}
    (he : Ends (answerSchemaError (answerUnprepared mode cluster request action "write" reason) error) h result) :
    EngineHonest h result := by
  have hquiet := (answerSchemaError_quiet (answerUnprepared_quiet mode cluster request action "write" reason)
    error).ends he
  rcases answerSchemaError_ends he with ⟨-, err, rfl⟩ | hunprepared
  · exact .raised hquiet
  · obtain ⟨err, rfl⟩ := answerUnprepared_ends hunprepared
    exact .raised hquiet

omit [Packaging] in
/-- How the explorer and the journeys go on after their calls. -/
theorem answers_prepared {cluster : OpenBaoCluster} {action operation risk method path digest reason : String}
    {audited : String} {payload : JsonObject → JsonObject} {k : Except Error JsonObject → Admin PlaneResponse}
    (herror : ∀ error, k (.error error) =
      answerSchemaError (answerEngineFailure mode cluster request action operation risk method path digest reason) error)
    (hok : ∀ result, k (.ok result) =
      auditCompleted mode cluster request audited risk method path digest reason >>= fun complete =>
        pure (mutationResponse (payload result) complete)) : Answers k where
  quiet outcome := by
    cases outcome with
    | error error =>
        rw [herror]
        exact answerSchemaError_quiet (answerEngineFailure_quiet _ _ _ _ _ _ _ _ _ _) error
    | ok result =>
        rw [hok]
        exact Avoids.bind (auditCompleted_quiet _ _ _ _ _ _ _ _ _) fun _ => Avoids.pure _
  unknown error h result he hunknown := by
    rw [herror] at he
    rcases answerSchemaError_ends he with ⟨hknown, -⟩ | hfailed
    · rw [hunknown] at hknown
      cases hknown
    · exact (answerEngineFailure_ends hfailed).1 hunknown
  refused error h result he hknown := by
    rw [herror] at he
    rcases answerSchemaError_ends he with ⟨-, hraised⟩ | hfailed
    · exact hraised
    · exact (answerEngineFailure_ends hfailed).2 hknown
  done result h answer he := by
    rw [hok] at he
    exact auditCompleted_done he

theorem executeSecretOperation_honest {data : ExplorerData} {h : List PlaneExchange}
    {result : Except Error PlaneResponse} (he : Ends (executeSecretOperation mode request data) h result) :
    EngineHonest h result := by
  rcases he.bind with ⟨err, hlooked, rfl⟩ | ⟨h₁, h₂, cluster, rfl, hlooked, hpreparing⟩
  · exact .raised ((Admin.ask_avoids id).ends hlooked)
  refine .after ((Admin.ask_avoids (P := AdminAsk.Engages) id).ends hlooked) ?_
  obtain ⟨preparing, running, outcome, rfl, hprepared, hrunning⟩ := hpreparing.bind_attempt
  refine .after ((prepareExplorerExecution_quiet cluster data).ends hprepared) ?_
  cases outcome with
  | error error => exact unprepared_honest hrunning
  | ok prepared =>
      refine Answers.honest (answers_prepared (fun _ => rfl) fun _ => rfl) ?_ hrunning
      exact .after (logAdministration_avoids writesLog_engages _ _) fun _ => mounted_accounts _

theorem executeSecretEngineJourney_honest {data : ExplorerData} {h : List PlaneExchange}
    {result : Except Error PlaneResponse} (he : Ends (executeSecretEngineJourney mode request data) h result) :
    EngineHonest h result := by
  rcases he.bind with ⟨err, hlooked, rfl⟩ | ⟨h₁, h₂, cluster, rfl, hlooked, hpreparing⟩
  · exact .raised ((Admin.ask_avoids id).ends hlooked)
  refine .after ((Admin.ask_avoids (P := AdminAsk.Engages) id).ends hlooked) ?_
  obtain ⟨preparing, running, outcome, rfl, hprepared, hrunning⟩ := hpreparing.bind_attempt
  refine .after ((prepareEngineJourney_quiet cluster data).ends hprepared) ?_
  cases outcome with
  | error error => exact unprepared_honest hrunning
  | ok prepared =>
      refine Answers.honest (answers_prepared (fun _ => rfl) fun _ => rfl) ?_ hrunning
      exact .after (logAdministration_avoids writesLog_engages _ _) fun _ => runEngineJourney_accounts _ _

/-- Whatever the backend, the inventory and the database answer: an engine action that has come to an end tells what
became of its calls, audited or not. -/
theorem engine_outcome_honest {action : EngineAction} {h : List PlaneExchange} {result : Except Error PlaneResponse}
    (he : Ends (engineView mode request action) h result) : EngineHonest h result := by
  cases action with
  | mutate mutation reason => exact engineMutation_honest he
  | explore data => exact executeSecretOperation_honest he
  | journey data => exact executeSecretEngineJourney_honest he

end

namespace Sample

def teamDbAction : EngineAction := .explore readTeamDb

def teamDbRow : AdministrationLog := (explorerAuthorized teamDbRead "maintenance").row openBaoCluster planeRequest

def teamDbCall : AdminAsk :=
  .executeMountedOperation (mountedCall teamDbRead "team-db" teamDbRead.operation.method [] [])

def teamDbLookup : List PlaneExchange := [⟨.cluster "explore_secret_operations", .ok openBaoCluster⟩]

theorem teamDb_looked : Ends (Admin.ask (.cluster "explore_secret_operations")) teamDbLookup (.ok openBaoCluster) :=
  .answered _ (.start _)

/-- The request is admitted, and its row is durable. -/
def teamDbCalling : List PlaneExchange := teamDbLookup ++ (admittedWith [teamDb] ++ (logged teamDbRow ++ []))

theorem teamDb_waits : Waits (@engineView packaging ⟨false, true⟩ planeRequest teamDbAction) teamDbCalling teamDbCall := by
  refine Ends.waits teamDb_looked (Ends.waits (Ends.attempted (teamDb_admitted (by decide))) ?_)
  refine Waits.bind (Waits.attempt (Ends.waits (logRow _ _ _ (by decide)) ?_))
  exact Waits.request _

end Sample

theorem engine_call_authorized_team : ∃ cluster plan preparing answered,
    @EngineAuthorized Sample.packaging ⟨false, true⟩ Sample.planeRequest Sample.teamDbAction Sample.teamDbCalling
      Sample.teamDbCall cluster plan preparing answered := by
  obtain ⟨e, ht, hr⟩ := Sample.teamDb_waits
  exact @engine_call_authorized Sample.packaging _ _ _ _ _ ht _ hr trivial

namespace Sample

/-- The call fails, and nothing is known of it. -/
def teamDbUnknown : Error := .openbao .mutationUnknown ""

def teamDbUnknownRow : AdministrationLog :=
  AuditEntry.row
    { action := s!"{teamDbRead.operation.operationId}-outcome-unknown", operationId := teamDbRead.operation.operationId
      riskLevel := teamDbRead.operation.riskLevel, method := teamDbRead.operation.method
      pathTemplate := teamDbRead.operation.pathTemplate, reason := "maintenance"
      capabilityDigest := teamDbRead.document.digest, outcome := "unknown", success := false
      statusCode := some 503
      message := "OpenBao may have accepted the request; state verification is required before retry." }
    openBaoCluster planeRequest

def teamDbLost : List PlaneExchange :=
  teamDbLookup ++ (admittedWith [teamDb] ++ ((logged teamDbRow ++
    [⟨.executeMountedOperation (mountedCall teamDbRead "team-db" teamDbRead.operation.method [] []),
      .error teamDbUnknown⟩]) ++ (logged teamDbUnknownRow ++ [])))

theorem teamDb_ends : Ends (@engineView packaging ⟨false, true⟩ planeRequest teamDbAction) teamDbLost
    (.ok (unknownResponse "preflight-only")) := by
  have hrun : Ends (runExplorer ⟨false, true⟩ openBaoCluster planeRequest readTeamDb teamDbRead) (logged teamDbRow ++
      [⟨.executeMountedOperation (mountedCall teamDbRead "team-db" teamDbRead.operation.method [] []),
        .error teamDbUnknown⟩]) (.error teamDbUnknown) :=
    Ends.andThen (logRow _ _ _ (by decide)) (.answered _ (.start _))
  refine Ends.andThen teamDb_looked (Ends.andThen (Ends.attempted (teamDb_admitted (by decide))) ?_)
  refine Ends.andThen hrun.attempted (Ends.andThen (a := true) ?_ (.start _))
  rw [← List.append_nil (logged _)]
  exact Ends.andThen (logRow _ _ _ (by decide)).attempted (.start _)

end Sample

theorem engine_outcome_honest_team : EngineHonest Sample.teamDbLost (.ok (unknownResponse "preflight-only")) :=
  @engine_outcome_honest Sample.packaging _ _ _ _ _ Sample.teamDb_ends

end NetboxOpenbao
