import NetboxOpenbao.Proof.Administration.FinalViews

/-!
# Access-control operations are confirmed against what was previewed
-/

namespace NetboxOpenbao

open Effect Dialogue

section

variable [Packaging]

namespace Access

/-- The reads of an impact. -/
def ImpactRead (call : ReviewedCall) : Prop := call.method = "GET" ∧ call.payload = [] ∧ call.material = false

/-- A request of this call. -/
abbrev Makes (call : ReviewedCall) (r : AdminAsk) : Prop := r = .executeAccessOperation call

variable {call : ReviewedCall}

omit [Packaging] in
theorem makes_executes (r : AdminAsk) (hr : Makes call r) : r.Executes := by
  subst hr
  trivial

omit [Packaging] in
theorem operationContract_ok {key name : String} {resource : AccessResourceSpec} {operation : AccessOperationSpec}
    (h : operationContract key name = .ok (resource, operation)) :
    resource ∈ accessResources ∧ resource.key = key ∧ resource.operations.lookup name = some operation := by
  obtain ⟨found, hfound, hlooked⟩ := Fallible.bind_ok h
  unfold resourceSpec at hfound
  split at hfound
  · next resource' hfind =>
      obtain rfl := Except.ok.inj hfound
      split at hlooked
      · next operation' hoperation =>
          obtain ⟨rfl, rfl⟩ := Prod.mk.inj (Except.ok.inj hlooked)
          exact ⟨List.mem_of_find?_eq_some hfind, by simpa using List.find?_some hfind, hoperation⟩
      · cases hlooked
  · cases hfound

omit [Packaging] in
theorem reads_get {resource : AccessResourceSpec} (hresource : resource ∈ accessResources) {read : AccessOperationSpec}
    (hread : resource.operations.lookup "read" = some read) : read.method = "GET" := by
  have hall : ∀ resource ∈ accessResources,
      (resource.operations.lookup "read").all (fun read => read.method == "GET") = true := by decide +kernel
  have hget := hall resource hresource
  rw [hread] at hget
  simpa using hget

omit [Packaging] in
/-- Besides a merge, no destructive operation has a field, and a merge has no identifier. -/
theorem destructive_fields {resource : AccessResourceSpec} (hresource : resource ∈ accessResources) {name : String}
    {operation : AccessOperationSpec} (hoperation : resource.operations.lookup name = some operation)
    (hdestructive : operation.confirmation ≠ "") :
    (name = "merge" ∧ AccessOperationSpec.identifierRequired operation = false) ∨
      (name ≠ "merge" ∧ operation.fields = []) := by
  have hall : ∀ resource ∈ accessResources, ∀ entry ∈ resource.operations, entry.2.confirmation ≠ "" →
      (entry.1 = "merge" ∧ AccessOperationSpec.identifierRequired entry.2 = false) ∨
        (entry.1 ≠ "merge" ∧ entry.2.fields = []) := by decide +kernel
  exact hall resource hresource (name, operation) (mem_of_lookup hoperation) hdestructive

omit [Packaging] in
theorem readState_avoids {method path : String} (hcall : ¬ ImpactRead call) (hmethod : method = "GET") :
    (readState method path).Avoids (Makes call) := by
  refine Avoids.bind (Admin.ask_avoids fun hsame => ?_) fun response => ?_
  · cases hsame
    exact hcall ⟨hmethod, rfl, rfl⟩
  · split
    · split
      · exact Avoids.pure _
      · exact Admin.raise_avoids _
    · exact Admin.raise_avoids _

omit [Packaging] in
theorem readEntities_avoids (hcall : ¬ ImpactRead call) (ids : List String) :
    (readEntities ids).Avoids (Makes call) := by
  induction ids with
  | nil => exact Avoids.pure _
  | cons id rest ih =>
      exact Avoids.bind (readState_avoids hcall rfl) fun _ => Avoids.bind ih fun _ => Avoids.pure _

omit [Packaging] in
theorem accessImpact_avoids {data : AccessData} (hcall : ¬ ImpactRead call) (hresource : data.resource ∈ accessResources) :
    (accessImpact data).Avoids (Makes call) := by
  unfold accessImpact
  split
  · exact Avoids.bind (readEntities_avoids hcall _) fun _ => Avoids.pure _
  · split
    · exact Admin.raise_avoids _
    · next read hread =>
        exact Avoids.bind (readState_avoids hcall (reads_get hresource hread)) fun _ => Avoids.pure _

theorem prepareAccess_avoids (operation : AccessOperationSpec) (digest : String) :
    (prepareAccess operation digest).Avoids AdminAsk.Executes :=
  Avoids.bind (reviewedDocument_avoids _ _ _) fun _ =>
    Avoids.bind (Admin.raiseIf_avoids _ _) fun _ => Avoids.pure _

theorem prepareAccess_ends {operation : AccessOperationSpec} {digest : String} {h : List PlaneExchange}
    {document : CapabilityDocument} (he : Ends (prepareAccess operation digest) h (.ok document)) :
    ReviewedPreflight digest document h ∧ runtimeAdvertises document operation = true := by
  obtain ⟨h₁, h₂, found, rfl, hfound, hchecked⟩ := he.bind_ok
  obtain ⟨hadvertised, hreturned⟩ := Admin.raiseIf_ok hchecked
  obtain ⟨rfl, rfl⟩ := Ends.pure_ok hreturned
  rw [List.append_nil]
  exact ⟨reviewedDocument_ends hfound, by simpa using hadvertised⟩

omit [Packaging] in
/-- What both serializers admit: a payload of the declared fields, and an identifier where the path has one. -/
theorem accessData_ok {attrs : ReviewedAttrs} {resource : AccessResourceSpec} {operation : AccessOperationSpec}
    {data : AccessData} (h : accessData attrs resource operation = .ok data) :
    data.resource = resource ∧ data.operation = operation ∧ data.operationName = attrs.operation ∧
      data.impactDigest = attrs.impactDigest.getD "" ∧
      (AccessOperationSpec.identifierRequired operation = false → data.identifier = "") ∧
      (operation.fields = [] → data.payload = []) := by
  obtain ⟨identifier, hidentifier, hrest⟩ := Fallible.bind_ok h
  obtain ⟨payload, hpayload, hreturned⟩ := Fallible.bind_ok hrest
  obtain rfl := Except.ok.inj hreturned
  refine ⟨rfl, rfl, rfl, rfl, ?_, ?_⟩
  · intro hnone
    unfold accessIdentifier at hidentifier
    rw [hnone, if_neg Bool.false_ne_true] at hidentifier
    split at hidentifier
    · cases hidentifier
    · exact (Except.ok.inj hidentifier).symm
  · intro hnone
    have hvalid := contracted_ok hpayload
    rw [hnone] at hvalid
    unfold validateAccessPayload at hvalid
    split at hvalid
    · next entries _ =>
        cases entries with
        | nil => exact (Except.ok.inj hvalid).symm
        | cons entry rest => cases hvalid
    · cases hvalid

variable [DocumentHashing]

theorem checkAccess_avoids {data : AccessData} (hresource : data.resource ∈ accessResources)
    (hcall : ¬ (ImpactRead call ∧ data.operation.confirmation ≠ "")) : (checkAccess data).Avoids (Makes call) := by
  refine Avoids.bind ((prepareAccess_avoids _ _).mono makes_executes) fun _ => Avoids.bind ?_ fun _ => Avoids.pure _
  split
  · next hdestructive =>
      have hother : ¬ ImpactRead call := fun hread => hcall ⟨hread, by simpa using hdestructive⟩
      exact Avoids.bind (accessImpact_avoids hother hresource) fun _ => Admin.raiseIf_avoids _ _
  · exact Avoids.pure _

theorem checkAccess_ends {data : AccessData} {h : List PlaneExchange} {digest : String}
    (he : Ends (checkAccess data) h (.ok digest)) :
    ∃ document preflight reading, h = preflight ++ reading ∧ digest = document.digest ∧
      ReviewedPreflight data.capabilityDigest document preflight ∧
      runtimeAdvertises document data.operation = true ∧
      (data.operation.confirmation = "" → reading = []) ∧
      (data.operation.confirmation ≠ "" →
        ∃ impact, Ends (accessImpact data) reading (.ok impact) ∧ impactDigest impact = data.impactDigest) := by
  obtain ⟨preflight, after, document, rfl, hprepared, hchecking⟩ := he.bind_ok
  obtain ⟨reading, none', u, rfl, hreading, hreturned⟩ := hchecking.bind_ok
  obtain ⟨rfl, rfl⟩ := Ends.pure_ok hreturned
  obtain ⟨hpreflight, hadvertised⟩ := prepareAccess_ends hprepared
  refine ⟨document, preflight, reading, by rw [List.append_nil], rfl, hpreflight, hadvertised, ?_, ?_⟩
  · intro hplain
    rw [hplain] at hreading
    exact (Ends.pure_ok hreading).1
  · intro hdestructive
    have hconfirmed : (data.operation.confirmation != "") = true := by simpa using hdestructive
    rw [if_pos hconfirmed] at hreading
    obtain ⟨read, compared, impact, rfl, himpact, hcompared⟩ := hreading.bind_ok
    obtain ⟨hsame, rfl⟩ := Admin.raiseIf_ends hcompared
    refine ⟨impact, by rwa [List.append_nil], by simpa using hsame⟩

omit [Packaging] [DocumentHashing] in
theorem validateAccessExecute_ok {slug : String} {attrs : ReviewedAttrs} {data : AccessData}
    (h : validateAccessExecute slug attrs = .ok data) :
    operationContract attrs.resource attrs.operation = .ok (data.resource, data.operation) ∧
      accessData attrs data.resource data.operation = .ok data ∧
      (data.operation.confirmation ≠ "" →
        attrs.impactDigest.getD "" ≠ "" ∧ attrs.confirmation = some (data.expectedConfirmation slug)) ∧
      (data.operation.confirmation = "" → attrs.impactDigest.getD "" = "") := by
  obtain ⟨⟨resource, operation⟩, hcontract, hrest⟩ := Fallible.bind_ok h
  obtain ⟨found, hfound, hchecked⟩ := Fallible.bind_ok hrest
  obtain ⟨⟨⟩, hconfirmed, hreturned⟩ := Fallible.bind_ok hchecked
  obtain rfl := Except.ok.inj hreturned
  obtain ⟨rfl, rfl, -⟩ := accessData_ok hfound
  obtain ⟨hgiven, hnone⟩ := checkConfirmation_ok hconfirmed
  refine ⟨contracted_ok hcontract, hfound, fun hdestructive => hgiven (by simpa using hdestructive), fun hplain => ?_⟩
  refine hnone ?_
  rw [hplain]
  rfl

omit [Packaging] [DocumentHashing] in
theorem validateAccessPreview_ok {attrs : ReviewedAttrs} {data : AccessData}
    (h : validateAccessPreview attrs = .ok data) :
    operationContract attrs.resource attrs.operation = .ok (data.resource, data.operation) ∧
      accessData attrs data.resource data.operation = .ok data ∧ data.operation.confirmation ≠ "" := by
  obtain ⟨⟨resource, operation⟩, hcontract, hrest⟩ := Fallible.bind_ok h
  obtain ⟨⟨⟩, hdestructive, hfound⟩ := Fallible.bind_ok hrest
  obtain ⟨rfl, rfl, -⟩ := accessData_ok hfound
  refine ⟨contracted_ok hcontract, hfound, fun hempty => ?_⟩
  rw [hempty] at hdestructive
  cases hdestructive

/-- What has been seen when an execution comes to its call. -/
def AccessAuthorized (mode : ConnectionMode) (request : PlaneRequest) (attrs : ReviewedAttrs) (slug : String)
    (cluster : OpenBaoCluster) (data : AccessData) (h : List PlaneExchange) : Prop :=
  ∃ document preflight reading, mode.inAtomicBlock = false ∧
    h = preflight ++ reading ++ durableBlock mode ((data.authorized document.digest).row cluster request) ∧
    ReviewedPreflight data.capabilityDigest document preflight ∧
    runtimeAdvertises document data.operation = true ∧ (data.operation.confirmation = "" → reading = []) ∧
    (data.operation.confirmation ≠ "" → attrs.confirmation = some (data.expectedConfirmation slug) ∧
      ∃ impact, Ends (accessImpact data) reading (.ok impact) ∧ impactDigest impact = data.impactDigest)

omit [Packaging] [DocumentHashing] in
theorem answerAccessFailure_avoids (mode : ConnectionMode) (cluster : OpenBaoCluster) (request : PlaneRequest)
    (data : AccessData) (error : Error) :
    (answerAccessFailure mode cluster request data error).Avoids AdminAsk.Executes := by
  unfold answerAccessFailure
  split
  · exact Avoids.pure _
  · exact backendFailure_avoids writesLog_executes _ _ _ _

/-- A view that waits for a call of an access-control operation either reads the impact of a destructive one once more,
or it executes. -/
theorem accessCall_pending {mode : ConnectionMode} {request : PlaneRequest} {attrs : ReviewedAttrs}
    {h : List PlaneExchange} {e : Admin PlaneResponse}
    (ht : Talks (accessResourceExecute mode request attrs) h e) (hr : e.pending = some (.executeAccessOperation call)) :
    ∃ viewed data cluster rest, validateAccessExecute viewed.slug attrs = .ok data ∧
      h = ⟨.cluster "view_access", .ok viewed⟩ ::
        ⟨.cluster (permissionAction data.operation.permission), .ok cluster⟩ :: rest ∧
      ((ImpactRead call ∧ data.operation.confirmation ≠ "") ∨
        (call = data.call ∧ AccessAuthorized mode request attrs viewed.slug cluster data rest)) := by
  obtain ⟨viewed, data, cluster, rest, hvalidated, rfl, hacting⟩ :=
    reviewed_pending (P := Makes call) (fun _ hsame => by cases hsame) ht hr rfl
  obtain ⟨hcontract, -, hconfirmed, -⟩ := validateAccessExecute_ok hvalidated
  obtain ⟨hresource, -⟩ := operationContract_ok hcontract
  refine ⟨viewed, data, cluster, rest, hvalidated, rfl, ?_⟩
  by_cases hread : ImpactRead call ∧ data.operation.confirmation ≠ ""
  · exact .inl hread
  obtain ⟨d', hrunning, hd'⟩ := hacting.attempt_pending (P := Makes call) (by
    intro outcome
    cases outcome with
    | error error => exact (answerAccessFailure_avoids mode cluster request data error).mono makes_executes
    | ok completed =>
        exact Avoids.bind ((logBestEffort_avoids writesLog_executes _).mono makes_executes) fun _ => Avoids.pure _)
    hr rfl
  obtain ⟨digest, checking, calling, hchecked, houtermost, rfl, hcalling⟩ :=
    authorize_pending (P := Makes call) (fun r hlog hsame => writesLog_executes r hlog (makes_executes r hsame))
      (checkAccess_avoids hresource hread) hrunning hd' rfl
  obtain ⟨rfl, hcall⟩ := hcalling.request_pending (P := Makes call) (fun result => by
    split
    · exact Avoids.pure _
    · exact Admin.raise_avoids _) hd' rfl
  cases hcall
  obtain ⟨document, preflight, reading, rfl, rfl, hpreflight, hadvertised, hplain, hdestructive⟩ :=
    checkAccess_ends hchecked
  refine .inr ⟨rfl, document, preflight, reading, houtermost, ?_, hpreflight, hadvertised, hplain,
    fun h => ⟨(hconfirmed h).2, hdestructive h⟩⟩
  rw [List.append_nil]

/-- What came before the call was no other call, only reads of the impact. -/
theorem AccessAuthorized.quiet {mode : ConnectionMode} {request : PlaneRequest} {attrs : ReviewedAttrs} {slug : String}
    {cluster : OpenBaoCluster} {data : AccessData} {h : List PlaneExchange}
    (authorized : AccessAuthorized mode request attrs slug cluster data h) (hresource : data.resource ∈ accessResources) :
    ∀ x ∈ h, ∀ other, x.request = .executeAccessOperation other → ImpactRead other := by
  obtain ⟨document, preflight, reading, -, rfl, hpreflight, -, hplain, hdestructive⟩ := authorized
  intro x hx other hsame
  have hmade : x.request.Executes := by
    rw [hsame]
    trivial
  rcases List.mem_append.mp hx with hx | hx
  · rcases List.mem_append.mp hx with hx | hx
    · exact absurd hmade (hpreflight.quiet x hx)
    · refine Classical.byContradiction fun hother => ?_
      by_cases hplains : data.operation.confirmation = ""
      · rw [hplain hplains] at hx
        cases hx
      · obtain ⟨-, impact, hread, -⟩ := hdestructive hplains
        exact (accessImpact_avoids hother hresource).ends hread x hx hsame
  · exact absurd hmade (writesLog_executes _ (durableBlock_writes hx))

/-- A view that comes to a call of an access-control operation was given valid data, and the cluster was looked up under
the permission of the operation. It still reads the impact of a destructive one, or it makes the call of that data and
everything else is settled; no other call was made before. -/
theorem access_call_authorized {mode : ConnectionMode} {request : PlaneRequest} {attrs : ReviewedAttrs}
    {h : List PlaneExchange} {e : Admin PlaneResponse} (ht : Talks (accessResourceExecute mode request attrs) h e)
    (hr : e.pending = some (.executeAccessOperation call)) :
    ∃ viewed data cluster rest, validateAccessExecute viewed.slug attrs = .ok data ∧
      h = ⟨.cluster "view_access", .ok viewed⟩ ::
        ⟨.cluster (permissionAction data.operation.permission), .ok cluster⟩ :: rest ∧
      ((ImpactRead call ∧ data.operation.confirmation ≠ "") ∨
        (call = data.call ∧ AccessAuthorized mode request attrs viewed.slug cluster data rest ∧
          ∀ x ∈ h, ∀ other, x.request = .executeAccessOperation other → ImpactRead other)) := by
  obtain ⟨viewed, data, cluster, rest, hvalid, rfl, hreading | ⟨hcall, hauthorized⟩⟩ := accessCall_pending ht hr
  · exact ⟨viewed, data, cluster, rest, hvalid, rfl, .inl hreading⟩
  obtain ⟨hcontract, -⟩ := validateAccessExecute_ok hvalid
  refine ⟨viewed, data, cluster, rest, hvalid, rfl, .inr ⟨hcall, hauthorized, ?_⟩⟩
  intro x hx other hsame
  rcases List.mem_cons.mp hx with rfl | hx
  · cases hsame
  rcases List.mem_cons.mp hx with rfl | hx
  · cases hsame
  exact hauthorized.quiet (operationContract_ok hcontract).1 x hx other hsame

/-! ### The digest of a preview -/

omit [Packaging] [DocumentHashing] in
/-- What an impact holds. -/
theorem accessImpact_ok {data : AccessData} {h : List PlaneExchange} {impact : JsonObject}
    (he : Ends (accessImpact data) h (.ok impact)) :
    (data.operationName = "merge" ∧ ∃ entities : List Json,
      impact = [("resource", .str data.resource.key), ("operation", .str data.operationName),
        ("payload", .dict data.payload), ("entities", .list entities)]) ∨
    (data.operationName ≠ "merge" ∧ ∃ current : Json,
      impact = [("resource", .str data.resource.key), ("operation", .str data.operationName),
        ("identifier", .str data.identifier), ("current", current)]) := by
  unfold accessImpact at he
  split at he
  · next hmerge =>
      obtain ⟨h₁, h₂, entities, -, -, hreturned⟩ := he.bind_ok
      obtain ⟨-, rfl⟩ := Ends.pure_ok hreturned
      exact .inl ⟨by simpa using hmerge, entities, rfl⟩
  · next hother =>
      split at he
      · exact absurd he Ends.raise_ok
      · obtain ⟨h₁, h₂, current, -, -, hreturned⟩ := he.bind_ok
        obtain ⟨-, rfl⟩ := Ends.pure_ok hreturned
        exact .inr ⟨by simpa using hother, current, rfl⟩

omit [Packaging] [DocumentHashing] in
/-- Two impacts that are the same are about the same operation. What the operation is done to is in the identifier or,
for a merge, in the payload. -/
theorem accessImpact_same {data data' : AccessData} {h h' : List PlaneExchange} {impact impact' : JsonObject}
    (he : Ends (accessImpact data) h (.ok impact)) (he' : Ends (accessImpact data') h' (.ok impact'))
    (hsame : (Json.dict impact).Same (.dict impact')) :
    data.resource.key = data'.resource.key ∧ data.operationName = data'.operationName ∧
      (data.operationName = "merge" → (Json.dict data.payload).Same (.dict data'.payload)) ∧
      (data.operationName ≠ "merge" → data.identifier = data'.identifier) := by
  rcases accessImpact_ok he with ⟨hmerge, entities, rfl⟩ | ⟨hother, current, rfl⟩ <;>
    rcases accessImpact_ok he' with ⟨hmerge', entities', rfl⟩ | ⟨hother', current', rfl⟩
  · exact ⟨(hsame.only (.head _) (by simp)).str, (hsame.only (.tail _ (.head _)) (by simp)).str,
      fun _ => hsame.only (.tail _ (.tail _ (.head _))) (by simp), fun hother => absurd hmerge hother⟩
  · exact absurd ((hsame.only (.tail _ (.head _)) (by simp)).str.symm.trans hmerge) hother'
  · exact absurd ((hsame.only (.tail _ (.head _)) (by simp)).str.trans hmerge') hother
  · exact ⟨(hsame.only (.head _) (by simp)).str, (hsame.only (.tail _ (.head _)) (by simp)).str,
      fun hmerge => absurd hmerge hother, fun _ => (hsame.only (.tail _ (.tail _ (.head _))) (by simp)).str⟩

theorem previewAccess_ends {mode : ConnectionMode} {cluster : OpenBaoCluster} {request : PlaneRequest}
    {data : AccessData} {h : List PlaneExchange} {shown : PlaneResponse}
    (he : Ends (previewAccess mode cluster request data) h (.ok shown)) :
    ∃ impact reading, Ends (accessImpact data) reading (.ok impact) ∧
      shown = ⟨200, [("impact", .dict impact), ("impact_digest", .str (impactDigest impact)),
        ("confirmation", .str (data.expectedConfirmation cluster.slug))], noStore⟩ := by
  obtain ⟨h₁, h₂, document, rfl, -, himpact⟩ := he.bind_ok
  obtain ⟨reading, h₃, impact, rfl, hread, hlogged⟩ := himpact.bind_ok
  obtain ⟨h₄, h₅, u, rfl, -, hreturned⟩ := hlogged.bind_ok
  obtain ⟨-, rfl⟩ := Ends.pure_ok hreturned
  exact ⟨impact, reading, hread, rfl⟩

/-- What a preview was answered with. -/
theorem accessResourcePreview_shows {mode : ConnectionMode} {request : PlaneRequest} {attrs : ReviewedAttrs}
    {h : List PlaneExchange} {shown : PlaneResponse} (he : Ends (accessResourcePreview mode request attrs) h (.ok shown)) :
    ∃ data impact reading, validateAccessPreview attrs = .ok data ∧ Ends (accessImpact data) reading (.ok impact) ∧
      JsonObject.get shown.payload "impact" .null = .dict impact ∧
      JsonObject.get shown.payload "impact_digest" .null = .str (impactDigest impact) := by
  obtain ⟨viewed, h₁, rfl, hvalidating⟩ := Ends.request_bind he
  obtain ⟨data, hvalidated, hchecking⟩ := Admin.ofExcept_ok hvalidating
  obtain ⟨h₂, h₃, can, rfl, -, hlooking⟩ := hchecking.bind_ok
  obtain ⟨h₄, h₅, cluster, rfl, -, hacting⟩ := hlooking.bind_ok
  obtain ⟨h₆, h₇, outcome, rfl, hpreviewing, hanswered⟩ := hacting.bind_attempt
  cases outcome with
  | error error =>
      dsimp only at hanswered
      split at hanswered
      · obtain ⟨err, hsame⟩ := backendFailure_ends hanswered
        cases hsame
      · exact absurd hanswered Ends.raise_ok
  | ok response =>
      obtain ⟨-, rfl⟩ := Ends.pure_ok hanswered
      obtain ⟨impact, reading, hread, rfl⟩ := previewAccess_ends hpreviewing
      exact ⟨data, impact, reading, hvalidated, hread, rfl, rfl⟩

/-- An execution that was given the digest of a preview makes the call of what was previewed, and what it has just read
is what the preview showed, unless the two impacts collide. -/
theorem access_confirmation_binds
    {mode mode' : ConnectionMode} {request request' : PlaneRequest} {attrs attrs' : ReviewedAttrs}
    {h h' : List PlaneExchange} {shown : PlaneResponse} {digest : String}
    (hshown : Ends (accessResourcePreview mode request attrs) h (.ok shown))
    (hdigest : JsonObject.get shown.payload "impact_digest" .null = .str digest) (hhex : digest ≠ "")
    {e : Admin PlaneResponse} (ht : Talks (accessResourceExecute mode' request' attrs') h' e)
    (hr : e.pending = some (.executeAccessOperation call)) (hsupplied : attrs'.impactDigest = some digest) :
    ∃ slug data data', validateAccessPreview attrs = .ok data ∧ validateAccessExecute slug attrs' = .ok data' ∧
      (ImpactRead call ∨ call = data'.call ∧ ∃ impact reading current,
        JsonObject.get shown.payload "impact" .null = .dict impact ∧ reading <:+: h' ∧
        Ends (accessImpact data') reading (.ok current) ∧
        (¬ Collide current impact → data'.operationId = data.operationId ∧ Confirms data.call call impact current)) := by
  obtain ⟨data, impact, shownReading, hvalid, hread, himpact, hshows⟩ := accessResourcePreview_shows hshown
  obtain rfl : digest = impactDigest impact := Json.str.inj (hdigest.symm.trans hshows)
  obtain ⟨viewed, data', cluster, rest, hvalid', rfl, ⟨hread', -⟩ | hcase⟩ := accessCall_pending ht hr
  · exact ⟨viewed.slug, data, data', hvalid, hvalid', .inl hread'⟩
  obtain ⟨rfl, document, preflight, reading, -, rfl, -, -, hplain, hdestructive⟩ := hcase
  obtain ⟨hcontract, hdata, hconfirms⟩ := validateAccessPreview_ok hvalid
  obtain ⟨hcontract', hdata', -, hnone⟩ := validateAccessExecute_ok hvalid'
  obtain ⟨-, -, hname, -, hidentifier, hpayload⟩ := accessData_ok hdata
  obtain ⟨-, -, hname', hdigest', hidentifier', hpayload'⟩ := accessData_ok hdata'
  rw [hsupplied] at hdigest' hnone
  have hconfirms' : data'.operation.confirmation ≠ "" := fun hempty => hhex (hnone hempty)
  obtain ⟨-, current, hcurrent, hsame⟩ := hdestructive hconfirms'
  have hinside : reading <:+: (⟨.cluster "view_access", .ok viewed⟩ ::
      ⟨.cluster (permissionAction data'.operation.permission), .ok cluster⟩ :: (preflight ++ reading ++ durableBlock mode'
        ((data'.authorized document.digest).row cluster request'))) :=
    ⟨⟨.cluster "view_access", .ok viewed⟩ ::
      ⟨.cluster (permissionAction data'.operation.permission), .ok cluster⟩ :: preflight, _, rfl⟩
  refine ⟨viewed.slug, data, data', hvalid, hvalid',
    .inr ⟨rfl, impact, reading, current, himpact, hinside, hcurrent, fun hapart => ?_⟩⟩
  have himpacts := same_of_impactDigest (hsame.trans hdigest') hapart
  obtain ⟨hkey, hoperation, hmerges, hothers⟩ := accessImpact_same hcurrent hread himpacts
  obtain ⟨hresource, hresourceKey, hlooked⟩ := operationContract_ok hcontract
  obtain ⟨-, hresourceKey', -⟩ := operationContract_ok hcontract'
  have hattrs : operationContract attrs'.resource attrs'.operation = operationContract attrs.resource attrs.operation := by
    rw [← hresourceKey, ← hresourceKey', ← hname, ← hname', hkey, hoperation]
  obtain ⟨hresources, hspec⟩ := Prod.mk.inj (Except.ok.inj (hcontract'.symm.trans (hattrs.trans hcontract)))
  rw [hspec] at hidentifier' hpayload'
  have htarget : data'.identifier = data.identifier ∧ (Json.dict data'.payload).Same (.dict data.payload) := by
    rcases destructive_fields hresource hlooked hconfirms with ⟨hmerge, hunnamed⟩ | ⟨hother, hempty⟩
    · rw [hidentifier hunnamed, hidentifier' hunnamed]
      exact ⟨rfl, hmerges (hoperation.trans (hname.trans hmerge))⟩
    · rw [hpayload hempty, hpayload' hempty]
      exact ⟨hothers fun hmerge => hother (hname.symm.trans (hoperation.symm.trans hmerge)), .refl _⟩
  refine ⟨?_, ?_, ?_, ?_, htarget.2, himpacts.symm⟩
  · unfold AccessData.operationId
    rw [hkey, hoperation]
  · show data'.operation.method = data.operation.method
    rw [hspec]
  · show AccessOperationSpec.path data'.operation data'.identifier = AccessOperationSpec.path data.operation data.identifier
    rw [hspec, htarget.1]
  · show (data'.operation.responseKind == .material) = (data.operation.responseKind == .material)
    rw [hspec]

end Access

end

namespace Sample

open Access

/-- A document that has the policy routes. -/
def policies : CapabilityDocument :=
  { advertised "" with
    operations := [{ kvRead "" with method := "DELETE", pathTemplate := "/sys/policies/acl/\x7bname\x7d" }] }

def policyDelete : AccessOperationSpec where
  method := "DELETE"
  pathTemplate := "/sys/policies/acl/\x7bidentifier\x7d"
  permission := "delete_policies_openbaocluster"
  risk := "destructive"
  confirmation := "DELETE \x7bresource\x7d \x7bidentifier\x7d ON \x7bcluster\x7d"

def policyReadSpec : AccessOperationSpec where
  method := "GET"
  pathTemplate := "/sys/policies/acl/\x7bidentifier\x7d"
  permission := "view_access_openbaocluster"
  risk := "read"

def policyImpact : JsonObject :=
  [("resource", .str "acl-policies"), ("operation", .str "delete"), ("identifier", .str "old"), ("current", .dict [])]

def policyDigest : String := "1ba964f13235fb3c377e87ffbb4aef8d6f1bc6795d254fcc2ca69aa7641a4379"

/-- The text of the impact has this digest. -/
@[reducible] def policyHashing : DocumentHashing := digesting [((Json.dict policyImpact).canonical, policyDigest)]

theorem policyImpact_digest : @impactDigest policyHashing policyImpact = policyDigest := digesting_self _ _

theorem policyDigest_ne : policyDigest ≠ "" := by decide

/-- A request to preview the deletion of a policy, or to delete it. -/
def policyAttrs (digest confirmation : Option String) : ReviewedAttrs where
  resource := "acl-policies"
  operation := "delete"
  identifier := some "old"
  payload := .dict []
  reason := "unused"
  capabilityDigest := documentDigest
  impactDigest := digest
  confirmation
  preview := false

def policyPreview : ReviewedAttrs := policyAttrs none none

def policyExecution : ReviewedAttrs := policyAttrs (some policyDigest) (some "DELETE acl-policies old ON bao")

def policyData (digest : String) : AccessData where
  resource := aclPolicies
  operationName := "delete"
  operation := policyDelete
  identifier := "old"
  payload := []
  reason := "unused"
  capabilityDigest := documentDigest
  impactDigest := digest

theorem policyPreview_valid : validateAccessPreview policyPreview = .ok (policyData "") := rfl

theorem policyExecution_valid : validateAccessExecute "bao" policyExecution = .ok (policyData policyDigest) := by
  have hexpected : (policyData policyDigest).expectedConfirmation "bao" = "DELETE acl-policies old ON bao" := rfl
  have hconfirmed : checkConfirmation true ((policyData policyDigest).expectedConfirmation "bao") policyExecution =
      .ok () := by
    rw [hexpected]
    unfold checkConfirmation
    rw [if_pos rfl, if_neg, if_neg]
    · simp [policyExecution, policyAttrs]
    · simp [policyExecution, policyAttrs, policyDigest_ne]
  refine Fallible.ok_then (a := (aclPolicies, policyDelete)) rfl ?_
  refine Fallible.ok_then (a := policyData policyDigest) rfl ?_
  exact Fallible.ok_then hconfirmed rfl

def policiesPreflight : List PlaneExchange :=
  [⟨.backend, .ok ()⟩, ⟨.sealStatus, .ok unsealed⟩, ⟨.discoverCapabilities, .ok policies⟩]

def policyRead : List PlaneExchange :=
  [⟨.executeAccessOperation ⟨"GET", "/sys/policies/acl/old", [], false⟩, .ok (.dict [("data", .dict [])])⟩]

theorem preparePolicy : Ends (@prepareAccess packaging policyDelete documentDigest) policiesPreflight (.ok policies) := by
  have hreviewed : ∀ notReady changed : String,
      Ends (@reviewedDocument packaging notReady changed documentDigest) policiesPreflight (.ok policies) := by
    intro notReady changed
    iterate 3 refine Talks.of_ask rfl _ ?_
    exact .start _
  have hadvertised : (!runtimeAdvertises policies policyDelete) = false := rfl
  refine Ends.andThen (hreviewed _ _) ?_
  exact Admin.unraised hadvertised (.start _)

theorem readPolicy (digest : String) : Ends (accessImpact (policyData digest)) policyRead (.ok policyImpact) := by
  have hpath : AccessOperationSpec.path policyReadSpec "old" = "/sys/policies/acl/old" := rfl
  have hread : aclPolicies.operations.lookup "read" = some policyReadSpec := rfl
  have hlooked : (policyData digest).resource.operations.lookup "read" = some policyReadSpec := hread
  have hstate : Ends (readState policyReadSpec.method (AccessOperationSpec.path policyReadSpec "old")) policyRead
      (.ok (.dict [])) := by
    rw [hpath]
    exact .answered _ (.start _)
  have hother : ¬ ((policyData digest).operationName == "merge") = true := by
    show ¬ (("delete" : String) == "merge") = true
    decide
  unfold accessImpact
  rw [if_neg hother, hlooked, ← List.append_nil policyRead]
  exact Ends.andThen hstate (.start _)

def policyShown : PlaneResponse :=
  ⟨200, [("impact", .dict policyImpact), ("impact_digest", .str (@impactDigest policyHashing policyImpact)),
    ("confirmation", .str "DELETE acl-policies old ON bao")], noStore⟩

def policyPreviewing : List PlaneExchange :=
  [⟨.cluster "view_access", .ok openBaoCluster⟩] ++ ([⟨.cluster "delete_policies", .ok openBaoCluster⟩] ++
    (policiesPreflight ++ (policyRead ++ logged (((policyData "").previewed documentDigest).row openBaoCluster planeRequest))))

theorem policyPreview_ends :
    Ends (@accessResourcePreview packaging policyHashing ⟨false, true⟩ planeRequest policyPreview) policyPreviewing
      (.ok policyShown) := by
  have hallowed : Ends (canAccess (policyData "").operation.permission)
      [⟨.cluster "delete_policies", .ok openBaoCluster⟩] (.ok true) := .answered _ (.start _)
  have hconfirmation : (policyData "").expectedConfirmation openBaoCluster.slug = "DELETE acl-policies old ON bao" := rfl
  refine Admin.asked (Admin.passed policyPreview_valid ?_)
  show Ends _ ([⟨.cluster "delete_policies", .ok openBaoCluster⟩] ++ ([] ++
    (policiesPreflight ++ (policyRead ++ logged (((policyData "").previewed documentDigest).row openBaoCluster planeRequest))))) _
  refine Ends.andThen hallowed (Ends.andThen (a := openBaoCluster) (.start _) ?_)
  rw [← List.append_nil (policiesPreflight ++ _)]
  refine Ends.andThen (a := .ok policyShown) ?_ ?_
  · refine Ends.attempted (Ends.andThen preparePolicy (Ends.andThen (readPolicy "") ?_))
    rw [hconfirmation, ← List.append_nil (logged _)]
    exact Ends.andThen (logRow _ _ _ (by decide)) (.start _)
  · exact .start _

def policyExecuting : List PlaneExchange :=
  [⟨.cluster "view_access", .ok openBaoCluster⟩] ++ ([] ++ ([⟨.cluster "delete_policies", .ok openBaoCluster⟩] ++
    (policiesPreflight ++ policyRead ++
      logged (((policyData policyDigest).authorized documentDigest).row openBaoCluster planeRequest))))

theorem policyExecution_waits :
    Waits (@accessResourceExecute packaging policyHashing ⟨false, true⟩ planeRequest policyExecution) policyExecuting
      (.executeAccessOperation ⟨"DELETE", "/sys/policies/acl/old", [], false⟩) := by
  have hpath : AccessOperationSpec.path policyDelete "old" = "/sys/policies/acl/old" := rfl
  have hcall : (policyData policyDigest).call = ⟨"DELETE", "/sys/policies/acl/old", [], false⟩ := by
    unfold AccessData.call
    dsimp only [policyData]
    rw [hpath]
    rfl
  have hchecked : Ends (@checkAccess packaging policyHashing (policyData policyDigest)) (policiesPreflight ++ policyRead)
      (.ok documentDigest) := by
    refine Ends.andThen preparePolicy ?_
    rw [if_pos (by rfl), ← List.append_nil policyRead]
    refine Ends.andThen (a := ()) ?_ (.start _)
    rw [← List.append_nil policyRead]
    refine Ends.andThen (readPolicy policyDigest) ?_
    show Ends (Admin.raiseIf (@impactDigest policyHashing policyImpact != policyDigest) _) [] _
    rw [policyImpact_digest, bne_self_eq_false]
    exact .start _
  have hlooked : ∀ permission : String,
      Ends (Admin.ask (.cluster permission)) [⟨.cluster permission, .ok openBaoCluster⟩] (.ok openBaoCluster) :=
    fun _ => .answered _ (.start _)
  have hvalidated : Ends (Admin.ofExcept (validateAccessExecute openBaoCluster.slug policyExecution)) []
      (.ok (policyData policyDigest)) := by
    show Ends (Admin.ofExcept (validateAccessExecute "bao" policyExecution)) [] _
    rw [policyExecution_valid]
    exact .start _
  refine Ends.waits (hlooked _) (Ends.waits hvalidated (Ends.waits (hlooked _) ?_))
  rw [← hcall, ← List.append_nil (logged _)]
  refine Waits.bind (Waits.attempt (Ends.waits hchecked (Ends.waits (logRow _ _ _ (by decide)) ?_)))
  exact (Waits.request _).bind

theorem policyCall_executes : ¬ Access.ImpactRead ⟨"DELETE", "/sys/policies/acl/old", [], false⟩ := by
  rintro ⟨hread, -⟩
  simp at hread

end Sample

namespace Access

theorem access_call_authorized_policy : ∃ viewed data cluster rest,
    validateAccessExecute viewed Sample.policyExecution = .ok data ∧
      data.call = ⟨"DELETE", "/sys/policies/acl/old", [], false⟩ ∧
      @AccessAuthorized Sample.packaging Sample.policyHashing ⟨false, true⟩ Sample.planeRequest Sample.policyExecution
        viewed cluster data rest := by
  obtain ⟨e, ht, hr⟩ := Sample.policyExecution_waits
  obtain ⟨viewed, data, cluster, rest, hvalid, -, hcase⟩ :=
    @access_call_authorized Sample.packaging _ Sample.policyHashing _ _ _ _ _ ht hr
  obtain ⟨hcall, hauthorized, -⟩ := hcase.resolve_left fun hread => Sample.policyCall_executes hread.1
  exact ⟨viewed.slug, data, cluster, rest, hvalid, hcall.symm, hauthorized⟩

theorem access_confirmation_binds_policy : ∃ slug data data' impact current,
    validateAccessPreview Sample.policyPreview = .ok data ∧
      validateAccessExecute slug Sample.policyExecution = .ok data' ∧
      (¬ @Collide Sample.policyHashing current impact → data'.operationId = data.operationId ∧
        Confirms data.call data'.call impact current) := by
  obtain ⟨e, ht, hr⟩ := Sample.policyExecution_waits
  obtain ⟨slug, data, data', hvalid, hvalid', hcase⟩ :=
    @access_confirmation_binds Sample.packaging _ Sample.policyHashing _ _ _ _ _ _ _ _ _ _ Sample.policyPreview_ends
      (congrArg Json.str Sample.policyImpact_digest) Sample.policyDigest_ne _ ht hr rfl
  obtain ⟨hcall, impact, reading, current, -, -, -, hbinds⟩ := hcase.resolve_left Sample.policyCall_executes
  rw [hcall] at hbinds
  exact ⟨slug, data, data', impact, current, hvalid, hvalid', hbinds⟩

end Access

end NetboxOpenbao
