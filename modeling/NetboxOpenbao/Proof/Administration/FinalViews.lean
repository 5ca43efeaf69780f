import NetboxOpenbao.Proof.Administration.Mutations
import NetboxOpenbao.Proof.Administration.ReviewedViews

/-!
# Final operations are confirmed against what was previewed

An execution comes to its call when the server has been seen to conform to the reviewed routes, the impact has been read
again and found to be the one of the preview, and the row that authorizes it is durable. The digest of an impact tells
what the call is.
-/

namespace NetboxOpenbao

open Effect Dialogue

section

variable [Packaging]

namespace Finalization

/-- The reads of an impact: none of them asks for material. -/
def ImpactRead (call : ReviewedCall) : Prop :=
  call.material = false ∧
    (call.method = "LIST" ∨ call.method = "GET" ∨ (call.method = "POST" ∧ call.path = "/sys/leases/lookup"))

variable {call : ReviewedCall}

omit [Packaging] in
theorem finalCurrent_avoids (hcall : ¬ ImpactRead call) (resource : FinalResource) (operationName identifier : String)
    (payload : JsonObject) :
    (finalCurrent resource operationName identifier payload).Avoids (· = .executeFinalOperation call) := by
  unfold finalCurrent
  split
  · split
    · refine Avoids.bind (Admin.ask_avoids fun hsame => ?_) fun response => ?_
      · cases hsame
        exact hcall ⟨rfl, .inr (.inr ⟨rfl, rfl⟩)⟩
      · split
        · split
          · exact Avoids.bind (Admin.raiseIf_avoids _ _) fun _ => Avoids.pure _
          · exact Admin.raise_avoids _
        · exact Admin.raise_avoids _
    · refine Avoids.bind (Avoids.embed (P := fun _ => False) ?_ (Avoids.never (fun _ => id) _)) fun _ => Avoids.pure _
      intro listing hsame
      cases hsame
      exact hcall ⟨rfl, .inl rfl⟩
  · split
    · split
      · exact Admin.raise_avoids _
      · refine Avoids.bind (Admin.ask_avoids fun hsame => ?_).attempt fun outcome => ?_
        · cases hsame
          exact hcall ⟨rfl, .inr (.inl rfl)⟩
        · split
          · exact Avoids.pure _
          · exact Admin.raise_avoids _
          · exact Avoids.pure _
          · exact Admin.raise_avoids _
    · exact Admin.raise_avoids _

omit [Packaging] in
theorem finalImpact_avoids (hcall : ¬ ImpactRead call) (data : FinalData) :
    (finalImpact data).Avoids (· = .executeFinalOperation call) :=
  Avoids.bind (finalCurrent_avoids hcall _ _ _ _) fun _ => Avoids.pure _

theorem prepareFinal_avoids (operation : FinalOperation) (digest : String) :
    (prepareFinal operation digest).Avoids AdminAsk.Executes :=
  Avoids.bind (reviewedDocument_avoids _ _ _) fun _ =>
    Avoids.bind (Admin.raiseIf_avoids _ _) fun _ => Avoids.pure _

/-- The live server of a final operation: it conforms to the reviewed routes, and advertises the operation. -/
theorem prepareFinal_ends {operation : FinalOperation} {digest : String} {h : List PlaneExchange}
    {document : CapabilityDocument} (he : Ends (prepareFinal operation digest) h (.ok document)) :
    ReviewedPreflight digest document h ∧ (conformanceReport document).conformant = true ∧
      advertised document operation = true := by
  obtain ⟨h₁, h₂, found, rfl, hfound, hchecked⟩ := he.bind_ok
  obtain ⟨hadvertised, hreturned⟩ := Admin.raiseIf_ok hchecked
  obtain ⟨rfl, rfl⟩ := Ends.pure_ok hreturned
  rw [List.append_nil]
  refine ⟨reviewedDocument_ends hfound, ?_⟩
  simpa using hadvertised

/-- A request of this call. -/
abbrev Makes (call : ReviewedCall) (r : AdminAsk) : Prop := r = .executeFinalOperation call

omit [Packaging] in
theorem makes_executes (r : AdminAsk) (hr : Makes call r) : r.Executes := by
  subst hr
  trivial

variable [DocumentHashing]

theorem checkFinal_avoids {data : FinalData}
    (hcall : ¬ (ImpactRead call ∧ data.operation.confirmation ≠ "")) : (checkFinal data).Avoids (Makes call) := by
  refine Avoids.bind ((prepareFinal_avoids _ _).mono makes_executes) fun _ => Avoids.bind ?_ fun _ => Avoids.pure _
  split
  · next hdestructive =>
      have hother : ¬ ImpactRead call := fun hread => hcall ⟨hread, by simpa using hdestructive⟩
      exact Avoids.bind (finalImpact_avoids hother data) fun _ => Admin.raiseIf_avoids _ _
  · exact Avoids.pure _

/-- What has been seen when an execution is let through: the server, and an impact of the digest that was supplied. -/
theorem checkFinal_ends {data : FinalData} {h : List PlaneExchange} {digest : String}
    (he : Ends (checkFinal data) h (.ok digest)) :
    ∃ document preflight reading, h = preflight ++ reading ∧ digest = document.digest ∧
      ReviewedPreflight data.capabilityDigest document preflight ∧ (conformanceReport document).conformant = true ∧
      advertised document data.operation = true ∧
      (data.operation.confirmation = "" → reading = []) ∧
      (data.operation.confirmation ≠ "" →
        ∃ impact, Ends (finalImpact data) reading (.ok impact) ∧ impactDigest impact = data.impactDigest) := by
  obtain ⟨preflight, after, document, rfl, hprepared, hchecking⟩ := he.bind_ok
  obtain ⟨reading, none', u, rfl, hreading, hreturned⟩ := hchecking.bind_ok
  obtain ⟨rfl, rfl⟩ := Ends.pure_ok hreturned
  obtain ⟨hpreflight, hconformant, hadvertised⟩ := prepareFinal_ends hprepared
  refine ⟨document, preflight, reading, by rw [List.append_nil], rfl, hpreflight, hconformant, hadvertised, ?_, ?_⟩
  · intro hplain
    rw [hplain] at hreading
    exact (Ends.pure_ok hreading).1
  · intro hdestructive
    have hconfirmed : (data.operation.confirmation != "") = true := by simpa using hdestructive
    rw [if_pos hconfirmed] at hreading
    obtain ⟨read, compared, impact, rfl, himpact, hcompared⟩ := hreading.bind_ok
    obtain ⟨hsame, rfl⟩ := Admin.raiseIf_ends hcompared
    refine ⟨impact, by rwa [List.append_nil], by simpa using hsame⟩

omit [Packaging] [DocumentHashing] in
theorem validateFinal_ok {slug : String} {attrs : ReviewedAttrs} {data : FinalData}
    (h : validateFinal slug attrs = .ok data) :
    operationContract attrs.resource attrs.operation = .ok (data.resource, data.operation) ∧
      data.operationName = attrs.operation ∧ data.preview = attrs.preview ∧
      data.impactDigest = attrs.impactDigest.getD "" ∧
      (data.preview = false → data.operation.confirmation ≠ "" →
        attrs.impactDigest.getD "" ≠ "" ∧ attrs.confirmation = some data.expectedConfirmation) ∧
      (data.operation.confirmation = "" → attrs.impactDigest.getD "" = "") := by
  obtain ⟨⟨resource, operation, identifier, payload⟩, hcontracted, hchecked⟩ := Fallible.bind_ok h
  obtain ⟨⟨resource', operation'⟩, hcontract, hidentified⟩ := Fallible.bind_ok (contracted_ok hcontracted)
  obtain ⟨identifier', -, hpayload⟩ := Fallible.bind_ok hidentified
  obtain ⟨payload', -, hreturned⟩ := Fallible.bind_ok hpayload
  obtain ⟨rfl, rest⟩ := Prod.mk.inj (Except.ok.inj hreturned)
  obtain ⟨rfl, rest⟩ := Prod.mk.inj rest
  obtain ⟨⟨⟩, hconfirmed, hdata⟩ := Fallible.bind_ok hchecked
  obtain rfl := Except.ok.inj hdata
  refine ⟨hcontract, rfl, rfl, rfl, ?_, ?_⟩
  · intro hexecutes hdestructive
    have hpreview : attrs.preview = false := hexecutes
    have hcheck : (operation'.confirmation != "" && attrs.preview) = false := by rw [hpreview, Bool.and_false]
    rw [hcheck] at hconfirmed
    exact (checkConfirmation_ok hconfirmed).1 (by simpa using hdestructive)
  · intro hplain
    have hsame : operation'.confirmation = "" := hplain
    have hcheck : (("" : String) != "" && attrs.preview) = false := by simp
    rw [hsame, hcheck, if_neg Bool.false_ne_true] at hconfirmed
    exact (checkConfirmation_ok hconfirmed).2 (by simp)

/-- What has been seen when an execution comes to its call. -/
def FinalAuthorized (mode : ConnectionMode) (request : PlaneRequest) (attrs : ReviewedAttrs) (cluster : OpenBaoCluster)
    (data : FinalData) (h : List PlaneExchange) : Prop :=
  ∃ document preflight reading, mode.inAtomicBlock = false ∧
    h = preflight ++ reading ++ durableBlock mode ((data.authorized document.digest).row cluster request) ∧
    ReviewedPreflight data.capabilityDigest document preflight ∧ (conformanceReport document).conformant = true ∧
    advertised document data.operation = true ∧ (data.operation.confirmation = "" → reading = []) ∧
    (data.operation.confirmation ≠ "" → attrs.confirmation = some data.expectedConfirmation ∧
      ∃ impact, Ends (finalImpact data) reading (.ok impact) ∧ impactDigest impact = data.impactDigest)

omit [Packaging] [DocumentHashing] in
theorem answerFinalFailure_avoids (mode : ConnectionMode) (cluster : OpenBaoCluster) (request : PlaneRequest)
    (data : FinalData) (error : Error) :
    (answerFinalFailure mode cluster request data error).Avoids AdminAsk.Executes := by
  unfold answerFinalFailure
  split
  · exact Avoids.bind (logBestEffort_avoids writesLog_executes _) fun _ => Avoids.pure _
  · split
    · exact backendFailure_avoids writesLog_executes _ _ _ _
    · exact Admin.raise_avoids _

theorem previewFinal_avoids (hcall : ¬ ImpactRead call) (mode : ConnectionMode) (cluster : OpenBaoCluster)
    (request : PlaneRequest) (data : FinalData) :
    (previewFinal mode cluster request data).Avoids (Makes call) :=
  Avoids.bind ((prepareFinal_avoids _ _).mono makes_executes) fun _ =>
    Avoids.bind (finalImpact_avoids hcall data) fun _ =>
    Avoids.bind ((logAdministration_avoids writesLog_executes _ _).mono makes_executes) fun _ => Avoids.pure _

/-- A view that waits for a call of a final operation either reads the impact of a destructive one, for the preview or
once more, or it executes. -/
theorem finalCall_pending {mode : ConnectionMode} {request : PlaneRequest} {attrs : ReviewedAttrs}
    {h : List PlaneExchange} {e : Admin PlaneResponse}
    (ht : Talks (finalResourceOperate mode request attrs) h e) (hr : e.pending = some (.executeFinalOperation call)) :
    ∃ viewed data cluster rest, validateFinal viewed.slug attrs = .ok data ∧
      h = ⟨.cluster "view_operations", .ok viewed⟩ ::
        ⟨.cluster (permissionAction data.operation.permission), .ok cluster⟩ :: rest ∧
      ((ImpactRead call ∧ (data.preview = true ∨ data.operation.confirmation ≠ "")) ∨
        (data.preview = false ∧ call = data.call ∧ FinalAuthorized mode request attrs cluster data rest)) := by
  obtain ⟨viewed, data, cluster, rest, hvalidated, rfl, hacting⟩ :=
    reviewed_pending (P := Makes call) (fun _ hsame => by cases hsame) ht hr rfl
  refine ⟨viewed, data, cluster, rest, hvalidated, rfl, ?_⟩
  by_cases hread : ImpactRead call ∧ (data.preview = true ∨ data.operation.confirmation ≠ "")
  · exact .inl hread
  have hfailure : ∀ error, (answerFinalFailure mode cluster request data error).Avoids (Makes call) :=
    fun error => (answerFinalFailure_avoids mode cluster request data error).mono makes_executes
  cases hpreview : data.preview with
  | true =>
      rw [hpreview, if_pos rfl] at hacting
      obtain ⟨d', hpreviewing, hd'⟩ := hacting.attempt_pending (P := Makes call) (by
        intro outcome
        cases outcome with
        | ok response => exact Avoids.pure _
        | error error => exact hfailure error) hr rfl
      have hother : ¬ ImpactRead call := fun h => hread ⟨h, .inl hpreview⟩
      exact absurd rfl (((previewFinal_avoids hother mode cluster request data).talks hpreviewing).2 _ hd')
  | false =>
      rw [hpreview, if_neg Bool.false_ne_true] at hacting
      obtain ⟨d', hrunning, hd'⟩ := hacting.attempt_pending (P := Makes call) (by
        intro outcome
        cases outcome with
        | error error => exact hfailure error
        | ok completed =>
            refine Avoids.bind ((logBestEffort_avoids writesLog_executes _).mono makes_executes) fun _ => ?_
            split
            · exact Avoids.pure _
            · exact Admin.raise_avoids _) hr rfl
      obtain ⟨digest, checking, calling, hchecked, houtermost, rfl, hcalling⟩ :=
        authorize_pending (P := Makes call) (fun r hlog hsame => writesLog_executes r hlog (makes_executes r hsame))
          (checkFinal_avoids fun h => hread ⟨h.1, .inr h.2⟩) hrunning hd' rfl
      obtain ⟨rfl, hcall⟩ := hcalling.request_pending (P := Makes call) (fun _ => Avoids.pure _) hd' rfl
      cases hcall
      obtain ⟨document, preflight, reading, rfl, rfl, hpreflight, hconformant, hadvertised, hplain, hdestructive⟩ :=
        checkFinal_ends hchecked
      obtain ⟨-, -, -, -, hconfirmed, -⟩ := validateFinal_ok hvalidated
      refine .inr ⟨rfl, rfl, document, preflight, reading, houtermost, ?_, hpreflight, hconformant, hadvertised,
        hplain, fun h => ⟨(hconfirmed hpreview h).2, hdestructive h⟩⟩
      rw [List.append_nil]

/-- What came before the call was no other call, only reads of the impact. -/
theorem FinalAuthorized.quiet {mode : ConnectionMode} {request : PlaneRequest} {attrs : ReviewedAttrs}
    {cluster : OpenBaoCluster} {data : FinalData} {h : List PlaneExchange}
    (authorized : FinalAuthorized mode request attrs cluster data h) :
    ∀ x ∈ h, ∀ other, x.request = .executeFinalOperation other → ImpactRead other := by
  obtain ⟨document, preflight, reading, -, rfl, hpreflight, -, -, hplain, hdestructive⟩ := authorized
  intro x hx other hsame
  have hmade : x.request.Executes := by
    rw [hsame]
    trivial
  rcases List.mem_append.mp hx with hx | hx
  · rcases List.mem_append.mp hx with hx | hx
    · exact absurd hmade (hpreflight.quiet x hx)
    · refine Classical.byContradiction fun hother => ?_
      by_cases hplains : data.operation.confirmation = ""
      · rw [hplain hplains] at hx
        cases hx
      · obtain ⟨-, impact, hread, -⟩ := hdestructive hplains
        exact (finalImpact_avoids hother data).ends hread x hx hsame
  · exact absurd hmade (writesLog_executes _ (durableBlock_writes hx))

/-- Whoever asks, and whatever the backend and the database answer: a view that comes to a call of a final operation
was given valid data, and the cluster was looked up under the permission of the operation. It still reads the impact, or
it is no preview, makes the call of that data, and everything else is settled; no other call was made before. -/
theorem final_call_authorized {mode : ConnectionMode} {request : PlaneRequest} {attrs : ReviewedAttrs}
    {h : List PlaneExchange} {e : Admin PlaneResponse} (ht : Talks (finalResourceOperate mode request attrs) h e)
    (hr : e.pending = some (.executeFinalOperation call)) :
    ∃ viewed data cluster rest, validateFinal viewed.slug attrs = .ok data ∧
      h = ⟨.cluster "view_operations", .ok viewed⟩ ::
        ⟨.cluster (permissionAction data.operation.permission), .ok cluster⟩ :: rest ∧
      ((ImpactRead call ∧ (data.preview = true ∨ data.operation.confirmation ≠ "")) ∨
        (data.preview = false ∧ call = data.call ∧ FinalAuthorized mode request attrs cluster data rest ∧
          ∀ x ∈ h, ∀ other, x.request = .executeFinalOperation other → ImpactRead other)) := by
  obtain ⟨viewed, data, cluster, rest, hvalid, rfl, hreading | ⟨hpreview, hcall, hauthorized⟩⟩ := finalCall_pending ht hr
  · exact ⟨viewed, data, cluster, rest, hvalid, rfl, .inl hreading⟩
  refine ⟨viewed, data, cluster, rest, hvalid, rfl, .inr ⟨hpreview, hcall, hauthorized, ?_⟩⟩
  intro x hx other hsame
  rcases List.mem_cons.mp hx with rfl | hx
  · cases hsame
  rcases List.mem_cons.mp hx with rfl | hx
  · cases hsame
  exact hauthorized.quiet x hx other hsame

/-! ### The digest of a preview -/

omit [Packaging] [DocumentHashing] in
theorem operationContract_ok {key name : String} {resource : FinalResource} {operation : FinalOperation}
    (h : operationContract key name = .ok (resource, operation)) :
    resource.key = key ∧ resource.operations.lookup name = some operation := by
  unfold operationContract at h
  split at h
  · cases h
  · next found hfound =>
      split at h
      · next looked hlooked =>
          obtain ⟨rfl, rfl⟩ := Prod.mk.inj (Except.ok.inj h)
          exact ⟨by simpa using List.find?_some hfound, hlooked⟩
      · cases h

omit [Packaging] [DocumentHashing] in
/-- What an impact holds. -/
theorem finalImpact_ok {data : FinalData} {h : List PlaneExchange} {impact : JsonObject}
    (he : Ends (finalImpact data) h (.ok impact)) : ∃ current : JsonObject,
      impact = [("resource", .str data.resource.key), ("operation", .str data.operationName),
        ("identifier", .str data.identifier), ("payload", .dict data.payload), ("current", .dict current)] := by
  obtain ⟨h₁, h₂, current, -, -, hreturned⟩ := he.bind_ok
  obtain ⟨-, rfl⟩ := Ends.pure_ok hreturned
  exact ⟨current, rfl⟩

omit [Packaging] [DocumentHashing] in
/-- Two impacts that are the same are about the same operation. -/
theorem finalImpact_same {resource resource' operation operation' identifier identifier' : String}
    {payload payload' current current' : JsonObject}
    (h : (Json.dict [("resource", .str resource), ("operation", .str operation), ("identifier", .str identifier),
        ("payload", .dict payload), ("current", .dict current)]).Same
      (.dict [("resource", .str resource'), ("operation", .str operation'), ("identifier", .str identifier'),
        ("payload", .dict payload'), ("current", .dict current')])) :
    resource = resource' ∧ operation = operation' ∧ identifier = identifier' ∧
      (Json.dict payload).Same (.dict payload') := by
  refine ⟨?_, ?_, ?_, ?_⟩
  · exact (h.only (.head _) (by simp)).str
  · exact (h.only (.tail _ (.head _)) (by simp)).str
  · exact (h.only (.tail _ (.tail _ (.head _))) (by simp)).str
  · exact h.only (.tail _ (.tail _ (.tail _ (.head _)))) (by simp)

/-- What a preview answers, and what it has read for it. -/
theorem previewFinal_ends {mode : ConnectionMode} {cluster : OpenBaoCluster} {request : PlaneRequest} {data : FinalData}
    {h : List PlaneExchange} {shown : PlaneResponse}
    (he : Ends (previewFinal mode cluster request data) h (.ok shown)) :
    ∃ impact reading, Ends (finalImpact data) reading (.ok impact) ∧
      shown = ⟨200, [("impact", .dict impact), ("impact_digest", .str (impactDigest impact)),
        ("confirmation", .str data.expectedConfirmation)], noStore⟩ := by
  obtain ⟨h₁, h₂, document, rfl, -, himpact⟩ := he.bind_ok
  obtain ⟨reading, h₃, impact, rfl, hread, hlogged⟩ := himpact.bind_ok
  obtain ⟨h₄, h₅, u, rfl, -, hreturned⟩ := hlogged.bind_ok
  obtain ⟨-, rfl⟩ := Ends.pure_ok hreturned
  exact ⟨impact, reading, hread, rfl⟩

omit [Packaging] [DocumentHashing] in
/-- A failure is not answered with an impact. -/
theorem answerFinalFailure_shows {mode : ConnectionMode} {cluster : OpenBaoCluster} {request : PlaneRequest}
    {data : FinalData} {error : Error} {h : List PlaneExchange} {shown : PlaneResponse}
    (he : Ends (answerFinalFailure mode cluster request data error) h (.ok shown)) :
    JsonObject.get shown.payload "impact_digest" .null = .null := by
  unfold answerFinalFailure at he
  split at he
  · obtain ⟨h₁, h₂, written, -, -, hreturned⟩ := he.bind_ok
    obtain ⟨-, rfl⟩ := Ends.pure_ok hreturned
    cases written <;> rfl
  · split at he
    · obtain ⟨err, hsame⟩ := backendFailure_ends he
      cases hsame
    · exact absurd he Ends.raise_ok

/-- What a preview was answered with. -/
theorem finalResourceOperate_shows {mode : ConnectionMode} {request : PlaneRequest} {attrs : ReviewedAttrs}
    {h : List PlaneExchange} {shown : PlaneResponse} {digest : String}
    (he : Ends (finalResourceOperate mode request attrs) h (.ok shown)) (hpreview : attrs.preview = true)
    (hdigest : JsonObject.get shown.payload "impact_digest" .null = .str digest) :
    ∃ slug data impact reading, validateFinal slug attrs = .ok data ∧
      Ends (finalImpact data) reading (.ok impact) ∧ JsonObject.get shown.payload "impact" .null = .dict impact ∧
      digest = impactDigest impact := by
  obtain ⟨viewed, h₁, rfl, hvalidating⟩ := Ends.request_bind he
  obtain ⟨data, hvalidated, hlooking⟩ := Admin.ofExcept_ok hvalidating
  obtain ⟨cluster, h₂, rfl, hacting⟩ := Ends.request_bind hlooking
  have hpreviews : data.preview = true := (validateFinal_ok hvalidated).2.2.1.trans hpreview
  rw [hpreviews, if_pos rfl] at hacting
  obtain ⟨h₃, h₄, outcome, rfl, hpreviewing, hanswered⟩ := hacting.bind_attempt
  cases outcome with
  | error error =>
      rw [answerFinalFailure_shows hanswered] at hdigest
      cases hdigest
  | ok response =>
      obtain ⟨-, rfl⟩ := Ends.pure_ok hanswered
      obtain ⟨impact, reading, hread, rfl⟩ := previewFinal_ends hpreviewing
      exact ⟨viewed.slug, data, impact, reading, hvalidated, hread, rfl, (Json.str.inj hdigest).symm⟩

/-- An execution that was given the digest of a preview makes the call of what was previewed, and what it has just read
is what the preview showed, whoever asked for either and whatever happened between them, unless the two impacts collide. -/
theorem final_confirmation_binds
    {mode mode' : ConnectionMode} {request request' : PlaneRequest} {attrs attrs' : ReviewedAttrs}
    {h h' : List PlaneExchange} {shown : PlaneResponse} {digest : String}
    (hshown : Ends (finalResourceOperate mode request attrs) h (.ok shown)) (hpreview : attrs.preview = true)
    (hdigest : JsonObject.get shown.payload "impact_digest" .null = .str digest) (hhex : digest ≠ "")
    {e : Admin PlaneResponse} (ht : Talks (finalResourceOperate mode' request' attrs') h' e)
    (hr : e.pending = some (.executeFinalOperation call)) (hsupplied : attrs'.impactDigest = some digest) :
    ∃ slug slug' data data', validateFinal slug attrs = .ok data ∧ validateFinal slug' attrs' = .ok data' ∧
      (ImpactRead call ∨ call = data'.call ∧ ∃ impact reading current,
        JsonObject.get shown.payload "impact" .null = .dict impact ∧ reading <:+: h' ∧
        Ends (finalImpact data') reading (.ok current) ∧
        (¬ Collide current impact → data'.operationId = data.operationId ∧ Confirms data.call call impact current)) := by
  obtain ⟨slug, data, impact, shownReading, hvalid, hread, himpact, rfl⟩ :=
    finalResourceOperate_shows hshown hpreview hdigest
  obtain ⟨viewed, data', cluster, rest, hvalid', rfl, ⟨hread, -⟩ | hcase⟩ := finalCall_pending ht hr
  · exact ⟨slug, viewed.slug, data, data', hvalid, hvalid', .inl hread⟩
  obtain ⟨-, rfl, document, preflight, reading, -, rfl, -, -, -, hplain, hdestructive⟩ := hcase
  obtain ⟨hcontract, hname, -, -, -, -⟩ := validateFinal_ok hvalid
  obtain ⟨hcontract', hname', -, hdigest', -, hnone⟩ := validateFinal_ok hvalid'
  rw [hsupplied] at hdigest' hnone
  have hconfirms : data'.operation.confirmation ≠ "" := fun hempty => hhex (hnone hempty)
  obtain ⟨-, current, hcurrent, hsame⟩ := hdestructive hconfirms
  have hinside : reading <:+: (⟨.cluster "view_operations", .ok viewed⟩ ::
      ⟨.cluster (permissionAction data'.operation.permission), .ok cluster⟩ :: (preflight ++ reading ++ durableBlock mode'
        ((data'.authorized document.digest).row cluster request'))) :=
    ⟨⟨.cluster "view_operations", .ok viewed⟩ ::
      ⟨.cluster (permissionAction data'.operation.permission), .ok cluster⟩ :: preflight, _, rfl⟩
  refine ⟨slug, viewed.slug, data, data', hvalid, hvalid',
    .inr ⟨rfl, impact, reading, current, himpact, hinside, hcurrent, fun hapart => ?_⟩⟩
  have himpacts := same_of_impactDigest (hsame.trans hdigest') hapart
  obtain ⟨state, rfl⟩ := finalImpact_ok hread
  obtain ⟨state', rfl⟩ := finalImpact_ok hcurrent
  obtain ⟨hkey, hoperation, hidentifier, hpayload⟩ := finalImpact_same himpacts
  have hattrs : operationContract attrs'.resource attrs'.operation = operationContract attrs.resource attrs.operation := by
    rw [← (operationContract_ok hcontract).1, ← (operationContract_ok hcontract').1, ← hname, ← hname', hkey, hoperation]
  obtain ⟨hresource, hspec⟩ := Prod.mk.inj (Except.ok.inj (hcontract'.symm.trans (hattrs.trans hcontract)))
  refine ⟨?_, ?_, ?_, ?_, hpayload, himpacts.symm⟩
  · unfold FinalData.operationId
    rw [hkey, hoperation]
  · show data'.operation.method = data.operation.method
    rw [hspec]
  · show data'.operation.path data'.identifier = data.operation.path data.identifier
    rw [hspec, hidentifier]
  · show (data'.operation.responseKind == .material) = (data.operation.responseKind == .material)
    rw [hspec]

end Finalization

end

namespace Finalization

/-- The operation is advertised as often as it should be, and classified. -/
def ConformanceEntry.conforms (entry : ConformanceEntry) : Bool :=
  entry.advertised && entry.duplicates == 0 && entry.unclassified == 0

/-- A document of the supported version conforms if each of its operations does. -/
theorem conformant_of_entries {document : CapabilityDocument} (hversion : document.productVersion = "2.6.2")
    (hentries : finalOperations.all (fun entry =>
      (conformanceEntry document entry.1 entry.2.1 entry.2.2).conforms) = true) :
    (conformanceReport document).conformant = true := by
  have hnone : ∀ p : ConformanceEntry → Bool, (∀ entry, entry.conforms = true → p entry = false) →
      ((finalOperations.map fun entry => conformanceEntry document entry.1 entry.2.1 entry.2.2).filter p).isEmpty =
        true := by
    intro p hp
    rw [List.isEmpty_iff, List.filter_eq_nil_iff]
    intro entry hentry
    obtain ⟨operation, hoperation, rfl⟩ := List.mem_map.mp hentry
    rw [hp _ (List.all_eq_true.mp hentries operation hoperation)]
    exact Bool.false_ne_true
  have hparts : ∀ entry : ConformanceEntry, entry.conforms = true →
      entry.advertised = true ∧ entry.duplicates = 0 ∧ entry.unclassified = 0 := by
    intro entry hconforms
    unfold ConformanceEntry.conforms at hconforms
    simpa [and_assoc] using hconforms
  have hmissing := hnone (fun entry => !entry.advertised) fun entry h => by simp [(hparts entry h).1]
  have hduplicates := hnone (fun entry => entry.duplicates != 0) fun entry h => by simp [(hparts entry h).2.1]
  have hunclassified := hnone (fun entry => entry.unclassified != 0) fun entry h => by simp [(hparts entry h).2.2]
  unfold conformanceReport
  dsimp only
  rw [hmissing, hduplicates, hunclassified, hversion]
  decide

end Finalization

namespace Sample

open Finalization

/-- The operation of a reviewed route. -/
def routeOperation (route : FinalRoute) : DiscoveredOperation :=
  let pathParameters := if Text.contains route.path "\x7bidentifier\x7d" then ["identifier"] else []
  { kvRead "" with
    operationId := route.operationIds.getLastD "", method := route.method
    pathTemplate := if route.resource == "random" then "/sys/tools/random/\x7bsource\x7d" else route.path
    pathParameters, requiredPathParameters := pathParameters
    queryParameterTypes := route.query.map fun entry => (entry.1, Text.removeSuffix entry.2 "!")
    requiredQueryParameters := (route.query.filter fun entry => entry.2.toList.getLast? == some '!').map Prod.fst
    bodyFieldTypes := route.body }

/-- A document that has every reviewed route; leases are listed at the root as well. -/
def conforming : CapabilityDocument :=
  { advertised "" with
    operations :=
      { kvRead "" with
        operationId := "leases-look-up", method := "LIST", pathTemplate := "/sys/leases/lookup/"
        pathParameters := [], requiredPathParameters := []
        queryParameterTypes := [("list", "string")], requiredQueryParameters := ["list"] } ::
      finalRoutes.map routeOperation }

/-- The header is there, and has no values. -/
def headerImpact : JsonObject :=
  [("resource", .str "ui-headers"), ("operation", .str "delete"), ("identifier", .str "X-Frame"), ("payload", .dict []),
   ("current", .dict [("state", .str "present"), ("data", .dict [])])]

def headerDigest : String := "0ac8b2f2bf661267def51408945108b11811531b8ed2d24d9f65b3f6ad6df48f"

/-- The text of the impact has this digest. -/
@[reducible] def headerHashing : DocumentHashing := digesting [((Json.dict headerImpact).canonical, headerDigest)]

theorem headerImpact_digest : @impactDigest headerHashing headerImpact = headerDigest := digesting_self _ _

theorem headerDigest_ne : headerDigest ≠ "" := by decide

/-- A request to preview the deletion of a header, or to delete it. -/
def headerAttrs (digest confirmation : Option String) (preview : Bool) : ReviewedAttrs where
  resource := "ui-headers"
  operation := "delete"
  identifier := some "X-Frame"
  payload := .dict []
  reason := "unused"
  capabilityDigest := documentDigest
  impactDigest := digest
  confirmation
  preview

def headerDelete : FinalOperation where
  method := "DELETE"
  pathTemplate := "/sys/config/ui/headers/\x7bidentifier\x7d"
  permission := "manage_ui_configuration_openbaocluster"
  risk := "destructive"
  confirmation := "DELETE UI header \x7btarget\x7d ON \x7bcluster\x7d"
  identifierKind := "header"

def headerData (digest : String) (preview : Bool) : FinalData where
  resource := uiHeaders
  operationName := "delete"
  operation := headerDelete
  identifier := "X-Frame"
  payload := []
  reason := "unused"
  capabilityDigest := documentDigest
  impactDigest := digest
  preview
  expectedConfirmation := "DELETE UI header X-Frame ON bao"

def headerPreview : ReviewedAttrs := headerAttrs none none true

theorem headerPreview_valid : validateFinal "bao" headerPreview = .ok (headerData "" true) := rfl

def headerExecution : ReviewedAttrs := headerAttrs (some headerDigest) (some "DELETE UI header X-Frame ON bao") false

theorem headerExecution_valid : validateFinal "bao" headerExecution = .ok (headerData headerDigest false) := by
  have hconfirmed : checkConfirmation true "DELETE UI header X-Frame ON bao" headerExecution = .ok () := by
    unfold checkConfirmation
    rw [if_pos rfl, if_neg, if_neg]
    · simp [headerExecution, headerAttrs]
    · simp [headerExecution, headerAttrs, headerDigest_ne]
  refine Fallible.ok_then (a := (uiHeaders, headerDelete, "X-Frame", [])) rfl ?_
  exact Fallible.ok_then hconfirmed rfl

/-- A ready server, whose document is the one asked for. -/
def reviewedPreflight : List PlaneExchange :=
  [⟨.backend, .ok ()⟩, ⟨.sealStatus, .ok unsealed⟩, ⟨.discoverCapabilities, .ok conforming⟩]

def headerRead : List PlaneExchange :=
  [⟨.executeFinalOperation ⟨"GET", "/sys/config/ui/headers/X-Frame", [], false⟩, .ok (.dict [("data", .dict [])])⟩]

/-- The statements that write a row. -/
def logged (row : AdministrationLog) : List PlaneExchange :=
  [⟨.begin, .ok ()⟩, ⟨.insertLog row, .ok ()⟩, ⟨.commit, .ok ()⟩]

/-- The entries of a list are looked at a few at a time. -/
theorem all_of_take {α : Type} {good : α → Bool} {xs : List α} (n : Nat) (htake : (xs.take n).all good = true)
    (hdrop : (xs.drop n).all good = true) : xs.all good = true := by
  rw [← List.take_append_drop n xs, List.all_append, htake, hdrop]
  rfl

theorem conforming_conformant : (conformanceReport conforming).conformant = true := by
  refine conformant_of_entries rfl ?_
  refine all_of_take 3 (by decide +kernel) ?_
  refine all_of_take 3 (by decide +kernel) ?_
  refine all_of_take 3 (by decide +kernel) ?_
  refine all_of_take 3 (by decide +kernel) ?_
  refine all_of_take 3 (by decide +kernel) ?_
  decide +kernel

theorem prepareHeader : Ends (@prepareFinal packaging headerDelete documentDigest) reviewedPreflight (.ok conforming) := by
  have hreviewed : ∀ notReady changed : String,
      Ends (@reviewedDocument packaging notReady changed documentDigest) reviewedPreflight (.ok conforming) := by
    intro notReady changed
    iterate 3 refine Talks.of_ask rfl _ ?_
    exact .start _
  have hadvertised : (!(conformanceReport conforming).conformant ||
      !Finalization.advertised conforming headerDelete) = false := by
    rw [conforming_conformant]
    rfl
  refine Ends.andThen (hreviewed _ _) ?_
  exact Admin.unraised hadvertised (.start _)

def headerReadSpec : FinalOperation where
  method := "GET"
  pathTemplate := "/sys/config/ui/headers/\x7bidentifier\x7d"
  permission := "view_ui_configuration_openbaocluster"
  risk := "read"
  identifierKind := "header"

theorem readHeader (digest : String) (preview : Bool) :
    Ends (finalImpact (headerData digest preview)) headerRead (.ok headerImpact) := by
  have hpath : headerReadSpec.path "X-Frame" = "/sys/config/ui/headers/X-Frame" := rfl
  have hread : uiHeaders.operations.lookup "read" = some headerReadSpec := rfl
  have hcurrent : Ends (finalCurrent uiHeaders "delete" "X-Frame" []) headerRead
      (.ok [("state", .str "present"), ("data", .dict [])]) := by
    unfold finalCurrent
    rw [if_neg (by decide), if_pos (by decide), hread]
    dsimp only
    rw [hpath]
    exact .answered _ (.start _)
  rw [← List.append_nil headerRead]
  exact Ends.andThen hcurrent (.start _)

theorem logRow (request : PlaneRequest) (entry : AuditEntry) (durable : Bool) (hfits : entry.targetIdentifiers.length ≤ 256) :
    Ends (logAdministration ⟨false, true⟩ openBaoCluster request entry durable) (logged (entry.row openBaoCluster request))
      (.ok ()) := by
  unfold logAdministration
  rw [if_neg (Nat.not_lt.mpr hfits)]
  cases durable <;>
  · iterate 3 refine Talks.of_ask rfl _ ?_
    exact .start _

def headerShown : PlaneResponse :=
  ⟨200, [("impact", .dict headerImpact), ("impact_digest", .str (@impactDigest headerHashing headerImpact)),
    ("confirmation", .str "DELETE UI header X-Frame ON bao")], noStore⟩

def planeRequest : PlaneRequest := ⟨"r", "admin", true⟩

def headerLookups : List PlaneExchange :=
  [⟨.cluster "view_operations", .ok openBaoCluster⟩, ⟨.cluster "manage_ui_configuration", .ok openBaoCluster⟩]

/-- The exchanges of the preview. -/
def headerPreviewing : List PlaneExchange :=
  headerLookups ++ (reviewedPreflight ++ (headerRead ++
    logged (((headerData "" true).previewed documentDigest).row openBaoCluster planeRequest)))

theorem headerPreview_ends :
    Ends (@finalResourceOperate packaging headerHashing ⟨false, true⟩ planeRequest headerPreview)
      headerPreviewing (.ok headerShown) := by
  refine Admin.asked (Admin.passed headerPreview_valid (Admin.asked ?_))
  rw [if_pos (by rfl : (headerData "" true).preview = true), List.append_eq, List.nil_append, ← List.append_nil (reviewedPreflight ++ _)]
  refine Ends.andThen (a := .ok headerShown) ?_ ?_
  · refine Ends.attempted (Ends.andThen prepareHeader (Ends.andThen (readHeader "" true) ?_))
    rw [← List.append_nil (logged _)]
    exact Ends.andThen (logRow _ _ _ (by decide)) (.start _)
  · exact .start _

/-- The exchanges of an execution, up to its call. -/
def headerExecuting : List PlaneExchange :=
  headerLookups ++ (reviewedPreflight ++ headerRead ++
    logged (((headerData headerDigest false).authorized documentDigest).row openBaoCluster planeRequest))

theorem headerExecution_waits :
    Waits (@finalResourceOperate packaging headerHashing ⟨false, true⟩ planeRequest headerExecution) headerExecuting
      (.executeFinalOperation ⟨"DELETE", "/sys/config/ui/headers/X-Frame", [], false⟩) := by
  have hpath : headerDelete.path "X-Frame" = "/sys/config/ui/headers/X-Frame" := rfl
  have hcall : (headerData headerDigest false).call = ⟨"DELETE", "/sys/config/ui/headers/X-Frame", [], false⟩ := by
    unfold FinalData.call
    dsimp only [headerData]
    rw [hpath]
    rfl
  have hchecked : Ends (@checkFinal packaging headerHashing (headerData headerDigest false)) (reviewedPreflight ++ headerRead)
      (.ok documentDigest) := by
    refine Ends.andThen prepareHeader ?_
    rw [if_pos (by rfl), ← List.append_nil headerRead]
    refine Ends.andThen (a := ()) ?_ (.start _)
    rw [← List.append_nil headerRead]
    refine Ends.andThen (readHeader headerDigest false) ?_
    show Ends (Admin.raiseIf (@impactDigest headerHashing headerImpact != headerDigest) _) [] _
    rw [headerImpact_digest, bne_self_eq_false]
    exact .start _
  have hlooked : ∀ permission : String,
      Ends (Admin.ask (.cluster permission)) [⟨.cluster permission, .ok openBaoCluster⟩] (.ok openBaoCluster) :=
    fun _ => .answered _ (.start _)
  have hvalidated : Ends (Admin.ofExcept (validateFinal openBaoCluster.slug headerExecution)) []
      (.ok (headerData headerDigest false)) := by
    show Ends (Admin.ofExcept (validateFinal "bao" headerExecution)) [] _
    rw [headerExecution_valid]
    exact .start _
  show Waits _ ([⟨.cluster "view_operations", .ok openBaoCluster⟩] ++ ([] ++
    ([⟨.cluster "manage_ui_configuration", .ok openBaoCluster⟩] ++ (reviewedPreflight ++ headerRead ++
      logged (((headerData headerDigest false).authorized documentDigest).row openBaoCluster planeRequest))))) _
  refine Ends.waits (hlooked _) (Ends.waits hvalidated (Ends.waits (hlooked _) ?_))
  rw [if_neg (by decide), ← hcall, ← List.append_nil (logged _)]
  refine Waits.bind (Waits.attempt (Ends.waits hchecked (Ends.waits (logRow _ _ _ (by decide)) ?_)))
  exact (Waits.request _).bind

theorem headerCall_executes : ¬ ImpactRead ⟨"DELETE", "/sys/config/ui/headers/X-Frame", [], false⟩ := by
  rintro ⟨-, hread⟩
  simp at hread

end Sample

namespace Finalization

theorem final_call_authorized_header : ∃ viewed data cluster rest,
    validateFinal viewed Sample.headerExecution = .ok data ∧ data.preview = false ∧
      data.call = ⟨"DELETE", "/sys/config/ui/headers/X-Frame", [], false⟩ ∧
      @FinalAuthorized Sample.packaging Sample.headerHashing ⟨false, true⟩ Sample.planeRequest Sample.headerExecution
        cluster data rest := by
  obtain ⟨e, ht, hr⟩ := Sample.headerExecution_waits
  obtain ⟨viewed, data, cluster, rest, hvalid, -, hcase⟩ :=
    @final_call_authorized Sample.packaging _ Sample.headerHashing _ _ _ _ _ ht hr
  obtain ⟨hpreview, hcall, hauthorized, -⟩ := hcase.resolve_left fun hread => Sample.headerCall_executes hread.1
  exact ⟨viewed.slug, data, cluster, rest, hvalid, hpreview, hcall.symm, hauthorized⟩

theorem final_confirmation_binds_header : ∃ slug slug' data data' impact current,
    validateFinal slug Sample.headerPreview = .ok data ∧ validateFinal slug' Sample.headerExecution = .ok data' ∧
      (¬ @Collide Sample.headerHashing current impact → data'.operationId = data.operationId ∧
        Confirms data.call data'.call impact current) := by
  obtain ⟨e, ht, hr⟩ := Sample.headerExecution_waits
  obtain ⟨slug, slug', data, data', hvalid, hvalid', hcase⟩ :=
    @final_confirmation_binds Sample.packaging _ Sample.headerHashing _ _ _ _ _ _ _ _ _ _ Sample.headerPreview_ends rfl
      (congrArg Json.str Sample.headerImpact_digest) Sample.headerDigest_ne _ ht hr rfl
  obtain ⟨hcall, impact, reading, current, -, -, -, hbinds⟩ := hcase.resolve_left Sample.headerCall_executes
  rw [hcall] at hbinds
  exact ⟨slug, slug', data, data', impact, current, hvalid, hvalid', hbinds⟩

end Finalization

end NetboxOpenbao
