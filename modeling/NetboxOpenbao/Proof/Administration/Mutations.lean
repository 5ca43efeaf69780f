import NetboxOpenbao.Proof.Administration.Transport

/-!
# Which accepted mutations are reported as they should be

One reading for each operation that changes OpenBao, and with it the exact responses of which the operation reports a
success or an unknown outcome. What the others are reported as is a definite failure.
-/

namespace NetboxOpenbao

open Effect Dialogue DirectAdministrationBackend Authentication

variable {α β : Type} {cluster : OpenBaoCluster}

/-! ### Refusals of the normalizers -/

theorem Schematic.ok (a : α) : Schematic (.ok a : Except Error α) := by
  intro e h
  cases h

theorem Schematic.schema (message : String) : Schematic (.error (.schema message) : Except Error α) := by
  intro e h
  exact ⟨message, (Except.error.inj h).symm⟩

theorem Schematic.bind {first : Except Error α} {next : α → Except Error β} (hfirst : Schematic first)
    (hnext : ∀ a, Schematic (next a)) : Schematic (first >>= next) := by
  cases first with
  | ok a => exact hnext a
  | error e => exact fun e' h => hfirst e' (congrArg Except.error (Except.error.inj h))

theorem Schematic.mapM {f : α → Except Error β} (hf : ∀ a, Schematic (f a)) (items : List α) :
    Schematic (items.mapM f) := by
  induction items with
  | nil => exact Schematic.ok []
  | cons item rest ih =>
      rw [List.mapM_cons]
      exact (hf item).bind fun _ => ih.bind fun _ => Schematic.ok _

namespace Cluster

theorem mapping_schematic (value : Json) (fieldName : String) : Schematic (mapping value fieldName) := by
  unfold mapping
  split
  · exact Schematic.ok _
  · exact Schematic.schema _

theorem boolean_schematic (value : Json) (fieldName : String) : Schematic (boolean value fieldName) := by
  unfold boolean
  split
  · exact Schematic.ok _
  · exact Schematic.schema _

theorem integer_schematic (value : Json) (fieldName : String) : Schematic (integer value fieldName) := by
  unfold integer
  split
  · exact Schematic.ok _
  · exact Schematic.schema _

theorem string_schematic (value : Json) (fieldName : String) (maximum : Nat) (blank : Bool) :
    Schematic (string value fieldName maximum blank) := by
  unfold string
  split
  · split
    · exact Schematic.schema _
    · split
      · exact Schematic.schema _
      · exact Schematic.ok _
  · exact Schematic.schema _

theorem optionalString_schematic (value : Json) (fieldName : String) (maximum : Nat) :
    Schematic (optionalString value fieldName maximum) := by
  unfold optionalString
  split
  · exact Schematic.ok _
  · exact string_schematic _ _ _ _

theorem materialList_schematic (value : Json) (fieldName : String) : Schematic (materialList value fieldName) := by
  unfold materialList
  split
  · exact Schematic.ok _
  · split
    · exact Schematic.schema _
    · exact Schematic.mapM (fun item => string_schematic _ _ _ _) _
  · exact Schematic.schema _

end Cluster

open Cluster in
theorem normalizeSealStatus_schematic (payload : Json) : Schematic (normalizeSealStatus payload) := by
  unfold normalizeSealStatus
  refine (mapping_schematic _ _).bind fun value => ?_
  iterate 2 refine (boolean_schematic _ _).bind fun _ => ?_
  iterate 3 refine (integer_schematic _ _).bind fun _ => ?_
  iterate 2 refine (optionalString_schematic _ _ _).bind fun _ => ?_
  iterate 2 refine (boolean_schematic _ _).bind fun _ => ?_
  iterate 3 refine (optionalString_schematic _ _ _).bind fun _ => ?_
  exact Schematic.ok _

open Cluster in
theorem normalizeInitializationResult_schematic (payload : Json) :
    Schematic (normalizeInitializationResult payload) := by
  unfold normalizeInitializationResult
  refine (mapping_schematic _ _).bind fun value => ?_
  iterate 4 refine (materialList_schematic _ _).bind fun _ => ?_
  exact (string_schematic _ _ _ _).bind fun _ => Schematic.ok _

namespace Authentication

theorem boundedText_schematic (value : Json) (maximum : Nat) (blank : Bool) :
    Schematic (boundedText value maximum blank) := by
  unfold boundedText
  split
  · split
    · exact Schematic.schema _
    · exact Schematic.ok _
  · exact Schematic.schema _

theorem responseData_schematic (payload : Json) : Schematic (responseData payload) := by
  unfold responseData
  split
  · split
    · exact Schematic.ok _
    · exact Schematic.schema _
  · exact Schematic.schema _

mutual

theorem safeResponseMapping_schematic (entries : JsonObject) (depth : Nat) :
    Schematic (safeResponseMapping entries depth) := by
  match entries with
  | [] =>
      unfold safeResponseMapping
      exact Schematic.ok _
  | (key, item) :: rest =>
      unfold safeResponseMapping
      split
      · exact Schematic.schema _
      · split
        · exact safeResponseMapping_schematic rest depth
        · exact (safeResponseValue_schematic item (depth + 1)).bind fun _ =>
            (safeResponseMapping_schematic rest depth).bind fun _ => Schematic.ok _

theorem safeResponseSequence_schematic (items : List Json) (depth : Nat) :
    Schematic (safeResponseSequence items depth) := by
  match items with
  | [] =>
      unfold safeResponseSequence
      exact Schematic.ok _
  | item :: rest =>
      unfold safeResponseSequence
      exact (safeResponseValue_schematic item (depth + 1)).bind fun _ =>
        (safeResponseSequence_schematic rest depth).bind fun _ => Schematic.ok _

theorem safeResponseValue_schematic (value : Json) (depth : Nat) : Schematic (safeResponseValue value depth) := by
  unfold safeResponseValue
  split
  · exact Schematic.schema _
  · match value with
    | .dict entries =>
        show Schematic (if entries.length > maxAuthResponseFields then _ else _)
        split
        · exact Schematic.schema _
        · exact (safeResponseMapping_schematic entries depth).bind fun _ => Schematic.ok _
    | .list items =>
        show Schematic (if items.length > maxAuthList then _ else _)
        split
        · exact Schematic.schema _
        · exact (safeResponseSequence_schematic items depth).bind fun _ => Schematic.ok _
    | .str s => exact (boundedText_schematic _ _ _).bind fun _ => Schematic.ok _
    | .null => exact Schematic.ok _
    | .bool _ => exact Schematic.ok _
    | .int _ => exact Schematic.ok _
    | .float _ => exact Schematic.schema _

end

theorem normalizePublicAuthData_schematic (payload : Json) : Schematic (normalizePublicAuthData payload) :=
  (responseData_schematic payload).bind fun _ => safeResponseValue_schematic _ _

end Authentication

/-! ### Every operation -/

/-- How each operation reads the response to its mutation. -/
def MutatingOperation.reading [Results] : MutatingOperation → Reading
  | .initializeCluster _ => .plain normalizeInitializationResult
  | .unsealCluster _ _ _ => .plain normalizeSealStatus
  | .remountSecretEngine _ _ => .plain normalizePublicAuthData
  | .remountAuthMethod _ _ => .plain normalizePublicAuthData
  | .joinRaft _ => .joined
  | .executeMountedOperation _ _ _ _ => .mounted
  | .issueApproleSecretId _ _ _ => .guarded Results.normalizeSecretIdResult
  | .authenticate _ _ _ => .guarded Results.normalizeAuthenticationResult
  | .oidcStart _ _ _ _ => .guarded Results.normalizeOidcStart
  | .oidcPoll _ _ _ => .guarded Results.normalizeAuthenticationResult
  | .validateMfa _ _ => .guarded Results.normalizeAuthenticationResult
  | .setupTotp _ _ _ _ => .guarded Results.normalizeTotpSetupResult
  | .tokenOperation .renewSelf _ => .guarded Results.normalizeAuthenticationResult
  | .tokenOperation .renewAccessor _ => .guarded Results.normalizeAuthenticationResult
  | .writeMfaMethod _ _ _ => .reviewed normalizePublicAuthData
  | .executeAccessOperation _ _ _ material => .reviewed fun value => Access.normalizeAccessResponse value material
  | .executeFinalOperation _ _ _ material => .reviewed fun value => Access.normalizeAccessResponse value material
  | _ => .closed

theorem send_avoids {sent : HttpRequest} (hreads : sent.method.mutates = false) :
    (Http.send sent).Avoids Wire.Mutates := by
  refine Avoids.request ?_
  show ¬ sent.method.mutates = true
  rw [hreads]
  decide

/-- Reading is no mutation. -/
theorem requestJson_avoids {call : HttpCall} (hreads : call.method.mutates = false) :
    (requestJson cluster call).Avoids Wire.Mutates := by
  have hrequest : (request cluster call).Avoids Wire.Mutates := by
    refine (headers_avoids _ _).bind fun lines => ?_
    refine (Avoids.attempt (send_avoids hreads)).bind fun answer => ?_
    cases answer with
    | error e => exact Avoids.raise _
    | ok response =>
        show (if response.status ∈ call.expected then (pure response : Http HttpResponse)
          else Http.raise (refusal call.method response.status)).Avoids Wire.Mutates
        split
        · exact Avoids.pure _
        · exact Avoids.raise _
  exact hrequest.bind fun _ => Avoids.done _

section

variable [Results]

theorem authenticate_handles (methodType mountPath : String) (payload : JsonObject) :
    Handles (authenticate cluster methodType mountPath payload)
      (Reading.guarded Results.normalizeAuthenticationResult).Takes := by
  refine Handles.check _ fun mount => ?_
  split
  · refine Handles.check _ fun token => Handles.of_avoids ?_
    exact (requestJson_avoids rfl).bind fun _ => Avoids.done _
  · exact Handles.check _ fun _ => guarded_handles rfl rfl

theorem setupTotp_handles (methodId entityId : String) (administrator : Bool) (token : String) :
    Handles (setupTotp cluster methodId entityId administrator token)
      (Reading.guarded Results.normalizeTotpSetupResult).Takes :=
  Handles.check _ fun _ => Handles.check _ fun _ => guarded_handles rfl rfl

omit [Results] in
theorem destroyTotpSetup_handles (methodId entityId : String) :
    Handles (destroyTotpSetup cluster methodId entityId) Reading.closed.Takes :=
  Handles.check _ fun _ => Handles.check _ fun _ => closing_handles rfl

omit [Results] in
theorem resetTotpSetup_handles (methodId token : String) :
    Handles (resetTotpSetup cluster methodId token) Reading.closed.Takes := by
  refine Handles.check _ fun _ => ?_
  split
  · exact Handles.of_avoids (Avoids.raise _)
  · refine Handles.bind (requestJson_avoids rfl) fun _ => Handles.check _ fun _ => Handles.check _ fun _ => ?_
    exact destroyTotpSetup_handles _ _

theorem tokenOperation_handles (operation : TokenOperation) (payload : JsonObject) :
    Handles (Http.discard (tokenOperation cluster operation payload))
      (MutatingOperation.tokenOperation operation payload).reading.Takes := by
  cases operation with
  | renewSelf => exact (Handles.check _ fun _ => guarded_handles rfl rfl).discard
  | renewAccessor => exact (Handles.check _ fun _ => Handles.check _ fun _ => guarded_handles rfl rfl).discard
  | revokeSelf => exact (Handles.check _ fun _ => (closing_handles rfl).then_pure _).discard
  | revokeAccessor =>
      exact (Handles.check _ fun _ => Handles.check _ fun _ => (closing_handles rfl).then_pure _).discard

/-- Each operation reports as its reading does. -/
theorem perform_handles (operation : MutatingOperation) :
    Handles (perform cluster operation) operation.reading.Takes := by
  cases operation with
  | initializeCluster payload => exact (plain_handles rfl rfl normalizeInitializationResult_schematic).discard
  | joinRaft payload => exact (joinRaft_handles payload).discard
  | unsealCluster key reset migrate => exact (plain_handles rfl rfl normalizeSealStatus_schematic).discard
  | sealCluster => exact closing_handles rfl
  | removeRaftPeer serverId => exact closing_handles rfl
  | restoreRaftSnapshot size force =>
      show Handles (restoreRaftSnapshot cluster size force) _
      unfold restoreRaftSnapshot
      split
      · exact Handles.of_avoids (Avoids.raise _)
      · exact closing_handles rfl
  | enableSecretEngine mountPath payload => exact Handles.check _ fun _ => closing_handles rfl
  | tuneSecretEngine mountPath payload => exact Handles.check _ fun _ => closing_handles rfl
  | remountSecretEngine source destination =>
      exact (Handles.check _ fun _ => Handles.check _ fun _ =>
        plain_handles rfl rfl normalizePublicAuthData_schematic).discard
  | disableSecretEngine mountPath => exact Handles.check _ fun _ => closing_handles rfl
  | executeMountedOperation method path query body => exact (mounted_handles method path query body).discard
  | enableAuthMethod mountPath payload => exact Handles.check _ fun _ => closing_handles rfl
  | tuneAuthMethod mountPath payload => exact Handles.check _ fun _ => closing_handles rfl
  | remountAuthMethod source destination =>
      exact (Handles.check _ fun _ => Handles.check _ fun _ =>
        plain_handles rfl rfl normalizePublicAuthData_schematic).discard
  | disableAuthMethod mountPath => exact Handles.check _ fun _ => closing_handles rfl
  | writeAuthConfig mountPath payload => exact Handles.check _ fun _ => closing_handles rfl
  | runAuthResource mountPath spec name payload =>
      refine Handles.check _ fun mount => Handles.check _ fun name => ?_
      cases payload with
      | some payload => exact closing_handles rfl
      | none => exact closing_handles rfl
  | issueApproleSecretId mountPath roleName payload =>
      exact (Handles.check _ fun _ => Handles.check _ fun _ => guarded_handles rfl rfl).discard
  | writeApproleRoleId mountPath roleName roleId =>
      exact Handles.check _ fun _ => Handles.check _ fun _ => Handles.check _ fun _ => closing_handles rfl
  | destroyApproleSecretId mountPath roleName accessor =>
      exact Handles.check _ fun _ => Handles.check _ fun _ => Handles.check _ fun _ => closing_handles rfl
  | authenticate methodType mountPath payload => exact (authenticate_handles methodType mountPath payload).discard
  | oidcStart mountPath role redirectUri clientNonce =>
      exact (Handles.check _ fun _ => Handles.check _ fun _ => guarded_handles rfl rfl).discard
  | oidcPoll mountPath state clientNonce => exact (Handles.check _ fun _ => guarded_handles rfl rfl).discard
  | validateMfa requestId payload => exact (guarded_handles rfl rfl).discard
  | writeMfaMethod methodType payload methodId =>
      exact (writeMfaMethod_handles methodType payload methodId).discard
  | deleteMfaMethod methodType methodId =>
      show Handles (deleteMfaMethod cluster methodType methodId) _
      unfold deleteMfaMethod
      split
      · exact Handles.of_avoids (Avoids.raise _)
      · exact Handles.check _ fun _ => closing_handles rfl
  | setupTotp methodId entityId administrator token =>
      exact (setupTotp_handles methodId entityId administrator token).discard
  | destroyTotpSetup methodId entityId => exact destroyTotpSetup_handles methodId entityId
  | resetTotpSetup methodId token => exact resetTotpSetup_handles methodId token
  | writeMfaEnforcement name payload => exact Handles.check _ fun _ => closing_handles rfl
  | deleteMfaEnforcement name => exact Handles.check _ fun _ => closing_handles rfl
  | tokenOperation operation payload => exact tokenOperation_handles operation payload
  | executeAccessOperation method path payload material =>
      exact (accessOperation_handles method path payload material).discard
  | executeFinalOperation method path payload material =>
      exact (finalOperation_handles method path payload material).discard

/-- When the server has accepted a mutation, the caller learns of a success or of an unknown outcome exactly if the
operation's own reading takes the response. -/
theorem accepted_mutation_reported_iff (operation : MutatingOperation)
    {h : List (Exchange Error Wire Wire.Answer)} {result : Except Error Unit} {response : HttpResponse}
    (he : Ends (perform cluster operation) h result) (ha : Accepted h response) :
    Reports result ↔ operation.reading.Takes response :=
  perform_handles operation h result response he ha

end

theorem Http.answered {d : Http α} {w : Wire} {next : Except Error w.Answer → Http α} (hd : d = .ask w next)
    (answer : Except Error w.Answer) {h : List (Exchange Error Wire Wire.Answer)} {e : Http α}
    (rest : Talks (next answer) h e) : Talks d (⟨w, answer⟩ :: h) e := Talks.of_ask hd answer rest

namespace Sample

def openBaoCluster : OpenBaoCluster where
  apiUrl := "https://bao.example/"
  namespaceName := ""
  tlsVerify := true
  caCertPath := ""
  slug := "bao"

/-- Normalizers that admit nothing. -/
@[reducible] def noResults : Results where
  normalizeAuthenticationResult _ := .error (.schema "invalid")
  normalizeSecretIdResult _ := .error (.schema "invalid")
  normalizeOidcStart _ := .error (.schema "invalid")
  normalizeTotpSetupResult _ := .error (.schema "invalid")

def setUp : MutatingOperation := .initializeCluster [("secret_shares", .int 5)]

/-- The one request of an initialization, answered with `response`. -/
def initializeAnswered (response : HttpResponse) : List (Exchange Error Wire Wire.Answer) :=
  [⟨.send
    { method := .post
      url := Text.rstripSlashes openBaoCluster.apiUrl ++ "/v1" ++ "/sys/init"
      headers := [("X-Vault-Request", .str "true")]
      verify := .flag true
      timeout := (30, 30)
      params := []
      body := .json (.dict [("secret_shares", .int 5)]) }, .ok response⟩]

/-- A success whose body breaks off. -/
def truncated : HttpResponse := ⟨200, none⟩

/-- A success that names neither keys nor a root token. -/
def keyless : HttpResponse := ⟨200, some ⟨2, .value (.dict [])⟩⟩

theorem initialize_accepted {response : HttpResponse} (h : response.accepts) :
    Accepted (initializeAnswered response) response :=
  ⟨_, List.mem_singleton_self _, rfl, h⟩

theorem truncated_ends :
    Ends (@perform noResults openBaoCluster setUp) (initializeAnswered truncated) (.error .mutationUnknown) := by
  refine Http.answered (w := .send _) rfl (.ok truncated) ?_
  exact Talks.start _

theorem keyless_ends :
    Ends (@perform noResults openBaoCluster setUp) (initializeAnswered keyless) (.error invalidResponse) := by
  refine Http.answered (w := .send _) rfl (.ok keyless) ?_
  exact Talks.start _

end Sample

theorem accepted_mutation_reported_iff_truncated :
    Reports (.error .mutationUnknown : Except Error Unit) ↔
      (@MutatingOperation.reading Sample.noResults Sample.setUp).Takes Sample.truncated :=
  @accepted_mutation_reported_iff Sample.openBaoCluster Sample.noResults Sample.setUp _ _ _ Sample.truncated_ends
    (Sample.initialize_accepted ⟨by decide, by decide⟩)

/-- An initialization the server answers 200, but without keys, is reported as a definite failure. -/
theorem accepted_initialization_unavailable :
    ¬ ∀ (operation : MutatingOperation) (h : List (Exchange Error Wire Wire.Answer)) (result : Except Error Unit)
        (response : HttpResponse), Ends (@perform Sample.noResults Sample.openBaoCluster operation) h result →
        Accepted h response → Reports result := by
  intro hall
  have hreports := hall Sample.setUp _ _ Sample.keyless Sample.keyless_ends
    (Sample.initialize_accepted ⟨by decide, by decide⟩)
  cases reports_error_iff.mp hreports

end NetboxOpenbao
