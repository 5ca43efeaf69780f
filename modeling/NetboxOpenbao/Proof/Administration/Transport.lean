import NetboxOpenbao.Administration.Backends

/-!
# What is reported of an accepted mutation

Every operation that changes OpenBao sends one request that mutates, and sends it last; everything before that is a
read or a check of the arguments. What is reported of an accepted answer is therefore decided by how the operation
reads that one response.
-/

namespace NetboxOpenbao

open Effect Dialogue DirectAdministrationBackend Authentication

/-- A request that may change OpenBao. -/
def Wire.Mutates : Wire → Prop
  | .clientToken => False
  | .send sent => sent.method.mutates = true

/-- A request that may change OpenBao was answered with `response`, and its status is a 2xx one. -/
def Accepted (h : List (Exchange Error Wire Wire.Answer)) (response : HttpResponse) : Prop :=
  ∃ sent : HttpRequest, (⟨Wire.send sent, .ok response⟩ : Exchange Error Wire Wire.Answer) ∈ h ∧
    sent.method.mutates = true ∧ response.accepts

/-- The caller is told of a success, or that the outcome is not known. -/
def Reports {α : Type} (result : Except Error α) : Prop :=
  (∃ a, result = .ok a) ∨ result = .error .mutationUnknown

/-- However the program ends after an accepted mutation, its report is as it should be exactly when `takes` holds of
the response. -/
def Handles {α : Type} (d : Http α) (takes : HttpResponse → Prop) : Prop :=
  ∀ h result response, Ends d h result → Accepted h response → (Reports result ↔ takes response)

variable {α β : Type} {cluster : OpenBaoCluster} {takes : HttpResponse → Prop}

theorem reports_ok (a : α) : Reports (.ok a : Except Error α) := .inl ⟨a, rfl⟩

theorem reports_error_iff {e : Error} : Reports (.error e : Except Error α) ↔ e = .mutationUnknown := by
  constructor
  · rintro (⟨a, hsame⟩ | hsame)
    · cases hsame
    · exact Except.error.inj hsame
  · rintro rfl
    exact .inr rfl

theorem not_accepted {h : List (Exchange Error Wire Wire.Answer)} (hquiet : ∀ x ∈ h, ¬ Wire.Mutates x.request)
    (response : HttpResponse) : ¬ Accepted h response := by
  rintro ⟨sent, hmem, hmutates, -⟩
  exact hquiet _ hmem hmutates

theorem accepted_append {h₁ h₂ : List (Exchange Error Wire Wire.Answer)} {response : HttpResponse}
    (hquiet : ∀ x ∈ h₁, ¬ Wire.Mutates x.request) (ha : Accepted (h₁ ++ h₂) response) : Accepted h₂ response := by
  obtain ⟨sent, hmem, hmutates, haccepts⟩ := ha
  rcases List.mem_append.mp hmem with hfirst | hsecond
  · exact absurd hmutates (hquiet _ hfirst)
  · exact ⟨sent, hsecond, hmutates, haccepts⟩

theorem Handles.of_avoids {d : Http α} (hd : d.Avoids Wire.Mutates) : Handles d takes :=
  fun _ _ response he ha => absurd ha (not_accepted (hd.ends he) response)

/-- What mutates comes after a part that does not. -/
theorem Handles.bind {d : Http α} {f : α → Http β} (hd : d.Avoids Wire.Mutates) (hf : ∀ a, Handles (f a) takes) :
    Handles (d >>= f) takes := by
  intro h result response he ha
  rcases he.bind with ⟨err, hfirst, -⟩ | ⟨h₁, h₂, a, rfl, hfirst, hsecond⟩
  · exact absurd ha (not_accepted (hd.ends hfirst) response)
  · exact hf a h₂ result response hsecond (accepted_append (hd.ends hfirst) ha)

theorem Handles.check {f : α → Http β} (checked : Except Error α) (hf : ∀ a, Handles (f a) takes) :
    Handles (Http.ofExcept checked >>= f) takes := Handles.bind (Avoids.done checked) hf

/-- Whatever is returned after it, a program reports as it does. -/
theorem Handles.then_pure {d : Http α} (hd : Handles d takes) (b : β) :
    Handles (d >>= fun _ => pure b) takes := by
  intro h result response he ha
  rcases he.bind with ⟨err, hfirst, rfl⟩ | ⟨h₁, h₂, a, rfl, hfirst, hsecond⟩
  · exact (reports_error_iff.trans reports_error_iff.symm).trans (hd h (.error err) response hfirst ha)
  · obtain ⟨rfl, hsame⟩ := Talks.done hsecond
    obtain rfl := Dialogue.done.inj hsame
    rw [List.append_nil] at ha
    exact ⟨fun _ => (hd h₁ (.ok a) response hfirst ha).mp (reports_ok a), fun _ => reports_ok b⟩

theorem Handles.discard {d : Http α} (hd : Handles d takes) : Handles (Http.discard d) takes := hd.then_pure ()

theorem Handles.mono {takes' : HttpResponse → Prop} {d : Http α} (hd : Handles d takes)
    (hsame : ∀ response, response.accepts → (takes response ↔ takes' response)) : Handles d takes' := by
  intro h result response he ha
  obtain ⟨sent, hmem, hmutates, haccepts⟩ := ha
  exact (hd h result response he ⟨sent, hmem, hmutates, haccepts⟩).trans (hsame response haccepts)

/-! ### The request layer -/

theorem headers_avoids (authenticated : Bool) (token : Json) :
    (headers cluster authenticated token).Avoids Wire.Mutates := by
  refine Avoids.bind ?_ fun _ => Avoids.pure _
  split
  · exact Avoids.bind (Avoids.request id) fun _ => Avoids.pure _
  · exact Avoids.pure _

/-- What `_request` makes of the answer to its request. -/
def settled (call : HttpCall) (answer : Except Error HttpResponse) : Except Error HttpResponse :=
  match answer with
  | .error error => .error (sessionFailure call.method error)
  | .ok response =>
      if response.status ∈ call.expected then .ok response else .error (refusal call.method response.status)

theorem request_ends {call : HttpCall} {h : List (Exchange Error Wire Wire.Answer)}
    {result : Except Error HttpResponse} (he : Ends (request cluster call) h result) :
    (∀ x ∈ h, ¬ Wire.Mutates x.request) ∨
      ∃ h₀ sent answer, h = h₀ ++ [⟨Wire.send sent, answer⟩] ∧ (∀ x ∈ h₀, ¬ Wire.Mutates x.request) ∧
        result = settled call answer := by
  rcases he.bind with ⟨err, hfirst, -⟩ | ⟨h₀, h₁, lines, rfl, hfirst, hrest⟩
  · exact .inl ((headers_avoids _ _).ends hfirst)
  · refine .inr ?_
    rcases hrest.bind with ⟨err, hsent, -⟩ | ⟨h₂, h₃, answer, rfl, hsent, hsettled⟩
    · obtain ⟨inner, -, hsame⟩ := hsent.attempt
      cases hsame
    · obtain ⟨inner, hsend, hsame⟩ := hsent.attempt
      obtain rfl := Except.ok.inj hsame
      obtain rfl := Ends.request hsend
      have hover : h₃ = [] ∧ result = settled call answer := by
        cases answer with
        | error error =>
            obtain ⟨hnil, hsame⟩ := Talks.done hsettled
            exact ⟨hnil, (Dialogue.done.inj hsame)⟩
        | ok response =>
            simp only at hsettled
            unfold settled
            split at hsettled
            · next hexpected =>
                obtain ⟨hnil, hsame⟩ := Talks.done hsettled
                exact ⟨hnil, by rw [Dialogue.done.inj hsame]; exact (if_pos hexpected).symm⟩
            · next hexpected =>
                obtain ⟨hnil, hsame⟩ := Talks.done hsettled
                exact ⟨hnil, by rw [Dialogue.done.inj hsame]; exact (if_neg hexpected).symm⟩
      obtain ⟨rfl, hresult⟩ := hover
      exact ⟨h₀, _, answer, by rw [List.append_nil], (headers_avoids _ _).ends hfirst, hresult⟩

/-- An accepted mutation is never refused as unknown for its status alone. -/
theorem refusal_of_accepts (method : HttpMethod) {response : HttpResponse} (ha : response.accepts) :
    refusal method response.status = requestFailed := by
  obtain ⟨hlow, hhigh⟩ := ha
  unfold refusal
  rw [if_neg (by omega), if_neg (by omega), if_neg (by omega), if_neg (by omega)]

/-- An operation that ends in one request that mutates and a reading of the response. -/
theorem Handles.request {call : HttpCall} {f : HttpResponse → Http α} (read : HttpResponse → Except Error α)
    (hread : ∀ response, f response = .done (read response)) :
    Handles (request cluster call >>= f) fun response =>
      response.status ∈ call.expected ∧ Reports (read response) := by
  intro h result response he ha
  have hcase : ∃ h₀ sent answer, h = h₀ ++ [⟨Wire.send sent, answer⟩] ∧ (∀ x ∈ h₀, ¬ Wire.Mutates x.request) ∧
      result = (settled call answer).bind read := by
    rcases he.bind with ⟨err, hfirst, rfl⟩ | ⟨h₁, h₂, got, rfl, hfirst, hsecond⟩
    · rcases request_ends hfirst with hquiet | ⟨h₀, sent, answer, rfl, hquiet, hsettled⟩
      · exact absurd ha (not_accepted hquiet response)
      · exact ⟨h₀, sent, answer, rfl, hquiet, by rw [← hsettled]; rfl⟩
    · rw [hread] at hsecond
      obtain ⟨rfl, hsame⟩ := Talks.done hsecond
      rw [List.append_nil] at ha ⊢
      rcases request_ends hfirst with hquiet | ⟨h₀, sent, answer, rfl, hquiet, hsettled⟩
      · exact absurd ha (not_accepted hquiet response)
      · exact ⟨h₀, sent, answer, rfl, hquiet, by rw [← hsettled]; exact Dialogue.done.inj hsame⟩
  obtain ⟨h₀, sent, answer, rfl, hquiet, rfl⟩ := hcase
  obtain ⟨sent, hmem, -, haccepts⟩ := accepted_append hquiet ha
  cases List.mem_singleton.mp hmem
  unfold settled
  by_cases hexpected : response.status ∈ call.expected
  · simp only [if_pos hexpected, Except.bind]
    exact ⟨fun hreports => ⟨hexpected, hreports⟩, fun htakes => htakes.2⟩
  · simp only [if_neg hexpected, Except.bind, refusal_of_accepts call.method haccepts]
    refine ⟨fun hreports => ?_, fun htakes => absurd htakes.1 hexpected⟩
    cases reports_error_iff.mp hreports

/-! ### Ways of reading a response -/

/-- `json.loads` raises nothing but what the transport expects of it. -/
def HttpResponse.Parses (response : HttpResponse) : Prop :=
  ∀ body, response.body = some body → body.size ≤ Cluster.maxClusterJsonBytes →
    ∀ what, body.decoding ≠ .failed what

/-- The JSON object a response is, if its body can be read, is within the limit and decodes to one. -/
def HttpResponse.object (response : HttpResponse) : Option JsonObject :=
  match response.body with
  | none => none
  | some body =>
      if body.size > Cluster.maxClusterJsonBytes then none
      else match body.decoding with
        | .value (.dict entries) => some entries
        | _ => none

/-- The three outcomes of `_response_json`. -/
theorem responseJson_cases (response : HttpResponse) :
    (∃ entries, responseJson response = .ok entries ∧ response.object = some entries ∧ response.Parses) ∨
      (∃ e, responseJson response = .error e ∧ e.isUnavailable = true ∧ e ≠ .mutationUnknown ∧
        response.object = none ∧ response.Parses) ∨
      ∃ what, responseJson response = .error (.raised what) ∧ response.object = none ∧ ¬ response.Parses := by
  unfold responseJson HttpResponse.object HttpResponse.Parses
  cases response.body with
  | none => exact .inr (.inl ⟨invalidResponse, rfl, rfl, (by decide), rfl, (by intro body hbody; cases hbody)⟩)
  | some body =>
      by_cases hsize : body.size > Cluster.maxClusterJsonBytes
      · refine .inr (.inl ⟨tooLarge, if_pos hsize, rfl, (by decide), if_pos hsize, ?_⟩)
        rintro body' hbody hfits
        obtain rfl := Option.some.inj hbody
        exact absurd hfits (Nat.not_le.mpr hsize)
      · simp only [if_neg hsize, Option.some.injEq, forall_eq', Nat.not_lt.mp hsize, true_imp_iff]
        cases body.decoding with
        | malformed => exact .inr (.inl ⟨invalidResponse, rfl, rfl, (by decide), rfl, (by intro what h; cases h)⟩)
        | failed what => exact .inr (.inr ⟨what, rfl, rfl, fun hparses => hparses what rfl⟩)
        | value v =>
            cases v with
            | dict entries => exact .inl ⟨entries, rfl, rfl, (by intro what h; cases h)⟩
            | _ => exact .inr (.inl ⟨invalidResponse, rfl, rfl, (by decide), rfl, (by intro what h; cases h)⟩)

/-- How an operation reads the response to its mutation. -/
inductive Reading : Type 1 where
  | closed
  | joined
  | mounted
  | plain {α : Type} (normalizer : Json → Except Error α)
  | guarded {α : Type} (normalizer : Json → Except Error α)
  | reviewed {α : Type} (normalizer : Json → Except Error α)

/-- The accepted responses of which such an operation reports as it should. -/
def Reading.Takes : Reading → HttpResponse → Prop
  | .closed, response => response.status = 200 ∨ response.status = 204
  | .joined, response => response.status = 200 ∧ response.Parses
  | .mounted, response => response.status = 204 ∨ (response.status = 200 ∧ response.object.isSome)
  | .plain normalizer, response =>
      response.status = 200 ∧ response.Parses ∧
        ∀ entries, response.object = some entries → ∃ a, normalizer (.dict entries) = .ok a
  | .guarded normalizer, response =>
      response.status = 200 ∧ response.Parses ∧
        ∀ entries e, response.object = some entries → normalizer (.dict entries) = .error e →
          (∃ message, e = .schema message) ∨ e.isUnavailable = true
  | .reviewed normalizer, response =>
      response.status = 204 ∨ (response.status = 200 ∧ response.Parses ∧
        ∀ entries e, response.object = some entries → normalizer (.dict entries) = .error e →
          (∃ message, e = .schema message) ∨ e.isUnavailable = true)

/-! ### What a reading reports -/

theorem reports_unknown_iff {result : Except Error α} :
    Reports (unknown result) ↔ ∀ e, result = .error e → e.isUnavailable = true := by
  unfold unknown
  cases result with
  | ok a => exact ⟨fun _ e h => (by cases h), fun _ => reports_ok a⟩
  | error e =>
      simp only [reports_error_iff, Except.error.injEq, forall_eq']
      by_cases hun : e.isUnavailable = true
      · simp [hun]
      · refine ⟨fun hsame => ?_, fun h => absurd h hun⟩
        rw [if_neg hun] at hsame
        rw [hsame] at hun
        exact absurd rfl hun

/-- A guarded document, and what is made of it after that. -/
theorem reports_guard_iff {response : HttpResponse} {finish : JsonObject → Except Error α} :
    Reports ((unknown (responseJson response)).bind finish) ↔
      response.Parses ∧ ∀ entries, response.object = some entries → Reports (finish entries) := by
  rcases responseJson_cases response with ⟨entries, hjson, hobject, hparses⟩ | ⟨e, hjson, hun, -, hobject, hparses⟩ |
    ⟨what, hjson, hobject, hparses⟩
  · rw [hjson, hobject]
    exact ⟨fun h => ⟨hparses, fun entries' hsame => by cases hsame; exact h⟩, fun h => h.2 entries rfl⟩
  · rw [hjson, hobject]
    refine ⟨fun _ => ⟨hparses, fun entries hsame => by cases hsame⟩, fun _ => ?_⟩
    simp only [unknown, if_pos hun, Except.bind]
    exact .inr rfl
  · rw [hjson, hobject]
    refine ⟨fun h => ?_, fun h => absurd h.1 hparses⟩
    cases reports_error_iff.mp h

/-- Every refusal is a `CapabilitySchemaError`. -/
def Schematic (result : Except Error α) : Prop := ∀ e, result = .error e → ∃ message, e = .schema message

theorem reports_normalize_iff {normalizer : Json → Except Error α} {payload : JsonObject}
    (hschematic : Schematic (normalizer (.dict payload))) :
    Reports (DirectAdministrationBackend.normalize normalizer payload) ↔ ∃ a, normalizer (.dict payload) = .ok a := by
  unfold DirectAdministrationBackend.normalize
  cases hresult : normalizer (.dict payload) with
  | ok a => exact ⟨fun _ => ⟨a, rfl⟩, fun _ => reports_ok a⟩
  | error e =>
      obtain ⟨message, rfl⟩ := hschematic e hresult
      refine ⟨fun h => ?_, fun ⟨a, hsame⟩ => by cases hsame⟩
      cases reports_error_iff.mp h

theorem reports_normalizeMutation_iff {normalizer : Json → Except Error α} {payload : JsonObject} :
    Reports (normalizeMutation normalizer payload) ↔ ∀ e, normalizer (.dict payload) = .error e →
      (∃ message, e = .schema message) ∨ e.isUnavailable = true := by
  unfold normalizeMutation DirectAdministrationBackend.normalize
  rw [reports_unknown_iff]
  cases normalizer (.dict payload) with
  | ok a => exact ⟨fun _ e h => (by cases h), fun _ e h => (by cases h)⟩
  | error e =>
      simp only [Except.error.injEq, forall_eq']
      cases e with
      | schema message => exact ⟨fun _ => .inl ⟨message, rfl⟩, fun _ e h => by cases h; rfl⟩
      | _ =>
          simp only [Except.error.injEq, forall_eq']
          exact ⟨.inr, fun h => h.resolve_left (by rintro ⟨message, hsame⟩; cases hsame)⟩

/-! ### The shapes of the operations -/

theorem closing_handles {call : HttpCall} (hexpected : call.expected = [200, 204]) :
    Handles (closing cluster call) Reading.closed.Takes := by
  refine (Handles.request (fun _ => .ok ()) fun _ => rfl).mono fun response _ => ?_
  rw [hexpected]
  simp [Reading.Takes, reports_ok]

theorem json_handles {call : HttpCall} {k : JsonObject → Http α} (finish : JsonObject → Except Error α)
    (hmutates : call.method.mutates = true) (hexpected : call.expected = [200])
    (hk : ∀ entries, k entries = .done (finish entries)) :
    Handles (requestJson cluster call >>= k) fun response =>
      response.status = 200 ∧ response.Parses ∧
        ∀ entries, response.object = some entries → Reports (finish entries) := by
  have hread : ∀ response, (Http.ofExcept (if call.method.mutates then unknown (responseJson response)
      else responseJson response) >>= k) = .done ((unknown (responseJson response)).bind finish) := by
    intro response
    rw [if_pos hmutates]
    cases unknown (responseJson response) with
    | ok entries => exact hk entries
    | error e => rfl
  rw [requestJson, Dialogue.bind_assoc]
  refine (Handles.request _ hread).mono fun response _ => ?_
  rw [hexpected, List.mem_singleton, reports_guard_iff]

theorem plain_handles {call : HttpCall} {normalizer : Json → Except Error α} (hmutates : call.method.mutates = true)
    (hexpected : call.expected = [200]) (hschematic : ∀ v, Schematic (normalizer v)) :
    Handles (requestJson cluster call >>= fun result => Http.ofExcept (normalize normalizer result))
      (Reading.plain normalizer).Takes := by
  refine (json_handles _ hmutates hexpected fun _ => rfl).mono fun response _ => ?_
  simp only [Reading.Takes, reports_normalize_iff (hschematic _)]

theorem guarded_handles {call : HttpCall} {normalizer : Json → Except Error α} (hmutates : call.method.mutates = true)
    (hexpected : call.expected = [200]) :
    Handles (requestJson cluster call >>= fun result => Http.ofExcept (normalizeMutation normalizer result))
      (Reading.guarded normalizer).Takes := by
  refine (json_handles _ hmutates hexpected fun _ => rfl).mono fun response _ => ?_
  simp only [Reading.Takes, reports_normalizeMutation_iff]
  exact ⟨fun ⟨hs, hp, h⟩ => ⟨hs, hp, fun entries e ho => h entries ho e⟩,
    fun ⟨hs, hp, h⟩ => ⟨hs, hp, fun entries ho e => h entries e ho⟩⟩

/-- What a join makes of the object it is answered. -/
def joinedResult (entries : JsonObject) : Except Error JsonObject :=
  match entries.get "joined" .null with
  | .bool joined => .ok [("joined", .bool joined)]
  | _ => .error .mutationUnknown

theorem reports_joinedResult (entries : JsonObject) : Reports (joinedResult entries) := by
  unfold joinedResult
  cases entries.get "joined" .null with
  | bool joined => exact reports_ok _
  | _ => exact .inr rfl

theorem joinRaft_handles (payload : JsonObject) : Handles (joinRaft cluster payload) Reading.joined.Takes := by
  refine (json_handles joinedResult rfl rfl fun entries => ?_).mono fun response _ => ?_
  · unfold joinedResult
    cases entries.get "joined" .null with
    | bool joined => rfl
    | _ => rfl
  · exact ⟨fun h => ⟨h.1, h.2.1⟩, fun h => ⟨h.1, h.2, fun entries _ => reports_joinedResult entries⟩⟩

/-- A mounted response is read as it comes: only an object, or none at all, is a success. -/
theorem reports_responseJson_iff (response : HttpResponse) :
    Reports (responseJson response) ↔ response.object.isSome = true := by
  rcases responseJson_cases response with ⟨entries, hjson, hobject, -⟩ | ⟨e, hjson, -, hne, hobject, -⟩ |
    ⟨what, hjson, hobject, -⟩
  · rw [hjson, hobject]
    exact ⟨fun _ => rfl, fun _ => reports_ok entries⟩
  · rw [hjson, hobject, reports_error_iff]
    exact ⟨fun h => absurd h hne, fun h => by cases h⟩
  · rw [hjson, hobject, reports_error_iff]
    exact ⟨fun h => (by cases h), fun h => (by cases h)⟩

/-- An operation that takes 204 for an empty success and reads the body of a 200. -/
theorem optional_handles {call : HttpCall} {f : HttpResponse → Http α} (empty : α)
    (read : HttpResponse → Except Error α) {sound : HttpResponse → Prop} (hexpected : call.expected = [200, 204])
    (hread : ∀ response, f response = if response.status = 204 then .done (.ok empty) else .done (read response))
    (hsound : ∀ response, Reports (read response) ↔ sound response) :
    Handles (request cluster call >>= f) fun response =>
      response.status = 204 ∨ (response.status = 200 ∧ sound response) := by
  have hdone : ∀ response, f response = .done (if response.status = 204 then .ok empty else read response) := by
    intro response
    rw [hread]
    split <;> rfl
  refine (Handles.request _ hdone).mono fun response _ => ?_
  rw [hexpected]
  by_cases hempty : response.status = 204
  · simp [hempty, reports_ok]
  · simp [hempty, hsound]

theorem mounted_handles (method : MutatingMethod) (path : String) (query body : JsonObject) :
    Handles (executeMountedOperation cluster method path query body) Reading.mounted.Takes := by
  unfold executeMountedOperation
  split
  · exact Handles.of_avoids (Avoids.raise _)
  · exact optional_handles [] responseJson rfl (fun response => by split <;> rfl) reports_responseJson_iff

theorem reports_reviewed_iff (normalizer : Json → Except Error α) (response : HttpResponse) :
    Reports ((unknown (responseJson response)).bind (normalizeMutation normalizer)) ↔
      response.Parses ∧ ∀ entries e, response.object = some entries → normalizer (.dict entries) = .error e →
        (∃ message, e = .schema message) ∨ e.isUnavailable = true := by
  simp only [reports_guard_iff, reports_normalizeMutation_iff]
  exact ⟨fun ⟨hp, h⟩ => ⟨hp, fun entries e ho => h entries ho e⟩,
    fun ⟨hp, h⟩ => ⟨hp, fun entries ho e => h entries e ho⟩⟩

theorem bind_ofExcept (first : Except Error α) (finish : α → Except Error β) :
    (Http.ofExcept first >>= fun a => Http.ofExcept (finish a)) = .done (first.bind finish) := by
  cases first with
  | ok a => rfl
  | error e => rfl

theorem reviewed_handles {call : HttpCall} {method : HttpMethod} (material : Bool)
    (hmethod : method ∈ [HttpMethod.post, .delete]) (hexpected : call.expected = [200, 204]) :
    Handles (request cluster call >>= fun response => reviewed method material response)
      (Reading.reviewed fun value => Access.normalizeAccessResponse value material).Takes := by
  refine optional_handles (.dict []) _ hexpected (fun response => ?_)
    (reports_reviewed_iff fun value => Access.normalizeAccessResponse value material)
  unfold reviewed
  rw [if_pos hmethod]
  split
  · rfl
  · exact bind_ofExcept _ _

theorem reviewed_method {method : HttpMethod} (hmutates : method.mutates = true)
    (hmethod : method ∈ [HttpMethod.get, .list, .post, .delete]) :
    method ≠ .list ∧ method ∈ [HttpMethod.post, .delete] := by
  cases method with
  | get | head | list | options => cases hmutates
  | post | delete => exact ⟨by decide, by decide⟩
  | put | patch => exact absurd hmethod (by decide)

theorem accessOperation_handles (method : MutatingMethod) (path : String) (payload : JsonObject) (material : Bool) :
    Handles (executeAccessOperation cluster method path payload material)
      (Reading.reviewed fun value => Access.normalizeAccessResponse value material).Takes := by
  unfold executeAccessOperation
  by_cases hreviewed : method.1 ∈ [HttpMethod.get, .list, .post, .delete] ∧ reviewedAccessPath path
  · obtain ⟨hlist, hmethod⟩ := reviewed_method method.2 hreviewed.1
    rw [if_neg (not_not_intro hreviewed), if_neg hlist]
    exact reviewed_handles material hmethod rfl
  · rw [if_pos hreviewed]
    exact Handles.of_avoids (Avoids.raise _)

theorem finalOperation_handles (method : MutatingMethod) (path : String) (payload : JsonObject) (material : Bool) :
    Handles (executeFinalOperation cluster method path payload material)
      (Reading.reviewed fun value => Access.normalizeAccessResponse value material).Takes := by
  unfold executeFinalOperation
  by_cases hreviewed : method.1 ∈ [HttpMethod.get, .list, .post, .delete] ∧ reviewedFinalPath path
  · obtain ⟨hlist, hmethod⟩ := reviewed_method method.2 hreviewed.1
    rw [if_neg (not_not_intro hreviewed), if_neg hlist]
    exact Handles.check _ fun _ => reviewed_handles material hmethod rfl
  · rw [if_pos hreviewed]
    exact Handles.of_avoids (Avoids.raise _)

theorem writeMfaMethod_handles (methodType : String) (payload : JsonObject) (methodId : String) :
    Handles (writeMfaMethod cluster methodType payload methodId)
      (Reading.reviewed normalizePublicAuthData).Takes := by
  unfold writeMfaMethod
  split
  · exact Handles.of_avoids (Avoids.raise _)
  · refine Handles.check _ fun _ => optional_handles (.dict []) _ rfl (fun response => ?_)
      (reports_reviewed_iff _)
    split
    · rfl
    · exact bind_ofExcept _ _

end NetboxOpenbao
