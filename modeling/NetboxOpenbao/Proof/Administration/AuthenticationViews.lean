import NetboxOpenbao.Administration.AuthenticationViews
import NetboxOpenbao.Proof.Administration.Explorer
import NetboxOpenbao.Proof.Administration.Guards
import NetboxOpenbao.Proof.Administration.Schema

/-!
# Authentication actions make one call, once it is authorized

Every view comes to its call of the backend only through `_auth_mutation`: the cluster was looked up under the action's
permission, the live server advertises the operation, and the row that authorizes it is durable. The call is made once,
and the answer says what became of it.
-/

namespace NetboxOpenbao

open Effect Dialogue Authentication

abbrev AuthExchange : Type := Exchange Error AuthAsk AuthAsk.Answer

/-- The calls that change OpenBao or return what it keeps for a principal. -/
def AuthAsk.Touches : AuthAsk → Prop
  | .perform _ | .startOidc _ _ _ _ | .lookupApproleSecretId _ _ _ | .lookupToken _ => True
  | .plane _ | .cluster _ | .listAuthMethods | .readDirectOidcRole _ _ | .tokenUrlsafe | .dumpsEnvelope _
  | .loadsEnvelope _ => False

/-- What only a producer asks for: its call, and the signature of what that gave. -/
def AuthAsk.Produced : AuthAsk → Prop
  | .perform _ | .startOidc _ _ _ _ | .lookupApproleSecretId _ _ _ | .lookupToken _ | .dumpsEnvelope _ => True
  | .plane _ | .cluster _ | .listAuthMethods | .readDirectOidcRole _ _ | .tokenUrlsafe | .loadsEnvelope _ => False

theorem AuthAsk.Touches.produced {r : AuthAsk} (htouches : r.Touches) : r.Produced := by
  cases r <;> trivial

/-- The mount at a path, by the live listing that was read. -/
def MountRead (h : List AuthExchange) (mountPath : String) (mount : AuthMount) : Prop :=
  ∃ mounts, ⟨.listAuthMethods, .ok mounts⟩ ∈ h ∧ authMount mounts mountPath = .ok mount

/-- The resource with a key, of the type that the live mount has. -/
def ResourceRead (h : List AuthExchange) (mountPath resourceKey : String) (resource : AuthResource) : Prop :=
  ∃ mount, MountRead h mountPath mount ∧ resourceSpec resourceKey mount.methodType = .ok resource

/-- The call an action is for, on a cluster and after what was read for it. What an OIDC login gives is signed. -/
def AuthAction.Calls [UrlSplit] (row : ClusterRow) (preparing : List AuthExchange) : AuthAction → AuthAsk → Prop
  | .enableAuthMethod mountPath _ payload, r => r = .perform (.enableAuthMethod mountPath payload)
  | .tuneAuthMethod mountPath payload, r => r = .perform (.tuneAuthMethod mountPath payload)
  | .disableAuthMethod mountPath _, r => r = .perform (.disableAuthMethod mountPath)
  | .authRemount source destination, r => r = .perform (.remountAuthMethod source destination)
  | .authConfig mountPath payload, r => r = .perform (.writeAuthConfig mountPath payload)
  | .writeAuthResource mountPath resourceKey name payload, r =>
      ∃ resource, ResourceRead preparing mountPath resourceKey resource ∧
        r = .perform (.runAuthResource mountPath resource.spec name (some payload))
  | .deleteAuthResource mountPath resourceKey name _, r =>
      ∃ resource, ResourceRead preparing mountPath resourceKey resource ∧
        r = .perform (.runAuthResource mountPath resource.spec name none)
  | .approleSecretId mountPath roleName payload, r => r = .perform (.issueApproleSecretId mountPath roleName payload)
  | .approleRoleId mountPath roleName roleId, r => r = .perform (.writeApproleRoleId mountPath roleName roleId)
  | .lookupSecretIdAccessor mountPath roleName accessor, r => r = .lookupApproleSecretId mountPath roleName accessor
  | .destroySecretIdAccessor mountPath roleName accessor _, r =>
      r = .perform (.destroyApproleSecretId mountPath roleName accessor)
  | .authLogin mountPath methodType payload, r => r = .perform (.authenticate methodType mountPath payload)
  | .authOidcStart mountPath role, r =>
      (∃ callback nonce, oidcCallback row.cluster mountPath = .ok callback ∧ ⟨.tokenUrlsafe, .ok nonce⟩ ∈ preparing ∧
        r = .startOidc mountPath role callback nonce) ∨ ∃ envelope, r = .dumpsEnvelope envelope
  | .authOidcPoll mountPath state clientNonce _, r => r = .perform (.oidcPoll mountPath state clientNonce)
  | .authMfaValidate requestId payload, r => r = .perform (.validateMfa requestId payload)
  | .writeMfaMethod methodType methodId payload, r => r = .perform (.writeMfaMethod methodType payload methodId)
  | .deleteMfaMethod methodType methodId _, r => r = .perform (.deleteMfaMethod methodType methodId)
  | .authMfaMethodCreate methodType payload, r => r = .perform (.writeMfaMethod methodType payload "")
  | .authMfaTotpSelf methodId token, r => r = .perform (.setupTotp methodId "" false token)
  | .authMfaTotpSelfReset methodId token _, r => r = .perform (.resetTotpSetup methodId token)
  | .generateTotp methodId entityId, r => r = .perform (.setupTotp methodId entityId true "")
  | .destroyTotp methodId entityId _, r => r = .perform (.destroyTotpSetup methodId entityId)
  | .writeMfaEnforcement name payload, r => r = .perform (.writeMfaEnforcement name payload)
  | .deleteMfaEnforcement name _, r => r = .perform (.deleteMfaEnforcement name)
  | .authToken operation payload _, r => match operation with
    | .lookupSelf | .lookupAccessor => r = .lookupToken payload
    | .renewSelf => r = .perform (.tokenOperation .renewSelf payload)
    | .revokeSelf => r = .perform (.tokenOperation .revokeSelf payload)
    | .renewAccessor => r = .perform (.tokenOperation .renewAccessor payload)
    | .revokeAccessor => r = .perform (.tokenOperation .revokeAccessor payload)

/-- The confirmation a destructive action has to be given, and the one it was given. -/
def AuthAction.confirmation (slug : String) : AuthAction → Option (String × String)
  | .disableAuthMethod mountPath given => some ("DISABLE AUTH " ++ mountPath ++ " ON " ++ slug, given)
  | .deleteAuthResource _ resourceKey name given =>
      some ("DELETE AUTH RESOURCE " ++ resourceKey ++ "/" ++ name ++ " ON " ++ slug, given)
  | .destroySecretIdAccessor _ _ _ given => some ("DESTROY APPROLE SECRET ID ON " ++ slug, given)
  | .deleteMfaMethod _ methodId given => some ("DELETE MFA METHOD " ++ methodId ++ " ON " ++ slug, given)
  | .authMfaTotpSelfReset _ _ given => some ("RESET MY TOTP ON " ++ slug, given)
  | .destroyTotp _ entityId given => some ("DESTROY TOTP FOR " ++ entityId ++ " ON " ++ slug, given)
  | .deleteMfaEnforcement name given => some ("DELETE MFA ENFORCEMENT " ++ name ++ " ON " ++ slug, given)
  | .authToken operation _ given =>
      if operation.destructive then some ("REVOKE TOKEN ON " ++ slug, given) else none
  | _ => none

theorem confirmation_authToken (slug : String) (operation : AuthTokenOperation) (payload : JsonObject) (given : String) :
    (AuthAction.authToken operation payload given).confirmation slug =
      if operation.destructive then some ("REVOKE TOKEN ON " ++ slug, given) else none := rfl

section

/-! ### Parts that make no call -/

namespace Auth

variable {α : Type}

theorem plane_avoids (d : Admin α) : (plane d).Avoids AuthAsk.Produced := by
  induction d with
  | done result => trivial
  | ask r next ih => exact ⟨id, fun answer => ih _⟩

theorem plane_quiet (d : Admin α) : (plane d).Avoids AuthAsk.Touches :=
  (plane_avoids d).mono fun _ => AuthAsk.Touches.produced

theorem raiseIf_avoids (condition : Bool) (error : Error) : (raiseIf condition error).Avoids AuthAsk.Produced := by
  cases condition with
  | true => trivial
  | false => trivial

end Auth

variable [Packaging]

theorem prepareAuthOperation_avoids (operationId : String) (required : List String) :
    (prepareAuthOperation operationId required).Avoids AuthAsk.Produced :=
  Avoids.bind (Avoids.request id) fun _ =>
    Avoids.bind (Avoids.request id) fun _ =>
    Avoids.bind (Auth.raiseIf_avoids _ _) fun _ =>
    Avoids.bind (Auth.raiseIf_avoids _ _) fun _ =>
    Avoids.bind (Avoids.request id) fun _ =>
    Avoids.bind (Auth.raiseIf_avoids _ _) fun _ =>
    Avoids.bind (Auth.raiseIf_avoids _ _) fun _ => Avoids.pure _

omit [Packaging] in
theorem mountedMethod_avoids (mountPath : String) : (mountedMethod mountPath).Avoids AuthAsk.Produced := by
  refine Avoids.bind (Avoids.attempt (Avoids.bind (Avoids.request id) fun _ => Avoids.done _)) fun outcome => ?_
  cases outcome with
  | ok mount => exact Avoids.pure _
  | error error =>
      dsimp only
      split <;> exact Avoids.raise _

theorem resolveAuthMount_avoids (request : AuthRequest) (cluster : OpenBaoCluster) (mountPath : String) :
    (resolveAuthMount request cluster mountPath).Avoids AuthAsk.Produced := by
  refine Avoids.bind (Avoids.attempt ?_) fun outcome => ?_
  · exact Avoids.bind (prepareAuthOperation_avoids _ _) fun _ =>
      Avoids.bind (mountedMethod_avoids _) fun _ => Avoids.bind (Auth.plane_avoids _) fun _ => Avoids.pure _
  · cases outcome with
    | ok mount => exact Avoids.pure _
    | error error =>
        dsimp only
        split
        · exact Auth.plane_avoids _
        · exact Avoids.raise _

theorem requireMount_avoids (request : AuthRequest) (cluster : OpenBaoCluster) (mountPath : String)
    (methodTypes : List String) (refusal : String) :
    (requireMount request cluster mountPath methodTypes refusal).Avoids AuthAsk.Produced :=
  Avoids.bind (resolveAuthMount_avoids _ _ _) fun _ => Auth.raiseIf_avoids _ _

omit [Packaging] in
theorem resolvedOr_avoids {α : Type} {d : Auth α} (hd : d.Avoids AuthAsk.Produced) (refusal : String) :
    (resolvedOr d refusal).Avoids AuthAsk.Produced := by
  refine Avoids.bind hd.attempt fun outcome => ?_
  cases outcome with
  | ok a => exact Avoids.pure _
  | error error => exact Avoids.raise _

theorem resolveAuthResource_avoids (request : AuthRequest) (cluster : OpenBaoCluster) (mountPath key : String) :
    (resolveAuthResource request cluster mountPath key).Avoids AuthAsk.Produced :=
  resolvedOr_avoids (Avoids.bind (resolveAuthMount_avoids _ _ _) fun _ => Avoids.done _) _

omit [Packaging] in
theorem confirm_avoids (expected given : String) : (confirm expected given).Avoids AuthAsk.Produced :=
  Auth.raiseIf_avoids _ _

variable [DocumentHashing] [UrlSplit]

/-- No view calls the backend before `_auth_mutation` does. -/
theorem AuthAction.prepare_avoids (request : AuthRequest) (row : ClusterRow) (action : AuthAction) :
    (action.prepare request row).Avoids AuthAsk.Produced := by
  cases action with
  | disableAuthMethod | deleteMfaMethod | authMfaTotpSelfReset | destroyTotp | deleteMfaEnforcement =>
      exact Avoids.bind (confirm_avoids _ _) fun _ => Avoids.pure _
  | authConfig mountPath payload =>
      refine Avoids.bind (resolvedOr_avoids (Avoids.bind (resolveAuthMount_avoids _ _ _) fun mount => ?_) _)
        fun _ => Avoids.pure _
      split
      · exact Avoids.pure _
      · exact Avoids.raise _
  | writeAuthResource =>
      exact Avoids.bind (resolveAuthResource_avoids _ _ _ _) fun _ =>
        Avoids.bind (Auth.raiseIf_avoids _ _) fun _ => Avoids.pure _
  | deleteAuthResource =>
      exact Avoids.bind (resolveAuthResource_avoids _ _ _ _) fun _ =>
        Avoids.bind (Auth.raiseIf_avoids _ _) fun _ => Avoids.bind (confirm_avoids _ _) fun _ => Avoids.pure _
  | approleSecretId | approleRoleId | lookupSecretIdAccessor =>
      exact Avoids.bind (requireMount_avoids _ _ _ _ _) fun _ => Avoids.pure _
  | destroySecretIdAccessor =>
      exact Avoids.bind (requireMount_avoids _ _ _ _ _) fun _ => Avoids.bind (confirm_avoids _ _) fun _ => Avoids.pure _
  | authLogin mountPath methodType payload =>
      refine Avoids.bind (resolveAuthMount_avoids _ _ _) fun _ => Avoids.bind (Auth.raiseIf_avoids _ _) fun _ => ?_
      split
      · exact Avoids.raise _
      · exact Avoids.pure _
  | authOidcStart =>
      exact Avoids.bind (requireMount_avoids _ _ _ _ _) fun _ => Avoids.bind (Avoids.request id) fun _ => Avoids.pure _
  | authOidcPoll =>
      exact Avoids.bind (requireMount_avoids _ _ _ _ _) fun _ =>
        Avoids.bind (Avoids.request id) fun _ => Avoids.bind (Auth.raiseIf_avoids _ _) fun _ => Avoids.pure _
  | authToken operation payload confirmation =>
      refine Avoids.bind ?_ fun _ => Avoids.pure _
      split
      · exact confirm_avoids _ _
      · exact Avoids.pure _
  | _ => exact Avoids.pure _

/-! ### The call -/

/-- The signatures that were asked for were made. -/
def Signs (h : List AuthExchange) : Prop := ∀ envelope error, ⟨.dumpsEnvelope envelope, .error error⟩ ∉ h

/-- A producer makes one call, of the kind `C`, and ends with it: it returns if the call is answered, and raises what
the call raises. -/
structure Producer (C : AuthAsk → Prop) (producer : Auth JsonObject) : Prop where
  once : producer.Once AuthAsk.Touches
  calls : producer.Avoids fun r => r.Produced ∧ ¬ C r
  outcome : ∀ h result, Ends producer h result → Signs h →
    (∀ x ∈ h, x.request.Touches →
      (∀ a, x.answer = .ok a → ∃ payload, result = .ok payload) ∧ ∀ error, x.answer = .error error → result = .error error)
  idle : ∀ h result, Ends producer h result → (∀ x ∈ h, ¬ x.request.Touches) → ∃ error, result = .error error

namespace Producer

variable {C : AuthAsk → Prop}

omit [Packaging] [DocumentHashing] [UrlSplit] in
/-- The call, and what is made of its answer. -/
theorem call {r : AuthAsk} {f : r.Answer → Auth JsonObject} (hC : C r) (htouches : r.Touches)
    (hquiet : ∀ a, (f a).Avoids AuthAsk.Touches) (hcalls : ∀ a, (f a).Avoids fun r => r.Produced ∧ ¬ C r)
    (hreturns : ∀ a h result, Ends (f a) h result → Signs h → ∃ payload, result = .ok payload) :
    Producer C (Auth.ask r >>= f) where
  once := (Once.request r).bind hquiet
  calls := Avoids.bind (Avoids.request fun hr => hr.2 hC) hcalls
  outcome := by
    intro h result he hsigns x hx hxtouches
    rcases he.bind with ⟨err, hask, rfl⟩ | ⟨h₁, h₂, a, rfl, hask, hrest⟩
    · obtain rfl := Ends.request hask
      obtain rfl := List.mem_singleton.mp hx
      constructor
      · intro a ha
        cases ha
      · intro error herror
        exact congrArg Except.error (Except.error.inj herror)
    · obtain rfl := Ends.request hask
      have hfirst : x = ⟨r, .ok a⟩ := by
        rcases List.mem_append.mp hx with hfirst | hlater
        · exact List.mem_singleton.mp hfirst
        · exact absurd hxtouches ((hquiet a).ends hrest x hlater)
      subst hfirst
      constructor
      · intro _ _
        exact hreturns a h₂ result hrest fun envelope error hmem =>
          hsigns envelope error (List.mem_append_right _ hmem)
      · intro error herror
        cases herror
  idle := by
    intro h result he hnone
    rcases he.bind with ⟨err, hask, rfl⟩ | ⟨h₁, h₂, a, rfl, hask, hrest⟩
    · exact ⟨err, rfl⟩
    · obtain rfl := Ends.request hask
      exact absurd htouches (hnone _ (List.mem_append_left _ (List.mem_singleton.mpr rfl)))

omit [Packaging] [DocumentHashing] [UrlSplit] in
/-- What is read before the call. -/
theorem after {α : Type} {d : Auth α} {f : α → Auth JsonObject} (hreads : d.Avoids AuthAsk.Produced)
    (hf : ∀ a, Producer C (f a)) : Producer C (d >>= f) where
  once := (hreads.mono fun _ => AuthAsk.Touches.produced).bind_once fun a => (hf a).once
  calls := Avoids.bind (hreads.mono fun _ hr => hr.1) fun a => (hf a).calls
  outcome := by
    have hquiet : d.Avoids AuthAsk.Touches := hreads.mono fun _ => AuthAsk.Touches.produced
    intro h result he hsigns x hx hxtouches
    rcases he.bind with ⟨err, hfirst, rfl⟩ | ⟨h₁, h₂, a, rfl, hfirst, hrest⟩
    · exact absurd hxtouches (hquiet.ends hfirst x hx)
    · rcases List.mem_append.mp hx with hearly | hlater
      · exact absurd hxtouches (hquiet.ends hfirst x hearly)
      · exact (hf a).outcome h₂ result hrest
          (fun envelope error hmem => hsigns envelope error (List.mem_append_right _ hmem)) x hlater hxtouches
  idle := by
    intro h result he hnone
    rcases he.bind with ⟨err, hfirst, rfl⟩ | ⟨h₁, h₂, a, rfl, hfirst, hrest⟩
    · exact ⟨err, rfl⟩
    · exact (hf a).idle h₂ result hrest fun x hx => hnone x (List.mem_append_right _ hx)

omit [Packaging] [DocumentHashing] [UrlSplit] in
/-- What is computed before the call. -/
theorem ofExcept {α : Type} {computed : Except Error α} {f : α → Auth JsonObject}
    (hf : ∀ a, computed = .ok a → Producer C (f a)) : Producer C (Auth.ofExcept computed >>= f) := by
  cases computed with
  | ok a => exact hf a rfl
  | error error =>
      refine ⟨trivial, trivial, ?_, ?_⟩
      · intro h result he _ x hx
        obtain ⟨rfl, -⟩ := Talks.done he
        cases hx
      · intro h result he _
        obtain ⟨-, hdone⟩ := Talks.done he
        exact ⟨error, Dialogue.done.inj hdone⟩

omit [Packaging] [DocumentHashing] [UrlSplit] in
/-- What a producer waits for is for its action. -/
theorem calls_of_pending {producer : Auth JsonObject} (hproducer : Producer C producer) {h : List AuthExchange}
    {e : Auth JsonObject} {r : AuthAsk} (ht : Talks producer h e) (hr : e.pending = some r)
    (hproduced : r.Produced) : C r :=
  Classical.byContradiction fun hother => (hproducer.calls.talks ht).2 r hr ⟨hproduced, hother⟩

end Producer

variable {C : AuthAsk → Prop}

omit [Packaging] [DocumentHashing] [UrlSplit] in
theorem Ends.pure_returns {p : JsonObject} {h : List AuthExchange} {result : Except Error JsonObject}
    (he : Ends (pure p : Auth JsonObject) h result) : ∃ payload, result = .ok payload := by
  obtain ⟨-, hdone⟩ := Talks.done he
  exact ⟨p, Dialogue.done.inj hdone⟩

omit [Packaging] [DocumentHashing] [UrlSplit] in
theorem performOr_producer {operation : MutatingOperation} (hC : C (.perform operation)) (default : JsonObject) :
    Producer C (performOr operation default) :=
  .call hC trivial (fun _ => Avoids.pure _) (fun _ => Avoids.pure _) fun _ _ _ he _ => Ends.pure_returns he

omit [Packaging] [DocumentHashing] [UrlSplit] in
theorem lookupApprole_producer {mountPath roleName accessor : String}
    (hC : C (.lookupApproleSecretId mountPath roleName accessor)) :
    Producer C (Auth.ask (.lookupApproleSecretId mountPath roleName accessor)) := by
  rw [Auth.ask, ← Dialogue.request_bind_pure]
  exact .call hC trivial (fun _ => Avoids.pure _) (fun _ => Avoids.pure _) fun _ _ _ he _ => Ends.pure_returns he

omit [Packaging] [DocumentHashing] [UrlSplit] in
theorem lookupToken_producer {payload : JsonObject} (hC : C (.lookupToken payload)) :
    Producer C (Auth.ask (.lookupToken payload)) := by
  rw [Auth.ask, ← Dialogue.request_bind_pure]
  exact .call hC trivial (fun _ => Avoids.pure _) (fun _ => Avoids.pure _) fun _ _ _ he _ => Ends.pure_returns he

omit [Packaging] [DocumentHashing] [UrlSplit] in
theorem perform_producer {operation : MutatingOperation} (hC : C (.perform operation)) :
    Producer C (Auth.ask (.perform operation)) := by
  rw [Auth.ask, ← Dialogue.request_bind_pure]
  exact .call hC trivial (fun _ => Avoids.pure _) (fun _ => Avoids.pure _) fun _ _ _ he _ => Ends.pure_returns he

variable (row : ClusterRow) (preparing : List AuthExchange)

omit [Packaging] [DocumentHashing] in
theorem tokenOperation_producer (operation : AuthTokenOperation) (payload : JsonObject) (confirmation : String) :
    Producer ((AuthAction.authToken operation payload confirmation).Calls row preparing) (operation.ask payload) := by
  cases operation with
  | lookupSelf | lookupAccessor =>
      apply lookupToken_producer
      rfl
  | renewSelf | revokeSelf | renewAccessor | revokeAccessor =>
      apply perform_producer
      rfl

omit [Packaging] in
theorem oidcStart_producer (request : AuthRequest) (mountPath role : String) {nonce : String}
    (hdrawn : ⟨.tokenUrlsafe, .ok nonce⟩ ∈ preparing) :
    Producer ((AuthAction.authOidcStart mountPath role).Calls row preparing)
      (oidcStartProducer request row mountPath role nonce) := by
  refine .after (Avoids.request id) fun _ => .ofExcept fun callback hcallback => ?_
  refine .call (.inl ⟨callback, nonce, hcallback, hdrawn, rfl⟩) trivial ?_ ?_ ?_
  · exact fun _ => Avoids.bind (Avoids.request id) fun _ => Avoids.pure _
  · exact fun _ => Avoids.bind (Avoids.request fun hr => hr.2 (.inr ⟨_, rfl⟩)) fun _ => Avoids.pure _
  · intro result h outcome he hsigns
    rcases he.bind with ⟨err, hdumps, rfl⟩ | ⟨h₁, h₂, envelope, rfl, -, hend⟩
    · obtain rfl := Ends.request hdumps
      exact absurd (List.mem_singleton.mpr rfl) (hsigns _ err)
    · exact Ends.pure_returns hend

/-- What `_auth_mutation` is handed: a call for the action, once it has been confirmed. -/
structure AuthMutation.For (mutation : AuthMutation) (action : AuthAction) : Prop where
  producer : Producer (action.Calls row preparing) mutation.producer
  accepted : mutation.statusCode / 100 = 2
  confirmed : ∀ expected given, action.confirmation row.cluster.slug = some (expected, given) → given = expected

namespace Auth

omit [Packaging] [DocumentHashing] [UrlSplit]

/-- An exchange of a part that every administrative view has. -/
def exchanged (x : PlaneExchange) : AuthExchange := ⟨.plane x.request, x.answer⟩

theorem plane_ends {α : Type} {d : Admin α} {h : List AuthExchange} {result : Except Error α}
    (he : Ends (plane d) h result) : ∃ inside, Ends d inside result ∧ h = inside.map exchanged :=
  Ends.of_embed_same he

theorem raiseIf_ok {condition : Bool} {error : Error} {β : Type} {f : Unit → Auth β} {h : List AuthExchange} {b : β}
    (he : Ends (raiseIf condition error >>= f) h (.ok b)) : condition = false ∧ Ends (f ()) h (.ok b) := by
  cases condition with
  | true => exact absurd he Ends.raise_ok
  | false => exact ⟨rfl, he⟩

end Auth

omit [Packaging] [DocumentHashing] [UrlSplit] in
theorem mountedMethod_ends {mountPath : String} {mount : AuthMount} {h : List AuthExchange}
    (he : Ends (mountedMethod mountPath) h (.ok mount)) : MountRead h mountPath mount := by
  obtain ⟨h₁, h₂, outcome, rfl, hread, hreturned⟩ := he.bind_attempt
  cases outcome with
  | error error =>
      dsimp only at hreturned
      split at hreturned <;> exact absurd hreturned Ends.raise_ok
  | ok found =>
      obtain ⟨rfl, rfl⟩ := Ends.pure_ok hreturned
      obtain ⟨mounts, h₃, rfl, hfound⟩ := Ends.request_bind hread
      obtain ⟨rfl, hsame⟩ := Talks.done hfound
      exact ⟨mounts, List.mem_cons_self, (Dialogue.done.inj hsame).symm⟩

omit [DocumentHashing] [UrlSplit] in
theorem resolveAuthMount_ends {request : AuthRequest} {cluster : OpenBaoCluster} {mountPath : String}
    {mount : AuthMount} {h : List AuthExchange} (he : Ends (resolveAuthMount request cluster mountPath) h (.ok mount)) :
    MountRead h mountPath mount := by
  obtain ⟨h₁, h₂, outcome, rfl, hresolved, hreturned⟩ := he.bind_attempt
  cases outcome with
  | error error =>
      dsimp only at hreturned
      split at hreturned
      · obtain ⟨inside, hfailure, -⟩ := Auth.plane_ends hreturned
        obtain ⟨err, hsame⟩ := backendFailure_ends hfailure
        cases hsame
      · exact absurd hreturned Ends.raise_ok
  | ok found =>
      obtain ⟨rfl, rfl⟩ := Ends.pure_ok hreturned
      obtain ⟨preflight, h₄, digest, rfl, -, hmounted⟩ := hresolved.bind_ok
      obtain ⟨listing, h₅, mount', rfl, hlisted, hlogged⟩ := hmounted.bind_ok
      obtain ⟨logging, h₆, u, rfl, -, hdone⟩ := hlogged.bind_ok
      obtain ⟨-, rfl⟩ := Ends.pure_ok hdone
      obtain ⟨mounts, hmem, hmount⟩ := mountedMethod_ends hlisted
      refine ⟨mounts, ?_, hmount⟩
      exact List.mem_append_left _ (List.mem_append_right _ (List.mem_append_left _ hmem))

omit [DocumentHashing] [UrlSplit] in
theorem resolveAuthResource_ends {request : AuthRequest} {cluster : OpenBaoCluster} {mountPath key : String}
    {resource : AuthResource} {h : List AuthExchange}
    (he : Ends (resolveAuthResource request cluster mountPath key) h (.ok resource)) :
    ResourceRead h mountPath key resource := by
  obtain ⟨h₁, h₂, outcome, rfl, hresolved, hreturned⟩ := he.bind_attempt
  cases outcome with
  | error error => exact absurd hreturned Ends.raise_ok
  | ok found =>
      obtain ⟨rfl, rfl⟩ := Ends.pure_ok hreturned
      obtain ⟨h₃, h₄, mount, rfl, hmounted, hfound⟩ := hresolved.bind_ok
      obtain ⟨rfl, hsame⟩ := Talks.done hfound
      obtain ⟨mounts, hmem, hmount⟩ := resolveAuthMount_ends hmounted
      refine ⟨mount, ⟨mounts, ?_, hmount⟩, (Dialogue.done.inj hsame).symm⟩
      exact List.mem_append_left _ (List.mem_append_left _ hmem)

section

variable {row preparing} {action : AuthAction} {mutation : AuthMutation}

omit [Packaging] [DocumentHashing] in
theorem AuthMutation.For.unconfirmed (hproducer : Producer (action.Calls row preparing) mutation.producer)
    (haccepted : mutation.statusCode / 100 = 2) (hnone : action.confirmation row.cluster.slug = none) :
    mutation.For row preparing action := by
  refine ⟨hproducer, haccepted, fun expected given hsome => ?_⟩
  rw [hnone] at hsome
  cases hsome

omit [Packaging] [DocumentHashing] in
theorem AuthMutation.For.confirmedWith {expected given : String}
    (hproducer : Producer (action.Calls row preparing) mutation.producer) (haccepted : mutation.statusCode / 100 = 2)
    (hsome : action.confirmation row.cluster.slug = some (expected, given)) (hsame : given = expected) :
    mutation.For row preparing action := by
  refine ⟨hproducer, haccepted, fun expected' given' hsome' => ?_⟩
  obtain ⟨rfl, rfl⟩ := Prod.mk.inj (Option.some.inj (hsome.symm.trans hsome'))
  exact hsame

end

omit [Packaging] [DocumentHashing] [UrlSplit] in
theorem confirm_ok {expected given : String} {β : Type} {f : Unit → Auth β} {h : List AuthExchange} {b : β}
    (he : Ends (confirm expected given >>= f) h (.ok b)) : given = expected ∧ Ends (f ()) h (.ok b) := by
  obtain ⟨hsame, hrest⟩ := Auth.raiseIf_ok he
  exact ⟨by simpa using hsame, hrest⟩

omit [Packaging] [DocumentHashing] [UrlSplit] in
theorem confirm_returns {expected given : String} {h : List AuthExchange} {u : Unit}
    (he : Ends (confirm expected given) h (.ok u)) : given = expected := by
  cases hrefused : given != expected with
  | true =>
      rw [confirm, hrefused] at he
      exact absurd he Ends.raise_ok
  | false => simpa using hrefused

open AuthMutation.For in
/-- What a view prepares is for its action. -/
theorem AuthAction.prepare_for {request : AuthRequest} {row : ClusterRow} {action : AuthAction}
    {preparing : List AuthExchange} {mutation : AuthMutation}
    (he : Ends (action.prepare request row) preparing (.ok mutation)) : mutation.For row preparing action := by
  cases action with
  | enableAuthMethod | tuneAuthMethod | authRemount | authMfaValidate | writeMfaMethod | authMfaMethodCreate
  | authMfaTotpSelf | generateTotp | writeMfaEnforcement =>
      obtain ⟨-, rfl⟩ := Ends.pure_ok he
      exact unconfirmed (performOr_producer (by rfl) _) (by simp) rfl
  | disableAuthMethod | deleteMfaMethod | authMfaTotpSelfReset | destroyTotp | deleteMfaEnforcement =>
      obtain ⟨hsame, hrest⟩ := confirm_ok he
      obtain ⟨-, rfl⟩ := Ends.pure_ok hrest
      exact confirmedWith (performOr_producer (by rfl) _) (by simp) rfl hsame
  | authConfig =>
      obtain ⟨h₁, h₂, resolved, rfl, -, hrest⟩ := he.bind_ok
      obtain ⟨-, rfl⟩ := Ends.pure_ok hrest
      exact unconfirmed (performOr_producer (by rfl) _) (by simp) rfl
  | writeAuthResource =>
      obtain ⟨h₁, h₂, resource, rfl, hresolved, hnamed⟩ := he.bind_ok
      obtain ⟨-, hrest⟩ := Auth.raiseIf_ok hnamed
      obtain ⟨rfl, rfl⟩ := Ends.pure_ok hrest
      rw [List.append_nil]
      exact unconfirmed (performOr_producer ⟨resource, resolveAuthResource_ends hresolved, rfl⟩ _) (by simp) rfl
  | deleteAuthResource =>
      obtain ⟨h₁, h₂, resource, rfl, hresolved, hnamed⟩ := he.bind_ok
      obtain ⟨-, hconfirming⟩ := Auth.raiseIf_ok hnamed
      obtain ⟨hsame, hrest⟩ := confirm_ok hconfirming
      obtain ⟨rfl, rfl⟩ := Ends.pure_ok hrest
      rw [List.append_nil]
      exact confirmedWith (performOr_producer ⟨resource, resolveAuthResource_ends hresolved, rfl⟩ _) (by simp) rfl hsame
  | approleSecretId | approleRoleId =>
      obtain ⟨h₁, h₂, u, rfl, -, hrest⟩ := he.bind_ok
      obtain ⟨-, rfl⟩ := Ends.pure_ok hrest
      exact unconfirmed (performOr_producer (by rfl) _) (by simp) rfl
  | lookupSecretIdAccessor =>
      obtain ⟨h₁, h₂, u, rfl, -, hrest⟩ := he.bind_ok
      obtain ⟨-, rfl⟩ := Ends.pure_ok hrest
      exact unconfirmed (lookupApprole_producer (by rfl)) (by simp) rfl
  | destroySecretIdAccessor =>
      obtain ⟨h₁, h₂, u, rfl, -, hconfirming⟩ := he.bind_ok
      obtain ⟨hsame, hrest⟩ := confirm_ok hconfirming
      obtain ⟨-, rfl⟩ := Ends.pure_ok hrest
      exact confirmedWith (performOr_producer (by rfl) _) (by simp) rfl hsame
  | authLogin mountPath methodType payload =>
      obtain ⟨h₁, h₂, mount, rfl, -, hmatching⟩ := he.bind_ok
      obtain ⟨-, hrest⟩ := Auth.raiseIf_ok hmatching
      split at hrest
      · exact absurd hrest Ends.raise_ok
      · obtain ⟨-, rfl⟩ := Ends.pure_ok hrest
        exact unconfirmed (performOr_producer (by rfl) _) (by simp) rfl
  | authOidcStart mountPath role =>
      obtain ⟨h₁, h₂, u, rfl, -, hdrawing⟩ := he.bind_ok
      obtain ⟨nonce, h₃, rfl, hrest⟩ := Ends.request_bind hdrawing
      obtain ⟨rfl, rfl⟩ := Ends.pure_ok hrest
      refine unconfirmed (oidcStart_producer row _ request mountPath role ?_) (by simp) rfl
      exact List.mem_append_right _ List.mem_cons_self
  | authOidcPoll =>
      obtain ⟨h₁, h₂, u, rfl, -, hloading⟩ := he.bind_ok
      obtain ⟨loaded, h₃, rfl, hchecking⟩ := Ends.request_bind hloading
      obtain ⟨-, hrest⟩ := Auth.raiseIf_ok hchecking
      obtain ⟨-, rfl⟩ := Ends.pure_ok hrest
      exact unconfirmed (performOr_producer (by rfl) _) (by simp) rfl
  | authToken operation payload confirmation =>
      obtain ⟨h₁, h₂, u, rfl, hconfirming, hrest⟩ := he.bind_ok
      obtain ⟨-, rfl⟩ := Ends.pure_ok hrest
      have hproducer := tokenOperation_producer row (h₁ ++ h₂) operation payload confirmation
      cases hdestructive : operation.destructive with
      | true =>
          rw [hdestructive, if_pos rfl] at hconfirming
          refine confirmedWith hproducer (by simp) ?_ (confirm_returns hconfirming)
          rw [confirmation_authToken, if_pos hdestructive]
      | false =>
          refine unconfirmed hproducer (by simp) ?_
          rw [confirmation_authToken, hdestructive]
          rfl

/-! ### The call is authorized -/

/-- What was seen of the live server before an operation: it is ready, and it advertises the operation. -/
def Preflight (operationIds : List String) (digest : String) (h : List AuthExchange) : Prop :=
  ∃ status document, h = [⟨.plane .backend, .ok ()⟩, ⟨.plane .sealStatus, .ok status⟩,
      ⟨.plane .discoverCapabilities, .ok document⟩] ∧
    Packaging.supported status.version = true ∧ status.initialized = true ∧ status.isSealed = false ∧
    Packaging.supported document.productVersion = true ∧
    (∀ id ∈ operationIds, id ∈ document.operations.map DiscoveredOperation.operationId) ∧ digest = document.digest

omit [DocumentHashing] [UrlSplit] in
theorem Preflight.quiet {operationIds : List String} {digest : String} {h : List AuthExchange}
    (hpreflight : Preflight operationIds digest h) {rows : List PlaneExchange} {x : AuthExchange}
    (hx : x ∈ h ++ rows.map Auth.exchanged) : ¬ x.request.Touches := by
  obtain ⟨status, document, rfl, -⟩ := hpreflight
  rcases List.mem_append.mp hx with hx | hx
  · simp only [List.mem_cons, List.not_mem_nil, or_false] at hx
    rcases hx with rfl | rfl | rfl <;> exact id
  · obtain ⟨row, -, rfl⟩ := List.mem_map.mp hx
    exact id

omit [DocumentHashing] [UrlSplit] in
theorem prepareAuthOperation_ends {operationId digest : String} {required : List String} {h : List AuthExchange}
    (he : Ends (prepareAuthOperation operationId required) h (.ok digest)) :
    Preflight (operationId :: required) digest h := by
  obtain ⟨⟨⟩, h₁, rfl, hstatus⟩ := Ends.request_bind he
  obtain ⟨status, h₂, rfl, hversioned⟩ := Ends.request_bind hstatus
  obtain ⟨hversion, hreadied⟩ := Auth.raiseIf_ok hversioned
  obtain ⟨hready, hdiscovered⟩ := Auth.raiseIf_ok hreadied
  obtain ⟨document, h₃, rfl, hdocument⟩ := Ends.request_bind hdiscovered
  obtain ⟨hproduct, hchecked⟩ := Auth.raiseIf_ok hdocument
  obtain ⟨hadvertised, hreturned⟩ := Auth.raiseIf_ok hchecked
  obtain ⟨rfl, rfl⟩ := Ends.pure_ok hreturned
  obtain ⟨hinitialized, hunsealed⟩ := Bool.or_eq_false_iff.mp hready
  refine ⟨status, document, rfl, ?_, ?_, hunsealed, ?_, ?_, rfl⟩
  · simpa using hversion
  · simpa using hinitialized
  · simpa using hproduct
  · simpa using hadvertised

omit [Packaging] [DocumentHashing] [UrlSplit] in
theorem answerAuthFailure_avoids (request : AuthRequest) (cluster : OpenBaoCluster) (mutation : AuthMutation)
    (reason : String) (digest : Option String) (error : Error) :
    (answerAuthFailure request cluster mutation reason digest error).Avoids AuthAsk.Produced := by
  unfold answerAuthFailure
  split
  · cases digest with
    | none => exact Avoids.raise _
    | some digest => exact Avoids.bind (Auth.plane_avoids _) fun _ => Avoids.pure _
  · exact Auth.plane_avoids _

omit [DocumentHashing] [UrlSplit] in
/-- `_auth_mutation` runs its producer once the operation is prepared and its authorization is durable. -/
theorem authMutation_pending {request : AuthRequest} {row : ClusterRow} {mutation : AuthMutation} {reason : String}
    {h : List AuthExchange} {e : Auth PlaneResponse} {r : AuthAsk}
    (ht : Talks (authMutation request row.cluster mutation reason) h e) (hr : e.pending = some r)
    (hproduced : r.Produced) :
    ∃ digest preflight calling e', Preflight (mutation.operationId :: mutation.requiredOperationIds) digest preflight ∧
      request.mode.inAtomicBlock = false ∧
      h = preflight ++ (durableBlock request.mode
        ((mutation.authorized reason digest).row row.cluster request.plane)).map Auth.exchanged ++ calling ∧
      Talks mutation.producer calling e' ∧ e'.pending = some r := by
  obtain ⟨preflight, after, outcome, rfl, hprepare, hrest⟩ :=
    ht.bind_pending (prepareAuthOperation_avoids _ _).attempt hr hproduced
  obtain ⟨prepared, hprepare, hsame⟩ := Ends.attempt hprepare
  obtain rfl := Except.ok.inj hsame
  cases outcome with
  | error error =>
      have hnone := ((answerAuthFailure_avoids request row.cluster mutation reason none error).talks hrest).2 r hr
      exact absurd hproduced hnone
  | ok digest =>
      obtain ⟨d', hrun, hd'⟩ := hrest.attempt_pending (P := AuthAsk.Produced) (by
        intro outcome
        cases outcome with
        | error error => exact answerAuthFailure_avoids _ _ _ _ _ _
        | ok payload => exact Avoids.bind (Auth.plane_avoids _) fun _ => Avoids.pure _) hr hproduced
      obtain ⟨block, calling, u, rfl, hblock, hproducer⟩ := hrun.bind_pending (Auth.plane_avoids _) hd' hproduced
      obtain ⟨inside, hlog, rfl⟩ := Auth.plane_ends hblock
      obtain ⟨houtermost, rfl⟩ := logAdministration_durable hlog
      refine ⟨digest, preflight, calling, d', prepareAuthOperation_ends hprepare, houtermost, ?_, hproducer, hd'⟩
      rw [List.append_assoc]

/-- A view runs a producer once its cluster is looked up and what it prepared returned. -/
theorem authView_pending {request : AuthRequest} {reason : String} {action : AuthAction} {h : List AuthExchange}
    {e : Auth PlaneResponse} {r : AuthAsk} (ht : Talks (authView request reason action) h e)
    (hr : e.pending = some r) (hproduced : r.Produced) :
    ∃ canonical row mutation preparing mutating, action.canonical = .ok canonical ∧
      h = ⟨.cluster canonical.permission, .ok row⟩ :: (preparing ++ mutating) ∧
      Ends (canonical.prepare request row) preparing (.ok mutation) ∧
      Talks (authMutation request row.cluster mutation reason) mutating e := by
  obtain ⟨h₁, h₂, canonical, rfl, hcanonical, hlooking⟩ := ht.bind_pending (Avoids.done _) hr hproduced
  obtain ⟨rfl, hsame⟩ := Talks.done hcanonical
  obtain ⟨h₃, h₄, row, rfl, hlooked, hpreparing⟩ := hlooking.bind_pending (Avoids.request id) hr hproduced
  obtain rfl := Ends.request hlooked
  obtain ⟨preparing, mutating, mutation, rfl, hprepare, hmutating⟩ :=
    hpreparing.bind_pending (AuthAction.prepare_avoids _ _ _) hr hproduced
  exact ⟨canonical, row, mutation, preparing, mutating, (Dialogue.done.inj hsame).symm, rfl, hprepare, hmutating⟩

/-- A view that waits for a call has looked its cluster up under the permission of the action, was given the exact
confirmation, and has seen its preflight and the row that authorizes it answered; it has made no call before, and the
call is the one the action is for. -/
theorem auth_call_authorized (request : AuthRequest) (reason : String) (action : AuthAction) {h : List AuthExchange}
    {e : Auth PlaneResponse} {r : AuthAsk} (ht : Talks (authView request reason action) h e)
    (hr : e.pending = some r) (htouches : r.Touches) :
    ∃ canonical row mutation digest preparing preflight calling,
      action.canonical = .ok canonical ∧
      Ends (canonical.prepare request row) preparing (.ok mutation) ∧
      Preflight (mutation.operationId :: mutation.requiredOperationIds) digest preflight ∧
      request.mode.inAtomicBlock = false ∧
      h = ⟨.cluster canonical.permission, .ok row⟩ :: (preparing ++ (preflight ++ (durableBlock request.mode
        ((mutation.authorized reason digest).row row.cluster request.plane)).map Auth.exchanged ++ calling)) ∧
      canonical.Calls row preparing r ∧
      (∀ expected given, canonical.confirmation row.cluster.slug = some (expected, given) → given = expected) ∧
      ∀ x ∈ h, ¬ x.request.Touches := by
  obtain ⟨canonical, row, mutation, preparing, mutating, hcanonical, rfl, hprepare, hmutating⟩ :=
    authView_pending ht hr htouches.produced
  obtain ⟨digest, preflight, calling, e', hpreflight, houtermost, rfl, hcalling, he'⟩ :=
    authMutation_pending hmutating hr htouches.produced
  obtain ⟨hproducer, -, hconfirmed⟩ := AuthAction.prepare_for hprepare
  refine ⟨canonical, row, mutation, digest, preparing, preflight, calling, hcanonical, hprepare, hpreflight,
    houtermost, rfl, hproducer.calls_of_pending hcalling he' htouches.produced, hconfirmed, ?_⟩
  intro x hx
  rcases List.mem_cons.mp hx with rfl | hx
  · exact id
  rcases List.mem_append.mp hx with hx | hx
  · exact mt AuthAsk.Touches.produced ((AuthAction.prepare_avoids request row canonical).ends hprepare x hx)
  rcases List.mem_append.mp hx with hx | hx
  · exact hpreflight.quiet hx
  · exact hproducer.once.pending hcalling he' htouches x hx

end

namespace Sample

/-- The URL of the sample's cluster, taken apart. -/
@[reducible] def urlSplit : UrlSplit := ⟨fun _ => "https", fun _ => some "bao.example"⟩

/-- The digests of the state and the nonce of a login. -/
@[reducible] def challenges : DocumentHashing :=
  digesting [("s", "043a718774c572bd8a25adbeb1bfcd5c0256ae11cecf9f9c3f925d0e52beaf89"),
    ("n", "1b16b1df538ba12dc3f97edbb85caa7050d46c148134290feba80f8236c83db9")]

def authRequest : AuthRequest := ⟨⟨"r", "admin", true⟩, 7, ⟨false, true⟩⟩

/-- A document that advertises these operations. -/
def advertising (operationIds : List String) : CapabilityDocument :=
  { advertised "" with operations := operationIds.map fun operationId => { kvRead "" with operationId } }

/-- What a ready server that advertises these operations is seen to be. -/
def preflight (operationIds : List String) : List AuthExchange :=
  [⟨.plane .backend, .ok ()⟩, ⟨.plane .sealStatus, .ok unsealed⟩,
    ⟨.plane .discoverCapabilities, .ok (advertising operationIds)⟩]

/-- The statements that write a row. -/
def written (row : AdministrationLog) : List AuthExchange :=
  [⟨.plane .begin, .ok ()⟩, ⟨.plane (.insertLog row), .ok ()⟩, ⟨.plane .commit, .ok ()⟩]

def mountResolved (mounts : List AuthMount) : List AuthExchange :=
  preflight ["auth-list-enabled-methods"] ++ ⟨.listAuthMethods, .ok mounts⟩ ::
    written ((resolvedEntry documentDigest).row openBaoCluster authRequest.plane)

/-- A role of a Kubernetes mount. -/
def roleAction : AuthAction :=
  .writeAuthResource "kube" "kubernetes-roles" "dev" [("bound_service_account_names", .str "app")]

def roleView : Auth PlaneResponse := @authView packaging authRequest challenges urlSplit "planned" roleAction

def roleMutation : AuthMutation where
  actionName := "write-auth-resource"
  operationId := "kubernetes-write-auth-role"
  pathTemplate := "/auth/{mount_path}/role/{name}"
  riskLevel := "write"
  producer := pure []

/-- The row that authorizes it. -/
def roleRow : AdministrationLog :=
  (roleMutation.authorized "planned" documentDigest).row openBaoCluster authRequest.plane

def rolePreparing : List AuthExchange :=
  ⟨.cluster "manage_auth_resources", .ok ⟨1, openBaoCluster⟩⟩ :: (mountResolved [⟨"kube", "kubernetes"⟩] ++
    (preflight ["kubernetes-write-auth-role"] ++ written roleRow))

def roleCall : AuthAsk :=
  .perform (.runAuthResource "kube" ⟨"role", "role/{name}"⟩ "dev" (some [("bound_service_account_names", .str "app")]))

theorem role_waits : ∃ e, Talks roleView rolePreparing e ∧ e.pending = some roleCall := by
  refine ⟨?rest, ?talks, ?waits⟩
  case talks =>
    iterate 14 refine Talks.of_ask rfl _ ?_
    exact Talks.start _
  case waits => rfl

end Sample

theorem auth_call_authorized_role : ∃ canonical row mutation digest preparing preflight calling,
    Sample.roleAction.canonical = .ok canonical ∧
      @Preflight Sample.packaging (AuthMutation.operationId mutation :: mutation.requiredOperationIds) digest preflight ∧
      Sample.rolePreparing = ⟨.cluster canonical.permission, .ok row⟩ :: (preparing ++ (preflight ++ (durableBlock
        Sample.authRequest.mode ((mutation.authorized "planned" digest).row row.cluster
          Sample.authRequest.plane)).map Auth.exchanged ++ calling)) ∧
      @AuthAction.Calls Sample.urlSplit row preparing canonical Sample.roleCall ∧
      ∀ x ∈ Sample.rolePreparing, ¬ x.request.Touches := by
  obtain ⟨e, ht, hr⟩ := Sample.role_waits
  obtain ⟨canonical, row, mutation, digest, preparing, preflight, calling, hcanonical, -, hpreflight, -, hsplit, hcalls,
      -, hquiet⟩ :=
    @auth_call_authorized Sample.packaging Sample.challenges Sample.urlSplit Sample.authRequest "planned"
      Sample.roleAction _ e _ ht hr trivial
  exact ⟨canonical, row, mutation, digest, preparing, preflight, calling, hcanonical, hpreflight, hsplit, hcalls, hquiet⟩

section

/-! ### The answer says what became of the call -/

/-- A view succeeds exactly if its call was answered. A call of unknown outcome is answered as such, and one that was
refused raises. -/
structure Honest (h : List AuthExchange) (result : Except Error PlaneResponse) : Prop where
  succeeds_iff : (∃ response, result = .ok response ∧ response.status / 100 = 2) ↔
    ∃ x ∈ h, x.request.Touches ∧ ∃ a, x.answer = .ok a
  unknown : ∀ x ∈ h, x.request.Touches → ∀ error, x.answer = .error error → error.isUnknown = true →
    result = .ok (unknownResponse "preflight-only")
  refused : ∀ x ∈ h, x.request.Touches → ∀ error, x.answer = .error error → error.isUnknown = false →
    ∃ err, result = .error err

/-- Only the calls matter. -/
theorem Honest.congr {h h' : List AuthExchange} {result : Except Error PlaneResponse} (honest : Honest h result)
    (hsame : ∀ x : AuthExchange, x.request.Touches → (x ∈ h' ↔ x ∈ h)) : Honest h' result where
  succeeds_iff := by
    rw [honest.succeeds_iff]
    constructor
    · rintro ⟨x, hx, htouches, hok⟩
      exact ⟨x, (hsame x htouches).mpr hx, htouches, hok⟩
    · rintro ⟨x, hx, htouches, hok⟩
      exact ⟨x, (hsame x htouches).mp hx, htouches, hok⟩
  unknown x hx htouches := honest.unknown x ((hsame x htouches).mp hx) htouches
  refused x hx htouches := honest.refused x ((hsame x htouches).mp hx) htouches

theorem mem_append_quiet {h₁ h₂ : List AuthExchange} (hquiet : ∀ x ∈ h₁, ¬ x.request.Touches) (x : AuthExchange)
    (htouches : x.request.Touches) : x ∈ h₁ ++ h₂ ↔ x ∈ h₂ := by
  constructor
  · intro hx
    rcases List.mem_append.mp hx with hx | hx
    · exact absurd htouches (hquiet x hx)
    · exact hx
  · exact List.mem_append_right h₁

/-- No call, and no success. -/
theorem Honest.quiet {h : List AuthExchange} {result : Except Error PlaneResponse}
    (hquiet : ∀ x ∈ h, ¬ x.request.Touches) (hresult : ∀ response, result = .ok response → response.status / 100 ≠ 2) :
    Honest h result where
  succeeds_iff := by
    constructor
    · rintro ⟨response, hok, hstatus⟩
      exact absurd hstatus (hresult response hok)
    · rintro ⟨x, hx, htouches, -⟩
      exact absurd htouches (hquiet x hx)
  unknown x hx htouches := absurd htouches (hquiet x hx)
  refused x hx htouches := absurd htouches (hquiet x hx)

/-- A failure is answered as unknown only if the error is. -/
theorem answerAuthFailure_ends {request : AuthRequest} {cluster : OpenBaoCluster} {mutation : AuthMutation}
    {reason : String} {digest : Option String} {error : Error} {h : List AuthExchange}
    {result : Except Error PlaneResponse}
    (he : Ends (answerAuthFailure request cluster mutation reason digest error) h result) :
    (error.isUnknown = true ∧ digest.isSome = true ∧ result = .ok (unknownResponse "preflight-only")) ∨
      ((error.isUnknown = false ∨ digest.isSome = false) ∧ ∃ err, result = .error err) := by
  unfold answerAuthFailure at he
  split at he
  · next hunknown =>
      cases digest with
      | none =>
          obtain ⟨-, hdone⟩ := Talks.done he
          exact .inr ⟨.inr rfl, _, Dialogue.done.inj hdone⟩
      | some digest =>
          rcases he.bind with ⟨err, hlog, -⟩ | ⟨h₁, h₂, complete, -, -, hend⟩
          · obtain ⟨inside, hlog, -⟩ := Auth.plane_ends hlog
            obtain ⟨complete, hsame⟩ := logBestEffort_ends hlog
            cases hsame
          · obtain ⟨-, hdone⟩ := Talks.done hend
            exact .inl ⟨hunknown, rfl, Dialogue.done.inj hdone⟩
  · next hknown =>
      obtain ⟨inside, hfailure, -⟩ := Auth.plane_ends he
      exact .inr ⟨.inl (by simpa using hknown), backendFailure_ends hfailure⟩

theorem answerAuthFailure_unsuccessful {request : AuthRequest} {cluster : OpenBaoCluster} {mutation : AuthMutation}
    {reason : String} {digest : Option String} {error : Error} {h : List AuthExchange}
    {result : Except Error PlaneResponse}
    (he : Ends (answerAuthFailure request cluster mutation reason digest error) h result) (response : PlaneResponse)
    (hok : result = .ok response) : response.status / 100 ≠ 2 := by
  rcases answerAuthFailure_ends he with ⟨-, -, hunknown⟩ | ⟨-, err, herror⟩
  · obtain rfl := Except.ok.inj (hok.symm.trans hunknown)
    decide
  · cases hok.symm.trans herror

variable {C : AuthAsk → Prop}

/-- What a producer ended with, and what `_auth_mutation` made of it. -/
theorem Producer.honest {mutation : AuthMutation} (hproducer : Producer C mutation.producer) {h : List AuthExchange}
    {outcome : Except Error JsonObject} (he : Ends mutation.producer h outcome) (hsigns : Signs h)
    {result : Except Error PlaneResponse}
    (hreturned : ∀ payload, outcome = .ok payload → ∃ response, result = .ok response ∧ response.status / 100 = 2)
    (hraised : ∀ error, outcome = .error error →
      (error.isUnknown = true ∧ result = .ok (unknownResponse "preflight-only")) ∨
        (error.isUnknown = false ∧ ∃ err, result = .error err)) : Honest h result where
  succeeds_iff := by
    constructor
    · rintro ⟨response, hok, hstatus⟩
      cases outcome with
      | ok payload =>
          have hcalled : ∃ x ∈ h, x.request.Touches := by
            refine Classical.byContradiction fun hnone => ?_
            obtain ⟨error, hsame⟩ := hproducer.idle h _ he fun x hx htouches => hnone ⟨x, hx, htouches⟩
            cases hsame
          obtain ⟨x, hx, htouches⟩ := hcalled
          refine ⟨x, hx, htouches, ?_⟩
          cases hanswer : x.answer with
          | ok a => exact ⟨a, rfl⟩
          | error error => cases (hproducer.outcome h _ he hsigns x hx htouches).2 error hanswer
      | error error =>
          rcases hraised error rfl with ⟨-, hunknown⟩ | ⟨-, err, herror⟩
          · obtain rfl := Except.ok.inj (hok.symm.trans hunknown)
            exact absurd hstatus (by decide)
          · cases hok.symm.trans herror
    · rintro ⟨x, hx, htouches, a, ha⟩
      obtain ⟨payload, hpayload⟩ := (hproducer.outcome h _ he hsigns x hx htouches).1 a ha
      exact hreturned payload hpayload
  unknown x hx htouches error herror hunknown := by
    have houtcome := (hproducer.outcome h _ he hsigns x hx htouches).2 error herror
    rcases hraised error houtcome with ⟨-, hresult⟩ | ⟨hknown, -⟩
    · exact hresult
    · rw [hunknown] at hknown
      cases hknown
  refused x hx htouches error herror hknown := by
    have houtcome := (hproducer.outcome h _ he hsigns x hx htouches).2 error herror
    rcases hraised error houtcome with ⟨hunknown, -⟩ | ⟨-, hresult⟩
    · rw [hknown] at hunknown
      cases hunknown
    · exact hresult

variable [Packaging]

theorem authMutation_honest {request : AuthRequest} {row : ClusterRow} {mutation : AuthMutation} {reason : String}
    (hproducer : Producer C mutation.producer) (haccepted : mutation.statusCode / 100 = 2) {h : List AuthExchange}
    {result : Except Error PlaneResponse} (he : Ends (authMutation request row.cluster mutation reason) h result)
    (hsigns : Signs h) : Honest h result := by
  obtain ⟨preflight, after, outcome, rfl, hprepare, hrest⟩ := he.bind_attempt
  have hpreflight := ((prepareAuthOperation_avoids _ _).mono fun _ => AuthAsk.Touches.produced).ends hprepare
  cases outcome with
  | error error =>
      refine .quiet ?_ (answerAuthFailure_unsuccessful hrest)
      intro x hx
      rcases List.mem_append.mp hx with hx | hx
      · exact hpreflight x hx
      · exact ((answerAuthFailure_avoids _ _ _ _ _ _).mono fun _ => AuthAsk.Touches.produced).ends hrest x hx
  | ok digest =>
      refine .congr ?_ (mem_append_quiet hpreflight)
      obtain ⟨running, answering, outcome, rfl, hrun, hanswer⟩ := hrest.bind_attempt
      have hanswering : ∀ x ∈ answering, ¬ x.request.Touches := by
        refine Avoids.ends ?_ hanswer
        cases outcome with
        | error error => exact (answerAuthFailure_avoids _ _ _ _ _ _).mono fun _ => AuthAsk.Touches.produced
        | ok payload => exact Avoids.bind (Auth.plane_quiet _) fun _ => Avoids.pure _
      rcases hrun.bind with ⟨error, hblock, rfl⟩ | ⟨block, calling, u, rfl, hblock, hcalling⟩
      · refine .quiet ?_ (answerAuthFailure_unsuccessful hanswer)
        intro x hx
        rcases List.mem_append.mp hx with hx | hx
        · exact (Auth.plane_quiet _).ends hblock x hx
        · exact hanswering x hx
      · have hhonest : Honest calling result := by
          refine hproducer.honest hcalling (fun envelope error hmem => hsigns envelope error ?_) ?_ ?_
          · exact List.mem_append_right _ (List.mem_append_left _ (List.mem_append_right _ hmem))
          · rintro payload rfl
            rcases hanswer.bind with ⟨err, hlog, -⟩ | ⟨h₁, h₂, complete, -, -, hend⟩
            · obtain ⟨inside, hlog, -⟩ := Auth.plane_ends hlog
              obtain ⟨complete, hsame⟩ := logBestEffort_ends hlog
              cases hsame
            · obtain ⟨-, hdone⟩ := Talks.done hend
              exact ⟨_, Dialogue.done.inj hdone, haccepted⟩
          · rintro error rfl
            rcases answerAuthFailure_ends hanswer with ⟨hunknown, -, hresult⟩ | ⟨hknown | hnone, hresult⟩
            · exact .inl ⟨hunknown, hresult⟩
            · exact .inr ⟨hknown, hresult⟩
            · cases hnone
        refine hhonest.congr fun x htouches => ?_
        constructor
        · intro hx
          rcases List.mem_append.mp hx with hx | hx
          · exact (mem_append_quiet ((Auth.plane_quiet _).ends hblock) x htouches).mp hx
          · exact absurd htouches (hanswering x hx)
        · exact fun hx => List.mem_append_left _ (List.mem_append_right _ hx)

variable [DocumentHashing] [UrlSplit]

/-- Whatever the backend, the database and the rest answer, an authentication action that has come to an end tells what
became of its call, audited or not. -/
theorem auth_outcome_honest (request : AuthRequest) (reason : String) (action : AuthAction) {h : List AuthExchange}
    {result : Except Error PlaneResponse} (he : Ends (authView request reason action) h result) (hsigns : Signs h) :
    Honest h result := by
  have raised : ∀ {h : List AuthExchange} {err : Error}, (∀ x ∈ h, ¬ x.request.Touches) →
      Honest h (.error err : Except Error PlaneResponse) :=
    fun hquiet => .quiet hquiet fun response hok => by cases hok
  rcases he.bind with ⟨err, hcanonical, rfl⟩ | ⟨h₁, h₂, canonical, rfl, hcanonical, hlooking⟩
  · exact raised ((Avoids.done _).ends hcanonical)
  · obtain ⟨rfl, -⟩ := Talks.done hcanonical
    rw [List.nil_append] at hsigns ⊢
    rcases hlooking.bind with ⟨err, hlooked, rfl⟩ | ⟨h₃, h₄, row, rfl, hlooked, hprepared⟩
    · exact raised (Avoids.ends (Avoids.request id) hlooked)
    · have hquiet₃ := Avoids.ends (P := AuthAsk.Touches) (Avoids.request id) hlooked
      refine .congr ?_ (mem_append_quiet hquiet₃)
      have hpreparing := (AuthAction.prepare_avoids request row canonical).mono fun _ => AuthAsk.Touches.produced
      rcases hprepared.bind with ⟨err, hprepare, rfl⟩ | ⟨h₅, h₆, mutation, rfl, hprepare, hmutating⟩
      · exact raised (hpreparing.ends hprepare)
      · refine .congr ?_ (mem_append_quiet (hpreparing.ends hprepare))
        obtain ⟨hproducer, haccepted, -⟩ := AuthAction.prepare_for hprepare
        exact authMutation_honest hproducer haccepted hmutating fun envelope error hmem =>
          hsigns envelope error (List.mem_append_right _ (List.mem_append_right _ hmem))

end

namespace Sample

def oidcAuthorized (actionName operationId pathTemplate : String) : AdministrationLog :=
  ({ actionName, operationId, pathTemplate, riskLevel := "sensitive", producer := pure [] : AuthMutation }.authorized
    "login" documentDigest).row openBaoCluster authRequest.plane

def signedEnvelope : OidcEnvelope where
  cluster := 1
  user := 7
  mount := "jwt"
  state := "043a718774c572bd8a25adbeb1bfcd5c0256ae11cecf9f9c3f925d0e52beaf89"
  nonce := "1b16b1df538ba12dc3f97edbb85caa7050d46c148134290feba80f8236c83db9"

/-- The exchanges of a start, up to what it signs. -/
def oidcStarted : List AuthExchange :=
  ⟨.cluster "authenticate", .ok ⟨1, openBaoCluster⟩⟩ :: (mountResolved [⟨"jwt", "oidc"⟩] ++ ⟨.tokenUrlsafe, .ok "n"⟩ ::
    (preflight ["jwt-oidc-request-authorization-url", "jwt-read-role"] ++
      (written (oidcAuthorized "start-oidc-authentication" "jwt-oidc-request-authorization-url"
        "/auth/{mount_path}/oidc/auth_url") ++
      [⟨.readDirectOidcRole "jwt" "dev", .ok ()⟩,
        ⟨.startOidc "jwt" "dev" "https://bao.example/v1/auth/jwt/oidc/callback" "n",
          .ok ⟨"https://idp.example", "s", 5⟩⟩,
        ⟨.dumpsEnvelope signedEnvelope, .ok "e"⟩])))

def startView : Auth PlaneResponse :=
  @authView packaging authRequest challenges urlSplit "login" (.authOidcStart "jwt" "dev")

def startMutation : AuthMutation where
  actionName := "start-oidc-authentication"
  operationId := "jwt-oidc-request-authorization-url"
  pathTemplate := "/auth/{mount_path}/oidc/auth_url"
  riskLevel := "sensitive"
  producer := pure []

/-- The whole start, with the row that completes it. -/
def oidcStart : List AuthExchange :=
  oidcStarted ++ written ((startMutation.completed "login" documentDigest).row openBaoCluster authRequest.plane)

def started : Except Error PlaneResponse :=
  .ok (mutationResponse [("auth_url", .str "https://idp.example"), ("state", .str "s"), ("client_nonce", .str "n"),
    ("poll_interval", .int 5), ("envelope", .str "e")] true)

theorem oidcStart_ends : Ends startView oidcStart started := by
  iterate 21 refine Talks.of_ask rfl _ ?_
  exact Talks.start _

theorem oidcStart_signs : Signs oidcStart := by
  intro envelope error hmem
  simp [oidcStart, oidcStarted, mountResolved, preflight, written] at hmem

end Sample

theorem auth_outcome_honest_start : ∃ response, Sample.started = .ok response ∧ response.status / 100 = 2 := by
  have honest := @auth_outcome_honest Sample.packaging Sample.challenges Sample.urlSplit Sample.authRequest "login"
    (.authOidcStart "jwt" "dev") _ _ Sample.oidcStart_ends Sample.oidcStart_signs
  refine honest.succeeds_iff.mpr ⟨⟨.startOidc "jwt" "dev" "https://bao.example/v1/auth/jwt/oidc/callback" "n",
    .ok ⟨"https://idp.example", "s", 5⟩⟩, ?_, trivial, ⟨"https://idp.example", "s", 5⟩, rfl⟩
  simp [Sample.oidcStart, Sample.oidcStarted]

end NetboxOpenbao
