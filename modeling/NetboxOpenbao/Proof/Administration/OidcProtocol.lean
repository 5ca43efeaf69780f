import NetboxOpenbao.Effect.Fallible
import NetboxOpenbao.Effect.Interleaving
import NetboxOpenbao.Proof.Administration.AuthenticationViews

/-!
# An OIDC login is polled by who started it

A login is two requests. The first gives out a signed envelope that names the cluster, the user, the mount and the
digests of the state and the nonce; the second is only let through with an envelope that names its own. Between them any
requests of any users can have been answered.
-/

namespace NetboxOpenbao

open Effect Dialogue

section

variable [Packaging] [DocumentHashing] [UrlSplit]

/-- A start of an OIDC login, as its history shows it: the nonce it drew and the state OpenBao gave it are those of these
digests. -/
def OidcStarted (action : AuthAction) (h : List AuthExchange) (cluster : Nat) (mount state nonce : String) : Prop :=
  ∃ role row drawn callback result, action = .authOidcStart mount role ∧
    ⟨.cluster "authenticate", .ok row⟩ ∈ h ∧ row.pk = cluster ∧ ⟨.tokenUrlsafe, .ok drawn⟩ ∈ h ∧
    ⟨.startOidc mount role callback drawn, .ok result⟩ ∈ h ∧ hashChallenge result.state = state ∧
    hashChallenge drawn = nonce

variable {request : AuthRequest} {reason : String} {action canonical : AuthAction} {h preparing : List AuthExchange}
  {e : Auth PlaneResponse} {row : ClusterRow}

omit [Packaging] [DocumentHashing] [UrlSplit] in
/-- Path arguments are only checked where they are identifiers. -/
theorem AuthAction.canonical_oidc (hcanonical : action.canonical = .ok canonical) :
    canonical = action ∨ (∀ mount role, canonical ≠ .authOidcStart mount role) ∧
      ∀ mount state nonce token, canonical ≠ .authOidcPoll mount state nonce token := by
  cases action with
  | writeMfaMethod | deleteMfaMethod | authMfaTotpSelf | authMfaTotpSelfReset =>
      obtain ⟨methodId, -, hreturned⟩ := Fallible.bind_ok hcanonical
      obtain rfl := Except.ok.inj hreturned
      refine .inr ⟨?_, ?_⟩
      · intro mount role hsame
        cases hsame
      · intro mount state nonce token hsame
        cases hsame
  | generateTotp | destroyTotp =>
      obtain ⟨methodId, -, hentity⟩ := Fallible.bind_ok hcanonical
      obtain ⟨entityId, -, hreturned⟩ := Fallible.bind_ok hentity
      obtain rfl := Except.ok.inj hreturned
      refine .inr ⟨?_, ?_⟩
      · intro mount role hsame
        cases hsame
      · intro mount state nonce token hsame
        cases hsame
  | _ => exact .inl (Except.ok.inj hcanonical).symm

omit [Packaging] [DocumentHashing] in
theorem AuthAction.Calls.signs {envelope : OidcEnvelope}
    (hcalls : canonical.Calls row preparing (.dumpsEnvelope envelope)) :
    ∃ mount role, canonical = .authOidcStart mount role := by
  cases canonical with
  | authOidcStart mount role => exact ⟨mount, role, rfl⟩
  | writeAuthResource | deleteAuthResource =>
      obtain ⟨resource, -, hsame⟩ := hcalls
      cases hsame
  | authToken operation payload confirmation => cases operation <;> cases hcalls
  | _ => cases hcalls

omit [Packaging] [DocumentHashing] in
theorem AuthAction.Calls.polls {mount state nonce : String}
    (hcalls : canonical.Calls row preparing (.perform (.oidcPoll mount state nonce))) :
    ∃ token, canonical = .authOidcPoll mount state nonce token := by
  cases canonical with
  | authOidcPoll mount' state' nonce' token =>
      cases hcalls
      exact ⟨token, rfl⟩
  | authOidcStart mount role =>
      rcases hcalls with ⟨callback, drawn, -, -, hsame⟩ | ⟨envelope, hsame⟩ <;> cases hsame
  | writeAuthResource | deleteAuthResource =>
      obtain ⟨resource, -, hsame⟩ := hcalls
      cases hsame
  | authToken operation payload confirmation => cases operation <;> cases hcalls
  | _ => cases hcalls

/-- What is signed was drawn and given in the same request. -/
theorem authView_signs {envelope : OidcEnvelope} (ht : Talks (authView request reason action) h e)
    (hr : e.pending = some (.dumpsEnvelope envelope)) :
    envelope.user = request.userPk ∧
      OidcStarted action h envelope.cluster envelope.mount envelope.state envelope.nonce := by
  obtain ⟨canonical, row, mutation, preparing, mutating, hcanonical, rfl, hprepare, hmutating⟩ :=
    authView_pending ht hr trivial
  obtain ⟨digest, preflight, calling, e', -, -, rfl, hcalling, he'⟩ := authMutation_pending hmutating hr trivial
  have hproducer := (AuthAction.prepare_for hprepare).producer
  obtain ⟨mount, role, rfl⟩ := (hproducer.calls_of_pending hcalling he' trivial).signs
  have haction : AuthAction.authOidcStart mount role = action :=
    (AuthAction.canonical_oidc hcanonical).resolve_right fun hother => hother.1 mount role rfl
  obtain ⟨mounting, drawing, u, rfl, -, hdrawing⟩ := hprepare.bind_ok
  obtain ⟨drawn, none', rfl, hreturned⟩ := Ends.request_bind hdrawing
  obtain ⟨rfl, rfl⟩ := Ends.pure_ok hreturned
  let signs : AuthAsk → Prop := fun r => r = .dumpsEnvelope envelope
  obtain ⟨reading, h₁, u', rfl, -, hnamed⟩ :=
    hcalling.bind_pending (P := signs) (Avoids.request fun hsame => by cases hsame) he' rfl
  obtain ⟨naming, h₂, callback, rfl, -, hstarting⟩ := hnamed.bind_pending (P := signs) (Avoids.done _) he' rfl
  obtain ⟨starting, h₃, result, rfl, hstarted, hsigning⟩ :=
    hstarting.bind_pending (P := signs) (Avoids.request fun hsame => by cases hsame) he' rfl
  obtain rfl := Ends.request hstarted
  obtain ⟨-, hsigned⟩ := hsigning.request_pending (P := signs) (fun _ => Avoids.pure _) he' rfl
  cases hsigned
  refine ⟨rfl, role, row, drawn, callback, result, haction.symm, ?_, rfl, ?_, ?_, rfl, rfl⟩
  · exact List.mem_cons_self
  · simp
  · simp

theorem authView_polls {mount state nonce : String} (ht : Talks (authView request reason action) h e)
    (hr : e.pending = some (.perform (.oidcPoll mount state nonce))) :
    ∃ token row, action = .authOidcPoll mount state nonce token ∧ ⟨.cluster "authenticate", .ok row⟩ ∈ h ∧
      ⟨.loadsEnvelope token, .ok (some
        { cluster := row.pk, user := request.userPk, mount, state := hashChallenge state
          nonce := hashChallenge nonce })⟩ ∈ h := by
  obtain ⟨canonical, row, mutation, preparing, mutating, hcanonical, rfl, hprepare, hmutating⟩ :=
    authView_pending ht hr trivial
  obtain ⟨digest, preflight, calling, e', -, -, rfl, hcalling, he'⟩ := authMutation_pending hmutating hr trivial
  have hproducer := (AuthAction.prepare_for hprepare).producer
  obtain ⟨token, rfl⟩ := (hproducer.calls_of_pending hcalling he' trivial).polls
  have haction : AuthAction.authOidcPoll mount state nonce token = action :=
    (AuthAction.canonical_oidc hcanonical).resolve_right fun hother => hother.2 mount state nonce token rfl
  obtain ⟨mounting, loading, u, rfl, -, hloading⟩ := hprepare.bind_ok
  obtain ⟨loaded, checking, rfl, hchecking⟩ := Ends.request_bind hloading
  obtain ⟨hexpected, -⟩ := Auth.raiseIf_ok hchecking
  have hloaded : loaded = some
      { cluster := row.pk, user := request.userPk, mount, state := hashChallenge state
        nonce := hashChallenge nonce } := by simpa using hexpected
  subst hloaded
  refine ⟨token, row, haction.symm, List.mem_cons_self, ?_⟩
  simp

/-! ### Requests side by side -/

variable {ι : Type} [DecidableEq ι]

/-- `signing`: an envelope that is loaded was signed before, at most `OIDC_ENVELOPE_MAX_AGE` seconds ago. -/
def Unforged (turns : List (Turn ι Error AuthAsk AuthAsk.Answer)) : Prop :=
  ∀ earlier loaded later token envelope, turns = earlier ++ loaded :: later →
    loaded.exchange = ⟨.loadsEnvelope token, .ok (some envelope)⟩ →
    ∃ signed ∈ earlier, signed.exchange = ⟨.dumpsEnvelope envelope, .ok token⟩ ∧ loaded.time ≤ signed.time + 300

/-- Whatever the requests, and in whatever order they are answered: one that waits for a poll was sent by the user who
started that login, on that cluster and mount, with the state and the nonce of that start, at most five minutes ago. -/
theorem oidc_polls_are_bound {requests : ι → AuthRequest} {reasons : ι → String} {actions : ι → AuthAction}
    {turns : List (Turn ι Error AuthAsk AuthAsk.Answer)} {rest : ι → Auth PlaneResponse}
    (h : Interleaved (fun i => authView (requests i) (reasons i) (actions i)) turns rest) (hunforged : Unforged turns)
    {i : ι} {mount state nonce : String} (hpolls : (rest i).pending = some (.perform (.oidcPoll mount state nonce))) :
    ∃ row before signed between loaded after, turns = before ++ signed :: (between ++ loaded :: after) ∧
      ⟨.cluster "authenticate", .ok row⟩ ∈ ownHistory i turns ∧ loaded.session = i ∧
      loaded.time ≤ signed.time + 300 ∧ (requests signed.session).userPk = (requests i).userPk ∧
      OidcStarted (actions signed.session) (ownHistory signed.session before) row.pk mount (hashChallenge state)
        (hashChallenge nonce) := by
  obtain ⟨token, row, -, hcluster, hloads⟩ := authView_polls (h.talks i) hpolls
  obtain ⟨loaded, hmem, hsession, hexchange⟩ := mem_ownHistory.mp hloads
  obtain ⟨earlier, after, hturns⟩ := List.append_of_mem hmem
  obtain ⟨signed, hsigned, hdumped, hage⟩ := hunforged earlier loaded after token _ hturns hexchange
  obtain ⟨before, between, rfl⟩ := List.append_of_mem hsigned
  have hsplit : turns = before ++ signed :: (between ++ loaded :: after) := by
    rw [hturns, List.append_assoc, List.cons_append]
  obtain ⟨rest', hbefore, hpending⟩ := h.before hsplit
  rw [hdumped] at hpending
  obtain ⟨huser, hstarted⟩ := authView_signs (hbefore.talks signed.session) hpending
  exact ⟨row, before, signed, between, loaded, after, hsplit, hcluster, hsession, hage, huser.symm, hstarted⟩

end

/-- Sessions that only load what an earlier one signed. -/
theorem unforged_of_signed {ι : Type} {first second : List (Turn ι Error AuthAsk AuthAsk.Answer)}
    (hfirst : ∀ turn ∈ first, ∀ token, turn.exchange.request ≠ .loadsEnvelope token)
    (hsecond : ∀ loaded ∈ second, ∀ token envelope, loaded.exchange = ⟨.loadsEnvelope token, .ok (some envelope)⟩ →
      ∃ signed ∈ first, signed.exchange = ⟨.dumpsEnvelope envelope, .ok token⟩ ∧ loaded.time ≤ signed.time + 300) :
    Unforged (first ++ second) := by
  intro earlier loaded later token envelope hturns hexchange
  rcases List.append_eq_append_iff.mp hturns with ⟨between, rfl, rfl⟩ | ⟨between, rfl, hlater⟩
  · have hmem : loaded ∈ between ++ loaded :: later := List.mem_append_right _ List.mem_cons_self
    obtain ⟨signed, hsigned, hdumped⟩ := hsecond loaded hmem token envelope hexchange
    exact ⟨signed, List.mem_append_left _ hsigned, hdumped⟩
  · cases between with
    | nil =>
        have hmem : loaded ∈ second := by
          rw [List.nil_append] at hlater
          rw [← hlater]
          exact List.mem_cons_self
        obtain ⟨signed, hsigned, hdumped⟩ := hsecond loaded hmem token envelope hexchange
        exact ⟨signed, by simpa using hsigned, hdumped⟩
    | cons turn between =>
        obtain ⟨rfl, -⟩ := List.cons.inj hlater
        refine absurd ?_ (hfirst loaded (List.mem_append_right _ List.mem_cons_self) token)
        rw [hexchange]

namespace Sample

def oidcActions : Bool → AuthAction
  | false => .authOidcStart "jwt" "dev"
  | true => .authOidcPoll "jwt" "s" "n" "e"

/-- A user starts a login, and polls it. -/
def oidcViews (polls : Bool) : Auth PlaneResponse :=
  @authView packaging authRequest challenges urlSplit "login" (oidcActions polls)

def oidcLoaded : List AuthExchange :=
  ⟨.cluster "authenticate", .ok ⟨1, openBaoCluster⟩⟩ :: (mountResolved [⟨"jwt", "oidc"⟩] ++
    ⟨.loadsEnvelope "e", .ok (some signedEnvelope)⟩ :: (preflight ["jwt-write-oidc-poll"] ++
      written (oidcAuthorized "poll-oidc-authentication" "jwt-write-oidc-poll"
        "/auth/{mount_path}/oidc/poll")))

theorem oidcStarted_talks : ∃ e, Talks (oidcViews false) oidcStarted e := by
  refine ⟨?rest, ?talks⟩
  case talks =>
    iterate 18 refine Talks.of_ask rfl _ ?_
    exact Talks.start _

theorem oidcLoaded_talks : ∃ e, Talks (oidcViews true) oidcLoaded e ∧
    e.pending = some (.perform (.oidcPoll "jwt" "s" "n")) := by
  refine ⟨?rest, ?talks, ?waits⟩
  case talks =>
    iterate 15 refine Talks.of_ask rfl _ ?_
    exact Talks.start _
  case waits => rfl

def oidcTurns : List (Turn Bool Error AuthAsk AuthAsk.Answer) :=
  oidcStarted.map (fun x => ⟨false, 1000, x⟩) ++ oidcLoaded.map fun x => ⟨true, 1300, x⟩

theorem oidcTurns_unforged : Unforged oidcTurns := by
  apply unforged_of_signed
  · simp [oidcStarted, mountResolved, preflight, written]
  · simp [oidcStarted, oidcLoaded, mountResolved, preflight, written]

theorem oidcTurns_interleaved : ∃ rest, Interleaved oidcViews oidcTurns rest ∧
    (rest true).pending = some (.perform (.oidcPoll "jwt" "s" "n")) := by
  obtain ⟨e, hstarted⟩ := oidcStarted_talks
  obtain ⟨e', hloaded, hwaits⟩ := oidcLoaded_talks
  have hidle : Interleaved oidcViews [] oidcViews := .start
  obtain ⟨rest, hfirst, -, hothers⟩ := hidle.alone false 1000 hstarted
  rw [← hothers true (by decide)] at hloaded
  obtain ⟨rest', hsecond, hlast, -⟩ := hfirst.alone true 1300 hloaded
  refine ⟨rest', hsecond, ?_⟩
  rw [hlast, hwaits]

end Sample

theorem oidc_polls_are_bound_login : ∃ pk before signed, @OidcStarted Sample.challenges (Sample.oidcActions signed)
    before pk "jwt" Sample.signedEnvelope.state Sample.signedEnvelope.nonce := by
  obtain ⟨rest, hrun, hwaits⟩ := Sample.oidcTurns_interleaved
  obtain ⟨row, before, signed, _, _, _, _, _, _, _, _, hstarted⟩ :=
    @oidc_polls_are_bound Sample.packaging Sample.challenges Sample.urlSplit Bool _
      (fun _ => Sample.authRequest) (fun _ => "login") Sample.oidcActions _ rest hrun Sample.oidcTurns_unforged true
      "jwt" "s" "n" hwaits
  exact ⟨row.pk, ownHistory signed.session before, signed.session, hstarted⟩

end NetboxOpenbao
