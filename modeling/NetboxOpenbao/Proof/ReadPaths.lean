import NetboxOpenbao.Proof.Jobs
import NetboxOpenbao.Proof.Requests
import NetboxOpenbao.ReadPaths

/-!
# One version for every reader

A promoted version is what all three read paths ask for. Without one the plain reveal takes the newest version
and the reveal of an assignment the one the row names, so the two agree as long as that is the newest that can be
read; a rolled back write that could not be deleted again parts them.
-/

namespace NetboxOpenbao

open Effect Effect.Prog

/-! ### Nobody writes at a path -/

/-- The other parties write nothing at `path`, whatever the engine. -/
def Untouched (path : String) (acts : Nat → List Act) : Prop := ∀ engine, Unwritten ⟨engine, path⟩ acts

/-- Nothing but deletes happened at `l`. -/
def Ext.ThinnedAt (l : Location) (e e' : Ext) : Prop := (e.store l).secret.Thinned (e'.store l).secret

namespace Ext.ThinnedAt

variable {l : Location} {e e' e'' : Ext}

theorem refl (e : Ext) : e.ThinnedAt l e := Secret.Thinned.refl _

theorem trans (h : e.ThinnedAt l e') (h' : e'.ThinnedAt l e'') : e.ThinnedAt l e'' := Secret.Thinned.trans h h'

theorem of_store (h : e'.store = e.store) : e.ThinnedAt l e' := by
  unfold ThinnedAt
  rw [h]
  exact Secret.Thinned.refl _

theorem put {location : Location} {cell : Cell} (h : l = location → (e.store l).secret.Thinned cell.secret) :
    e.ThinnedAt l (e.put location cell) := by
  unfold ThinnedAt
  by_cases hl : l = location
  · have hcell : (e.put location cell).store l = cell := by simp [Ext.put, hl]
    rw [hcell]
    exact h hl
  · have hcell : (e.put location cell).store l = e.store l := by simp [Ext.put, hl]
    rw [hcell]
    exact Secret.Thinned.refl _

theorem issue (d : PendingDelete) (accepted : Bool) : e.ThinnedAt l (e.issue d accepted) := by
  have hasked : e.ThinnedAt l (e.record (.delete d.issuer (d.backend.location d.path) d.version)) := of_store rfl
  rcases e.issue_cases d accepted with h | ⟨cell, hdelete, h⟩
  · rw [h]
    exact hasked
  · rw [h]
    refine hasked.trans (put ?_)
    rintro rfl
    rcases Backend.deleteCell_secret hdelete with hsame | hdeleted
    · rw [hsame]
      exact Secret.Thinned.refl _
    · rw [hdeleted]
      exact Secret.thinned_delete _ _

theorem act {a : Act} (h : ¬ a.WritesAt l) : e.ThinnedAt l (e.act a) := by
  cases a with
  | write location data cas =>
      unfold Ext.act
      simp only
      cases (e.store location).secret.write cas data with
      | none => exact refl e
      | some out => exact (put fun hl => absurd hl.symm h).trans (of_store rfl)
  | delete location version =>
      refine put ?_
      rintro rfl
      exact Secret.thinned_delete _ _
  | fire index accepted =>
      unfold Ext.act
      simp only
      cases e.pending[index]? with
      | none => exact refl e
      | some d =>
          have herased : e.ThinnedAt l { e with pending := e.pending.eraseIdx index } := of_store rfl
          exact herased.trans (issue d accepted)

end Ext.ThinnedAt

theorem Interference.thinned {l : Location} {acts : Nat → List Act} (hacts : Unwritten l acts) {e e' : Ext}
    (h : Interference acts e e') : e.ThinnedAt l e' := by
  refine h.keeps_of_mem (P := fun f => e.ThinnedAt l f) (fun n a ha f hf => ?_) (Ext.ThinnedAt.refl e)
  exact hf.trans (.act (hacts n a ha))

theorem Issued.thinned {l : Location} {acts : Nat → List Act} (hacts : Unwritten l acts)
    {ds : List PendingDelete} {e e' : Ext} (h : Issued acts ds e e') : e.ThinnedAt l e' := by
  induction h with
  | done hearly => exact hearly.thinned hacts
  | issue hearly accepted _ ih => exact (hearly.thinned hacts).trans ((Ext.ThinnedAt.issue _ accepted).trans ih)

/-- An operation that wrote nothing at `l`. -/
theorem Reached.thinned {P : WriteRequest → Prop} {config : Config} {acts : Nat → List Act}
    {attempts : List MaterialAttempt} {wrote : Option (WriteRequest × Nat)} {ds : List PendingDelete}
    {e mid e' : Ext} {l : Location} (hacts : Unwritten l acts)
    (h : Reached P config acts attempts wrote e mid) (hissued : Issued acts ds mid e')
    (helsewhere : ∀ req version, wrote = some (req, version) → req.location ≠ l) : e.ThinnedAt l e' := by
  refine .trans ?_ (hissued.thinned hacts)
  cases h with
  | idle hattempts hext => exact hext.thinned hacts
  | wrote req hreq a cell version call hcall hone hknown hbackend hlocation hbefore hwrite hafter =>
      rename_i f
      have hput : f.ThinnedAt l (f.put req.location cell) :=
        .put fun hl => absurd hl.symm (helsewhere req version rfl)
      exact (hbefore.thinned hacts).trans ((hput.trans (.of_store rfl)).trans (hafter.thinned hacts))

/-! ### What a read is answered with -/

/-- The version `version` of the material of `row` was read as `data`, after some of what the others did. -/
def ReadAs (config : Config) (acts : Nat → List Act) (e : Ext) (row : Credential) (version : Option Nat)
    (data : Payload) : Prop :=
  ∃ b e', BackendOf config b ∧ b.engine = row.engineId ∧ Interference acts e e' ∧
    b.readCell (e'.store row.location) version = .ok data

theorem backendRead_ok {b : Backend} {path : String} {version : Option Nat} {w w' : World} {data : Payload}
    (h : backendRead b path version w = (.ok data, w')) :
    b.readCell (w.ticked.ext.store (b.location path)) version = .ok data := by
  have htick : tick w = (.ok (w.env.fault w.clock), w.ticked) := rfl
  unfold backendRead at h
  rw [bind_run_ok htick] at h
  cases hfault : w.env.fault w.clock with
  | none =>
      rw [hfault] at h
      exact (Prod.mk.inj h).1
  | refused | lost | commitFailed f =>
      rw [hfault] at h
      cases h

theorem backendRead_reads {b : Backend} {row : Credential} {version : Option Nat} {w w' : World} {data : Payload}
    (hb : BackendOf w.db.config b) (hengine : b.engine = row.engineId)
    (h : backendRead b row.path version w = (.ok data, w')) :
    ReadAs w.db.config w.acts w.ext row version data := by
  refine ⟨b, w.ticked.ext, hb, hengine, Interference.ticked w, ?_⟩
  have hlocation : row.location = b.location row.path := by
    rw [Credential.location, ← hengine]
    rfl
  rw [hlocation]
  exact backendRead_ok h

/-- What was read later in a run was read in the run. -/
theorem ReadAs.still {w u : World} {row : Credential} {version : Option Nat} {data : Payload}
    (h : ReadAs u.db.config u.acts u.ext row version data) (hstill : Still Database.SameRows w u) :
    ReadAs w.db.config w.acts w.ext row version data := by
  obtain ⟨b, e, hb, hengine, hext, hread⟩ := h
  rw [hstill.acts] at hext
  rw [hstill.db.config] at hb
  exact ⟨b, e, hb, hengine, hstill.ext.trans hext, hread⟩

/-- On KV v2, and nobody writing at the path, the version asked for is read out of what was there at first. -/
theorem ReadAs.secret {config : Config} {acts : Nat → List Act} {e : Ext} {row : Credential}
    {version : Option Nat} {data : Payload} (h : ReadAs config acts e row version data)
    (hkv : config.Kv2 row.engineId) (hacts : Untouched row.path acts) :
    (e.store row.location).secret.read version = some data := by
  obtain ⟨b, e', hb, hengine, hext, hread⟩ := h
  rw [← hengine] at hkv
  have hthinned : e.ThinnedAt row.location e' := hext.thinned (hacts row.engineId)
  exact hthinned.read _ _ ((Backend.readCell_v2 (hb.kvVersion hkv)).mp hread)

theorem readMaterial_ok {row : Credential} {b : Backend} {user : Option User} {request : Option Nat}
    {reason : String} {version : Option Nat} {w w' : World} {data : Payload}
    (h : readMaterial row b user request reason version w = (.ok data, w')) :
    backendRead b row.path version w = (.ok data, w') := by
  refine tryCatch_rethrow_ok ?_ h
  intro e u v b hraise
  obtain ⟨_, _, _, hthrow⟩ := bind_ok hraise
  exact throw_ok hthrow

theorem revealMaterial_reads {row : Credential} {user : Option User} {request : Option Nat} {reason : String}
    {version : Option Nat} {w w' : World} {data : Payload} {ttl : Nat}
    (h : revealMaterial row user request reason version w = (.ok (data, ttl), w')) :
    ReadAs w.db.config w.acts w.ext row (version <|> row.liveKvVersion) data := by
  obtain ⟨_, u, hgate, h⟩ := bind_ok h
  have hu := enforcePolicyAccess_quiet.of_ok hgate
  obtain ⟨policy, v, hpolicy, h⟩ := bind_ok h
  have hv := hu.trans ((query_quiet _).of_ok hpolicy)
  obtain ⟨_, x, hreason, h⟩ := bind_ok h
  have hx := hv.trans ((requireReason_quiet _ _ _ _ _).of_ok hreason)
  simp only at h
  obtain ⟨b, y, hbackend, h⟩ := bind_ok h
  obtain ⟨hengine, hb, rfl⟩ := getBackend_ok hbackend
  obtain ⟨read, z, hread, h⟩ := bind_ok h
  obtain ⟨_, _, -, h⟩ := bind_ok h
  obtain ⟨config, _, -, h⟩ := bind_ok h
  obtain ⟨heq, -⟩ := pure_ok h
  obtain ⟨rfl, -⟩ := Prod.mk.inj heq
  have hat := backendRead_reads (w := x.ticked) hb hengine (readMaterial_ok hread)
  exact hat.still (hx.trans (Quiet.ticked x)).toStill

theorem Automation.version_live {authority : Authority} {row : Credential} {version : Nat}
    (h : Automation.version authority row = .ok version) : row.liveKvVersion = some version := by
  unfold Automation.version at h
  split at h
  · cases h
  · cases h
  · next live hlive hrow =>
      split at h
      · cases h
      · split at h
        · cases h
        · cases h
          exact hrow

theorem readAutomation_reads {authority : Authority} {row : Credential} {w w' : World} {data : Payload}
    (h : readAutomation authority row w = (.ok data, w')) :
    ReadAs w.db.config w.acts w.ext row row.liveKvVersion data := by
  obtain ⟨version, u, hversion, h⟩ := bind_ok h
  obtain ⟨hselected, rfl⟩ := Prod.mk.inj hversion
  obtain ⟨b, v, hbackend, h⟩ := bind_ok h
  obtain ⟨hengine, hb, rfl⟩ := getBackend_ok hbackend
  rw [Automation.version_live hselected]
  exact (backendRead_reads (w := w.ticked) hb hengine h).still (Quiet.ticked w).toStill

theorem identityMismatch_none {state : AssignmentState} {row : Credential} {expected : AssignmentApproval}
    (h : identityMismatch state row expected = none) : servedVersion row = some expected.kvVersion := by
  unfold identityMismatch at h
  split at h
  · cases h
  · next hfound =>
      have hchecks := List.find?_eq_none.mp hfound
      have hlast := hchecks ("kv_version", servedVersion row == some expected.kvVersion) (by simp [identityChecks])
      simpa using hlast

theorem readVerified_reads {reveal : AssignmentReveal} {row : Credential} {user : User} {request : Option Nat}
    {w w' : World} {response : RevealResponse}
    (h : reveal.readVerified row user request w = (.ok (.ok response), w')) :
    ReadAs w.db.config w.acts w.ext row (some reveal.expected.kvVersion) response.secretData := by
  obtain ⟨⟨data, ttl⟩, u, hreveal, h⟩ := bind_ok h
  obtain ⟨_, v, -, h⟩ := bind_ok h
  cases hafter : reveal.connectionAfter with
  | some mismatch =>
      rw [hafter] at h
      cases h
  | none =>
      rw [hafter] at h
      cases h
      exact revealMaterial_reads hreveal

/-- What an assignment reveals is the version its credential serves. -/
theorem AssignmentReveal.run_reads {reveal : AssignmentReveal} {user : User} {request : Option Nat} {w w' : World}
    {response : RevealResponse} (hidle : w.conn.inAtomic = false)
    (h : reveal.run user request w = (.ok (.ok response), w')) :
    servedVersion response.credential = some reveal.expected.kvVersion ∧
      ReadAs w.db.config w.acts w.ext response.credential (some reveal.expected.kvVersion) response.secretData := by
  obtain ⟨state, u, hstate, h⟩ := bind_ok h
  have hu : Quiet Database.SameRows w u := (query_quiet _).of_ok hstate
  obtain ⟨authorized, v, hauthorized, h⟩ := bind_ok h
  have hv : Quiet Database.SameRows w v := hu.trans ((authorize_quiet _ _ _ _).of_ok hauthorized)
  obtain ⟨after, hbody, -⟩ := atomic_outermost_ok (hv.inAtomic.trans hidle) h
  have hbegun : Still Database.SameRows w v.ticked.begun := hv.toStill.trans (Still.begun v)
  obtain ⟨row, x, hlock, hbody⟩ := bind_ok hbody
  have hx := hbegun.trans ((lockCredentialGraph_quiet _).of_ok hlock).toStill
  obtain ⟨locked, y, hlocked, hbody⟩ := bind_ok hbody
  have hy := hx.trans ((query_quiet _).of_ok hlocked).toStill
  obtain ⟨_, z, hreauthorized, hbody⟩ := bind_ok hbody
  have hz := hy.trans ((reauthorize_quiet _ _ _).of_ok hreauthorized).toStill
  cases hmismatch : identityMismatch locked row reveal.expected with
  | some mismatch =>
      rw [hmismatch] at hbody
      cases hbody
  | none =>
      rw [hmismatch] at hbody
      obtain rfl : response.credential = row := readVerified_ok hbody
      exact ⟨identityMismatch_none hmismatch, (readVerified_reads hbody).still hz⟩

/-! ### What each path serves -/

/-- A read path served the credential `row`: the version it asked the server for, by number, and the material. It
may meet any failure, and the others write nothing at the path meanwhile. -/
inductive Site.Serves (s : Site) (row : Credential) : ReadPath → Nat → Payload → Prop
  | reveal {user : Option User} {request : Option Nat} {reason : String} {env : Env} {acts : Nat → List Act}
      {data : Payload} {ttl : Nat} (hacts : Untouched row.path acts)
      (h : (revealMaterial row user request reason none (s.start env acts)).1 = .ok (data, ttl)) :
      s.Serves row .reveal ((s.ext.store row.location).secret.number row.liveKvVersion) data
  | assignment {reveal : AssignmentReveal} {user : User} {request : Option Nat} {env : Env}
      {acts : Nat → List Act} {response : RevealResponse} (hacts : Untouched row.path acts)
      (h : (reveal.run user request (s.start env acts)).1 = .ok (.ok response))
      (hcredential : response.credential = row) :
      s.Serves row .assignment
        ((s.ext.store row.location).secret.number (some reveal.expected.kvVersion)) response.secretData
  | automation {authority : Authority} {env : Env} {acts : Nat → List Act} {data : Payload}
      (hacts : Untouched row.path acts) (h : (readAutomation authority row (s.start env acts)).1 = .ok data) :
      s.Serves row .automation ((s.ext.store row.location).secret.number row.liveKvVersion) data

/-- Whatever two read paths serve of the credential numbered `pk` is one version and one payload. -/
def Site.ReadsAgree (pk : Nat) (s : Site) : Prop :=
  ∀ row path path' number number' data data', s.db.credentials pk = some row →
    s.Serves row path number data → s.Serves row path' number' data' → number = number' ∧ data = data'

/-- While nothing was promoted, the version the row names is the newest that can be read. -/
def Credential.Settled (row : Credential) (secret : Secret Payload) : Prop :=
  row.liveKvVersion = none → ∀ version, row.kvVersion = some version → secret.Agrees version

/-- Every path asks for the promoted version; without one, for the newest or for the one the row names. -/
theorem Site.Serves.asked {s : Site} {row : Credential} {path : ReadPath} {number : Nat} {data : Payload}
    (h : s.Serves row path number data) (hkv : s.db.config.Kv2 row.engineId) :
    ∃ version, (version = row.liveKvVersion ∨
        row.liveKvVersion = none ∧ ∃ k, row.kvVersion = some k ∧ version = some k) ∧
      number = (s.ext.store row.location).secret.number version ∧
      (s.ext.store row.location).secret.read version = some data := by
  cases h with
  | reveal hacts h =>
      have hread := revealMaterial_reads (Prod.ext h rfl : _ = (_, _))
      exact ⟨_, .inl rfl, rfl, hread.secret hkv hacts⟩
  | automation hacts h =>
      have hread := readAutomation_reads (Prod.ext h rfl : _ = (_, _))
      exact ⟨_, .inl rfl, rfl, hread.secret hkv hacts⟩
  | @assignment reveal user request env acts response hacts h hcredential =>
      obtain ⟨hserved, hread⟩ := AssignmentReveal.run_reads (w := s.start env acts) rfl (Prod.ext h rfl : _ = (_, _))
      subst hcredential
      refine ⟨_, ?_, rfl, hread.secret hkv hacts⟩
      unfold servedVersion at hserved
      cases hlive : response.credential.liveKvVersion with
      | some live =>
          rw [hlive] at hserved
          exact .inl hserved.symm
      | none =>
          rw [hlive] at hserved
          exact .inr ⟨rfl, _, hserved, rfl⟩

/-- The paths agree on a settled row. -/
theorem Site.readsAgree_of_settled {pk : Nat} {s : Site} (hkv : ∀ engine, s.db.config.Kv2 engine)
    (hsettled : ∀ row, s.db.credentials pk = some row → row.Settled (s.ext.store row.location).secret) :
    s.ReadsAgree pk := by
  intro row path path' number number' data data' hrow h h'
  obtain ⟨version, hasked, rfl, hread⟩ := h.asked (hkv _)
  obtain ⟨version', hasked', rfl, hread'⟩ := h'.asked (hkv _)
  have hnumber : (s.ext.store row.location).secret.number version =
      (s.ext.store row.location).secret.number version' := by
    rcases hasked with rfl | ⟨hlive, k, hk, rfl⟩ <;> rcases hasked' with rfl | ⟨hlive', k', hk', rfl⟩
    · rfl
    · rw [hlive'] at hread ⊢
      exact (hsettled row hrow hlive' k' hk' _ _ hread hread').symm
    · rw [hlive] at hread' ⊢
      exact hsettled row hrow hlive k hk _ _ hread' hread
    · rw [Option.some.inj (hk.symm.trans hk')]
  refine ⟨hnumber, ?_⟩
  rw [Secret.read_congr hnumber, hread'] at hread
  exact (Option.some.inj hread).symm

/-! ### Transitions -/

/-- An engine a row was validated against is there, and `0` numbers none. -/
theorem Selected.ne_zero {config : Config} {c : Credential} {engine : Nat} (h : Selected config c engine)
    (hids : config.engines 0 = none) : engine ≠ 0 := by
  have hne : c.engineId ≠ 0 := by
    intro hzero
    have hfound := h.found
    rw [hzero, hids] at hfound
    cases hfound
  rw [h.engine hne]
  exact hne

section

variable [library : MaterialLibrary]

theorem Commits.engine_ne_zero {config : Config} {time : Time} {row row' : Credential} {operation : Operation}
    {wrote : Option (WriteRequest × Nat)} (h : Commits config time row operation wrote row')
    (hrow : row.engineId ≠ 0) (hids : config.engines 0 = none) : row'.engineId ≠ 0 := by
  cases h with
  | rotate _ =>
      rw [written_promote]
      exact hrow
  | stage _ _ =>
      rw [written_stage]
      simpa [withMetadata] using hrow
  | promote _ | discard _ => exact hrow
  | edit hselected => exact hselected.ne_zero hids
  | update _ hselected =>
      rw [written_promote]
      exact hselected.ne_zero hids

/-- After a transition the row has a promoted version; or it names what it named before, and nothing was written;
or it names the version just written. -/
theorem Commits.pointers {config : Config} {time : Time} {row row' : Credential} {operation : Operation}
    {wrote : Option (WriteRequest × Nat)} (h : Commits config time row operation wrote row') :
    row'.liveKvVersion ≠ none ∨
      (wrote = none ∧ row'.liveKvVersion = row.liveKvVersion ∧ row'.kvVersion = row.kvVersion) ∨
      ∃ req version, wrote = some (req, version) ∧ row'.kvVersion = some version := by
  cases h with
  | rotate _ | update _ _ =>
      left
      rw [written_promote]
      exact Option.some_ne_none _
  | stage _ _ =>
      right
      right
      refine ⟨_, _, rfl, ?_⟩
      rw [written_stage]
  | promote hstaged =>
      left
      rw [promoted_eq]
      show row.stagedKvVersion ≠ none
      rw [hstaged]
      exact Option.some_ne_none _
  | discard _ => exact .inr (.inl ⟨rfl, rfl, rfl⟩)
  | edit _ => exact .inr (.inl ⟨rfl, rfl, rfl⟩)

/-! ### Runs -/

/-- The credential numbered `pk` lives at `path`, every engine is KV v2, and the row is settled. -/
structure Site.Serviceable (pk : Nat) (path : String) (s : Site) : Prop where
  kv2 : ∀ engine, s.db.config.Kv2 engine
  ids : s.db.config.engines 0 = none
  row : ∃ row, s.Row pk row ∧ row.path = path ∧ row.Settled (s.ext.store row.location).secret

/-- A turn of the service around the credential numbered `pk`, whose material nobody else writes: an operation on
it, holding an instance of it; any move of the verification job; or something else that leaves its row alone, only
deletes at its path, and sees to it that every engine is KV v2. -/
def JobSite.Grants (pk : Nat) (path : String) (j : JobSite) : ServiceTurn → Prop
  | .job (.call c) => c.operation.On pk ∧ (∀ held, c.operation.held = some held → held.path = path) ∧
      Untouched path c.acts
  | .job (.load _) => True
  | .job (.examine _ _ _ acts) | .job (.save _ _ acts) => Untouched path acts
  | .others after => (∀ engine, after.db.config.Kv2 engine) ∧ after.db.config.engines 0 = none ∧
      after.db.credentials pk = j.site.db.credentials pk ∧
      ∀ engine, j.site.ext.ThinnedAt ⟨engine, path⟩ after.ext

/-- A call that leaves the rows as they were, on a row that names a version and has no promoted one, leaves no
version behind that can be read next to the named one. -/
def Site.LeavesNoOrphan (pk : Nat) (s : Site) (c : Call) : Prop :=
  ∀ row version, s.db.credentials pk = some row → row.liveKvVersion = none → row.kvVersion = some version →
    s.Idles c → ((s.step c).ext.store row.location).secret.current = (s.ext.store row.location).secret.current ∨
      ((s.step c).ext.store row.location).secret.read none = none ∨
      ((s.step c).ext.store row.location).secret.read (some version) = none

/-- A call that moves a row that names a version and has no promoted one moves it to where the number names the
newest version that can be read. -/
def Site.MovesSettled (pk : Nat) (s : Site) (c : Call) : Prop :=
  ∀ row row' version, s.db.credentials pk = some row → row.liveKvVersion = none → row.kvVersion = some version →
    (s.step c).db.credentials pk = some row' → row'.location ≠ row.location →
    (s.ext.store row'.location).secret.Agrees version

/-- A verification of a row without a promoted version writes back the newest version that can be read, if the
server carries the write out. -/
def JobSite.VerifiesSettled (pk : Nat) (j : JobSite) (index : Nat) (env : Env) : Prop :=
  ∀ credential current overtaken row version, (env.fault 0).carriedOut = true →
    j.checks[index]? = some ⟨pk, credential, some current, overtaken⟩ →
    j.site.db.credentials pk = some row → row.liveKvVersion = none →
    CredentialVerifyJob.verifiedVersion credential current = some version →
    (j.site.ext.store row.location).secret.Agrees version

/-- The turn does not part the newest version from the one the row names. -/
def JobSite.KeepsSettled (pk : Nat) (j : JobSite) : ServiceTurn → Prop
  | .job (.call c) => j.site.LeavesNoOrphan pk c ∧ j.site.MovesSettled pk c
  | .job (.save index env _) => j.VerifiesSettled pk index env
  | .job (.load _) | .job (.examine ..) | .others _ => True

omit library in
/-- The row is the same and only deletes happened at its path. -/
theorem Site.Serviceable.still {pk : Nat} {path : String} {s s' : Site} (h : s.Serviceable pk path)
    (hkv : ∀ engine, s'.db.config.Kv2 engine) (hids : s'.db.config.engines 0 = none)
    (hsame : s'.db.credentials pk = s.db.credentials pk)
    (hthinned : ∀ engine, s.ext.ThinnedAt ⟨engine, path⟩ s'.ext) : s'.Serviceable pk path := by
  obtain ⟨row, hrow, rfl, hsettled⟩ := h.row
  refine ⟨hkv, hids, row, ⟨hsame.trans hrow.found, hrow.pk, hrow.engine⟩, rfl, ?_⟩
  intro hlive version hversion
  exact (hthinned row.engineId).agrees (hsettled hlive version hversion)

theorem Site.Serviceable.call {pk : Nat} {path : String} {s : Site} {c : Call} (h : s.Serviceable pk path)
    (hon : c.operation.On pk) (hheld : ∀ held, c.operation.held = some held → held.path = path)
    (hacts : Untouched path c.acts) (horphan : s.LeavesNoOrphan pk c) (hmoves : s.MovesSettled pk c) :
    (s.step c).Serviceable pk path := by
  obtain ⟨hkv, hids, row, hrow, rfl, hsettled⟩ := h
  obtain ⟨hconfig, -, hstepped⟩ := Site.step_stepped hon hrow
  have hkv' : ∀ engine, (s.step c).db.config.Kv2 engine := fun engine => hconfig ▸ hkv engine
  have hids' : (s.step c).db.config.engines 0 = none := hconfig ▸ hids
  refine ⟨hkv', hids', ?_⟩
  cases hstepped with
  | kept attempts wrote mid ds hreached hissued hcredentials =>
      have hfound : (s.step c).db.credentials pk = some row := by rw [hcredentials, hrow.found]
      refine ⟨row, ⟨hfound, hrow.pk, hrow.engine⟩, rfl, fun hlive version hversion => ?_⟩
      by_cases helsewhere : ∀ req written, wrote = some (req, written) → req.location ≠ row.location
      · have hthinned : s.ext.ThinnedAt row.location (s.step c).ext :=
          hreached.thinned (hacts row.engineId) hissued helsewhere
        exact hthinned.agrees (hsettled hlive version hversion)
      · -- a version was written at the row's location, and nobody recorded it
        simp only [not_forall, not_not] at helsewhere
        obtain ⟨req, written, hwrote, hat⟩ := helsewhere
        obtain ⟨hnumber, hcurrent, -⟩ : written = (s.ext.store row.location).secret.current + 1 ∧
            ((s.step c).ext.store row.location).secret.current = written ∧ _ :=
          (hreached.counted (hacts row.engineId) hissued).2 req written hwrote hat (hkv row.engineId)
        rcases horphan row version hrow.found hlive hversion hcredentials with hsame | hgone | hgone
        · omega
        · exact Secret.agrees_of_latest_gone hgone version
        · exact Secret.agrees_of_numbered_gone hgone
  | committed attempts deletions wrote mid ds pk' row' hreached hissued hcommits hcredentials =>
      obtain ⟨rfl, hcommits⟩ := hcommits
      have hput : (s.step c).db.credentials pk' = some row' := by
        rw [hcredentials, Database.putCredential_self]
      obtain ⟨hpk, hpath, hwhere⟩ := hcommits.location hon hrow.pk hheld
      have hengine := hcommits.engine_ne_zero hrow.engine hids
      refine ⟨row', ⟨hput, hpk, hengine⟩, hpath, fun hlive version hversion => ?_⟩
      have hacts' : Unwritten row'.location c.acts := by
        have hacts' := hacts row'.engineId
        rw [← hpath] at hacts'
        exact hacts'
      rcases hcommits.pointers with hpromoted | ⟨hnone, hsameLive, hsameKv⟩ | ⟨req, written, hwrote, hkvVersion⟩
      · exact absurd hlive hpromoted
      · rw [hsameLive] at hlive
        rw [hsameKv] at hversion
        have hthinned : s.ext.ThinnedAt row'.location (s.step c).ext :=
          hreached.thinned hacts' hissued fun req written hw => by rw [hnone] at hw; cases hw
        refine hthinned.agrees ?_
        by_cases hlocation : row'.location = row.location
        · rw [hlocation]
          exact hsettled hlive version hversion
        · exact hmoves row row' version hrow.found hlive hversion hput hlocation
      · obtain ⟨-, hcurrent, -⟩ := (hreached.counted hacts' hissued).2 req written hwrote
          (hwhere req written hwrote) (hkv row'.engineId)
        obtain rfl := Option.some.inj (hkvVersion.symm.trans hversion)
        rw [← hcurrent]
        exact Secret.agrees_current _

theorem JobSite.turn_call (s : Site) (checks : List Verification) (c : Call) :
    (JobSite.turn ⟨s, checks⟩ (.job (.call c))).site = s.step c := rfl

omit library in
/-- A move of the job only looks at the servers. -/
theorem JobSite.examine_thinned {path : String} {acts : Nat → List Act} (hacts : Untouched path acts) (j : JobSite)
    (index : Nat) (published : Bool) (env : Env) (engine : Nat) :
    j.site.ext.ThinnedAt ⟨engine, path⟩ (j.examine index published env acts).site.ext := by
  unfold JobSite.examine
  split
  · next pk credential _ _ =>
      have hquiet := CredentialVerifyJob.examine_quiet credential published (j.site.start env acts)
      exact hquiet.ext.thinned (hacts engine)
  · exact .refl _

omit library in
theorem JobSite.save_thinned {path : String} {acts : Nat → List Act} (hacts : Untouched path acts) (j : JobSite)
    (index : Nat) (env : Env) (engine : Nat) :
    j.site.ext.ThinnedAt ⟨engine, path⟩ (j.save index env acts).site.ext := by
  unfold JobSite.save
  split
  · next pk credential current _ _ =>
      have hext : (CredentialVerifyJob.save pk credential current (j.site.start env acts)).2.ext =
          (j.site.start env acts).ticked.ext := CredentialVerifyJob.save_ext ..
      exact (hext ▸ Interference.ticked (j.site.start env acts)).thinned (hacts engine)
  · exact .refl _

theorem JobSite.turn_serviceable {pk : Nat} {path : String} {j : JobSite} {turn : ServiceTurn}
    (h : j.site.Serviceable pk path) (hturn : j.Grants pk path turn) (hkeeps : j.KeepsSettled pk turn) :
    (j.turn turn).site.Serviceable pk path := by
  cases turn with
  | others after =>
      obtain ⟨hkv, hids, hsame, hthinned⟩ := hturn
      exact h.still hkv hids hsame hthinned
  | job turn =>
      cases turn with
      | call c =>
          obtain ⟨hon, hheld, hacts⟩ := hturn
          exact h.call hon hheld hacts hkeeps.1 hkeeps.2
      | load pk' =>
          show (j.load pk').site.Serviceable pk path
          rw [j.load_site pk']
          exact h
      | examine index published env acts =>
          obtain ⟨hconfig, hcredentials⟩ := j.examine_same index published env acts
          refine h.still ?_ ?_ (congrFun hcredentials pk) (j.examine_thinned hturn index published env)
          · exact fun engine => hconfig ▸ h.kv2 engine
          · exact hconfig ▸ h.ids
      | save index env acts =>
          obtain ⟨hconfig, hsave⟩ := j.save_cases index env acts pk
          have hkv : ∀ engine, (j.save index env acts).site.db.config.Kv2 engine :=
            fun engine => hconfig ▸ h.kv2 engine
          have hids : (j.save index env acts).site.db.config.engines 0 = none := hconfig ▸ h.ids
          have hthinned := j.save_thinned hturn index env
          rcases hsave with ⟨hsame, -⟩ | ⟨credential, current, overtaken, row, hcarried, hcheck, hfound, hsaved⟩
          · exact h.still hkv hids hsame hthinned
          · obtain ⟨row', hrow, rfl, -⟩ := h.row
            obtain rfl := Option.some.inj (hfound.symm.trans hrow.found)
            refine ⟨hkv, hids, _, ⟨hsaved, hrow.pk, hrow.engine⟩, rfl, fun hlive version hversion => ?_⟩
            have hagrees := hkeeps credential current overtaken row version hcarried hcheck hfound hlive hversion
            exact (hthinned row.engineId).agrees hagrees

/-- Any run of operations on a credential on KV v2, of verifications, and of everything else around it, nobody
else writing its material: in every state reached, whatever the plain reveal, the reveal of an assignment and the
read of an automation serve is one version and one payload, provided that no turn on a row without a promoted
version parts the newest version from the one the row names. -/
theorem reads_agree_while_settled (pk : Nat) (path : String) (j : JobSite) (turns : List ServiceTurn)
    (hstart : j.site.Serviceable pk path) (hturns : Runs.Along JobSite.turn (JobSite.Grants pk path) j turns)
    (hkeeps : Runs.Along JobSite.turn (JobSite.KeepsSettled pk) j turns) :
    Runs.Throughout JobSite.turn (fun j => j.site.ReadsAgree pk) j turns := by
  have hrun : Runs.Throughout JobSite.turn (fun j => j.site.Serviceable pk path) j turns :=
    Runs.throughout_of_along (P := fun j => j.site.Serviceable pk path)
      (fun _ _ h hturn => JobSite.turn_serviceable h hturn.1 hturn.2) hstart (hturns.and hkeeps)
  refine hrun.mono fun j h => ?_
  refine Site.readsAgree_of_settled h.kv2 fun row hrow => ?_
  obtain ⟨row', hrow', -, hsettled⟩ := h.row
  obtain rfl := Option.some.inj (hrow'.found.symm.trans hrow)
  exact hsettled

end

theorem Except.exists_of_isOk {ε α : Type} {r : Except ε α} (h : r.isOk = true) : ∃ a, r = .ok a := by
  cases r with
  | error e => cases h
  | ok a => exact ⟨a, rfl⟩

/-- What an answer that is a value twice over holds. -/
theorem Except.exists_of_toOption {ε ε' α β : Type} {r : Except ε (Except ε' α)} {f : α → β} {b : β}
    (h : (r.toOption.bind fun out => out.toOption.map f) = some b) : ∃ a, r = .ok (.ok a) ∧ f a = b := by
  match r with
  | .error e => cases h
  | .ok (.error e) => cases h
  | .ok (.ok a) => exact ⟨a, rfl, Option.some.inj h⟩

namespace Sample

/-- A password stored before there were promotions. -/
def unpromoted : Credential := { credential "password" with kvVersion := some 1 }

def shelf : Site := site 2 unpromoted ⟨Secret.empty.push [("password", .str "first")], none⟩

/-- The write is taken, the row cannot be saved, and the version is deleted again. -/
def rotateCompensated : Call :=
  ⟨.rotate unpromoted [("password", .str "second")] none none, failing 20 .refused, noActs⟩

/-- The same, and the server refuses the delete. -/
def rotateOrphaned : Call := { rotateCompensated with
  env := ⟨fun n => if n = 20 ∨ n = 22 then .refused else .none, 0⟩ }

/-- A compensated rotation, a verification of the row, and nothing else. -/
def quietShelf : List ServiceTurn :=
  [.job (.call rotateCompensated), .job (.load 1), .job (.examine 0 true calm noActs), .job (.save 0 calm noActs)]

def superuser : User := ⟨"root", true, []⟩

/-- An enabled assignment of the password, revealed as approved at version 1. -/
def approvedReveal : AssignmentReveal :=
  let state : AssignmentState := ⟨⟨1, 1, "dcim.device", 1, "login", true⟩, 0, none⟩
  { loaded := .ok state
    locked := .ok state
    connectionAfter := none
    mayView := fun _ => true
    mayReveal := fun _ _ => true
    expected := ⟨"restore", some 0, "dcim.device", 1, "login", "5f0c", "password", 1⟩ }

theorem noActs_untouched (path : String) : Untouched path noActs := fun _ => noActs_unwritten _

theorem shelf_serviceable : shelf.Serviceable 1 unpromoted.path where
  kv2 := config_kv2
  ids := rfl
  row := by
    refine ⟨unpromoted, ⟨rfl, rfl, by decide⟩, rfl, fun _ version hversion => ?_⟩
    obtain rfl := Option.some.inj hversion
    exact Secret.agrees_current _

/-- A credential whose newest version cannot be read takes any number. -/
theorem save_keepsSettled {j : JobSite} (hrow : j.site.db.credentials 1 = some unpromoted)
    (hgone : ((j.site.ext.store unpromoted.location).secret.read none).isNone = true) (index : Nat) (env : Env)
    (acts : Nat → List Act) : @JobSite.KeepsSettled library 1 j (.job (.save index env acts)) := by
  intro credential current overtaken row version _ _ hfound _ _
  obtain rfl := Option.some.inj (hrow.symm.trans hfound)
  exact Secret.agrees_of_latest_gone (Option.isNone_iff_eq_none.mp hgone) version

end Sample

theorem reads_agree_while_settled_compensated :
    Runs.Throughout (@JobSite.turn Sample.library) (fun j => j.site.ReadsAgree 1) ⟨Sample.shelf, []⟩
      Sample.quietShelf := by
  have huntouched := Sample.noActs_untouched Sample.unpromoted.path
  have hgrants : Runs.Along (@JobSite.turn Sample.library) (JobSite.Grants 1 Sample.unpromoted.path)
      ⟨Sample.shelf, []⟩ Sample.quietShelf := by
    refine ⟨⟨.rotate rfl _ _ _, fun held hheld => ?_, huntouched⟩, trivial, huntouched, huntouched, trivial⟩
    obtain rfl := Option.some.inj hheld
    rfl
  have hmoves : @Site.MovesSettled Sample.library 1 Sample.shelf Sample.rotateCompensated := by
    have hrow : (@Site.step Sample.library Sample.shelf Sample.rotateCompensated).db.credentials 1 =
        some Sample.unpromoted := by
      decide +kernel
    intro row row' version hfound _ _ hfound' hmoved
    obtain rfl : Sample.unpromoted = row := Option.some.inj hfound
    obtain rfl := Option.some.inj (hrow.symm.trans hfound')
    exact absurd rfl hmoved
  have horphan : @Site.LeavesNoOrphan Sample.library 1 Sample.shelf Sample.rotateCompensated := by
    intro row version hfound _ _ _
    obtain rfl : Sample.unpromoted = row := Option.some.inj hfound
    exact .inr (.inl (Option.isNone_iff_eq_none.mp (by decide +kernel)))
  have hkeeps : Runs.Along (@JobSite.turn Sample.library) (@JobSite.KeepsSettled Sample.library 1)
      ⟨Sample.shelf, []⟩ Sample.quietShelf := by
    refine ⟨⟨horphan, hmoves⟩, trivial, trivial, ?_, trivial⟩
    exact Sample.save_keepsSettled (by decide +kernel) (by decide +kernel) 0 _ _
  exact @reads_agree_while_settled Sample.library 1 Sample.unpromoted.path ⟨Sample.shelf, []⟩ Sample.quietShelf
    Sample.shelf_serviceable hgrants hkeeps

/-- After a rotation that was rolled back and whose version could not be deleted the row names version 1: the plain
reveal serves version 2 and the reveal of an assignment version 1. -/
theorem orphaned_version_parts_reads :
    (@Site.step Sample.library Sample.shelf Sample.rotateOrphaned).db.credentials 1 = some Sample.unpromoted ∧
    ((revealMaterial Sample.unpromoted (some Sample.superuser) none "restore" none
        ((@Site.step Sample.library Sample.shelf Sample.rotateOrphaned).start Sample.calm Sample.noActs)).1.toOption.bind
        fun out => out.1.lookup "password") matches some (.str "second") ∧
    ((Sample.approvedReveal.run Sample.superuser none
        ((@Site.step Sample.library Sample.shelf Sample.rotateOrphaned).start Sample.calm Sample.noActs)).1.toOption.bind
        fun out => out.toOption.bind fun response => response.secretData.lookup "password") matches
          some (.str "first") ∧
    ¬ Runs.Throughout (@JobSite.turn Sample.library) (fun j => j.site.ReadsAgree 1) ⟨Sample.shelf, []⟩
      [.job (.call Sample.rotateOrphaned)] := by
  have hrow : (@Site.step Sample.library Sample.shelf Sample.rotateOrphaned).db.credentials 1 =
      some Sample.unpromoted := by
    decide +kernel
  refine ⟨hrow, by decide +kernel, by decide +kernel, fun h => ?_⟩
  have hagree := Runs.Throughout.head h.2
  rw [@JobSite.turn_call Sample.library] at hagree
  have hreveal : ((revealMaterial Sample.unpromoted (some Sample.superuser) none "restore" none
      ((@Site.step Sample.library Sample.shelf Sample.rotateOrphaned).start Sample.calm Sample.noActs)).1).isOk =
        true := by
    decide +kernel
  have hassignment : ((Sample.approvedReveal.run Sample.superuser none
      ((@Site.step Sample.library Sample.shelf Sample.rotateOrphaned).start Sample.calm Sample.noActs)).1.toOption.bind
        fun out => out.toOption.map (·.credential)) = some Sample.unpromoted := by
    decide +kernel
  have hnumbers : ((@Site.step Sample.library Sample.shelf Sample.rotateOrphaned).ext.store
      Sample.unpromoted.location).secret.number none ≠ ((@Site.step Sample.library Sample.shelf
        Sample.rotateOrphaned).ext.store Sample.unpromoted.location).secret.number (some 1) := by
    decide +kernel
  obtain ⟨⟨data, ttl⟩, hdata⟩ := Except.exists_of_isOk hreveal
  obtain ⟨response, hok, hcredential⟩ := Except.exists_of_toOption hassignment
  exact hnumbers (hagree Sample.unpromoted .reveal .assignment _ _ _ _ hrow
    (.reveal (Sample.noActs_untouched _) hdata) (.assignment (Sample.noActs_untouched _) hok hcredential)).1

end NetboxOpenbao
