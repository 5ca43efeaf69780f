import NetboxOpenbao.Proof.Counters
import NetboxOpenbao.Proof.Updates
import NetboxOpenbao.Jobs

/-!
# The counter under verification

Every write of an operation raises the counter on the row: check-and-set makes the new version the successor of
the old one. A verification writes back what the server answered some time ago, and so takes the counter back over
a rotation or a staging that committed meanwhile, and over the higher number of a later verification.
-/

namespace NetboxOpenbao

open Effect Effect.Prog

/-! ### Operations raise the counter -/

theorem Reached.above {P : WriteRequest → Prop} {config : Config} {acts : Nat → List Act}
    {attempts : List MaterialAttempt} {req : WriteRequest} {version : Nat} {e e' : Ext}
    (h : Reached P config acts attempts (some (req, version)) e e') (hkv : config.Kv2 req.location.engine) :
    req.cas.getD 0 < version := by
  cases h with
  | wrote _ hreq a cell _ call hcall hone hknown hbackend hlocation hbefore hwrite hafter =>
      rw [← hlocation] at hkv
      obtain ⟨hcas, rfl, -⟩ := (Backend.writeCell_v2 (hbackend.kvVersion hkv)).mp hwrite
      cases hvalue : req.cas with
      | none => exact Nat.succ_pos _
      | some n =>
          have hcurrent := hcas n hvalue
          show n < _
          omega

theorem Reached.newest {P : WriteRequest → Prop} {config : Config} {acts : Nat → List Act}
    {attempts : List MaterialAttempt} {req : WriteRequest} {version : Nat} {e e' : Ext}
    (h : Reached P config acts attempts (some (req, version)) e e') (hkv : config.Kv2 req.location.engine) :
    (e.store req.location).secret.current < version := by
  cases h with
  | wrote _ hreq a cell _ call hcall hone hknown hbackend hlocation hbefore hwrite hafter =>
      rw [← hlocation] at hkv
      obtain ⟨-, rfl, -⟩ := (Backend.writeCell_v2 (hbackend.kvVersion hkv)).mp hwrite
      exact Nat.lt_succ_of_le (hbefore.later req.location).current

/-- The pointers of a row name no version above its counter. -/
structure Credential.Ordered (c : Credential) : Prop where
  live : c.liveKvVersion.getD 0 ≤ c.kvVersion.getD 0
  staged : c.stagedKvVersion.getD 0 ≤ c.kvVersion.getD 0

/-- The row numbered `pk` is ordered. -/
def Site.Ordered (pk : Nat) (s : Site) : Prop := ∀ row, s.db.credentials pk = some row → row.Ordered

/-- The counter of the row numbered `pk` does not go back from `s` to `s'`. -/
def Site.Advances (pk : Nat) (s s' : Site) : Prop :=
  ∀ row row', s.db.credentials pk = some row → s'.db.credentials pk = some row' →
    row.kvVersion.getD 0 ≤ row'.kvVersion.getD 0

section

variable [library : MaterialLibrary]

theorem Commits.ordered {config : Config} {time : Time} {row row' : Credential} {operation : Operation}
    {wrote : Option (WriteRequest × Nat)} (h : Commits config time row operation wrote row')
    (hmaterial : operation.Material)
    (hwrote : ∀ req version, wrote = some (req, version) → req.cas.getD 0 < version) :
    row.kvVersion.getD 0 ≤ row'.kvVersion.getD 0 ∧ (row.Ordered → row'.Ordered) := by
  cases h with
  | rotate _ =>
      have hlt := hwrote _ _ rfl
      rw [written_promote]
      refine ⟨Nat.le_of_lt hlt, fun hordered => ⟨Nat.le_refl _, Nat.zero_le _⟩⟩
  | @stage held payload data user request metadata fingerprint version hstaged _ =>
      have hlt := hwrote _ _ rfl
      replace hlt : row.kvVersion.getD 0 < version := hlt
      have hlive : row.Ordered → (pinned row).liveKvVersion.getD 0 ≤ row.kvVersion.getD 0 := by
        intro hordered
        unfold pinned
        split
        · exact Nat.le_refl _
        · exact hordered.live
      rw [written_stage]
      refine ⟨Nat.le_of_lt hlt, fun hordered => ⟨?_, Nat.le_refl _⟩⟩
      have hpinned := hlive hordered
      show (pinned row).liveKvVersion.getD 0 ≤ version
      omega
  | promote hstaged => exact ⟨Nat.le_refl _, fun hordered => ⟨hordered.staged, Nat.zero_le _⟩⟩
  | discard hstaged => exact ⟨Nat.le_refl _, fun hordered => ⟨hordered.live, Nat.zero_le _⟩⟩
  | edit _ => exact hmaterial.elim
  | update _ _ => exact hmaterial.elim

/-- A transition that writes nothing leaves the counter; one that writes takes the version for it. -/
theorem Commits.counter {config : Config} {time : Time} {row row' : Credential} {operation : Operation}
    {wrote : Option (WriteRequest × Nat)} (h : Commits config time row operation wrote row') :
    row'.kvVersion = row.kvVersion ∨ ∃ req version, wrote = some (req, version) ∧ row'.kvVersion = some version := by
  cases h with
  | rotate _ | update _ _ =>
      refine .inr ⟨_, _, rfl, ?_⟩
      rw [written_promote]
  | stage _ _ =>
      refine .inr ⟨_, _, rfl, ?_⟩
      rw [written_stage]
  | promote _ | discard _ | edit _ => exact .inl rfl

omit library in
theorem Site.counter_found {s : Site} {pk : Nat} {row : Credential} (h : s.db.credentials pk = some row) :
    s.counter pk = row.kvVersion.getD 0 := by
  rw [counter, h]
  rfl

/-- A call of a material operation, whatever becomes of it. Where it moves the counter, it moves it above every
version the server had. -/
theorem Site.call_advances {pk : Nat} {l : Location} {s : Site} {c : Call} (h : s.LivesAt pk l)
    (hc : s.Handles pk c) : (s.step c).LivesAt pk l ∧ s.Advances pk (s.step c) ∧
      (s.Ordered pk → (s.step c).Ordered pk) ∧
      ((s.step c).counter pk ≠ s.counter pk → (s.ext.store l).secret.current < (s.step c).counter pk) := by
  obtain ⟨row, hrow, hat, hkv⟩ := h
  obtain ⟨hconfig, -, hstepped⟩ := Site.step_stepped hc.1 hrow
  cases hstepped with
  | kept attempts wrote mid ds hreached hissued hcredentials =>
      have hfound : (s.step c).db.credentials pk = some row := by
        rw [hcredentials]
        exact hrow.found
      refine ⟨⟨row, ⟨hfound, hrow.pk, hrow.engine⟩, hat, hconfig ▸ hkv⟩, ?_, ?_, ?_⟩
      · intro old new hold hnew
        obtain rfl := Option.some.inj (hrow.found.symm.trans hold)
        obtain rfl := Option.some.inj (hfound.symm.trans hnew)
        exact Nat.le_refl _
      · intro hordered new hnew
        rw [hcredentials] at hnew
        exact hordered new hnew
      · rw [Site.counter_found hfound, Site.counter_found hrow.found]
        exact fun hmoved => absurd rfl hmoved
  | committed attempts deletions wrote mid ds pk' row' hreached hissued hcommits hcredentials =>
      obtain ⟨rfl, hcommits⟩ := hcommits
      have hput : (s.step c).db.credentials pk' = some row' := by
        rw [hcredentials, Database.putCredential_self]
      obtain ⟨hpk, hlocation, hwhere⟩ := hcommits.material hc.2
      have hengine : row'.engineId = row.engineId := congrArg Location.engine hlocation
      have habove : ∀ req version, wrote = some (req, version) → req.cas.getD 0 < version := by
        intro req version hwrote
        have hreq : req.location = l := (hwhere req version hwrote).trans hat
        subst hwrote
        exact hreached.above (hreq ▸ hkv)
      obtain ⟨hraised, hkept⟩ := hcommits.ordered hc.2 habove
      refine ⟨⟨row', ⟨hput, hpk.trans hrow.pk, hengine ▸ hrow.engine⟩, hlocation.trans hat, hconfig ▸ hkv⟩, ?_, ?_, ?_⟩
      · intro old new hold hnew
        obtain rfl := Option.some.inj (hrow.found.symm.trans hold)
        obtain rfl := Option.some.inj (hput.symm.trans hnew)
        exact hraised
      · intro hordered new hnew
        obtain rfl := Option.some.inj (hput.symm.trans hnew)
        exact hkept (hordered row hrow.found)
      · rw [Site.counter_found hput, Site.counter_found hrow.found]
        intro hmoved
        rcases hcommits.counter with hsame | ⟨req, version, hwrote, hversion⟩
        · rw [hsame] at hmoved
          exact absurd rfl hmoved
        · have hreq : req.location = l := (hwhere req version hwrote).trans hat
          subst hwrote
          rw [hversion, ← hreq]
          exact hreached.newest (hreq ▸ hkv)

end

/-! ### The job -/

theorem CredentialVerifyJob.examine_quiet (credential : Credential) (published : Bool) :
    Steps (Quiet Database.SameRows) (CredentialVerifyJob.examine credential published) := by
  apply Steps.bind (query_quiet _)
  intro backend
  apply Steps.bind tick_quiet
  intro fault
  cases fault with
  | none => exact Steps.bind Steps.get fun w => Steps.resume _
  | refused | lost | commitFailed => exact Steps.throw _

theorem Backend.metadataCell_ok {b : Backend} {cell : Cell} {published : Bool} {current : Nat}
    (h : b.metadataCell cell published = .ok current) : current = cell.secret.current := by
  unfold metadataCell at h
  cases hkv : b.requireKv2 "Reading metadata" with
  | error e =>
      rw [hkv] at h
      cases h
  | ok _ =>
      rw [hkv] at h
      simp only [bind, Except.bind] at h
      split at h
      · cases h
      · exact (Except.ok.inj h).symm

theorem CredentialVerifyJob.examine_ok {credential : Credential} {published : Bool} {w w' : World} {current : Nat}
    (h : CredentialVerifyJob.examine credential published w = (.ok current, w')) :
    current = (w'.ext.store credential.location).secret.current := by
  obtain ⟨b, u, hget, h⟩ := bind_ok h
  obtain ⟨hengine, -, -⟩ := getBackend_ok hget
  obtain ⟨fault, v, -, h⟩ := bind_ok h
  cases fault with
  | none =>
      obtain ⟨x, y, hworld, h⟩ := bind_ok h
      cases hworld
      replace h : Prog.resume (b.metadataCell (v.ext.store (b.location credential.path)) published) v =
        (.ok current, w') := h
      have hcell : b.metadataCell (v.ext.store (b.location credential.path)) published = .ok current ∧ w' = v := by
        cases hrun : b.metadataCell (v.ext.store (b.location credential.path)) published with
        | error e =>
            rw [hrun] at h
            cases h
        | ok number =>
            rw [hrun] at h
            cases h
            exact ⟨rfl, rfl⟩
      obtain ⟨hcell, rfl⟩ := hcell
      have hlocation : b.location credential.path = credential.location := by
        rw [Backend.location, hengine, Credential.location]
      rw [hlocation] at hcell
      exact Backend.metadataCell_ok hcell
  | refused | lost | commitFailed => cases h

theorem CredentialVerifyJob.save_cases (pk : Nat) (credential : Credential) (current : Nat) {w : World}
    (hidle : w.conn.inAtomic = false) : (CredentialVerifyJob.save pk credential current w).2.db =
      if (w.env.fault w.clock).carriedOut then
        CredentialVerifyJob.updateRow w.db pk (CredentialVerifyJob.verifiedVersion credential current) w.env.now
      else w.db := by
  have hopen : w.conn.refuses = false := by simp [Connection.refuses, hidle]
  unfold CredentialVerifyJob.save
  rw [bind_run_ok (show now w = (.ok w.env.now, w) from rfl)]
  unfold statement
  dsimp only
  rw [show w.ticked.conn.refuses = false from hopen, if_neg Bool.false_ne_true]
  cases w.env.fault w.clock <;> rfl

theorem CredentialVerifyJob.save_ext (pk : Nat) (credential : Credential) (current : Nat) (w : World) :
    (CredentialVerifyJob.save pk credential current w).2.ext = w.ticked.ext := by
  unfold CredentialVerifyJob.save
  rw [bind_run_ok (show now w = (.ok w.env.now, w) from rfl)]
  unfold statement
  simp only
  split
  · rfl
  · split <;> rfl

section

variable [library : MaterialLibrary]

/-- Operations on the credential numbered `pk` that move its material, and any move of the job. -/
def JobSite.Admits (pk : Nat) (j : JobSite) : JobTurn → Prop
  | .call c => j.site.Handles pk c
  | .load _ | .examine .. | .save .. => True

/-- The counter of the row numbered `pk` does not go back. -/
def JobSite.Advances (pk : Nat) (j : JobSite) (turn : JobTurn) : Prop :=
  j.site.Advances pk (j.step turn).site

/-- A verification of the row numbered `pk` whose write back the server carries out has not been overtaken. -/
def JobSite.SavesPunctually (pk : Nat) (j : JobSite) (turn : JobTurn) : Prop :=
  ∀ index env acts v, turn = .save index env acts → j.checks[index]? = some v → v.pk = pk → v.current.isSome = true →
    (env.fault 0).carriedOut = true → v.overtaken = false

omit library in
theorem Site.same_row {pk : Nat} {l : Location} {s s' : Site} (hconfig : s'.db.config = s.db.config)
    (hsame : s'.db.credentials pk = s.db.credentials pk) :
    (s.LivesAt pk l → s'.LivesAt pk l) ∧ s.Advances pk s' ∧ (s.Ordered pk → s'.Ordered pk) := by
  refine ⟨?_, ?_, ?_⟩
  · rintro ⟨row, hrow, hat, hkv⟩
    exact ⟨row, ⟨hsame.trans hrow.found, hrow.pk, hrow.engine⟩, hat, hconfig ▸ hkv⟩
  · intro old new hold hnew
    rw [hsame, hold] at hnew
    obtain rfl := Option.some.inj hnew
    exact Nat.le_refl _
  · intro hordered new hnew
    exact hordered new (hsame ▸ hnew)

omit library in
theorem JobSite.examine_same (j : JobSite) (index : Nat) (published : Bool) (env : Env) (acts : Nat → List Act) :
    (j.examine index published env acts).site.db.config = j.site.db.config ∧
      (j.examine index published env acts).site.db.credentials = j.site.db.credentials := by
  unfold JobSite.examine
  split
  · next pk credential _ _ =>
      have hquiet := CredentialVerifyJob.examine_quiet credential published (j.site.start env acts)
      exact ⟨hquiet.db.config, hquiet.db.credentials⟩
  · exact ⟨rfl, rfl⟩

omit library in
theorem JobSite.load_site (j : JobSite) (pk : Nat) : (j.load pk).site = j.site := by
  unfold JobSite.load
  split <;> rfl

omit library in
theorem JobSite.save_cases (j : JobSite) (index : Nat) (env : Env) (acts : Nat → List Act) (pk : Nat) :
    (j.save index env acts).site.db.config = j.site.db.config ∧
      (((j.save index env acts).site.db.credentials pk = j.site.db.credentials pk ∧
          ∀ v, j.checks[index]? = some v → v.pk = pk → v.current.isSome = true →
            (j.site.db.credentials pk).isSome = true → (env.fault 0).carriedOut = false) ∨
        ∃ credential current overtaken row, (env.fault 0).carriedOut = true ∧
          j.checks[index]? = some ⟨pk, credential, some current, overtaken⟩ ∧
          j.site.db.credentials pk = some row ∧ (j.save index env acts).site.db.credentials pk = some
            { row with
              kvVersion := CredentialVerifyJob.verifiedVersion credential current
              lastVerified := some env.now }) := by
  unfold JobSite.save
  split
  · next pk' credential current overtaken hcheck =>
      have hdb : (CredentialVerifyJob.save pk' credential current (j.site.start env acts)).2.site.db =
          if (env.fault 0).carriedOut then CredentialVerifyJob.updateRow j.site.db pk'
            (CredentialVerifyJob.verifiedVersion credential current) env.now else j.site.db :=
        CredentialVerifyJob.save_cases pk' credential current (w := j.site.start env acts) rfl
      simp only [hdb]
      cases hcarried : (env.fault 0).carriedOut with
      | false => exact ⟨rfl, .inl ⟨rfl, fun _ _ _ _ _ => rfl⟩⟩
      | true =>
          simp only [if_true]
          unfold CredentialVerifyJob.updateRow
          cases hrow : j.site.db.credentials pk' with
          | none =>
              refine ⟨rfl, .inl ⟨rfl, fun v hv hpk _ hfound => ?_⟩⟩
              obtain rfl := Option.some.inj (hcheck.symm.trans hv)
              obtain rfl : pk' = pk := hpk
              rw [hrow] at hfound
              cases hfound
          | some row =>
              refine ⟨rfl, ?_⟩
              by_cases hpk : pk = pk'
              · subst hpk
                exact .inr ⟨credential, current, overtaken, row, trivial, hcheck, hrow, Database.putCredential_self _ _ _⟩
              · refine .inl ⟨Database.putCredential_of_ne _ _ hpk, fun v hv hat _ _ => ?_⟩
                obtain rfl := Option.some.inj (hcheck.symm.trans hv)
                exact absurd hat.symm hpk
  · next hother =>
      refine ⟨rfl, .inl ⟨rfl, fun v hv _ hanswered _ => ?_⟩⟩
      obtain ⟨pk', credential, current, overtaken⟩ := v
      obtain ⟨number, rfl⟩ := Option.isSome_iff_exists.mp hanswered
      exact absurd hv (hother _ _ _ _)

/-! ### Verifications in progress -/

omit library in
/-- A verification of a credential that lives at `l`: the instance it loaded is not ahead of the counter, nor its
answer of the server, and it has been overtaken exactly if it would take the counter back. -/
structure Verification.Tracks (l : Location) (s : Site) (v : Verification) : Prop where
  location : v.credential.location = l
  loaded : v.credential.kvVersion.getD 0 ≤ s.counter v.pk
  answered : ∀ current, v.current = some current → current ≤ (s.ext.store l).secret.current
  overtaken : v.current.isSome = true → (v.overtaken = true ↔ v.number < s.counter v.pk)

/-- The verifications of the row numbered `pk` are such. -/
structure JobSite.Tracked (pk : Nat) (l : Location) (j : JobSite) : Prop where
  lives : j.site.LivesAt pk l
  checks : ∀ v ∈ j.checks, v.pk = pk → v.Tracks l j.site

omit library in
theorem Verification.Tracks.mono {l : Location} {s s' : Site} {v : Verification} (h : v.Tracks l s)
    (hcounter : s'.counter v.pk = s.counter v.pk) (hlater : s.ext.Later s'.ext) : v.Tracks l s' where
  location := h.location
  loaded := hcounter ▸ h.loaded
  answered current hcurrent := Nat.le_trans (h.answered current hcurrent) (hlater l).current
  overtaken := hcounter ▸ h.overtaken

omit library in
/-- What a verification writes is its answer, or for want of a version the counter it loaded. -/
theorem Verification.number_lt {v : Verification} {current bound : Nat} (hcurrent : v.current = some current)
    (hanswer : current < bound) (hloaded : v.credential.kvVersion.getD 0 < bound) : v.number < bound := by
  rw [number, hcurrent]
  dsimp only
  unfold CredentialVerifyJob.verifiedVersion
  split
  · exact hloaded
  · exact hanswer

omit library in
theorem Verification.Tracks.afterCall {l : Location} {s s' : Site} {v : Verification} (h : v.Tracks l s)
    (hlater : s.ext.Later s'.ext) (hadvances : s.counter v.pk ≤ s'.counter v.pk)
    (hmoved : s'.counter v.pk ≠ s.counter v.pk → (s.ext.store l).secret.current < s'.counter v.pk) :
    (v.afterCall s s').Tracks l s' := by
  by_cases hsame : s'.counter v.pk = s.counter v.pk
  · have hmark : v.afterCall s s' = v := by
      simp [Verification.afterCall, hsame]
    rw [hmark]
    exact h.mono hsame hlater
  · refine ⟨h.location, Nat.le_trans h.loaded hadvances,
      fun current hcurrent => Nat.le_trans (h.answered current hcurrent) (hlater l).current, fun hanswered => ?_⟩
    obtain ⟨current, hcurrent⟩ := Option.isSome_iff_exists.mp hanswered
    have hlt : s.counter v.pk < s'.counter v.pk := Nat.lt_of_le_of_ne hadvances (Ne.symm hsame)
    have hnumber : v.number < s'.counter v.pk := Verification.number_lt hcurrent
      (Nat.lt_of_le_of_lt (h.answered current hcurrent) (hmoved hsame)) (Nat.lt_of_le_of_lt h.loaded hlt)
    refine iff_of_true ?_ hnumber
    simp [Verification.afterCall, hsame]

omit library in
theorem Verification.Tracks.afterSave {l : Location} {s s' : Site} {other v : Verification} (h : v.Tracks l s)
    (hpk : v.pk = other.pk) (hlater : s.ext.Later s'.ext) (hcounter : s'.counter v.pk = other.number)
    (hadvances : s.counter v.pk ≤ s'.counter v.pk) : (Verification.afterSave true other v).Tracks l s' := by
  refine ⟨h.location, Nat.le_trans h.loaded hadvances,
    fun current hcurrent => Nat.le_trans (h.answered current hcurrent) (hlater l).current, fun hanswered => ?_⟩
  have hmark : (Verification.afterSave true other v).overtaken = true ↔ v.overtaken = true ∨ v.number < other.number := by
    simp [Verification.afterSave, hpk]
  show (Verification.afterSave true other v).overtaken = true ↔ v.number < s'.counter v.pk
  rw [hmark, h.overtaken hanswered, hcounter]
  rw [hcounter] at hadvances
  omega

omit library in
/-- A write back of another row, or one that is not carried out, overtakes nothing here. -/
theorem Verification.afterSave_other {written : Bool} {other v : Verification}
    (h : written = false ∨ v.pk ≠ other.pk) : Verification.afterSave written other v = v := by
  have hmark : (written && v.pk == other.pk && decide (v.number < other.number)) = false := by
    rcases h with rfl | hne
    · rfl
    · simp [hne]
  rw [Verification.afterSave, hmark, Bool.or_false]

omit library in
theorem Site.LivesAt.advances_iff {pk : Nat} {l l' : Location} {s s' : Site} (h : s.LivesAt pk l)
    (h' : s'.LivesAt pk l') : s.Advances pk s' ↔ s.counter pk ≤ s'.counter pk := by
  obtain ⟨row, hrow, -⟩ := h
  obtain ⟨row', hrow', -⟩ := h'
  rw [Site.counter_found hrow.found, Site.counter_found hrow'.found]
  constructor
  · intro hadvances
    exact hadvances row row' hrow.found hrow'.found
  · intro hle old new hold hnew
    obtain rfl := Option.some.inj (hrow.found.symm.trans hold)
    obtain rfl := Option.some.inj (hrow'.found.symm.trans hnew)
    exact hle

/-- One turn leaves the credential where it is, and an ordered row ordered unless it takes the counter back. -/
theorem JobSite.step_lives {pk : Nat} {l : Location} {j : JobSite} {turn : JobTurn}
    (h : j.site.LivesAt pk l) (hturn : j.Admits pk turn) : (j.step turn).site.LivesAt pk l ∧
      (j.Advances pk turn → j.site.Ordered pk → (j.step turn).site.Ordered pk) := by
  cases turn with
  | call c =>
      obtain ⟨hlives, -, hordered, -⟩ := Site.call_advances h hturn
      exact ⟨hlives, fun _ => hordered⟩
  | load pk' =>
      have hsite := j.load_site pk'
      obtain ⟨hlives, -, hordered⟩ := Site.same_row (l := l) (s := j.site)
        (congrArg (fun s : Site => s.db.config) hsite) (congrArg (fun s : Site => s.db.credentials pk) hsite)
      exact ⟨hlives h, fun _ => hordered⟩
  | examine index published env acts =>
      obtain ⟨hconfig, hcredentials⟩ := j.examine_same index published env acts
      obtain ⟨hlives, -, hordered⟩ := Site.same_row (l := l) hconfig (congrFun hcredentials pk)
      exact ⟨hlives h, fun _ => hordered⟩
  | save index env acts =>
      obtain ⟨hconfig, hsave⟩ := j.save_cases index env acts pk
      rcases hsave with ⟨hsame, -⟩ | ⟨credential, current, overtaken, row, -, -, hfound, hsaved⟩
      · obtain ⟨hlives, -, hordered⟩ := Site.same_row (l := l) hconfig hsame
        exact ⟨hlives h, fun _ => hordered⟩
      · obtain ⟨row', hrow, hat, hkv⟩ := h
        obtain rfl := Option.some.inj (hfound.symm.trans hrow.found)
        refine ⟨⟨_, ⟨hsaved, hrow.pk, hrow.engine⟩, hat, hconfig ▸ hkv⟩, fun hadvances hordered new hnew => ?_⟩
        obtain ⟨hlive, hstaged⟩ := hordered row hfound
        have hraised := hadvances row new hfound hnew
        obtain rfl := Option.some.inj (hsaved.symm.trans hnew)
        exact ⟨Nat.le_trans hlive hraised, Nat.le_trans hstaged hraised⟩

/-- A write back takes the counter back exactly if it is carried out for an overtaken verification. -/
theorem JobSite.Tracked.save_advances_iff {pk : Nat} {l : Location} {j : JobSite} (h : j.Tracked pk l) (index : Nat)
    (env : Env) (acts : Nat → List Act) :
    j.Advances pk (.save index env acts) ↔ j.SavesPunctually pk (.save index env acts) := by
  obtain ⟨row, hrow, -⟩ := h.lives
  obtain ⟨hconfig, ⟨hsame, hlost⟩ | ⟨credential, current, overtaken, found, hcarried, hcheck, hfound, hsaved⟩⟩ :=
    j.save_cases index env acts pk
  · refine iff_of_true (Site.same_row (l := l) hconfig hsame).2.1 ?_
    intro index' env' acts' v hturn' hcheck hpk hanswered hcarried
    obtain ⟨rfl, rfl, rfl⟩ := JobTurn.save.inj hturn'
    rw [hlost v hcheck hpk hanswered (Option.isSome_of_eq_some hrow.found)] at hcarried
    cases hcarried
  · have htracks := h.checks _ (List.mem_of_getElem? hcheck) rfl
    have hmark : overtaken = true ↔
        (CredentialVerifyJob.verifiedVersion credential current).getD 0 < found.kvVersion.getD 0 := by
      rw [← Site.counter_found hfound]
      exact htracks.overtaken rfl
    constructor
    · intro hadvances index' env' acts' v hturn' hcheck' _ _ _
      obtain ⟨rfl, rfl, rfl⟩ := JobTurn.save.inj hturn'
      obtain rfl := Option.some.inj (hcheck.symm.trans hcheck')
      have hle := hadvances found _ hfound hsaved
      refine Bool.eq_false_iff.mpr fun htaken => ?_
      exact absurd (hmark.mp htaken) (Nat.not_lt.mpr hle)
    · intro hpunctual old new hold hnew
      obtain rfl := Option.some.inj (hfound.symm.trans hold)
      obtain rfl := Option.some.inj (hsaved.symm.trans hnew)
      have htaken := hpunctual index env acts _ rfl hcheck rfl rfl hcarried
      refine Nat.not_lt.mp fun hlt => ?_
      rw [show overtaken = true from hmark.mpr hlt] at htaken
      cases htaken

theorem JobSite.Tracked.advances_iff {pk : Nat} {l : Location} {j : JobSite} {turn : JobTurn}
    (h : j.Tracked pk l) (hturn : j.Admits pk turn) : j.Advances pk turn ↔ j.SavesPunctually pk turn := by
  cases turn with
  | call c =>
      refine iff_of_true (Site.call_advances h.lives hturn).2.1 ?_
      intro index env acts v hsave
      cases hsave
  | load pk' =>
      have hsite := j.load_site pk'
      refine iff_of_true (Site.same_row (l := l) (s := j.site) (congrArg (fun s : Site => s.db.config) hsite)
        (congrArg (fun s : Site => s.db.credentials pk) hsite)).2.1 ?_
      intro index env acts v hsave
      cases hsave
  | examine index published env acts =>
      obtain ⟨hconfig, hcredentials⟩ := j.examine_same index published env acts
      refine iff_of_true (Site.same_row (l := l) hconfig (congrFun hcredentials pk)).2.1 ?_
      intro index env acts v hsave
      cases hsave
  | save index env acts => exact h.save_advances_iff index env acts

omit library in
theorem JobSite.examine_later (j : JobSite) (index : Nat) (published : Bool) (env : Env) (acts : Nat → List Act) :
    j.site.ext.Later (j.examine index published env acts).site.ext := by
  unfold JobSite.examine
  split
  · next pk credential _ _ =>
      exact (CredentialVerifyJob.examine_quiet credential published (j.site.start env acts)).ext.later
  · exact .refl _

omit library in
theorem JobSite.save_later (j : JobSite) (index : Nat) (env : Env) (acts : Nat → List Act) :
    j.site.ext.Later (j.save index env acts).site.ext := by
  unfold JobSite.save
  split
  · next pk credential current _ _ =>
      have hext : (CredentialVerifyJob.save pk credential current (j.site.start env acts)).2.ext =
          (j.site.start env acts).ticked.ext := CredentialVerifyJob.save_ext ..
      show j.site.ext.Later (CredentialVerifyJob.save pk credential current (j.site.start env acts)).2.ext
      rw [hext]
      exact (Interference.ticked (j.site.start env acts)).later
  · exact .refl _

omit library in
/-- An answer joins the instance it is about; the other verifications are as they were, or one is given up. -/
theorem JobSite.examine_checks (j : JobSite) (index : Nat) (published : Bool) (env : Env) (acts : Nat → List Act)
    (v : Verification) (hv : v ∈ (j.examine index published env acts).checks) :
    v ∈ j.checks ∨ ∃ pk credential overtaken current, j.checks[index]? = some ⟨pk, credential, none, overtaken⟩ ∧
      v = ⟨pk, credential, some current, decide
        (Verification.number ⟨pk, credential, some current, false⟩ < j.site.counter pk)⟩ ∧
      current = ((j.examine index published env acts).site.ext.store credential.location).secret.current := by
  unfold JobSite.examine at hv ⊢
  split at hv
  · next pk credential overtaken hcheck =>
      rw [hcheck]
      dsimp only at hv ⊢
      match hrun : CredentialVerifyJob.examine credential published (j.site.start env acts) with
      | (.error e, w) =>
          rw [hrun] at hv
          exact .inl (List.mem_of_mem_eraseIdx hv)
      | (.ok current, w) =>
          rw [hrun] at hv
          rcases List.mem_or_eq_of_mem_set hv with hmem | hnew
          · exact .inl hmem
          · exact .inr ⟨pk, credential, overtaken, current, rfl, hnew, CredentialVerifyJob.examine_ok hrun⟩
  · exact .inl hv

omit library in
theorem JobSite.save_checks (j : JobSite) (index : Nat) (env : Env) (acts : Nat → List Act) (v : Verification)
    (hv : v ∈ (j.save index env acts).checks) : (v ∈ j.checks ∧ (j.save index env acts).site = j.site) ∨
      ∃ other w, j.checks[index]? = some other ∧ other.current.isSome = true ∧ w ∈ j.checks ∧
        v = Verification.afterSave (env.fault 0).carriedOut other w := by
  unfold JobSite.save at hv ⊢
  split at hv
  · next pk credential current overtaken hcheck =>
      obtain ⟨w, hw, rfl⟩ := List.mem_map.mp hv
      exact .inr ⟨_, w, hcheck, rfl, List.mem_of_mem_eraseIdx hw, rfl⟩
  · exact .inl ⟨hv, rfl⟩

omit library in
theorem JobSite.Tracked.afterLoad {pk : Nat} {l : Location} {j : JobSite} (h : j.Tracked pk l) (pk' : Nat) :
    ∀ v ∈ (j.load pk').checks, v.pk = pk → v.Tracks l (j.load pk').site := by
  intro v hv hpk
  rw [j.load_site pk']
  unfold JobSite.load at hv
  split at hv
  · next row hfound =>
      rcases List.mem_append.mp hv with hold | hnew
      · exact h.checks v hold hpk
      · obtain rfl := List.mem_singleton.mp hnew
        obtain rfl : pk' = pk := hpk
        obtain ⟨row', hrow, hat, -⟩ := h.lives
        obtain rfl := Option.some.inj (hfound.symm.trans hrow.found)
        exact ⟨hat, Nat.le_of_eq (Site.counter_found hfound).symm, nofun, nofun⟩
  · exact h.checks v hv hpk

omit library in
theorem JobSite.Tracked.afterExamine {pk : Nat} {l : Location} {j : JobSite} (h : j.Tracked pk l) (index : Nat)
    (published : Bool) (env : Env) (acts : Nat → List Act) :
    ∀ v ∈ (j.examine index published env acts).checks, v.pk = pk →
      v.Tracks l (j.examine index published env acts).site := by
  have hcredentials := (j.examine_same index published env acts).2
  have hcounter : ∀ pk', (j.examine index published env acts).site.counter pk' = j.site.counter pk' := by
    intro pk'
    rw [Site.counter, hcredentials, Site.counter]
  intro v hv hpk
  rcases j.examine_checks index published env acts v hv with hmem | ⟨pk', credential, o, current, hcheck, hv, hanswer⟩
  · exact (h.checks v hmem hpk).mono (hcounter v.pk) (j.examine_later index published env acts)
  · subst hv
    have hbefore := h.checks _ (List.mem_of_getElem? hcheck) hpk
    have hlocation : credential.location = l := hbefore.location
    refine ⟨hlocation, ?_, fun number hnumber => ?_, fun _ => ?_⟩
    · rw [hcounter]
      exact hbefore.loaded
    · obtain rfl := Option.some.inj hnumber
      rw [← hlocation]
      exact Nat.le_of_eq hanswer
    · rw [hcounter]
      exact decide_eq_true_iff

omit library in
theorem JobSite.Tracked.afterSave {pk : Nat} {l : Location} {j : JobSite} (h : j.Tracked pk l) (index : Nat)
    (env : Env) (acts : Nat → List Act)
    (hadvances : j.site.counter pk ≤ (j.save index env acts).site.counter pk) :
    ∀ v ∈ (j.save index env acts).checks, v.pk = pk → v.Tracks l (j.save index env acts).site := by
  intro v hv hpk
  have hlater := j.save_later index env acts
  rcases j.save_checks index env acts v hv with ⟨hmem, hsite⟩ | ⟨other, w, hcheck, hanswered, hmem, rfl⟩
  · rw [hsite]
    exact h.checks v hmem hpk
  · replace hpk : w.pk = pk := hpk
    have hbefore := h.checks w hmem hpk
    obtain ⟨row, hrow, -⟩ := h.lives
    obtain ⟨-, ⟨hsame, hlost⟩ | ⟨credential, current, overtaken, found, hcarried, hcheck', hfound, hsaved⟩⟩ :=
      j.save_cases index env acts pk
    · -- the row is as it was, so the write back was another row's or was not carried out
      have hother : (env.fault 0).carriedOut = false ∨ w.pk ≠ other.pk := by
        by_cases hat : other.pk = pk
        · exact .inl (hlost other hcheck hat hanswered (Option.isSome_of_eq_some hrow.found))
        · exact .inr fun heq => hat (heq.symm.trans hpk)
      rw [Verification.afterSave_other hother]
      refine hbefore.mono ?_ hlater
      rw [hpk, Site.counter, hsame, Site.counter]
    · obtain rfl := Option.some.inj (hcheck'.symm.trans hcheck)
      rw [hcarried]
      refine hbefore.afterSave hpk hlater ?_ (hpk ▸ hadvances)
      rw [hpk]
      exact Site.counter_found hsaved

/-- A turn that does not take the counter back keeps the verifications in step with it. -/
theorem JobSite.Tracked.step {pk : Nat} {l : Location} {j : JobSite} {turn : JobTurn} (h : j.Tracked pk l)
    (hturn : j.Admits pk turn) (hadvances : j.Advances pk turn) : (j.step turn).Tracked pk l := by
  have hlives := (JobSite.step_lives h.lives hturn).1
  have hle : j.site.counter pk ≤ (j.step turn).site.counter pk := (h.lives.advances_iff hlives).mp hadvances
  refine ⟨hlives, ?_⟩
  cases turn with
  | call c =>
      intro v hv hpk
      obtain ⟨w, hw, rfl⟩ := List.mem_map.mp hv
      obtain ⟨row, hrow, -⟩ := h.lives
      have hmoved := (Site.call_advances h.lives hturn).2.2.2
      have hlater := (Site.step_moved hturn.1 hrow).2.1
      obtain rfl : w.pk = pk := hpk
      exact (h.checks w hw rfl).afterCall hlater hle hmoved
  | load pk' => exact h.afterLoad pk'
  | examine index published env acts => exact h.afterExamine index published env acts
  | save index env acts => exact h.afterSave index env acts hle

/-- Operations that move the material of a credential on a KV v2 engine, and any number of verifications that
load the row, are answered and write back whenever they like: the counter of the row never goes back and never
falls below its pointers, if and only if no verification writes back after a rotation or a staging has committed, or
another verification has written a higher number, since the server answered it with no less than the counter. -/
theorem verification_keeps_counter_iff_punctual (pk : Nat) (l : Location) (j : JobSite) (turns : List JobTurn)
    (hlives : j.site.LivesAt pk l) (hordered : j.site.Ordered pk) (hstart : j.checks = [])
    (hturns : Runs.Along JobSite.step (JobSite.Admits pk) j turns) :
    Runs.Throughout JobSite.step (fun j => j.site.Ordered pk) j turns ∧
        Runs.Along JobSite.step (JobSite.Advances pk) j turns ↔
      Runs.Along JobSite.step (JobSite.SavesPunctually pk) j turns := by
  have htracked : j.Tracked pk l := ⟨hlives, by simp [hstart]⟩
  have hiff : Runs.Along JobSite.step (JobSite.Advances pk) j turns ↔
      Runs.Along JobSite.step (JobSite.SavesPunctually pk) j turns :=
    Runs.along_iff_along_of_kept (I := JobSite.Tracked pk l) (fun k turn hk hturn => hk.step hturn)
      (fun k turn hk hturn => hk.advances_iff hturn) htracked hturns
  constructor
  · intro h
    exact hiff.mp h.2
  · intro h
    have hadvances := hiff.mpr h
    have hboth : Runs.Throughout JobSite.step (fun j => j.site.LivesAt pk l ∧ j.site.Ordered pk) j turns := by
      apply Runs.throughout_of_along _ ⟨hlives, hordered⟩ (hturns.and hadvances)
      intro k turn hk hturn
      obtain ⟨hnext, hkept⟩ := JobSite.step_lives hk.1 hturn.1
      exact ⟨hnext, hkept hturn.2 hk.2⟩
    exact ⟨hboth.mono fun k hk => hk.2, hadvances⟩

end

namespace Sample

/-- A verification is answered, a rotation commits, and the answer is written back. -/
def crossing : List JobTurn :=
  [.load 1, .examine 0 true calm noActs, .call rotateInUse, .save 0 calm noActs]

/-- A verification that loads the row before the rotation is answered after it, and writes back. -/
def punctual : List JobTurn := [.load 1, .call rotateInUse, .examine 0 true calm noActs, .save 0 calm noActs]

theorem inUse_lives : office.LivesAt 1 location := ⟨inUse, ⟨rfl, rfl, by decide⟩, rfl, config_kv2 1⟩

theorem inUse_ordered : office.Ordered 1 := by
  intro row hrow
  obtain rfl : inUse = row := Option.some.inj hrow
  exact ⟨Nat.le_refl _, Nat.zero_le _⟩

end Sample

theorem verification_keeps_counter_iff_punctual_answered :
    (Runs.Throughout (@JobSite.step Sample.library) (fun j => j.site.Ordered 1) ⟨Sample.office, []⟩
        Sample.punctual ∧
      Runs.Along (@JobSite.step Sample.library) (@JobSite.Advances Sample.library 1) ⟨Sample.office, []⟩
        Sample.punctual) ∧
    ((Runs.final (@JobSite.step Sample.library) ⟨Sample.office, []⟩ Sample.punctual).site.db.credentials 1).map
      (fun row => (row.kvVersion, row.lastVerified.isSome)) = some (some 2, true) := by
  have hmarks : ((Runs.final (@JobSite.step Sample.library) ⟨Sample.office, []⟩
      [.load 1, .call Sample.rotateInUse, .examine 0 true Sample.calm Sample.noActs]).checks.map
        Verification.overtaken) = [false] := by
    decide +kernel
  refine ⟨?_, by decide +kernel⟩
  apply (@verification_keeps_counter_iff_punctual Sample.library 1 Sample.location ⟨Sample.office, []⟩
    Sample.punctual Sample.inUse_lives Sample.inUse_ordered rfl
    ⟨trivial, ⟨.rotate rfl _ _ _, trivial⟩, trivial, trivial, trivial⟩).mpr
  refine ⟨?_, ?_, ?_, ?_, trivial⟩ <;> intro index env acts v hturn <;> cases hturn
  intro hcheck _ _ _
  have hmem := List.mem_map_of_mem (f := Verification.overtaken) (List.mem_of_getElem? hcheck)
  have hmem : v.overtaken ∈ [false] := hmarks ▸ hmem
  exact List.mem_singleton.mp hmem

/-- The counter goes back from 2 to 1, below the live version. -/
theorem verification_takes_counter_back :
    ((Runs.final (@JobSite.step Sample.library) ⟨Sample.office, []⟩
      [.load 1, .examine 0 true Sample.calm Sample.noActs, .call Sample.rotateInUse]).site.db.credentials 1).map
        (fun row => (row.kvVersion, row.liveKvVersion)) = some (some 2, some 2) ∧
    ((Runs.final (@JobSite.step Sample.library) ⟨Sample.office, []⟩ Sample.crossing).site.db.credentials 1).map
        (fun row => (row.kvVersion, row.liveKvVersion)) = some (some 1, some 2) ∧
    ¬ Runs.Throughout (@JobSite.step Sample.library) (fun j => j.site.Ordered 1) ⟨Sample.office, []⟩
      Sample.crossing := by
  have hback : ((Runs.final (@JobSite.step Sample.library) ⟨Sample.office, []⟩
      Sample.crossing).site.db.credentials 1).map (fun row => (row.kvVersion, row.liveKvVersion)) =
      some (some 1, some 2) := by
    decide +kernel
  refine ⟨by decide +kernel, hback, fun h => ?_⟩
  obtain ⟨row, hrow, heq⟩ := Option.map_eq_some_iff.mp hback
  obtain ⟨hkv, hlive⟩ := Prod.mk.inj heq
  have hordered := (h.final row hrow).live
  rw [hkv, hlive] at hordered
  exact absurd hordered (by decide)

end NetboxOpenbao
