import NetboxOpenbao.Proof.Versions
import NetboxOpenbao.Effect.Runs

/-!
# The key identity is bound to its version

Automation authorizes a reveal by the fingerprint beside the live version. In every committed state that
fingerprint, and the staged one, belongs to the version its pointer names: it is the SSH fingerprint of what
was written as exactly that version.
-/

namespace NetboxOpenbao

open Effect

section

variable [library : MaterialLibrary]

/-- The fingerprint is derived from what was written as this version. -/
def Derived (secret : Secret Payload) (version : Nat) (fingerprint : String) : Prop :=
  ∃ data, secret.written version = some data ∧ sshFingerprintOf data = .ok fingerprint

/-- Each key version is unset or the version its pointer names, with the fingerprint of that version. A row
from before key versions were recorded has neither. -/
structure Credential.KeyBound (row : Credential) (secret : Secret Payload) : Prop where
  live : ∀ v, row.liveKeyVersion = some v →
    row.liveKvVersion = some v ∧ Derived secret v row.liveKeyFingerprint
  staged : ∀ v, row.stagedKeyVersion = some v →
    row.stagedKvVersion = some v ∧ Derived secret v row.stagedKeyFingerprint

theorem Derived.later {secret secret' : Secret Payload} {version : Nat} {fingerprint : String}
    (h : Derived secret version fingerprint) (hlater : secret.Later secret') :
    Derived secret' version fingerprint := by
  obtain ⟨data, hwritten, hfingerprint⟩ := h
  exact ⟨data, hlater.written_some hwritten, hfingerprint⟩

theorem Prepared.derived {config : Config} {credentialType : String} {payload data : Payload}
    {metadata : Metadata} {fingerprint : String}
    (h : Prepared config credentialType payload data metadata fingerprint) {secret : Secret Payload}
    {version : Nat} (hwritten : secret.written version = some data) (hne : fingerprint ≠ "") :
    Derived secret version fingerprint := by
  refine ⟨data, hwritten, ?_⟩
  have hidentity := h.identity
  unfold deriveKeyFingerprint at hidentity
  cases huses : usesSshIdentity config credentialType with
  | error e =>
      rw [huses] at hidentity
      cases hidentity
  | ok uses =>
      rw [huses] at hidentity
      cases uses with
      | true => exact hidentity
      | false =>
          cases hidentity
          exact absurd rfl hne

namespace Credential.KeyBound

variable {row : Credential} {secret : Secret Payload}

theorem later {secret' : Secret Payload} (h : row.KeyBound secret) (hlater : secret.Later secret') :
    row.KeyBound secret' where
  live v hv := ⟨(h.live v hv).1, (h.live v hv).2.later hlater⟩
  staged v hv := ⟨(h.staged v hv).1, (h.staged v hv).2.later hlater⟩

theorem written {c : Credential} {fingerprint : String} {version : Nat} {action : AccessAction} {time : Time}
    (hderived : fingerprint ≠ "" → Derived secret version fingerprint) :
    (NetboxOpenbao.written c fingerprint version true action time).1.KeyBound secret := by
  rw [written_promote]
  refine ⟨fun v hv => ?_, fun v hv => ?_⟩
  · by_cases hempty : fingerprint = ""
    · simp [hempty] at hv
    · simp only [hempty, if_false, Option.some.injEq] at hv
      subst hv
      exact ⟨rfl, hderived hempty⟩
  · cases hv

theorem stage {c : Credential} (h : c.KeyBound secret) {fingerprint : String} {version : Nat} {time : Time}
    (hderived : fingerprint ≠ "" → Derived secret version fingerprint) :
    (NetboxOpenbao.written c fingerprint version false .stage time).1.KeyBound secret := by
  rw [written_stage]
  refine ⟨h.live, fun v hv => ?_⟩
  by_cases hempty : fingerprint = ""
  · simp [hempty] at hv
  · simp only [hempty, if_false, Option.some.injEq] at hv
    subst hv
    exact ⟨rfl, hderived hempty⟩

/-- Pinning sets a live pointer only where there was none, and then no key version was bound to it. -/
theorem pinned (h : row.KeyBound secret) : (NetboxOpenbao.pinned row).KeyBound secret := by
  unfold NetboxOpenbao.pinned
  split
  · next hpin =>
      simp only [Bool.and_eq_true, Option.isNone_iff_eq_none] at hpin
      refine ⟨fun v hv => ?_, h.staged⟩
      have hlive := (h.live v hv).1
      rw [hpin.1] at hlive
      cases hlive
  · exact h

/-- A promotion moves the staged fingerprint together with its version. -/
theorem promoted (h : row.KeyBound secret) (time : Time) :
    (NetboxOpenbao.promoted row time).1.KeyBound secret := by
  rw [promoted_eq]
  refine ⟨fun v hv => ?_, fun v hv => ?_⟩
  · by_cases hempty : promotedFingerprint row = ""
    · simp [hempty] at hv
    · simp only [hempty, if_false] at hv
      have hbelongs : row.stagedKeyVersion = row.stagedKvVersion := by
        unfold promotedFingerprint at hempty
        split at hempty
        · next heq => exact heq
        · exact absurd rfl hempty
      have hfingerprint : promotedFingerprint row = row.stagedKeyFingerprint := by
        simp [promotedFingerprint, hbelongs]
      refine ⟨hv, ?_⟩
      rw [hfingerprint]
      exact (h.staged v (hbelongs.trans hv)).2
  · cases hv

theorem discarded (h : row.KeyBound secret) : (NetboxOpenbao.discarded row).1.KeyBound secret := by
  rw [discarded_eq]
  exact ⟨h.live, fun v hv => by cases hv⟩

theorem commits {config : Config} {time : Time} {operation : Operation}
    {wrote : Option (WriteRequest × Nat)} {row' : Credential} (h : row.KeyBound secret)
    (hcommits : Commits config time row operation wrote row')
    (hwritten : ∀ req version, wrote = some (req, version) → secret.written version = some req.data) :
    row'.KeyBound secret := by
  cases hcommits with
  | rotate hprepared => exact written (hprepared.derived (hwritten _ _ rfl))
  | @stage _ _ _ _ _ metadata _ _ _ hprepared =>
      have hpinned : (withMetadata (NetboxOpenbao.pinned row) metadata).KeyBound secret :=
        ⟨h.pinned.live, h.pinned.staged⟩
      exact hpinned.stage (hprepared.derived (hwritten _ _ rfl))
  | promote _ => exact h.promoted time
  | discard _ => exact h.discarded
  | edit _ => exact ⟨h.live, h.staged⟩
  | update hprepared _ => exact written (hprepared.derived (hwritten _ _ rfl))

end Credential.KeyBound

/-! ### Runs -/

/-- The row numbered `pk`, if there is one, is on this engine with its key identity bound. -/
def Site.KeyBound (pk engine : Nat) (s : Site) : Prop :=
  ∀ row, s.db.credentials pk = some row →
    s.Row pk row ∧ row.engineId = engine ∧ row.KeyBound (s.ext.store row.location).secret

/-- The call creates a credential, or is an operation on the one numbered `pk`, by an instance loaded from its
row at any time; and it leaves the credential on its engine. -/
structure Site.OnEngine (pk engine : Nat) (s : Site) (c : Call) : Prop where
  operation : c.operation.held = none ∨ ∃ row, s.db.credentials pk = some row ∧ c.operation.On pk ∧
    ∀ held, c.operation.held = some held → held.path = row.path
  stays : ∀ row, (s.step c).db.credentials pk = some row → row.engineId = engine

theorem Site.KeyBound.idle {pk engine : Nat} {s s' : Site} (h : s.KeyBound pk engine)
    (hlater : s.ext.Later s'.ext) (hsame : s'.db.credentials pk = s.db.credentials pk) :
    s'.KeyBound pk engine := by
  intro row hrow
  obtain ⟨hfound, hengine, hbound⟩ := h row (hsame ▸ hrow)
  exact ⟨⟨hrow, hfound.pk, hfound.engine⟩, hengine, hbound.later (hlater _)⟩

theorem createPlan_keyBound {config : Config} {time : Time} {uuid : String} {attributes : Edits}
    {payload : Payload} {wrote : Option (WriteRequest × Nat)} {pk : Nat} {row : Credential}
    (h : (createPlan config time uuid attributes payload).commits wrote pk row) :
    row.pk = some pk ∧ ∃ req version, wrote = some (req, version) ∧ req.location = row.location ∧
      ∀ secret : Secret Payload, secret.written version = some req.data → row.KeyBound secret := by
  obtain ⟨req, version, metadata, fingerprint, rfl, hprepared, rfl, -⟩ := h
  refine ⟨by rw [written_promote], req, version, rfl, by rw [written_promote]; rfl, fun secret hwritten => ?_⟩
  exact .written (hprepared.derived hwritten)

/-- One step of the sequence, whatever the other parties do to the servers meanwhile. -/
theorem Site.KeyBound.step {pk engine : Nat} {s : Site} {c : Call} (hengine : engine ≠ 0)
    (hkv : s.db.config.Kv2 engine) (h : s.KeyBound pk engine) (hc : s.OnEngine pk engine c) :
    (s.step c).db.config = s.db.config ∧ (s.step c).KeyBound pk engine := by
  rcases hc.operation with hcreate | ⟨row, hfound, hon, hheld⟩
  · obtain ⟨operation, env, acts⟩ := c
    cases operation with
    | rotate | stage | promote | discard | update => cases hcreate
    | create uuid attributes payload user request conforms =>
        obtain ⟨hconfig, hstepped⟩ := s.create_stepped env acts uuid attributes payload user request conforms
        have hlater := hstepped.later
        refine ⟨hconfig, ?_⟩
        cases hstepped with
        | kept attempts wrote mid ds hreached hissued hcredentials =>
            exact h.idle hlater (congrFun hcredentials pk)
        | committed attempts deletions wrote mid ds pk' row' hreached hissued hcommits hcredentials =>
            obtain ⟨hpk, req, version, rfl, hlocation, hbound⟩ := createPlan_keyBound hcommits
            by_cases hsame : pk' = pk
            · subst hsame
              intro row hrow
              have hin : row.engineId = engine := hc.stays row hrow
              have hput := hrow
              rw [hcredentials, Database.putCredential_self] at hput
              obtain rfl := Option.some.inj hput
              have hreq : req.location.engine = engine := by
                rw [hlocation]
                exact hin
              obtain ⟨-, hwritten⟩ := hreached.recorded hissued req version rfl (hreq ▸ hkv)
              exact ⟨⟨hrow, hpk, hin ▸ hengine⟩, hin, hbound _ (hlocation ▸ hwritten)⟩
            · refine h.idle hlater ?_
              rw [hcredentials, Database.putCredential_of_ne _ _ (Ne.symm hsame)]
  · obtain ⟨hrow, hin, hbound⟩ := h row hfound
    obtain ⟨hconfig, hlater, hmoved⟩ := Site.step_moved hon hrow
    refine ⟨hconfig, ?_⟩
    cases hmoved with
    | kept hcredentials => exact h.idle hlater (congrFun hcredentials pk)
    | committed wrote row' hcommits hcredentials hwritten =>
        have hput : (s.step c).db.credentials pk = some row' := by
          rw [hcredentials, Database.putCredential_self]
        obtain ⟨hpk, hpath, hlocation⟩ := hcommits.location hon hrow.pk hheld
        have hin' : row'.engineId = engine := hc.stays row' hput
        have hsame : row'.location = row.location := by
          simp only [Credential.location, hin, hin', hpath]
        intro found hfound'
        obtain rfl := Option.some.inj (hput.symm.trans hfound')
        refine ⟨⟨hfound', hpk, hin' ▸ hengine⟩, hin', ?_⟩
        rw [hsame]
        refine (hbound.later (hlater row.location)).commits hcommits fun req version hw => ?_
        have hat : req.location = row.location := (hlocation req version hw).trans hsame
        have hkv' : s.db.config.Kv2 req.location.engine := by
          rw [hat, show row.location.engine = engine from hin]
          exact hkv
        rw [← hat]
        exact (hwritten req version hw hkv').2

/-- For every credential on a KV v2 engine, and every sequence of creates, rotations, stagings, promotions,
discards and updates, type changes included, each failing or not, whatever other parties do to the servers: in
every state reached, each key version is unset or the version its pointer names, and the fingerprint beside it
is the SSH fingerprint of what was written as exactly that version. -/
theorem key_identity_stays_bound (pk engine : Nat) (s : Site) (calls : List Call) (hengine : engine ≠ 0)
    (hkv : s.db.config.Kv2 engine) (hbound : s.KeyBound pk engine)
    (hcalls : Runs.Along Site.step (Site.OnEngine pk engine) s calls) :
    Runs.Throughout Site.step (Site.KeyBound pk engine) s calls := by
  have hkept : Runs.Throughout Site.step
      (fun t => t.db.config = s.db.config ∧ t.KeyBound pk engine) s calls := by
    refine Runs.throughout_of_along (fun t c ht hc => ?_) ⟨rfl, hbound⟩ hcalls
    obtain ⟨hconfig, hbound'⟩ := ht.2.step hengine (ht.1 ▸ hkv) hc
    exact ⟨hconfig.trans ht.1, hbound'⟩
  exact hkept.mono fun t ht => ht.2

end

namespace Sample

/-- An SSH credential from before key versions were recorded. -/
def legacy : Credential := { credential "ssh-keypair" with kvVersion := some 1 }

def keyed : Site := site 2 legacy ⟨Effect.Secret.empty.push [("private_key", .str "old")], none⟩

def rotateKey : Call := ⟨.rotate legacy [("private_key", .str "new")] none none, calm, noActs⟩

/-- The candidate goes in by an instance that has not seen the rotation. -/
def stageKey : Call := ⟨.stage legacy [("private_key", .str "next")] none none, calm, noActs⟩

def promoteKey : Call := ⟨.promote legacy none none false "", calm, noActs⟩

theorem keyed_keyBound : @Site.KeyBound library 1 1 keyed := by
  intro row hrow
  obtain rfl : legacy = row := Option.some.inj hrow
  have hbound : @Credential.KeyBound library legacy (keyed.ext.store legacy.location).secret :=
    @Credential.KeyBound.mk library _ _ (fun v hv => by cases hv) fun v hv => by cases hv
  exact ⟨⟨rfl, rfl, by decide⟩, rfl, hbound⟩

theorem onEngine {s : Site} {c : Call} (hon : c.operation.On 1) (hheld : c.operation.held = some legacy)
    (hpath : (s.db.credentials 1).map (·.path) = some legacy.path)
    (hnext : ((@Site.step library s c).db.credentials 1).map (·.engineId) = some 1) :
    @Site.OnEngine library 1 1 s c := by
  obtain ⟨row, hrow, hpath⟩ := Option.map_eq_some_iff.mp hpath
  refine @Site.OnEngine.mk library 1 1 s c (.inr ⟨row, hrow, hon, fun held hsome => ?_⟩) fun row' hrow' => ?_
  · obtain rfl : legacy = held := Option.some.inj (hheld.symm.trans hsome)
    exact hpath.symm
  · rw [hrow'] at hnext
    exact Option.some.inj hnext

end Sample

theorem key_identity_stays_bound_promoted :
    Runs.Throughout (@Site.step Sample.library) (@Site.KeyBound Sample.library 1 1) Sample.keyed
        [Sample.rotateKey, Sample.stageKey, Sample.promoteKey] ∧
      ((Runs.final (@Site.step Sample.library) Sample.keyed
        [Sample.rotateKey, Sample.stageKey, Sample.promoteKey]).db.credentials 1).map
          (fun row => (row.liveKeyVersion, row.liveKeyFingerprint)) = some (some 3, "SHA256:ssh-ed25519 next") := by
  refine ⟨@key_identity_stays_bound Sample.library 1 1 Sample.keyed _ (by decide) (Sample.config_kv2 1)
    Sample.keyed_keyBound ⟨?_, ?_, ?_, trivial⟩, by decide +kernel⟩
  · exact Sample.onEngine (.rotate rfl _ _ _) rfl (by decide +kernel) (by decide +kernel)
  · exact Sample.onEngine (.stage rfl _ _ _) rfl (by decide +kernel) (by decide +kernel)
  · exact Sample.onEngine (.promote rfl _ _ _ _) rfl (by decide +kernel) (by decide +kernel)

end NetboxOpenbao
