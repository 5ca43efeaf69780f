import NetboxOpenbao.Proof.Updates
import NetboxOpenbao.Tiers

/-!
# A credential and its tier on one engine

Every validated create or update of a credential leaves it on the engine of its tier, and material operations
leave both references alone. A write of the tier itself can move the other side.
-/

namespace NetboxOpenbao

open Effect

theorem Config.Matches.congr {config : Config} {c c' : Credential} (h : config.Matches c)
    (hpolicy : c'.policyId = c.policyId) (hengine : c'.engineId = c.engineId) : config.Matches c' := by
  obtain ⟨policy, hfound, hsame⟩ := h
  exact ⟨policy, by rw [hpolicy]; exact hfound, hsame.trans hengine.symm⟩

/-- The loaded instance and the requested edits of an update. -/
def Operation.request : Operation → Option (Credential × Edits)
  | .update held edits _ _ _ _ => some (held, edits)
  | .create .. | .rotate .. | .stage .. | .promote .. | .discard .. => none

/-- The serializer or the form has accepted the instance the update saves. -/
def Site.Validates (s : Site) (held : Credential) (edits : Edits) : Prop :=
  ∃ cleaned, applyDefaults s.db (edits.apply held) = .ok cleaned ∧ clean s.db cleaned = .ok ()

/-- Every credential is on the engine of its tier, and automation does not refuse it for its engine. -/
def Site.TiersAgree (s : Site) : Prop :=
  ∀ pk row, s.db.credentials pk = some row → s.db.config.Matches row ∧
    ∀ assignment, identity s.db.config assignment row ≠ .error (.raised "AutomationResolutionDenied")

theorem getSchema_error {config : Config} {credentialType : String} {e : Error}
    (h : getSchema config credentialType = .error e) : e ≠ .raised "AutomationResolutionDenied" := by
  unfold getSchema at h
  split at h
  · cases h
  · split at h
    · cases h
    · cases h
      simp

theorem liveKeyFingerprint_error {config : Config} {c : Credential} {e : Error}
    (h : liveKeyFingerprint config c = .error e) : e ≠ .raised "AutomationResolutionDenied" := by
  unfold liveKeyFingerprint at h
  cases hschema : getSchema config c.credentialType with
  | error e' =>
      rw [hschema] at h
      cases h
      exact getSchema_error hschema
  | ok schema =>
      rw [hschema] at h
      simp only [bind, Except.bind, pure, Except.pure, throw, throwThe, MonadExceptOf.throw] at h
      split at h
      · cases h
      · split at h
        · cases h
          simp
        · cases h

/-- On the engine of its tier a credential passes the engine check of automation. -/
theorem Config.Matches.identity {config : Config} {c : Credential} (h : config.Matches c)
    (assignment : AssignmentIdentity) :
    NetboxOpenbao.identity config assignment c ≠ .error (.raised "AutomationResolutionDenied") := by
  obtain ⟨policy, hpolicy, hsame⟩ := h
  have hcheck : (policy.engineId != c.engineId) = false := by simpa using hsame
  intro hdenied
  unfold NetboxOpenbao.identity at hdenied
  simp only [hpolicy, Option.elim, bind, Except.bind] at hdenied
  cases hengine : config.engines c.engineId with
  | none =>
      rw [hengine] at hdenied
      cases hdenied
  | some engine =>
      rw [hengine] at hdenied
      simp only [hcheck, pure, Except.pure] at hdenied
      cases hschema : getSchema config c.credentialType with
      | error e =>
          rw [hschema] at hdenied
          exact getSchema_error hschema (Except.error.inj hdenied)
      | ok schema =>
          rw [hschema] at hdenied
          cases hfingerprint : liveKeyFingerprint config c with
          | error e =>
              rw [hfingerprint] at hdenied
              exact liveKeyFingerprint_error hfingerprint (Except.error.inj hdenied)
          | ok fingerprint =>
              rw [hfingerprint] at hdenied
              cases hdenied

section

variable [library : MaterialLibrary]

/-- No transition of a validated request takes a credential off the engine of its tier. -/
theorem Commits.matches {db : Database} {time : Time} {row row' : Credential} {operation : Operation}
    {wrote : Option (WriteRequest × Nat)} (hids : db.config.engines 0 = none)
    (h : Commits db.config time row operation wrote row') (hrow : db.config.Matches row)
    (hvalid : ∀ held edits, operation.request = some (held, edits) →
      ∃ cleaned, applyDefaults db (edits.apply held) = .ok cleaned ∧ clean db cleaned = .ok ()) :
    db.config.Matches row' := by
  have hupdated : ∀ {held : Credential} {edits : Edits} {engine : Nat},
      Selected db.config (updated held edits row) engine →
      operation.request = some (held, edits) →
      db.config.Matches { updated held edits row with engineId := engine } := by
    intro held edits engine hselected hrequest
    obtain ⟨hpolicyId, hengineId⟩ := updated_selectors held edits row
    have hne : (updated held edits row).engineId ≠ 0 := by
      intro hzero
      have hfound := hselected.found
      rw [hzero, hids] at hfound
      cases hfound
    obtain ⟨cleaned, hdefaults, hclean⟩ := hvalid held edits hrequest
    have hsame : cleaned = edits.apply held := (applyDefaults_ok hdefaults).2 (hengineId ▸ hne)
    have hmatches : db.config.Matches cleaned := clean_matches hclean
    rw [hsame] at hmatches
    exact hmatches.congr hpolicyId ((hselected.engine hne).trans hengineId)
  cases h with
  | rotate _ =>
      rw [written_promote]
      exact hrow.congr rfl rfl
  | stage _ _ =>
      rw [written_stage]
      have hpinned : (pinned row).policyId = row.policyId := by
        unfold pinned
        split <;> rfl
      exact hrow.congr hpinned (pinned_engineId row)
  | promote _ => exact hrow.congr rfl rfl
  | discard _ => exact hrow.congr rfl rfl
  | edit hselected => exact hupdated hselected rfl
  | update _ hselected =>
      rw [written_promote]
      exact (hupdated hselected rfl).congr rfl rfl

/-! ### Runs -/

/-- A create, or a call on a credential there is, whose request has been validated. -/
def Site.Admits (s : Site) : TierTurn → Prop
  | .call c => (∃ uuid attributes payload user request conforms,
        c.operation = .create uuid attributes payload user request conforms) ∨
      (∃ pk row, c.operation.On pk ∧ s.Row pk row) ∧
        ∀ held edits, c.operation.request = some (held, edits) → s.Validates held edits
  | .savePolicy _ _ => True

/-- A policy that is saved stays on the engine it was on, or no credential is on it. -/
def Site.SparesTier (s : Site) (turn : TierTurn) : Prop :=
  ∀ id policy, turn = .savePolicy id policy →
    (s.db.config.policies id).map (·.engineId) = some policy.engineId ∨
      ∀ pk row, s.db.credentials pk = some row → row.policyId ≠ id

omit library in
theorem Site.tiersAgree_iff {s : Site} :
    s.TiersAgree ↔ ∀ pk row, s.db.credentials pk = some row → s.db.config.Matches row := by
  constructor
  · exact fun h pk row hrow => (h pk row hrow).1
  · exact fun h pk row hrow => ⟨h pk row hrow, (h pk row hrow).identity⟩

omit library in
theorem Site.tiersAgree_put {s s' : Site} {pk : Nat} {row' : Credential} (h : s.TiersAgree)
    (hconfig : s'.db.config = s.db.config)
    (hcredentials : s'.db.credentials = (s.db.putCredential pk row').credentials)
    (hrow' : s.db.config.Matches row') : s'.TiersAgree := by
  rw [Site.tiersAgree_iff] at h ⊢
  intro k row hrow
  rw [hconfig]
  rw [hcredentials] at hrow
  by_cases hk : k = pk
  · subst hk
    rw [Database.putCredential_self] at hrow
    obtain rfl := Option.some.inj hrow
    exact hrow'
  · rw [Database.putCredential_of_ne _ _ hk] at hrow
    exact h k row hrow

omit library in
theorem Site.tiersAgree_kept {s s' : Site} (h : s.TiersAgree) (hconfig : s'.db.config = s.db.config)
    (hcredentials : s'.db.credentials = s.db.credentials) : s'.TiersAgree := by
  rw [Site.tiersAgree_iff] at h ⊢
  intro k row hrow
  rw [hconfig]
  exact h k row (hcredentials ▸ hrow)

theorem Site.call_tiersAgree {s : Site} {c : Call} (hids : s.db.config.engines 0 = none) (h : s.TiersAgree)
    (hc : s.Admits (.call c)) : (s.step c).TiersAgree := by
  rcases hc with ⟨uuid, attributes, payload, user, request, conforms, hcreate⟩ | ⟨⟨pk, row, hon, hrow⟩, hvalid⟩
  · obtain ⟨operation, env, acts⟩ := c
    replace hcreate : operation = .create uuid attributes payload user request conforms := hcreate
    subst hcreate
    obtain ⟨hconfig, hstepped⟩ := s.create_stepped env acts uuid attributes payload user request conforms
    cases hstepped with
    | kept attempts wrote mid ds hreached hissued hcredentials => exact Site.tiersAgree_kept h hconfig hcredentials
    | committed attempts deletions wrote mid ds pk row' hreached hissued hcommits hcredentials =>
        obtain ⟨_, _, _, _, -, -, -, hmatches⟩ := hcommits
        exact Site.tiersAgree_put h hconfig hcredentials hmatches
  · obtain ⟨hconfig, -, hmoved⟩ := Site.step_moved hon hrow
    cases hmoved with
    | kept hcredentials => exact Site.tiersAgree_kept h hconfig hcredentials
    | committed wrote row' hcommits hcredentials _ =>
        have hmatches : s.db.config.Matches row := (h pk row hrow.found).1
        exact Site.tiersAgree_put h hconfig hcredentials (hcommits.matches hids hmatches hvalid)

theorem Site.turn_engines (s : Site) (turn : TierTurn) (hturn : s.Admits turn) :
    (s.turn turn).db.config.engines = s.db.config.engines := by
  cases turn with
  | savePolicy id policy => rfl
  | call c =>
      have hconfig : (s.step c).db.config = s.db.config := by
        rcases hturn with ⟨uuid, attributes, payload, user, request, conforms, hcreate⟩ | ⟨⟨pk, row, hon, hrow⟩, -⟩
        · obtain ⟨operation, env, acts⟩ := c
          replace hcreate : operation = .create uuid attributes payload user request conforms := hcreate
          subst hcreate
          exact (s.create_stepped env acts uuid attributes payload user request conforms).1
        · exact (Site.step_moved hon hrow).1
      exact congrArg Config.engines hconfig

omit library in
/-- Saving a policy keeps the agreement exactly if no credential on it is left on another engine. -/
theorem Site.savePolicy_tiersAgree {s : Site} {id : Nat} {policy : CredentialPolicy} (h : s.TiersAgree) :
    (s.savePolicy id policy).TiersAgree ↔ s.SparesTier (.savePolicy id policy) := by
  rw [Site.tiersAgree_iff] at h
  rw [Site.tiersAgree_iff]
  constructor
  · intro hafter id' policy' hturn
    obtain ⟨rfl, rfl⟩ := TierTurn.savePolicy.inj hturn
    by_cases hused : ∃ pk row, s.db.credentials pk = some row ∧ row.policyId = id
    · obtain ⟨pk, row, hrow, hon⟩ := hused
      obtain ⟨old, hold, holdEngine⟩ := h pk row hrow
      obtain ⟨new, hnew, hnewEngine⟩ := hafter pk row hrow
      have hsaved : (s.savePolicy id policy).db.config.policies row.policyId = some policy := by
        simp [Site.savePolicy, Config.putPolicy, hon]
      obtain rfl := Option.some.inj (hsaved.symm.trans hnew)
      left
      rw [← hon, hold, Option.map_some, holdEngine, hnewEngine]
    · right
      intro pk row hrow hon
      exact hused ⟨pk, row, hrow, hon⟩
  · intro hspares pk row hrow
    obtain ⟨old, hold, holdEngine⟩ := h pk row hrow
    by_cases hon : row.policyId = id
    · refine ⟨policy, by simp [Site.savePolicy, Config.putPolicy, hon], ?_⟩
      rcases hspares id policy rfl with hsame | hunused
      · rw [← hon, hold, Option.map_some] at hsame
        rw [← Option.some.inj hsame, holdEngine]
      · exact absurd hon (hunused pk row hrow)
    · refine ⟨old, ?_, holdEngine⟩
      simpa [Site.savePolicy, Config.putPolicy, hon] using hold

/-- Any sequence of validated creates and updates of credentials and of their tiers, and of material operations,
each failing or not: every credential is on the engine of its tier in every state reached, and is never refused
by automation for its engine, if and only if no write of a tier moves it to another engine while a credential is
on it. -/
theorem tiers_agree_iff_spared (s : Site) (turns : List TierTurn) (hids : s.db.config.engines 0 = none)
    (hagree : s.TiersAgree) (hturns : Runs.Along Site.turn Site.Admits s turns) :
    Runs.Throughout Site.turn Site.TiersAgree s turns ↔ Runs.Along Site.turn Site.SparesTier s turns := by
  apply Runs.throughout_iff_along (I := fun s => s.db.config.engines 0 = none) _ _ hids hagree hturns
  · intro t turn ht hturn
    rw [t.turn_engines turn hturn]
    exact ht
  · intro t turn ht hturn hbefore
    cases turn with
    | call c =>
        apply iff_of_true (Site.call_tiersAgree ht hbefore hturn)
        intro id policy hcall
        cases hcall
    | savePolicy id policy => exact Site.savePolicy_tiersAgree hbefore

end

namespace Sample

theorem branches_agree : branches.TiersAgree := by
  rw [Site.tiersAgree_iff]
  intro pk row hrow
  have hinUse : row = inUse := by
    simp only [branches, office, site] at hrow
    split at hrow
    · exact (Option.some.inj hrow).symm
    · cases hrow
  rw [hinUse]
  exact ⟨⟨1, [], 300, false⟩, rfl, rfl⟩

/-- The first tier with a longer reveal, on the engine it is on. -/
def lengthen : TierTurn := .savePolicy 1 ⟨1, [], 600, false⟩

/-- The first tier on the second engine. -/
def reassign : TierTurn := .savePolicy 1 ⟨2, [], 300, false⟩

end Sample

theorem tiers_agree_iff_spared_longer :
    Runs.Throughout (@Site.turn Sample.library) Site.TiersAgree Sample.branches [Sample.lengthen] := by
  apply (@tiers_agree_iff_spared Sample.library Sample.branches [Sample.lengthen] rfl Sample.branches_agree
    ⟨trivial, trivial⟩).mpr
  refine ⟨?_, trivial⟩
  intro id policy hturn
  obtain ⟨rfl, rfl⟩ := TierTurn.savePolicy.inj hturn
  exact .inl rfl

/-- The tier of a credential is moved to another engine; automation refuses the credential from then on. -/
theorem reassigned_tier_disagrees :
    Sample.branches.TiersAgree ∧ (Sample.twoEngines.engines 2).isSome = true ∧
    ¬ Runs.Throughout (@Site.turn Sample.library) Site.TiersAgree Sample.branches [Sample.reassign] ∧
    identity (@Site.turn Sample.library Sample.branches Sample.reassign).db.config ⟨1, "ssh", "dcim.device", 1⟩
      Sample.inUse = .error (.raised "AutomationResolutionDenied") := by
  refine ⟨Sample.branches_agree, rfl, ?_, rfl⟩
  intro h
  have hagree : (Sample.branches.savePolicy 1 ⟨2, [], 300, false⟩).TiersAgree := h.2
  rw [Site.savePolicy_tiersAgree Sample.branches_agree] at hagree
  rcases hagree 1 ⟨2, [], 300, false⟩ rfl with hsame | hunused
  · exact absurd hsame (by decide)
  · exact hunused 1 Sample.inUse rfl rfl

end NetboxOpenbao
