import NetboxOpenbao.Proof.Alone
import NetboxOpenbao.Proof.ReadPaths

/-!
# What a call does to consumers

What a plain reveal serves before a call and after it. A promoted version hides a new one; a row without one
serves the newest version, whatever put it there, and a KV v1 mount has one value only.
-/

namespace NetboxOpenbao

open Effect Effect.Prog

/-! ### Reveals -/

/-- The result of a plain reveal at a site, with nothing going wrong. -/
def Site.reveal (s : Site) (row : Credential) (user : Option User) (request : Option Nat) (reason : String) :
    Except Error (Payload × Nat) :=
  (revealMaterial row user request reason none (s.start ⟨fun _ => .none, 0⟩ fun _ => [])).1

theorem Site.reveal_eq (s : Site) (row : Credential) (user : Option User) (request : Option Nat)
    (reason : String) :
    s.reveal row user request reason = revealed s.db.config row (s.ext.store row.location) user reason :=
  (revealMaterial_yields row user request reason).result _ ⟨rfl, rfl, fun _ => rfl, rfl, rfl⟩

/-- A row whose tier and engine are there, and the handle of the engine. -/
structure Site.Furnished (s : Site) (row : Credential) (b : Backend) : Prop where
  policy : (s.db.config.policies row.policyId).isSome = true
  backend : BackendOf s.db.config b
  engine : b.engine = row.engineId

theorem Site.Furnished.served {s : Site} {row : Credential} {b : Backend} (h : s.Furnished row b) (cell : Cell) :
    servedIn s.db.config row cell = b.readCell cell row.liveKvVersion := by
  obtain ⟨engine, hfound, hb⟩ := h.backend
  have hin : backendIn s.db.config row.engineId = .ok b := by
    unfold backendIn
    rw [← h.engine, hfound, hb]
  unfold servedIn
  rw [hin]
  rfl

theorem revealed_eq {config : Config} {row : Credential} {policy : CredentialPolicy}
    (hpolicy : config.policies row.policyId = some policy) (cell : Cell) (user : Option User) (reason : String) :
    revealed config row cell user reason =
      (gateIn config row user >>= fun _ => reasonIn policy reason >>= fun _ =>
        servedIn config row cell >>= fun data => .ok (data, revealTtlOf config policy)) := by
  have htier : policyIn config row = .ok policy := by
    unfold policyIn
    rw [hpolicy]
  unfold revealed
  rw [htier]
  rfl

theorem gates_open (config : Config) (row : Credential) (policy : CredentialPolicy) :
    gateIn config row none = .ok () ∧ reasonIn policy "approved" = .ok () := by
  refine ⟨rfl, ?_⟩
  have hreason : (stripped "approved" == "") = false := by decide
  unfold reasonIn
  rw [hreason, Bool.and_false]
  rfl

theorem gateIn_congr {config : Config} {row row' : Credential} (h : row'.policyId = row.policyId)
    (user : Option User) : gateIn config row' user = gateIn config row user := by
  unfold gateIn policyIn
  rw [h]

theorem Except.bind_pair_inj {ε α β : Type} {r r' : Except ε α} {b : β}
    (h : (r >>= fun a => (.ok (a, b) : Except ε (α × β))) = (r' >>= fun a => .ok (a, b))) : r = r' := by
  cases r <;> cases r' <;> cases h <;> rfl

/-- The reveals before and after agree, whoever asks for whatever reason, exactly if what is served agrees. -/
theorem Site.reveal_congr_iff {s s' : Site} {row row' : Credential} {b : Backend} (h : s.Furnished row b)
    (hconfig : s'.db.config = s.db.config) (hpolicy : row'.policyId = row.policyId)
    (hlocation : row'.location = row.location) :
    (∀ user request reason, s'.reveal row' user request reason = s.reveal row user request reason) ↔
      b.readCell (s'.ext.store row.location) row'.liveKvVersion =
        b.readCell (s.ext.store row.location) row.liveKvVersion := by
  have h' : s.Furnished row' b := {
    policy := hpolicy ▸ h.policy
    backend := h.backend
    engine := h.engine.trans (congrArg Location.engine hlocation).symm }
  obtain ⟨policy, hfound⟩ := Option.isSome_iff_exists.mp h.policy
  have hfound' : s.db.config.policies row'.policyId = some policy := hpolicy ▸ hfound
  rw [← h'.served, ← h.served]
  constructor
  · intro hreveals
    have hany := hreveals none none "approved"
    obtain ⟨hgate, hreason⟩ := gates_open s.db.config row policy
    obtain ⟨hgate', -⟩ := gates_open s.db.config row' policy
    rw [reveal_eq, reveal_eq, hconfig, hlocation, revealed_eq hfound, revealed_eq hfound', hgate, hgate',
      hreason] at hany
    exact Except.bind_pair_inj hany
  · intro hsame user request reason
    rw [reveal_eq, reveal_eq, hconfig, hlocation, revealed_eq hfound, revealed_eq hfound', hsame,
      gateIn_congr hpolicy]

/-! ### On KV v2 -/

theorem Backend.readCell_v2_congr {b : Backend} (hb : b.kvVersion = 2) {cell cell' : Cell}
    {version version' : Option Nat} : b.readCell cell' version' = b.readCell cell version ↔
      cell'.secret.read version' = cell.secret.read version := by
  have hread : ∀ cell version, b.readCell cell version =
      (cell.secret.read version).elim (.error .notFound) .ok := by
    intro cell version
    cases hsecret : cell.secret.read version with
    | some data => exact (readCell_v2 hb).mpr hsecret
    | none =>
        have hserves : b.serves "Reading a secret" = .ok () := by
          unfold serves requireKv2
          cases b.choice <;> simp [hb]
        simp only [readCell, hserves, hb, if_true, hsecret]
        rfl
  rw [hread, hread]
  cases cell'.secret.read version' <;> cases cell.secret.read version <;> simp

/-- What an operation may do to consumers. -/
def Operation.PutsInService : Operation → Prop
  | .rotate .. | .promote .. => True
  | .create .. | .stage .. | .discard .. | .update .. => False

def Operation.Stages : Operation → Prop
  | .stage .. => True
  | .create .. | .rotate .. | .promote .. | .discard .. | .update .. => False

def Operation.Discards : Operation → Prop
  | .discard .. => True
  | .create .. | .rotate .. | .stage .. | .promote .. | .update .. => False

theorem Requests.unique {config : Config} {row : Credential} {operation : Operation} {req req' : WriteRequest}
    [MaterialLibrary] (h : Requests config row operation req) (h' : Requests config row operation req')
    (hmaterial : operation.Material) : req.data = req'.data := by
  have hsame : ∀ {payload data data' : Payload} {metadata metadata' : Metadata} {fingerprint fingerprint' : String},
      Prepared config row.credentialType payload data metadata fingerprint →
      Prepared config row.credentialType payload data' metadata' fingerprint' → data = data' := by
    intro payload data data' metadata metadata' fingerprint fingerprint' hprepared hprepared'
    exact congrArg Prod.fst (Except.ok.inj (hprepared.material.symm.trans hprepared'.material))
  cases h with
  | rotate hprepared =>
      cases h' with
      | rotate hprepared' => exact hsame hprepared hprepared'
  | stage _ hprepared =>
      cases h' with
      | stage _ hprepared' => exact hsame hprepared hprepared'
  | update _ => exact hmaterial.elim

section

variable [library : MaterialLibrary]

/-- Unless the call committed a rotation or a promotion, every reveal answers what it answered before it. -/
def Site.SparesConsumers (pk : Nat) (s : Site) (c : Call) : Prop :=
  ∀ row row', s.db.credentials pk = some row → (s.step c).db.credentials pk = some row' →
    s.Idles c ∨ ¬ c.operation.PutsInService →
    ∀ user request reason, (s.step c).reveal row' user request reason = s.reveal row user request reason

/-- Where the server took a write of the call or deleted a version for it, and the call committed no rotation or
promotion, the pointer consumers go by shields them: the one a stage pins from the payload it staged; the one a
rolled back call found from the payload it left behind, or from a newest version without one once the server has
deleted it; and the version whose discard was cleaned up is not the one they were served. -/
structure Site.Shields (pk : Nat) (s : Site) (c : Call) : Prop where
  staged : ∀ row req, s.db.credentials pk = some row → ¬ s.Idles c → c.operation.Stages →
    Requests s.db.config row c.operation req →
    (s.ext.store row.location).secret.Shielded (row.liveKvVersion <|> row.kvVersion) (some req.data)
  orphaned : ∀ row req, s.db.credentials pk = some row → s.Idles c → s.Writes row.location c →
    ¬ s.Deletes row.location c → Requests s.db.config row c.operation req →
    (s.ext.store row.location).secret.Shielded row.liveKvVersion (some req.data)
  compensated : ∀ row, s.db.credentials pk = some row → s.Idles c → s.Deletes row.location c →
    (s.ext.store row.location).secret.Shielded row.liveKvVersion none
  discarded : ∀ row staged, s.db.credentials pk = some row → ¬ s.Idles c → c.operation.Discards →
    row.stagedKvVersion = some staged → s.Deletes row.location c →
    (s.ext.store row.location).secret.number row.liveKvVersion = staged →
    (s.ext.store row.location).secret.read row.liveKvVersion = none

theorem Site.not_idles {pk : Nat} {s : Site} {c : Call} {row row' : Credential}
    (hrow : s.db.credentials pk = some row)
    (hput : (s.step c).db.credentials = (s.db.putCredential pk row').credentials) (hne : row' ≠ row) :
    ¬ s.Idles c := by
  intro hidles
  have hfound : (s.step c).db.credentials pk = some row' := by rw [hput, Database.putCredential_self]
  rw [hidles, hrow] at hfound
  exact hne (Option.some.inj hfound).symm

omit library in
/-- The row numbered `pk` lives at `l`, its tier and the engine of `l` are there, and `b` is the engine's handle. -/
def Site.FurnishedAt (pk : Nat) (l : Location) (b : Backend) (s : Site) : Prop :=
  ∃ row, s.Row pk row ∧ row.location = l ∧ s.Furnished row b

omit library in
theorem Site.Furnished.stays {pk : Nat} {b : Backend} {s s' : Site} {row row' : Credential} (h : s.Furnished row b)
    (hconfig : s'.db.config = s.db.config) (hrow' : s'.Row pk row') (hlocation : row'.location = row.location)
    (hpolicy : row'.policyId = row.policyId) : s'.FurnishedAt pk row.location b := by
  have hengine : row'.engineId = row.engineId := congrArg Location.engine hlocation
  refine ⟨row', hrow', hlocation, ?_, ?_, h.engine.trans hengine.symm⟩
  · rw [hconfig, hpolicy]
    exact h.policy
  · rw [hconfig]
    exact h.backend

omit library in
/-- A call of a material operation that nobody else comes near. -/
def Site.Secluded (pk : Nat) (l : Location) (s : Site) (c : Call) : Prop :=
  s.Handles pk c ∧ Undisturbed l c.acts

theorem Commits.policyId {config : Config} {time : Time} {row row' : Credential} {operation : Operation}
    {wrote : Option (WriteRequest × Nat)} (h : Commits config time row operation wrote row')
    (hmaterial : operation.Material) : row'.policyId = row.policyId := by
  cases h with
  | rotate _ =>
      rw [written_promote]
      rfl
  | stage _ _ =>
      rw [written_stage]
      simp [withMetadata]
  | promote _ | discard _ => rfl
  | edit _ | update _ _ => exact hmaterial.elim

/-- What a secluded call leaves: the row as it was or another one, still furnished, and the outcome at its
place. -/
theorem Site.FurnishedAt.call {pk : Nat} {l : Location} {b : Backend} {s : Site} {c : Call} {row : Credential}
    (hrow : s.Row pk row) (hat : row.location = l) (hfurnished : s.Furnished row b) (hc : s.Secluded pk l c) :
    (s.step c).db.config = s.db.config ∧ ∃ taken gone left row', (s.step c).db.credentials pk = some row' ∧
      (s.step c).Row pk row' ∧ row'.location = l ∧ row'.policyId = row.policyId ∧
      Outcome s.db.config c.env.now b row c.operation (s.ext.store l) taken gone left ((s.step c).ext.store l) ∧
      (taken.isSome = true ↔ s.Writes l c) ∧ (gone = true ↔ s.Deletes l c) ∧
      (left = none → s.Idles c ∧ row' = row) ∧
      ∀ found, left = some found → row' = found ∧ (found ≠ row → ¬ s.Idles c) := by
  subst hat
  obtain ⟨hconfig, -, -⟩ := Site.step_stepped hc.1.1 hrow
  obtain ⟨taken, gone, left, houtcome, htaken, hgone, hkept, hput⟩ :=
    Site.call_outcome hc.1 hrow hfurnished.backend hfurnished.engine hc.2
  refine ⟨hconfig, taken, gone, left, ?_⟩
  cases left with
  | none =>
      have hidles := hkept rfl
      have hfound : (s.step c).db.credentials pk = some row := by rw [hidles, hrow.found]
      exact ⟨row, hfound, ⟨hfound, hrow.pk, hrow.engine⟩, rfl, rfl, houtcome, htaken, hgone, fun _ => ⟨hidles, rfl⟩,
        by intro _ h; cases h⟩
  | some row' =>
      have hcredentials := hput row' rfl
      have hfound : (s.step c).db.credentials pk = some row' := by
        rw [hcredentials, Database.putCredential_self]
      obtain ⟨wrote, hcommits⟩ := houtcome.commits
      obtain ⟨hpk, hlocation, -⟩ := hcommits.material hc.1.2
      have hengine : row'.engineId = row.engineId := congrArg Location.engine hlocation
      refine ⟨row', hfound, ⟨hfound, hpk.trans hrow.pk, hengine ▸ hrow.engine⟩, hlocation,
        hcommits.policyId hc.1.2, houtcome, htaken, hgone, (by intro h; cases h), fun found h => ?_⟩
      obtain rfl := Option.some.inj h
      exact ⟨rfl, Site.not_idles hrow.found hcredentials⟩

theorem Site.idles_of_found {pk : Nat} {s : Site} {c : Call} {row : Credential} {b : Backend}
    (hc : s.Secluded pk row.location c) (hrow : s.Row pk row) (hfurnished : s.Furnished row b)
    (hsame : (s.step c).db.credentials pk = some row) : s.Idles c := by
  obtain ⟨-, -, left, -, -, -, hkept, hput⟩ := Site.call_outcome hc.1 hrow hfurnished.backend hfurnished.engine hc.2
  cases left with
  | none => exact hkept rfl
  | some row' =>
      have hcredentials := hput row' rfl
      have hfound : some row' = some row := by
        rw [← hsame, hcredentials, Database.putCredential_self]
      obtain rfl := Option.some.inj hfound
      refine hcredentials.trans ?_
      funext key
      by_cases hkey : key = pk
      · rw [hkey, Database.putCredential_self, hrow.found]
      · exact Database.putCredential_of_ne _ _ hkey

/-! ### One call on KV v2 -/

/-- The secret at the place of the credential before the call and after it. -/
structure Site.Turns (pk : Nat) (s : Site) (c : Call) (row row' : Credential) (before after : Secret Payload) :
    Prop where
  found : s.db.credentials pk = some row
  left : (s.step c).db.credentials pk = some row'
  before : (s.ext.store row.location).secret = before
  after : ((s.step c).ext.store row.location).secret = after

section

variable {pk : Nat} {s : Site} {c : Call} {row row' : Credential} {before after : Secret Payload}

theorem Site.Turns.shields_untouched (h : s.Turns pk c row row' before after) (hidles : s.Idles c)
    (hwrites : ¬ s.Writes row.location c) (hdeletes : ¬ s.Deletes row.location c) : s.Shields pk c where
  staged _ _ _ hactive := absurd hidles hactive
  orphaned found _ hfound _ hwrote := by
    obtain rfl := Option.some.inj (h.found.symm.trans hfound)
    exact absurd hwrote hwrites
  compensated found hfound _ hdeleted := by
    obtain rfl := Option.some.inj (h.found.symm.trans hfound)
    exact absurd hdeleted hdeletes
  discarded _ _ _ hactive := absurd hidles hactive

theorem Site.Turns.shields_orphaned (h : s.Turns pk c row row' before after) (hidles : s.Idles c)
    (hwrites : s.Writes row.location c) (hdeletes : ¬ s.Deletes row.location c) {req : WriteRequest}
    (hreq : Requests s.db.config row c.operation req) (hmaterial : c.operation.Material) :
    s.Shields pk c ↔ before.Shielded row.liveKvVersion (some req.data) := by
  obtain ⟨hfound, -, rfl, rfl⟩ := h
  constructor
  · intro hshields
    exact hshields.orphaned row req hfound hidles hwrites hdeletes hreq
  · intro hshielded
    refine ⟨fun _ _ _ hactive => absurd hidles hactive, fun found req' hrow _ _ _ hreq' => ?_,
      fun found hrow _ hdeleted => ?_, fun _ _ _ hactive => absurd hidles hactive⟩
    · obtain rfl := Option.some.inj (hfound.symm.trans hrow)
      rw [hreq'.unique hreq hmaterial]
      exact hshielded
    · obtain rfl := Option.some.inj (hfound.symm.trans hrow)
      exact absurd hdeleted hdeletes

theorem Site.Turns.shields_compensated (h : s.Turns pk c row row' before after) (hidles : s.Idles c)
    (hdeletes : s.Deletes row.location c) : s.Shields pk c ↔ before.Shielded row.liveKvVersion none := by
  obtain ⟨hfound, -, rfl, rfl⟩ := h
  constructor
  · intro hshields
    exact hshields.compensated row hfound hidles hdeletes
  · intro hshielded
    refine ⟨fun _ _ _ hactive => absurd hidles hactive, fun found _ hrow _ _ hnot => ?_, fun found hrow _ _ => ?_,
      fun _ _ _ hactive => absurd hidles hactive⟩
    · obtain rfl := Option.some.inj (hfound.symm.trans hrow)
      exact absurd hdeletes hnot
    · obtain rfl := Option.some.inj (hfound.symm.trans hrow)
      exact hshielded

theorem Site.Turns.shields_staged (h : s.Turns pk c row row' before after) (hactive : ¬ s.Idles c)
    (hstages : c.operation.Stages) (hdiscards : ¬ c.operation.Discards) {req : WriteRequest}
    (hreq : Requests s.db.config row c.operation req) (hmaterial : c.operation.Material) :
    s.Shields pk c ↔ before.Shielded (row.liveKvVersion <|> row.kvVersion) (some req.data) := by
  obtain ⟨hfound, -, rfl, rfl⟩ := h
  constructor
  · intro hshields
    exact hshields.staged row req hfound hactive hstages hreq
  · intro hshielded
    refine ⟨fun found req' hrow _ _ hreq' => ?_, fun _ _ _ hidles => absurd hidles hactive,
      fun _ _ hidles => absurd hidles hactive, fun _ _ _ _ hdiscard => absurd hdiscard hdiscards⟩
    obtain rfl := Option.some.inj (hfound.symm.trans hrow)
    rw [hreq'.unique hreq hmaterial]
    exact hshielded

theorem Site.Turns.shields_discarded (h : s.Turns pk c row row' before after) (hactive : ¬ s.Idles c)
    (hstages : ¬ c.operation.Stages) (hdiscards : c.operation.Discards) {staged : Nat}
    (hstaged : row.stagedKvVersion = some staged) : s.Shields pk c ↔ (s.Deletes row.location c →
      before.number row.liveKvVersion = staged → before.read row.liveKvVersion = none) := by
  obtain ⟨hfound, -, rfl, rfl⟩ := h
  constructor
  · intro hshields
    exact hshields.discarded row staged hfound hactive hdiscards hstaged
  · intro hshielded
    refine ⟨fun _ _ _ _ hstage => absurd hstage hstages, fun _ _ _ hidles => absurd hidles hactive,
      fun _ _ hidles => absurd hidles hactive, fun found version hrow _ _ hversion => ?_⟩
    obtain rfl := Option.some.inj (hfound.symm.trans hrow)
    obtain rfl := Option.some.inj (hstaged.symm.trans hversion)
    exact hshielded

theorem Site.Turns.shields_served (h : ¬ s.Idles c) (hstages : ¬ c.operation.Stages)
    (hdiscards : ¬ c.operation.Discards) : s.Shields pk c where
  staged _ _ _ _ hstage := absurd hstage hstages
  orphaned _ _ _ hidles := absurd hidles h
  compensated _ _ hidles := absurd hidles h
  discarded _ _ _ _ hdiscard := absurd hdiscard hdiscards

/-- Consumers are spared exactly if the version asked for reads the same. -/
theorem Site.Turns.spares_iff (h : s.Turns pk c row row' before after) {b : Backend} (hb : b.kvVersion = 2)
    (hfurnished : s.Furnished row b) (hconfig : (s.step c).db.config = s.db.config)
    (hpolicy : row'.policyId = row.policyId) (hlocation : row'.location = row.location) :
    s.SparesConsumers pk c ↔ (s.Idles c ∨ ¬ c.operation.PutsInService →
      after.read row'.liveKvVersion = before.read row.liveKvVersion) := by
  obtain ⟨hfound, hleft, rfl, rfl⟩ := h
  have hreads := (Site.reveal_congr_iff hfurnished hconfig hpolicy hlocation).trans
    (Backend.readCell_v2_congr hb)
  constructor
  · intro hspares hdomain
    exact hreads.mp (hspares row row' hfound hleft hdomain)
  · intro hread found found' hrow hrow' hdomain
    obtain rfl := Option.some.inj (hfound.symm.trans hrow)
    obtain rfl := Option.some.inj (hleft.symm.trans hrow')
    exact hreads.mpr (hread hdomain)

theorem Site.undone_iff {visible : Option Payload}
    (htopped : before.Topped after visible) (hidles : s.Idles c)
    (hspares : s.SparesConsumers pk c ↔ (s.Idles c ∨ ¬ c.operation.PutsInService →
      after.read row.liveKvVersion = before.read row.liveKvVersion))
    (hshields : s.Shields pk c ↔ before.Shielded row.liveKvVersion visible) :
    s.SparesConsumers pk c ↔ s.Shields pk c := by
  rw [hspares, hshields, ← htopped.read_iff]
  exact ⟨fun hread => hread (.inl hidles), fun hread _ => hread⟩

end

/-- The transitions that write: into service, or beside it under the pinned pointer. -/
theorem Commits.stored_cases {config : Config} {time : Time} {row row' : Credential} {operation : Operation}
    {req : WriteRequest} {version : Nat} (h : Commits config time row operation (some (req, version)) row')
    (hmaterial : operation.Material) : ¬ operation.Discards ∧ row'.kvVersion = some version ∧
      (operation.PutsInService ∧ ¬ operation.Stages ∨ operation.Stages ∧ ¬ operation.PutsInService ∧
        row'.liveKvVersion = (row.liveKvVersion <|> row.kvVersion)) := by
  cases h with
  | rotate _ =>
      refine ⟨id, ?_, .inl ⟨trivial, id⟩⟩
      rw [written_promote]
  | stage _ _ =>
      refine ⟨id, ?_, .inr ⟨trivial, id, ?_⟩⟩
      · rw [written_stage]
      · rw [written_stage, ← pinned_liveKvVersion]
        rfl
  | update _ _ => exact hmaterial.elim

/-- The transitions that do not: a promotion, or a discard. -/
theorem Commits.repointed_cases {config : Config} {time : Time} {row row' : Credential} {operation : Operation}
    (h : Commits config time row operation none row') (hmaterial : operation.Material) :
    ¬ operation.Stages ∧ row' ≠ row ∧ (operation.PutsInService ∧ ¬ operation.Discards ∨
      operation.Discards ∧ ¬ operation.PutsInService ∧ row'.liveKvVersion = row.liveKvVersion ∧
        ∃ staged, row.stagedKvVersion = some staged) := by
  have hne : ∀ {staged}, row.stagedKvVersion = some staged → row'.stagedKvVersion = none → row' ≠ row := by
    intro staged hstaged hcleared heq
    rw [heq, hstaged] at hcleared
    cases hcleared
  cases h with
  | promote hstaged => exact ⟨id, hne hstaged rfl, .inl ⟨trivial, id⟩⟩
  | discard hstaged => exact ⟨id, hne hstaged rfl, .inr ⟨trivial, id, rfl, _, hstaged⟩⟩
  | edit _ => exact hmaterial.elim

omit library in
/-- Pinning the pointer does not change what is served. -/
theorem read_pinned {secret : Secret Payload} {row : Credential}
    (hcas : ∀ n, row.kvVersion = some n → n = secret.current) :
    secret.read (row.liveKvVersion <|> row.kvVersion) = secret.read row.liveKvVersion := by
  cases hlive : row.liveKvVersion with
  | some live => rfl
  | none =>
      cases hversion : row.kvVersion with
      | none => rfl
      | some version =>
          obtain rfl := hcas version hversion
          exact Secret.read_congr (Secret.number_current secret)

theorem Site.sparesConsumers_iff {pk : Nat} {l : Location} {b : Backend} {s : Site} {c : Call}
    (hb : b.kvVersion = 2) (h : s.FurnishedAt pk l b) (hc : s.Secluded pk l c) :
    (s.step c).FurnishedAt pk l b ∧ (s.SparesConsumers pk c ↔ s.Shields pk c) := by
  obtain ⟨row, hrow, rfl, hfurnished⟩ := h
  obtain ⟨hconfig, taken, gone, left, row', hleft, hrow', hlocation, hpolicy, houtcome, htaken, hgone, hkept,
    hput⟩ := Site.FurnishedAt.call hrow rfl hfurnished hc
  refine ⟨hfurnished.stays hconfig hrow' hlocation hpolicy, ?_⟩
  have hturns : s.Turns pk c row row' (s.ext.store row.location).secret
      ((s.step c).ext.store row.location).secret := ⟨hrow.found, hleft, rfl, rfl⟩
  have hspares := hturns.spares_iff hb hfurnished hconfig hpolicy hlocation
  generalize hcell : (s.step c).ext.store row.location = cell' at houtcome hturns hspares
  cases houtcome with
  | untouched =>
      obtain ⟨hidles, rfl⟩ := hkept rfl
      rw [hspares]
      exact iff_of_true (fun _ => rfl) (hturns.shields_untouched hidles
        (fun hwrites => absurd (htaken.mpr hwrites) Bool.false_ne_true)
        fun hdeletes => absurd (hgone.mpr hdeletes) Bool.false_ne_true)
  | orphaned hreq hwrite =>
      obtain ⟨hidles, rfl⟩ := hkept rfl
      obtain ⟨-, rfl, rfl⟩ := (Backend.writeCell_v2 hb).mp hwrite
      have hshields := hturns.shields_orphaned hidles (htaken.mp rfl)
        (fun hdeletes => absurd (hgone.mpr hdeletes) Bool.false_ne_true) hreq hc.1.2
      exact Site.undone_iff (Secret.topped_push _ _) hidles hspares hshields
  | compensated _ hwrite hdelete =>
      obtain ⟨hidles, rfl⟩ := hkept rfl
      obtain ⟨-, rfl, rfl⟩ := (Backend.writeCell_v2 hb).mp hwrite
      rw [Backend.deleteCell_v2 hb] at hdelete
      obtain rfl := Except.ok.inj hdelete
      have hshields := hturns.shields_compensated hidles (hgone.mp rfl)
      exact Site.undone_iff (Secret.topped_push_delete _ _) hidles hspares hshields
  | stored hreq hcommits hwrite =>
      obtain ⟨hcas, rfl, rfl⟩ := (Backend.writeCell_v2 hb).mp hwrite
      rw [(hreq.material hc.1.2).2] at hcas
      obtain ⟨rfl, hactive⟩ := hput _ rfl
      obtain ⟨hdiscards, hversion, hserves | ⟨hstages, hserves, hpointer⟩⟩ := hcommits.stored_cases hc.1.2
      all_goals
        have hidles : ¬ s.Idles c := by
          refine hactive fun heq => ?_
          rw [heq] at hversion
          have hnext := hcas _ hversion
          omega
      · rw [hspares]
        refine iff_of_true (fun hdomain => ?_) (Site.Turns.shields_served hidles hserves.2 hdiscards)
        exact (hdomain.elim hidles fun hnot => hnot hserves.1).elim
      · have htopped := Secret.topped_push (s.ext.store row.location).secret
        rw [hspares, hturns.shields_staged hidles hstages hdiscards hreq hc.1.2, hpointer, ← (htopped _).read_iff,
          read_pinned hcas]
        exact ⟨fun hread => hread (.inr hserves), fun hread _ => hread⟩
  | repointed hcommits =>
      obtain ⟨rfl, hactive⟩ := hput _ rfl
      obtain ⟨hstages, hne, ⟨hserves, hdiscards⟩ | ⟨hdiscards, hserves, hpointer, staged, hstaged⟩⟩ :=
        hcommits.repointed_cases hc.1.2
      · have hidles := hactive hne
        rw [hspares]
        refine iff_of_true (fun hdomain => ?_) (Site.Turns.shields_served hidles hstages hdiscards)
        exact (hdomain.elim hidles fun hnot => hnot hserves).elim
      · rw [hspares, hturns.shields_discarded (hactive hne) hstages hdiscards hstaged, hpointer]
        exact iff_of_true (fun _ => rfl) fun hdeletes => absurd (hgone.mpr hdeletes) Bool.false_ne_true
  | @cleaned _ _ _ _ staged _ hdiscard hstaged hcommits hdelete =>
      rw [Backend.deleteCell_v2 hb] at hdelete
      obtain rfl := Except.ok.inj hdelete
      obtain ⟨rfl, hactive⟩ := hput _ rfl
      obtain ⟨hstages, hne, ⟨-, hnot⟩ | ⟨hdiscards, hserves, hpointer, -⟩⟩ := hcommits.repointed_cases hc.1.2
      · rw [hdiscard] at hnot
        exact absurd trivial hnot
      · rw [hspares, hturns.shields_discarded (hactive hne) hstages hdiscards hstaged, hpointer]
        have hread := (s.ext.store row.location).secret.read_delete_iff staged row.liveKvVersion
        constructor
        · intro hsame _ hnumber
          exact hread.mp (hsame (.inr hserves)) hnumber
        · intro hshielded _
          exact hread.mpr fun hnumber => hshielded (hgone.mp rfl) hnumber

/-- Any sequence of rotations, stagings, promotions and discards of a credential on KV v2 whose place nobody else
comes near, each failing at any point: every call that does not commit a rotation or a promotion leaves every
plain reveal as it was, if and only if consumers are shielded from every version such a call writes or deletes. -/
theorem consumers_spared_iff_shielded (pk : Nat) (s : Site) (row : Credential) (calls : List Call)
    (hrow : s.Row pk row) (hpolicy : (s.db.config.policies row.policyId).isSome = true)
    (hengine : (s.db.config.engines row.engineId).isSome = true) (hkv : s.db.config.Kv2 row.engineId)
    (hcalls : Runs.Along Site.step (Site.Secluded pk row.location) s calls) :
    Runs.Along Site.step (Site.SparesConsumers pk) s calls ↔ Runs.Along Site.step (Site.Shields pk) s calls := by
  obtain ⟨engine, hfound⟩ := Option.isSome_iff_exists.mp hengine
  have hstart : s.FurnishedAt pk row.location
      ⟨row.engineId, engine.slug, engine.backend, engine.kvVersion⟩ :=
    ⟨row, hrow, rfl, hpolicy, ⟨engine, hfound, rfl⟩, rfl⟩
  have hcall : ∀ (s : Site) (c : Call), s.FurnishedAt pk row.location
      ⟨row.engineId, engine.slug, engine.backend, engine.kvVersion⟩ → s.Secluded pk row.location c → _ :=
    fun s c h hc => Site.sparesConsumers_iff (hkv engine hfound) h hc
  exact Runs.along_iff_along (fun s c h hc => (hcall s c h hc).1) (fun s c h hc => (hcall s c h hc).2) hstart hcalls

end

namespace Sample

/-- The password once it has been promoted. -/
def promoted : Credential := { unpromoted with liveKvVersion := some 1 }

def promotedShelf : Site := site 2 promoted ⟨Secret.empty.push [("password", .str "first")], none⟩

def rotatePromoted : Call :=
  ⟨.rotate promoted [("password", .str "second")] none none, failing 20 .refused, noActs⟩

def stagePromoted : Call := ⟨.stage promoted [("password", .str "candidate")] none none, calm, noActs⟩

/-- A promoted version is shielded from every later one. -/
theorem promoted_shields {s : Site} {c : Call} (hrow : s.db.credentials 1 = some promoted)
    (hcurrent : 1 ≤ (s.ext.store promoted.location).secret.current) (hdiscards : ¬ c.operation.Discards) :
    @Site.Shields library 1 s c := by
  have hshielded : ∀ visible, (s.ext.store promoted.location).secret.Shielded (some 1) visible := by
    intro visible (hnew : 0 = (s.ext.store promoted.location).secret.current)
    omega
  have hrowed : ∀ {row}, s.db.credentials 1 = some row → promoted = row :=
    fun hfound => Option.some.inj (hrow.symm.trans hfound)
  refine @Site.Shields.mk library _ _ _ (fun row req hfound _ _ _ => ?_) (fun row req hfound _ _ _ _ => ?_)
    (fun row hfound _ _ => ?_) fun _ _ _ _ h => absurd h hdiscards
  all_goals
    obtain rfl := hrowed hfound
    exact hshielded _

end Sample

theorem consumers_spared_iff_shielded_promoted :
    Runs.Along (@Site.step Sample.library) (@Site.SparesConsumers Sample.library 1) Sample.promotedShelf
      [Sample.rotatePromoted, Sample.stagePromoted] := by
  have hrow : (@Site.step Sample.library Sample.promotedShelf Sample.rotatePromoted).db.credentials 1 =
      some Sample.promoted := by
    decide +kernel
  have hcurrent : 1 ≤ ((@Site.step Sample.library Sample.promotedShelf Sample.rotatePromoted).ext.store
      Sample.promoted.location).secret.current := by
    decide +kernel
  exact (@consumers_spared_iff_shielded Sample.library 1 Sample.promotedShelf Sample.promoted
    [Sample.rotatePromoted, Sample.stagePromoted] ⟨rfl, rfl, by decide⟩ (by decide) (by decide) (Sample.config_kv2 1)
    ⟨⟨⟨.rotate rfl _ _ _, trivial⟩, Sample.noActs_undisturbed _⟩,
      ⟨⟨.stage rfl _ _ _, trivial⟩, Sample.noActs_undisturbed _⟩, trivial⟩).mpr
    ⟨Sample.promoted_shields rfl (by decide) id, Sample.promoted_shields hrow hcurrent id, trivial⟩

/-- A rotation that was rolled back and compensated on a row nobody promoted: the version it wrote and deleted is
the newest one, and consumers who were served the version before are served none. -/
theorem compensated_rotation_serves_none :
    (@Site.step Sample.library Sample.shelf Sample.rotateCompensated).db.credentials 1 = some Sample.unpromoted ∧
    ((Sample.shelf.reveal Sample.unpromoted none none "approved").toOption.bind fun out =>
      out.1.lookup "password") matches some (.str "first") ∧
    ((@Site.step Sample.library Sample.shelf Sample.rotateCompensated).reveal Sample.unpromoted none none
      "approved").toOption.isNone = true ∧
    ¬ Runs.Along (@Site.step Sample.library) (@Site.SparesConsumers Sample.library 1) Sample.shelf
      [Sample.rotateCompensated] := by
  have hrow : (@Site.step Sample.library Sample.shelf Sample.rotateCompensated).db.credentials 1 =
      some Sample.unpromoted := by
    decide +kernel
  have hbefore : ((Sample.shelf.reveal Sample.unpromoted none none "approved").toOption.bind fun out =>
      out.1.lookup "password") matches some (.str "first") := by
    decide +kernel
  have hafter : ((@Site.step Sample.library Sample.shelf Sample.rotateCompensated).reveal Sample.unpromoted none
      none "approved").toOption.isNone = true := by
    decide +kernel
  have hother : (@Site.step Sample.library Sample.shelf Sample.rotateCompensated).db.credentials =
      Sample.shelf.db.credentials :=
    @Site.idles_of_found Sample.library 1 Sample.shelf Sample.rotateCompensated Sample.unpromoted
      ⟨1, "lab", .openbao, 2⟩ ⟨⟨.rotate rfl _ _ _, trivial⟩, Sample.noActs_undisturbed _⟩ ⟨rfl, rfl, by decide⟩
      ⟨by decide, ⟨Sample.engine 2, rfl, rfl⟩, rfl⟩ hrow
  refine ⟨hrow, hbefore, hafter, fun h => ?_⟩
  have hsame := h.1 Sample.unpromoted Sample.unpromoted rfl hrow (.inl hother) none none "approved"
  rw [hsame, Option.isNone_iff_eq_none] at hafter
  rw [hafter] at hbefore
  cases hbefore

end NetboxOpenbao
