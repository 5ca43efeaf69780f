import NetboxOpenbao.Proof.Lifecycle

/-!
# The extracted columns and the live version

Every accepted write copies what is extracted from its payload into the row, a staged one as well. Identity,
validity window and expiry scan read those columns as a description of the live version. They are one as long
as every candidate that gets staged extracts to what the columns already hold, and not beyond.
-/

namespace NetboxOpenbao

open Effect

/-! ### What extraction assigns -/

/-- Both assign the same columns. -/
structure Metadata.SameColumns (m m' : Metadata) : Prop where
  publicKey : m.publicKey.isSome = m'.publicKey.isSome
  fingerprint : m.fingerprint.isSome = m'.fingerprint.isSome
  keyType : m.keyType.isSome = m'.keyType.isSome
  certSerial : m.certSerial.isSome = m'.certSerial.isSome
  certSubject : m.certSubject.isSome = m'.certSubject.isSome
  certIssuer : m.certIssuer.isSome = m'.certIssuer.isSome
  validFrom : m.validFrom.isSome = m'.validFrom.isSome
  validUntil : m.validUntil.isSome = m'.validUntil.isSome

theorem Option.getD_getD_of_isSome {α : Type} {x y : Option α} (h : x.isSome = y.isSome) (a : α) :
    x.getD (y.getD a) = x.getD a := by
  cases x with
  | some b => rfl
  | none =>
      cases y with
      | none => rfl
      | some b => cases h

theorem Option.orElse_orElse_of_isSome {α : Type} {x y : Option α} (h : x.isSome = y.isSome) (a : Option α) :
    (x <|> (y <|> a)) = (x <|> a) := by
  cases x with
  | some b => rfl
  | none =>
      cases y with
      | none => rfl
      | some b => cases h

/-- What the later assignment names, the earlier one no longer shows. -/
theorem Metadata.SameColumns.apply_apply {m m' : Metadata} (h : m.SameColumns m') (c : PublicColumns) :
    m.apply (m'.apply c) = m.apply c := by
  simp only [Metadata.apply, Option.getD_getD_of_isSome h.publicKey, Option.getD_getD_of_isSome h.fingerprint,
    Option.getD_getD_of_isSome h.keyType, Option.getD_getD_of_isSome h.certSerial,
    Option.getD_getD_of_isSome h.certSubject, Option.getD_getD_of_isSome h.certIssuer,
    Option.orElse_orElse_of_isSome h.validFrom, Option.orElse_orElse_of_isSome h.validUntil]

section

variable [library : MaterialLibrary]

theorem extractSshMetadata_ok {privateKey : Value} {passphrase : Option Value} {m : Metadata}
    (h : extractSshMetadata privateKey passphrase = .ok m) : ∃ publicKey fingerprint keyType,
      m = { Metadata.empty with
        publicKey := some publicKey, fingerprint := some fingerprint, keyType := some keyType } := by
  unfold extractSshMetadata at h
  simp only at h
  split at h
  · cases h
  · split at h
    · cases h
    · split at h
      · cases h
      · cases h
        exact ⟨_, _, _, rfl⟩

theorem extractCertificateMetadata_ok {certificate : Value} {m : Metadata}
    (h : extractCertificateMetadata certificate = .ok m) : ∃ cert : Certificate, m = ⟨some cert.publicKey,
      some cert.fingerprint, some cert.keyType, some cert.serial, some cert.subject, some cert.issuer,
      some cert.notValidBefore, some cert.notValidAfter⟩ := by
  unfold extractCertificateMetadata at h
  split at h
  · cases h
  · next cert _ =>
      cases h
      exact ⟨cert, rfl⟩

theorem extractors_sameColumns {name : String} {run : Payload → Except Error Metadata}
    (hname : extractors name = some run) {payload payload' : Payload} {m m' : Metadata}
    (h : run payload = .ok m) (h' : run payload' = .ok m') : m.SameColumns m' := by
  unfold extractors at hname
  split at hname
  · obtain rfl := Option.some.inj hname
    have hssh : ∀ {p : Payload} {n : Metadata}, (do
        let privateKey ← p.get "private_key"
        extractSshMetadata privateKey (p.lookup "passphrase")) = .ok n →
        ∃ publicKey fingerprint keyType, n = { Metadata.empty with
          publicKey := some publicKey, fingerprint := some fingerprint, keyType := some keyType } := by
      intro p n hn
      cases hkey : p.get "private_key" with
      | error e =>
          rw [hkey] at hn
          cases hn
      | ok key =>
          rw [hkey] at hn
          exact extractSshMetadata_ok hn
    obtain ⟨_, _, _, rfl⟩ := hssh h
    obtain ⟨_, _, _, rfl⟩ := hssh h'
    constructor <;> rfl
  · obtain rfl := Option.some.inj hname
    have hx509 : ∀ {p : Payload} {n : Metadata}, (do
        let certificate ← p.get "certificate"
        extractCertificateMetadata certificate) = .ok n → ∃ cert : Certificate, n = ⟨some cert.publicKey,
          some cert.fingerprint, some cert.keyType, some cert.serial, some cert.subject, some cert.issuer,
          some cert.notValidBefore, some cert.notValidAfter⟩ := by
      intro p n hn
      cases hkey : p.get "certificate" with
      | error e =>
          rw [hkey] at hn
          cases hn
      | ok key =>
          rw [hkey] at hn
          exact extractCertificateMetadata_ok hn
    obtain ⟨_, rfl⟩ := hx509 h
    obtain ⟨_, rfl⟩ := hx509 h'
    constructor <;> rfl
  · cases hname

theorem extractMetadata_of_schema {config : Config} (hstored : config.storePublicMaterial = true)
    {credentialType : String} {schema : Schema} (hschema : getSchema config credentialType = .ok schema)
    (payload : Payload) : extractMetadata config credentialType payload =
      (schema.extractor.bind extractors).elim (.ok Metadata.empty) fun run => run payload := by
  unfold extractMetadata
  rw [hstored, hschema]
  dsimp only [bind, Except.bind]
  cases schema.extractor.bind extractors with
  | none => rfl
  | some run => rfl

theorem extractMetadata_sameColumns {config : Config} {credentialType : String} {payload payload' : Payload}
    {m m' : Metadata} (h : extractMetadata config credentialType payload = .ok m)
    (h' : extractMetadata config credentialType payload' = .ok m') : m.SameColumns m' := by
  have hempty : Metadata.empty.SameColumns Metadata.empty := by constructor <;> rfl
  cases hstored : config.storePublicMaterial with
  | false =>
      unfold extractMetadata at h h'
      rw [hstored] at h h'
      cases h
      cases h'
      exact hempty
  | true =>
      cases hschema : getSchema config credentialType with
      | error e =>
          unfold extractMetadata at h
          rw [hstored, hschema] at h
          cases h
      | ok schema =>
          rw [extractMetadata_of_schema hstored hschema] at h h'
          cases hrun : schema.extractor.bind extractors with
          | none =>
              rw [hrun] at h h'
              cases h
              cases h'
              exact hempty
          | some run =>
              rw [hrun] at h h'
              obtain ⟨name, -, hname⟩ := Option.bind_eq_some_iff.mp hrun
              exact extractors_sameColumns hname h h'

/-! ### Rows that describe a version -/

/-- The columns hold what is extracted from what was written as this version. -/
def Describes (config : Config) (row : Credential) (secret : Secret Payload) (version : Nat) : Prop :=
  ∃ data metadata, secret.written version = some data ∧
    extractMetadata config row.credentialType data = .ok metadata ∧ metadata.apply row.columns = row.columns

theorem Describes.later {config : Config} {row : Credential} {secret secret' : Secret Payload} {version : Nat}
    (h : Describes config row secret version) (hlater : secret.Later secret') :
    Describes config row secret' version := by
  obtain ⟨data, metadata, hwritten, hextract, happly⟩ := h
  exact ⟨data, metadata, hlater.written_some hwritten, hextract, happly⟩

theorem Prepared.extracted {config : Config} {credentialType : String} {payload data : Payload}
    {metadata : Metadata} {fingerprint : String}
    (h : Prepared config credentialType payload data metadata fingerprint) :
    extractMetadata config credentialType data = .ok metadata := by
  have hmaterial := h.material
  unfold prepareMaterial at hmaterial
  cases hvalid : validatePayload config credentialType payload with
  | error e =>
      rw [hvalid] at hmaterial
      cases hmaterial
  | ok clean =>
      rw [hvalid] at hmaterial
      cases hextract : extractMetadata config credentialType clean with
      | error e =>
          replace hmaterial : (extractMetadata config credentialType clean >>= fun m => .ok (clean, m)) =
            .ok (data, metadata) := hmaterial
          rw [hextract] at hmaterial
          cases hmaterial
      | ok m =>
          replace hmaterial : (extractMetadata config credentialType clean >>= fun m => .ok (clean, m)) =
            .ok (data, metadata) := hmaterial
          rw [hextract] at hmaterial
          cases hmaterial
          exact hextract

theorem Prepared.describes {config : Config} {row : Credential} {payload data : Payload} {metadata : Metadata}
    {fingerprint : String} (h : Prepared config row.credentialType payload data metadata fingerprint)
    {secret : Secret Payload} {version : Nat} (hwritten : secret.written version = some data) :
    Describes config (withMetadata row metadata) secret version :=
  ⟨data, metadata, hwritten, h.extracted, metadata.apply_apply row.columns⟩

/-- Once the columns have been overwritten, they describe an older version exactly if nothing changed. -/
theorem Describes.overwritten_iff {config : Config} {row : Credential} {payload data : Payload}
    {metadata : Metadata} {fingerprint : String} {secret : Secret Payload} {version : Nat}
    (h : Describes config row secret version)
    (hprepared : Prepared config row.credentialType payload data metadata fingerprint) :
    Describes config (withMetadata row metadata) secret version ↔ metadata.apply row.columns = row.columns := by
  obtain ⟨old, before, hwritten, hextract, happly⟩ := h
  have hover : before.apply (metadata.apply row.columns) = row.columns := by
    rw [(extractMetadata_sameColumns hextract hprepared.extracted).apply_apply, happly]
  constructor
  · rintro ⟨old', before', hwritten', hextract', happly'⟩
    obtain rfl := Option.some.inj (hwritten.symm.trans hwritten')
    obtain rfl : before = before' := Except.ok.inj (hextract.symm.trans hextract')
    exact happly'.symm.trans hover
  · intro hsame
    refine ⟨old, before, hwritten, hextract, ?_⟩
    change before.apply (metadata.apply row.columns) = metadata.apply row.columns
    rw [hsame, happly]

/-- The payload an operation stages. -/
def Operation.candidate : Operation → Option Payload
  | .stage _ payload .. => some payload
  | .create .. | .rotate .. | .promote .. | .discard .. | .update .. => none

theorem Commits.describes {config : Config} {time : Time} {row row' : Credential} {operation : Operation}
    {wrote : Option (WriteRequest × Nat)} {secret : Secret Payload}
    (h : Commits config time row operation wrote row') (hmaterial : operation.Material)
    (hlive : row.liveKvVersion ≠ none)
    (hstaged : ∀ v, row.stagedKvVersion = some v → Describes config row secret v)
    (hwritten : ∀ req version, wrote = some (req, version) → secret.written version = some req.data) :
    row'.liveKvVersion ≠ none ∧ (∀ v, row'.stagedKvVersion = some v → Describes config row' secret v) ∧
      ((∀ v, row.liveKvVersion = some v → Describes config row secret v) →
        ((∀ v, row'.liveKvVersion = some v → Describes config row' secret v) ↔
          (operation.candidate ≠ none → row'.columns = row.columns))) := by
  cases h with
  | rotate hprepared =>
      rw [written_promote]
      refine ⟨by simp, ?_, fun _ => iff_of_true (fun v hv => ?_) fun h => absurd rfl h⟩
      · intro v hv
        cases hv
      · obtain rfl := Option.some.inj hv
        exact hprepared.describes (hwritten _ _ rfl)
  | stage hnone hprepared =>
      rw [pinned_of_live hlive, written_stage]
      refine ⟨hlive, fun v hv => ?_, fun hdescribed => ?_⟩
      · obtain rfl := Option.some.inj hv
        exact hprepared.describes (hwritten _ _ rfl)
      · constructor
        · intro h _
          obtain ⟨v, hv⟩ := Option.ne_none_iff_exists'.mp hlive
          exact ((hdescribed v hv).overwritten_iff hprepared).mp (h v hv)
        · intro h v hv
          exact ((hdescribed v hv).overwritten_iff hprepared).mpr (h nofun)
  | promote hsome =>
      refine ⟨by simp [promoted_eq, hsome], ?_, fun _ => iff_of_true hstaged fun h => absurd rfl h⟩
      intro v hv
      cases hv
  | discard _ =>
      refine ⟨hlive, ?_, fun hdescribed => iff_of_true hdescribed fun h => absurd rfl h⟩
      intro v hv
      cases hv
  | edit _ => exact hmaterial.elim
  | update _ _ => exact hmaterial.elim

theorem Commits.candidate {config : Config} {time : Time} {row row' : Credential} {operation : Operation}
    {wrote : Option (WriteRequest × Nat)} {payload : Payload}
    (h : Commits config time row operation wrote row') (hcandidate : operation.candidate = some payload) :
    ∃ data metadata, prepareMaterial config row.credentialType payload = .ok (data, metadata) ∧
      row'.columns = metadata.apply row.columns := by
  cases h with
  | stage _ hprepared =>
      obtain rfl := Option.some.inj hcandidate
      refine ⟨_, _, hprepared.material, ?_⟩
      rw [written_stage]
      simp [withMetadata]
  | rotate | promote | discard | edit | update => cases hcandidate

/-- With the columns as they were, a staged or discarded candidate shows nowhere automation looks. -/
theorem Commits.unmoved {config : Config} {time : Time} {row row' : Credential} {operation : Operation}
    {wrote : Option (WriteRequest × Nat)} (h : Commits config time row operation wrote row')
    (hcandidate : operation.Candidate) (hlive : row.liveKvVersion ≠ none)
    (hcolumns : row'.columns = row.columns) :
    (∀ assignment, identity config assignment row' = identity config assignment row) ∧
      ∀ now, withinWindow row' now = withinWindow row now ∧
        expirySelects { row' with status := row.status } now = expirySelects row now := by
  cases h with
  | @stage _ _ _ _ _ metadata _ _ _ _ =>
      rw [pinned_of_live hlive, written_stage] at hcolumns ⊢
      have hsame : withMetadata row metadata = row := by
        rw [withMetadata, show metadata.apply row.columns = row.columns from hcolumns]
      rw [hsame]
      exact ⟨fun _ => rfl, fun _ => ⟨rfl, rfl⟩⟩
  | discard _ => exact ⟨fun _ => rfl, fun _ => ⟨rfl, rfl⟩⟩
  | rotate | promote | edit | update => exact hcandidate.elim

/-! ### Runs -/

/-- The columns of the credential numbered `pk` describe its live version, if there is one. -/
def Site.Described (pk : Nat) (s : Site) : Prop :=
  ∀ row v, s.db.credentials pk = some row → row.liveKvVersion = some v →
    Describes s.db.config row (s.ext.store row.location).secret v

/-- The credential numbered `pk` is on a KV v2 engine, has a live version, and its columns describe the staged
one, if there is one. -/
def Site.Serving (pk : Nat) (s : Site) : Prop :=
  ∃ row, s.Row pk row ∧ s.db.config.Kv2 row.engineId ∧ row.liveKvVersion ≠ none ∧
    ∀ v, row.stagedKvVersion = some v → Describes s.db.config row (s.ext.store row.location).secret v

/-- A candidate extracts to what the columns already hold, or staging it fails. -/
def Site.Matches (pk : Nat) (s : Site) (c : Call) : Prop :=
  ∀ payload row data metadata, c.operation.candidate = some payload → s.db.credentials pk = some row →
    prepareMaterial s.db.config row.credentialType payload = .ok (data, metadata) →
    metadata.apply row.columns = row.columns ∨ s.Idles c

/-- Staging or discarding leaves what automation decides by the columns as it was: the identity a reference is
frozen with, the validity window, and what the expiry scan makes of it. -/
def Site.Unmoved (pk : Nat) (s : Site) (c : Call) : Prop :=
  c.operation.Candidate → ∀ row row', s.db.credentials pk = some row →
    (s.step c).db.credentials pk = some row' →
    (∀ assignment, identity s.db.config assignment row' = identity s.db.config assignment row) ∧
    ∀ now, withinWindow row' now = withinWindow row now ∧
      expirySelects { row' with status := row.status } now = expirySelects row now

theorem Site.described_step {pk : Nat} {s : Site} {c : Call} (h : s.Serving pk) (hc : s.Handles pk c) :
    (s.step c).Serving pk ∧
      (s.Described pk → ((s.step c).Described pk ↔ s.Matches pk c)) := by
  obtain ⟨row, hrow, hkv, hlive, hstaged⟩ := h
  obtain ⟨hconfig, hlater, hmoved⟩ := Site.step_moved hc.1 hrow
  cases hmoved with
  | kept hcredentials =>
      have hfound : (s.step c).db.credentials pk = some row := by
        rw [hcredentials]
        exact hrow.found
      refine ⟨⟨row, ⟨hfound, hrow.pk, hrow.engine⟩, hconfig ▸ hkv, hlive, fun v hv => ?_⟩, fun hdescribed =>
        iff_of_true (fun row' v hrow' hv => ?_) fun _ _ _ _ _ _ _ => .inr hcredentials⟩
      · rw [hconfig]
        exact (hstaged v hv).later (hlater _)
      · rw [hconfig]
        exact (hdescribed row' v (hcredentials ▸ hrow') hv).later (hlater _)
  | committed wrote row' hcommits hcredentials hwritten =>
      have hput : (s.step c).db.credentials pk = some row' := by
        rw [hcredentials, Database.putCredential_self]
      obtain ⟨hpk, hlocation, hwhere⟩ := hcommits.material hc.2
      have hengine : row'.engineId = row.engineId := congrArg Location.engine hlocation
      have hrecorded : ∀ req version, wrote = some (req, version) →
          ((s.step c).ext.store row.location).secret.written version = some req.data := by
        intro req version hw
        have hat : req.location = row.location := hwhere req version hw
        have hkv' : s.db.config.Kv2 req.location.engine := by
          rw [hat]
          exact hkv
        rw [← hat]
        exact (hwritten req version hw hkv').2
      obtain ⟨hlive', hstaged', hiff⟩ := hcommits.describes hc.2 hlive
        (fun v hv => (hstaged v hv).later (hlater row.location)) hrecorded
      refine ⟨⟨row', ⟨hput, hpk.trans hrow.pk, hengine ▸ hrow.engine⟩, ?_, hlive', fun v hv => ?_⟩,
        fun hdescribed => ?_⟩
      · rw [hconfig, hengine]
        exact hkv
      · rw [hconfig, hlocation]
        exact hstaged' v hv
      · have hcolumns := hiff fun v hv => (hdescribed row v hrow.found hv).later (hlater row.location)
        constructor
        · intro h payload found data metadata hcandidate hfound hprepare
          obtain rfl := Option.some.inj (hrow.found.symm.trans hfound)
          have hsame : row'.columns = row.columns := by
            refine hcolumns.mp (fun v hv => ?_) (by simp [hcandidate])
            rw [← hlocation, ← hconfig]
            exact h row' v hput hv
          obtain ⟨data', metadata', hprepare', happly⟩ := hcommits.candidate hcandidate
          obtain ⟨-, rfl⟩ := Prod.mk.inj (Except.ok.inj (hprepare.symm.trans hprepare'))
          exact .inl (happly.symm.trans hsame)
        · intro h found v hfound hv
          obtain rfl := Option.some.inj (hput.symm.trans hfound)
          rw [hlocation, hconfig]
          refine hcolumns.mpr (fun hcandidate => ?_) v hv
          obtain ⟨payload, hpayload⟩ := Option.ne_none_iff_exists'.mp hcandidate
          obtain ⟨data, metadata, hprepare, happly⟩ := hcommits.candidate hpayload
          rcases h payload row data metadata hpayload hrow.found hprepare with hsame | hidles
          · exact happly.trans hsame
          · rw [Site.Idles] at hidles
            rw [hidles, hrow.found] at hput
            rw [Option.some.inj hput]

/-- Staging what the columns describe already, or discarding, moves nothing automation decides by. -/
theorem Site.unmoved_of_matches {pk : Nat} {s : Site} {c : Call} (h : s.Serving pk) (hc : s.Handles pk c)
    (hmatches : s.Matches pk c) : s.Unmoved pk c := by
  obtain ⟨row, hrow, -, hlive, -⟩ := h
  intro hcandidate found row' hfound hput
  obtain rfl := Option.some.inj (hrow.found.symm.trans hfound)
  by_cases hsame : row' = row
  · subst hsame
    exact ⟨fun _ => rfl, fun _ => ⟨rfl, rfl⟩⟩
  · obtain ⟨-, -, hmoved⟩ := Site.step_moved hc.1 hrow
    cases hmoved with
    | kept hcredentials =>
        rw [hcredentials, hrow.found] at hput
        exact absurd (Option.some.inj hput).symm hsame
    | committed wrote row'' hcommits hcredentials hwritten =>
        rw [hcredentials, Database.putCredential_self] at hput
        obtain rfl := Option.some.inj hput
        refine hcommits.unmoved hcandidate hlive ?_
        cases hpayload : c.operation.candidate with
        | none =>
            generalize c.operation = operation at hcommits hcandidate hpayload
            cases hcommits with
            | discard _ => rfl
            | stage => cases hpayload
            | rotate | promote | edit | update => exact hcandidate.elim
        | some payload =>
            obtain ⟨data, metadata, hprepare, happly⟩ := hcommits.candidate hpayload
            rcases hmatches payload row data metadata hpayload hrow.found hprepare with hcolumns | hidles
            · exact happly.trans hcolumns
            · have hput : (s.step c).db.credentials pk = some row'' := by
                rw [hcredentials, Database.putCredential_self]
              rw [Site.Idles] at hidles
              rw [hidles, hrow.found] at hput
              exact absurd (Option.some.inj hput).symm hsame

/-- A newly created credential and any sequence of rotations, stagings, promotions and discards, each failing
or not, whatever other parties do to the servers: its columns describe the live version in every state reached,
and no staging or discard moves the identity or the windows automation decides by, if and only if every
candidate that gets staged extracts to what the columns hold by then. -/
theorem columns_describe_live_iff_candidates_match (s : Site) (c : Call) (uuid : String) (attributes : Edits)
    (payload : Payload) (user : Option User) (request : Option Nat)
    (conforms : Database → Credential → Except Error Unit) (pk : Nat) (row : Credential) (calls : List Call)
    (hids : s.db.config.engines 0 = none) (hnew : s.db.credentials pk = none)
    (hcreate : c.operation = .create uuid attributes payload user request conforms)
    (hcreated : (s.step c).db.credentials pk = some row) (hkv : s.db.config.Kv2 row.engineId)
    (hcalls : Runs.Along Site.step (Site.Handles pk) (s.step c) calls) :
    Runs.Throughout Site.step (Site.Described pk) (s.step c) calls ∧
        Runs.Along Site.step (Site.Unmoved pk) (s.step c) calls ↔
      Runs.Along Site.step (Site.Matches pk) (s.step c) calls := by
  obtain ⟨hconfig, req, version, metadata, fingerprint, _, _, _, hmade, hlocation, hreached, hissued⟩ :=
    Site.step_created hids hnew hcreate hcreated
  have hwritten : ((s.step c).ext.store row.location).secret.written version = some req.data := by
    have hkv' : s.db.config.Kv2 req.location.engine := by
      rw [hlocation]
      exact hkv
    rw [← hlocation]
    exact (hreached.recorded hissued req version rfl hkv').2
  have hrow : (s.step c).Row pk row := by
    refine ⟨hcreated, ?_, hmade.engine⟩
    rw [hmade.made, written_promote]
  have hlive : row.liveKvVersion = some version := by rw [hmade.made, written_promote]
  have hstaged : row.stagedKvVersion = none := by rw [hmade.made, written_promote]
  have hserving : (s.step c).Serving pk := by
    refine ⟨row, hrow, hconfig ▸ hkv, by simp [hlive], fun v hv => ?_⟩
    rw [hstaged] at hv
    cases hv
  have hdescribed : (s.step c).Described pk := by
    intro found v hfound hv
    obtain rfl := Option.some.inj (hcreated.symm.trans hfound)
    obtain rfl := Option.some.inj (hlive.symm.trans hv)
    rw [hconfig]
    have htype : row.credentialType = attributes.credentialType.getD "" := by
      rw [hmade.made, written_promote]
      rfl
    have hcolumns : metadata.apply row.columns = row.columns := by
      rw [hmade.made, written_promote]
      exact metadata.apply_apply _
    exact ⟨req.data, metadata, hwritten, htype ▸ hmade.prepared.extracted, hcolumns⟩
  have hiff : Runs.Throughout Site.step (Site.Described pk) (s.step c) calls ↔
      Runs.Along Site.step (Site.Matches pk) (s.step c) calls := by
    refine Runs.throughout_iff_along (I := Site.Serving pk) ?_ ?_ hserving hdescribed hcalls
    · exact fun t d ht hd => (Site.described_step ht hd).1
    · exact fun t d ht hd => (Site.described_step ht hd).2
  constructor
  · exact fun h => hiff.mp h.1
  · intro h
    refine ⟨hiff.mpr h, ?_⟩
    have hthroughout : Runs.Throughout Site.step (Site.Serving pk) (s.step c) calls := by
      refine Runs.throughout_of_along (C := Site.Handles pk) ?_ hserving hcalls
      exact fun t d ht hd => (Site.described_step ht hd).1
    refine Runs.along_of_throughout ?_ hthroughout (hcalls.and h)
    exact fun t d ht hd => Site.unmoved_of_matches ht hd.1 hd.2

end

namespace Sample

/-- A key pair the deployment has not stored any material of yet. -/
def createKey : Call := ⟨.create "77aa" { attributes with credentialType := some "ssh-keypair" }
  [("private_key", .str "alpha")] none none fun _ _ => .ok (), calm, noActs⟩

/-- The same key again, as a candidate. -/
def stageSame : Call := ⟨.stage second [("private_key", .str "alpha")] none none, calm, noActs⟩

/-- Certificates parse here, and are valid for as many seconds as their text is long. -/
@[reducible] def certificates : MaterialLibrary := { library with
  loadPemCertificate := fun value => match value with
    | .str s => some ⟨s, "CN=Lab", "01", 0, s.length, "SHA256:" ++ s, "rsa", "ssh-rsa " ++ s⟩
    | _ => none }

def certificate (text : String) : Payload := [("private_key", .str "pem"), ("certificate", .str text)]

def createCertificate : Call := ⟨.create "77aa" { attributes with credentialType := some "x509-keypair" }
  (certificate "CN=switch-07") none none fun _ _ => .ok (), calm, noActs⟩

/-- A candidate that is valid for a shorter time. -/
def stageCertificate : Call := ⟨.stage second (certificate "CN=sw") none none, calm, noActs⟩

end Sample

theorem columns_describe_live_iff_candidates_match_same :
    Runs.Throughout (@Site.step Sample.library) (@Site.Described Sample.library 2)
        (@Site.step Sample.library Sample.fresh Sample.createKey) [Sample.stageSame] ∧
      Runs.Along (@Site.step Sample.library) (@Site.Unmoved Sample.library 2)
        (@Site.step Sample.library Sample.fresh Sample.createKey) [Sample.stageSame] := by
  have hmade : ((@Site.step Sample.library Sample.fresh Sample.createKey).db.credentials 2).map
      (fun row => (row.engineId, row.credentialType, row.columns)) =
      some (1, "ssh-keypair", { PublicColumns.blank with
        publicKey := "ssh-ed25519 alpha", fingerprint := "SHA256:ssh-ed25519 alpha", keyType := "ed25519" }) := by
    decide +kernel
  obtain ⟨row, hcreated, heq⟩ := Option.map_eq_some_iff.mp hmade
  obtain ⟨hengine, heq⟩ := Prod.mk.inj heq
  obtain ⟨htype, hcolumns⟩ := Prod.mk.inj heq
  have hiff := @columns_describe_live_iff_candidates_match Sample.library Sample.fresh Sample.createKey _ _ _ _ _ _
    2 row [Sample.stageSame] rfl rfl rfl hcreated (hengine ▸ Sample.config_kv2 1)
    ⟨⟨.stage rfl _ _ _, trivial⟩, trivial⟩
  refine hiff.mpr ⟨fun payload found data metadata hcandidate hfound hprepare => .inl ?_, trivial⟩
  obtain rfl := Option.some.inj (hcreated.symm.trans hfound)
  obtain rfl : [("private_key", .str "alpha")] = payload := Option.some.inj hcandidate
  have hextract : (@prepareMaterial Sample.library (Sample.config 2) "ssh-keypair"
      [("private_key", .str "alpha")]).toOption.map Prod.snd = some { Metadata.empty with
        publicKey := some "ssh-ed25519 alpha", fingerprint := some "SHA256:ssh-ed25519 alpha"
        keyType := some "ed25519" } := by
    decide +kernel
  have hconfig : (@Site.step Sample.library Sample.fresh Sample.createKey).db.config = Sample.config 2 :=
    (@Site.step_created Sample.library Sample.fresh Sample.createKey _ _ _ _ _ _ 2 row rfl rfl rfl hcreated).1
  rw [hconfig, htype] at hprepare
  rw [hprepare] at hextract
  obtain rfl := Option.some.inj hextract
  rw [hcolumns]
  rfl

/-- A staged certificate replaces the columns of the one that is served, which is then refused too early. -/
theorem staged_certificate_moves_columns :
    ((@Site.step Sample.certificates Sample.fresh Sample.createCertificate).db.credentials 2).map
        (fun row => (row.liveKvVersion, row.columns.fingerprint, withinWindow row 8)) =
      some (some 1, "SHA256:CN=switch-07", true) ∧
    ((@Site.step Sample.certificates (@Site.step Sample.certificates Sample.fresh Sample.createCertificate)
        Sample.stageCertificate).db.credentials 2).map
        (fun row => (row.liveKvVersion, row.columns.fingerprint, withinWindow row 8)) =
      some (some 1, "SHA256:CN=sw", false) ∧
    ¬ (Runs.Throughout (@Site.step Sample.certificates) (@Site.Described Sample.certificates 2)
        (@Site.step Sample.certificates Sample.fresh Sample.createCertificate) [Sample.stageCertificate] ∧
      Runs.Along (@Site.step Sample.certificates) (@Site.Unmoved Sample.certificates 2)
        (@Site.step Sample.certificates Sample.fresh Sample.createCertificate) [Sample.stageCertificate]) := by
  have hbefore : ((@Site.step Sample.certificates Sample.fresh Sample.createCertificate).db.credentials 2).map
      (fun row => (row.liveKvVersion, row.columns.fingerprint, withinWindow row 8)) =
      some (some 1, "SHA256:CN=switch-07", true) := by
    decide +kernel
  have hafter : ((@Site.step Sample.certificates (@Site.step Sample.certificates Sample.fresh
      Sample.createCertificate) Sample.stageCertificate).db.credentials 2).map
      (fun row => (row.liveKvVersion, row.columns.fingerprint, withinWindow row 8)) =
      some (some 1, "SHA256:CN=sw", false) := by
    decide +kernel
  refine ⟨hbefore, hafter, fun ⟨_, hunmoved, _⟩ => ?_⟩
  obtain ⟨row, hrow, heq⟩ := Option.map_eq_some_iff.mp hbefore
  obtain ⟨row', hrow', heq'⟩ := Option.map_eq_some_iff.mp hafter
  have hwindow := ((hunmoved trivial row row' hrow hrow').2 8).1
  rw [(Prod.mk.inj (Prod.mk.inj heq).2).2, (Prod.mk.inj (Prod.mk.inj heq').2).2] at hwindow
  cases hwindow

end NetboxOpenbao
