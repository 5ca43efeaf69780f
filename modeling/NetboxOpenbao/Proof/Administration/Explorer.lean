import Mathlib.Data.List.Forall2
import NetboxOpenbao.Administration.EngineViews
import NetboxOpenbao.Proof.Administration.Mutations
import NetboxOpenbao.Proof.Administration.Plane
import NetboxOpenbao.Coding.Characters

/-!
# Mounts behind one parameter

A document names the operations of a mount by the parameter of the mount's name, and that parameter has an underscore
for every character that is no letter and no digit. Two live mounts whose names differ in such characters only share
their operations; of those the explorer cannot tell for which mount they were advertised.
-/

namespace NetboxOpenbao

open Effect Dialogue

namespace Engines

/-! ### What a parameter keeps of a name -/

theorem parameterChar_of_alphanum {c : Char} (hc : c.isAlphanum = true) : parameterChar c = c := if_pos hc

theorem parameterChar_of_not_alphanum {c : Char} (hc : c.isAlphanum = false) : parameterChar c = '_' :=
  if_neg (by rw [hc]; exact Bool.false_ne_true)

/-- Two characters a parameter does not tell apart. -/
def AlikeChar (c d : Char) : Prop := c = d ∨ (c.isAlphanum = false ∧ d.isAlphanum = false)

theorem parameterChar_eq_iff (c d : Char) : parameterChar c = parameterChar d ↔ AlikeChar c d := by
  have hunderscore : ('_' : Char).isAlphanum = false := by decide
  constructor
  · intro hsame
    cases hc : c.isAlphanum <;> cases hd : d.isAlphanum
    · exact .inr ⟨hc, hd⟩
    · rw [parameterChar_of_not_alphanum hc, parameterChar_of_alphanum hd] at hsame
      rw [← hsame, hunderscore] at hd
      cases hd
    · rw [parameterChar_of_alphanum hc, parameterChar_of_not_alphanum hd] at hsame
      rw [hsame, hunderscore] at hc
      cases hc
    · rw [parameterChar_of_alphanum hc, parameterChar_of_alphanum hd] at hsame
      exact .inl hsame
  · rintro (rfl | ⟨hc, hd⟩)
    · rfl
    · rw [parameterChar_of_not_alphanum hc, parameterChar_of_not_alphanum hd]

/-- Names of one length that differ only where both have a character that is no letter and no digit. -/
def Alike (name other : String) : Prop := List.Forall₂ AlikeChar name.toList other.toList

instance (c d : Char) : Decidable (AlikeChar c d) := inferInstanceAs (Decidable (_ ∨ _))

instance (name other : String) : Decidable (Alike name other) := inferInstanceAs (Decidable (List.Forall₂ _ _ _))

theorem map_parameterChar_eq_iff (name other : String) :
    name.map parameterChar = other.map parameterChar ↔ Alike name other := by
  rw [← String.toList_inj, String.toList_map, String.toList_map, Alike, ← List.forall₂_eq_eq_eq,
    List.forall₂_map_left_iff, List.forall₂_map_right_iff]
  have hchar : (fun c d => parameterChar c = parameterChar d) = AlikeChar :=
    funext fun c => funext fun d => propext (parameterChar_eq_iff c d)
  rw [hchar]

/-! ### The name of a live mount -/

theorem trimmed_of_none {drops : Char → Bool} {s : String} (h : ∀ c ∈ s.toList, drops c = false) :
    Text.trimmed drops s = s.toList := by
  have hkeep : ∀ cs : List Char, (∀ c ∈ cs, drops c = false) → cs.dropWhile drops = cs := by
    intro cs hcs
    cases cs with
    | nil => rfl
    | cons c rest => rw [List.dropWhile_cons_of_neg (by rw [hcs c List.mem_cons_self]; exact Bool.false_ne_true)]
  unfold Text.trimmed
  rw [hkeep _ h, hkeep _ fun c hc => h c (List.mem_reverse.mp hc), List.reverse_reverse]

theorem space_of_alphanum {c : Char} (hc : c.isAlphanum = true) : Text.space c = false := by
  have hrange : (48 ≤ c.toNat ∧ c.toNat ≤ 57) ∨ (65 ≤ c.toNat ∧ c.toNat ≤ 90) ∨ (97 ≤ c.toNat ∧ c.toNat ≤ 122) := by
    delta Char.isAlphanum Char.isAlpha Char.isUpper Char.isLower Char.isDigit at hc
    simp only [Bool.or_eq_true, Bool.and_eq_true, decide_eq_true_eq, ge_iff_le, UInt32.le_iff_toNat_le] at hc
    change ((_ ≤ c.toNat ∧ c.toNat ≤ _) ∨ (_ ≤ c.toNat ∧ c.toNat ≤ _)) ∨ (_ ≤ c.toNat ∧ c.toNat ≤ _) at hc
    simp at hc
    omega
  unfold Text.space
  simp only [Bool.or_eq_false_iff, Bool.and_eq_false_iff, decide_eq_false_iff_not, List.contains_eq_mem,
    List.mem_cons, List.not_mem_nil, or_false]
  omega

theorem mountRe_chars {path : String} (hvalid : mountRe path = true) :
    ∀ c ∈ path.toList, c.isAlphanum = true ∨ c ∈ ['_', '.', '-'] := by
  unfold mountRe Text.token at hvalid
  intro c hc
  cases hchars : path.toList with
  | nil =>
      rw [hchars] at hc
      cases hc
  | cons first others =>
      rw [hchars] at hc hvalid
      simp only [Bool.and_eq_true, List.all_eq_true, Bool.or_eq_true, List.contains_iff_mem] at hvalid
      obtain ⟨⟨hfirst, -⟩, hothers⟩ := hvalid
      rcases List.mem_cons.mp hc with rfl | hrest
      · exact .inl hfirst
      · exact hothers c hrest

/-- A mount's name is as `normalize_mount_path` leaves it. -/
theorem normalizeMountPath_of_valid {path : String} (hvalid : mountRe path = true) :
    normalizeMountPath path = .ok path := by
  have hspace : ∀ c ∈ path.toList, Text.space c = false := by
    intro c hc
    rcases mountRe_chars hvalid c hc with halnum | hextra
    · exact space_of_alphanum halnum
    · exact (by decide : ∀ c ∈ ['_', '.', '-'], Text.space c = false) c hextra
  have hslash : ∀ c ∈ path.toList, (c == '/') = false := by
    intro c hc
    rcases mountRe_chars hvalid c hc with halnum | hextra
    · cases hsame : c == '/' with
      | false => rfl
      | true =>
          rw [eq_of_beq hsame] at halnum
          exact absurd halnum (by decide)
    · exact (by decide : ∀ c ∈ ['_', '.', '-'], (c == '/') = false) c hextra
  have hstrip : Text.strip path = path := by rw [Text.strip, trimmed_of_none hspace, String.ofList_toList]
  have hslashes : Text.stripSlashes path = path := by
    rw [Text.stripSlashes, trimmed_of_none hslash, String.ofList_toList]
  unfold normalizeMountPath
  dsimp only
  rw [hstrip, hslashes, if_pos hvalid]

theorem mountParameterForPath_of_valid {path : String} (hvalid : mountRe path = true) :
    mountParameterForPath path = .ok (path.map parameterChar ++ "_mount_path") := by
  unfold mountParameterForPath
  rw [normalizeMountPath_of_valid hvalid]
  rfl

theorem mountParameterForPath_eq_iff {path other : String} (hpath : mountRe path = true)
    (hother : mountRe other = true) :
    mountParameterForPath path = mountParameterForPath other ↔ Alike path other := by
  rw [mountParameterForPath_of_valid hpath, mountParameterForPath_of_valid hother, ← map_parameterChar_eq_iff]
  constructor
  · intro hsame
    exact (String.append_left_inj _).mp (Except.ok.inj hsame)
  · intro hsame
    rw [hsame]

end Engines

open Engines

/-! ### What an admitted request has passed -/

theorem checkMount_ok {operation : ExplorerOperation} {mountPath : String} {mounts : List String}
    (h : checkMount operation mountPath mounts = .ok ()) :
    mountPath ∈ mounts ∧ mountParameterForPath mountPath = .ok operation.mountParameter := by
  unfold checkMount at h
  split at h
  · cases h
  · next hlive =>
      cases hparameter : mountParameterForPath mountPath with
      | error error =>
          rw [hparameter] at h
          cases h
      | ok parameter =>
          rw [hparameter] at h
          by_cases hsame : operation.mountParameter = parameter
          · refine ⟨?_, by rw [hsame]⟩
            simp only [Bool.or_eq_true, Bool.not_eq_true', not_or, Bool.not_eq_false] at hlive
            exact List.contains_iff_mem.mp hlive.1
          · have hraised : Except.error (requestError "The selected operation was not advertised by this live mount.")
                = (Except.ok () : Except Error Unit) := by
              rw [← h]
              exact (if_pos (bne_iff_ne.mpr hsame)).symm
            cases hraised

theorem resolveExplorerOperation_ok {document : CapabilityDocument} {key : String} {operation : ExplorerOperation}
    (h : resolveExplorerOperation document key = .ok operation) :
    ∃ discovered ∈ document.operations, explorerOperation discovered = operation := by
  unfold resolveExplorerOperation at h
  split at h
  · next selected hfilter =>
      split at h
      · obtain rfl := Except.ok.inj h
        have hmem : selected ∈ (classifyExplorerOperations document).filter fun item => item.operationKey == key := by
          rw [hfilter]
          exact List.mem_singleton_self _
        have hclassified := (List.mem_filter.mp hmem).1
        exact List.mem_map.mp (List.mem_mergeSort.mp hclassified)
      · cases h
  · cases h

/-! ### The sibling path -/

namespace EngineJourneys

theorem mapM_mountParameterForPath (mounts : List SecretEngineMount) :
    (mounts.mapM fun mount => mountParameterForPath mount.path) =
      .ok (mounts.map fun mount => mount.path.map parameterChar ++ "_mount_path") := by
  induction mounts with
  | nil => rfl
  | cons mount rest ih =>
      rw [List.mapM_cons, mountParameterForPath_of_valid mount.valid, ih]
      rfl

end EngineJourneys

section

variable [Packaging] {h : List PlaneExchange}

theorem engineDocument_avoids {P : AdminAsk → Prop} (hbackend : ¬ P .backend) (hstatus : ¬ P .sealStatus)
    (hdiscover : ¬ P .discoverCapabilities) : engineDocument.Avoids P :=
  Avoids.bind (Admin.ask_avoids hbackend) fun _ =>
    Avoids.bind (Admin.ask_avoids hstatus) fun status =>
      Avoids.bind (requireBaseline_avoids status) fun _ =>
        Avoids.bind (Admin.raiseIf_avoids _ _) fun _ =>
          Avoids.bind (Admin.ask_avoids hdiscover) fun _ =>
            Avoids.bind (Admin.raiseIf_avoids _ _) fun _ => Avoids.pure _

/-- What the last check of an explorer request is made against: the mounts of the last answer. -/
theorem prepareExplorerExecution_ok {cluster : OpenBaoCluster} {data : ExplorerData} {prepared : PreparedOperation}
    (he : Ends (prepareExplorerExecution cluster data) h (.ok prepared)) :
    ∃ h₀ mounts, h = h₀ ++ [⟨.listSecretEngines, .ok mounts⟩] ∧ (∀ x ∈ h₀, x.request ≠ .listSecretEngines) ∧
      resolveExplorerOperation prepared.document data.operationKey = .ok prepared.operation ∧
      checkMount prepared.operation data.mountPath (mounts.map SecretEngineMount.path) = .ok () := by
  obtain ⟨h₁, h₂, document, rfl, hdocument, hadmit⟩ := he.bind_ok
  obtain ⟨-, hadmit⟩ := Admin.raiseIf_ok hadmit
  obtain ⟨operation, hresolve, hadmit⟩ := Admin.ofExcept_ok hadmit
  obtain ⟨-, -, hadmit⟩ := Admin.ofExcept_ok hadmit
  obtain ⟨permitted, h₃, rfl, hpermitted⟩ := Admin.ask_ok hadmit
  obtain ⟨-, hpermitted⟩ := Admin.raiseIf_ok hpermitted
  obtain ⟨mounts, h₄, rfl, hlisted⟩ := Admin.ask_ok hpermitted
  obtain ⟨⟨⟩, hcheck, hlisted⟩ := Admin.ofExcept_ok hlisted
  obtain ⟨path, -, hlisted⟩ := Admin.ofExcept_ok hlisted
  obtain ⟨-, hlisted⟩ := Admin.raiseIf_ok hlisted
  obtain ⟨rfl, rfl⟩ := Ends.pure_ok hlisted
  refine ⟨h₁ ++ [⟨.hasPerm operation.requiredPermission, .ok permitted⟩], mounts, by simp, ?_, hresolve, hcheck⟩
  intro x hx
  rcases List.mem_append.mp hx with hx | hx
  · exact (engineDocument_avoids (P := (· = .listSecretEngines)) nofun nofun nofun).ends hdocument x hx
  · rw [List.mem_singleton.mp hx]
    nofun

/-- The document advertises the operation for the mount at `path`. -/
def Advertises (document : CapabilityDocument) (operation : ExplorerOperation) (path : String) : Prop :=
  (∃ discovered ∈ document.operations, explorerOperation discovered = operation) ∧
    mountParameterForPath path = .ok operation.mountParameter

/-- The operation of an admitted request was advertised for the selected mount and no other live one exactly when no
other live mount's name is alike. -/
theorem explorer_operation_of_one_mount_iff {cluster : OpenBaoCluster} {data : ExplorerData}
    {prepared : PreparedOperation} {mounts : List SecretEngineMount}
    (he : Ends (prepareExplorerExecution cluster data) h (.ok prepared))
    (hlive : (⟨.listSecretEngines, .ok mounts⟩ : PlaneExchange) ∈ h) :
    ((∃ mount ∈ mounts, mount.path = data.mountPath) ∧
        Advertises prepared.document prepared.operation data.mountPath ∧
        ∀ other ∈ mounts, other.path ≠ data.mountPath →
          ¬ Advertises prepared.document prepared.operation other.path) ↔
      ∀ other ∈ mounts, other.path ≠ data.mountPath → ¬ Alike data.mountPath other.path := by
  obtain ⟨h₀, live, rfl, hbefore, hresolve, hcheck⟩ := prepareExplorerExecution_ok he
  have hmounts : mounts = live := by
    rcases List.mem_append.mp hlive with hearly | hlast
    · exact absurd rfl (hbefore _ hearly)
    · cases List.mem_singleton.mp hlast
      rfl
  subst hmounts
  obtain ⟨hmem, hparameter⟩ := checkMount_ok hcheck
  obtain ⟨selected, hselected, hpath⟩ := List.mem_map.mp hmem
  have hadvertised := resolveExplorerOperation_ok hresolve
  have hother : ∀ other ∈ mounts,
      (Advertises prepared.document prepared.operation other.path ↔ Alike data.mountPath other.path) := by
    intro other _
    rw [← hpath] at hparameter ⊢
    rw [← mountParameterForPath_eq_iff selected.valid other.valid, hparameter]
    exact ⟨fun hadvertises => hadvertises.2.symm, fun hsame => ⟨hadvertised, hsame.symm⟩⟩
  constructor
  · rintro ⟨-, -, halone⟩ other hmem hne halike
    exact halone other hmem hne ((hother other hmem).mpr halike)
  · intro halone
    refine ⟨⟨selected, hselected, hpath⟩, ⟨hadvertised, hparameter⟩, fun other hmem hne hadvertises => ?_⟩
    exact halone other hmem hne ((hother other hmem).mp hadvertises)

end

namespace Sample

/-- The digest of a live document. -/
def documentDigest : String := "b059374a20a94f21d3eb30b41949ce362bc434da05968bc1349ead4a3f37b286"

/-- Versions of three numbers, as far as the samples have them. -/
@[reducible] def packaging : Packaging where
  Version := Nat × Nat × Nat
  parse text := if text = "2.6.2" then some (2, 6, 2) else none
  lt version other := version.1 < other.1 ||
    (version.1 == other.1 && (version.2.1 < other.2.1 || (version.2.1 == other.2.1 && version.2.2 < other.2.2)))
  release version := [version.1, version.2.1, version.2.2]

def kvRead (mountParameter : String) : DiscoveredOperation where
  operationId := "kv-v2-read-data-path"
  method := "GET"
  pathTemplate := "/\x7bsecret_mount_path\x7d/data/\x7bpath\x7d"
  summary := ""
  tags := []
  family := "mounted-secrets"
  riskLevel := "read"
  responseClass := "material"
  requiredPermission := ""
  classified := true
  mountParameter
  queryParameters := []
  requiredQueryParameters := []
  pathParameters := ["secret_mount_path", "path"]
  requiredPathParameters := ["secret_mount_path", "path"]
  pathParameterTypes := []
  bodyFields := []
  requiredBodyFields := []
  queryParameterTypes := []
  bodyFieldTypes := []

def advertised (mountParameter : String) : CapabilityDocument where
  openapiVersion := "3.0.2"
  productVersion := "2.6.2"
  digest := documentDigest
  operations := [kvRead mountParameter]

def unsealed : SealStatus where
  initialized := true
  isSealed := false
  threshold := 3
  shares := 5
  progress := 0
  version := "2.6.2"
  sealType := "shamir"
  migration := false
  recoverySeal := false
  storageType := "raft"
  clusterName := "bao"
  clusterId := "bao"

def kvMount (path : String) (valid : mountRe path = true) : SecretEngineMount where
  path
  valid
  engineType := "kv"
  accessor := ""
  description := ""
  isLocal := false
  sealWrap := false
  defaultLeaseTtl := 0
  maxLeaseTtl := 0
  pluginVersion := ""
  kvVersion := 2

/-- A request for the read of a key on the mount `team-db`. -/
def readTeamDb : ExplorerData where
  operationKey := (kvRead "team_db_mount_path").operationKey
  journeyId := ""
  capabilityDigest := documentDigest
  mountPath := "team-db"
  resourcePath := "app"
  pathParameters := []
  query := []
  body := []
  reason := "maintenance"
  confirmation := ""

def teamDbRead : PreparedOperation where
  document := advertised "team_db_mount_path"
  operation := explorerOperation (kvRead "team_db_mount_path")
  path := "/team-db/data/app"

/-- The exchanges of an admitted request, with these live mounts. -/
def admittedWith (mounts : List SecretEngineMount) : List PlaneExchange :=
  [⟨.backend, .ok ()⟩, ⟨.sealStatus, .ok unsealed⟩, ⟨.discoverCapabilities, .ok (advertised "team_db_mount_path")⟩,
    ⟨.hasPerm "netbox_openbao.reveal_secret_operations_openbaocluster", .ok true⟩, ⟨.listSecretEngines, .ok mounts⟩]

def teamDb : SecretEngineMount := kvMount "team-db" (by decide +kernel)

def teamDbUnderscore : SecretEngineMount := kvMount "team_db" (by decide +kernel)

def warehouse : SecretEngineMount := kvMount "warehouse" (by decide +kernel)

theorem resolve_teamDb : resolveExplorerOperation (advertised "team_db_mount_path") readTeamDb.operationKey =
    .ok (explorerOperation (kvRead "team_db_mount_path")) := by
  have hexecutable : (explorerOperation (kvRead "team_db_mount_path")).executable = true := by decide +kernel
  have hsorted : classifyExplorerOperations (advertised "team_db_mount_path") =
      [explorerOperation (kvRead "team_db_mount_path")] := List.mergeSort_singleton _
  have hkey : ((explorerOperation (kvRead "team_db_mount_path")).operationKey == readTeamDb.operationKey) = true :=
    beq_self_eq_true _
  simp only [resolveExplorerOperation, hsorted, List.filter_cons, hkey, if_true, List.filter_nil, hexecutable]

theorem path_teamDb : compileOperationPath (kvRead "team_db_mount_path").pathTemplate "team-db" "app" [] =
    .ok "/team-db/data/app" := by
  have hcompiled : (compileOperationPath (kvRead "team_db_mount_path").pathTemplate "team-db" "app" []).toOption =
      some "/team-db/data/app" := by decide +kernel
  cases hresult : compileOperationPath (kvRead "team_db_mount_path").pathTemplate "team-db" "app" [] with
  | error error =>
      rw [hresult] at hcompiled
      cases hcompiled
  | ok path =>
      rw [hresult] at hcompiled
      exact congrArg Except.ok (Option.some.inj hcompiled)

theorem checkMount_teamDb {mounts : List String} (hlive : mounts.contains "team-db" = true) :
    checkMount (explorerOperation (kvRead "team_db_mount_path")) "team-db" mounts = .ok () := by
  have hreserved : reservedMountPaths.contains "team-db" = false := by decide +kernel
  have hparameter : mountParameterForPath "team-db" = .ok "team_db_mount_path" := by
    rw [mountParameterForPath_of_valid (by decide +kernel)]
    decide +kernel
  simp only [checkMount, hlive, hreserved, Bool.not_true, Bool.or_self, Bool.false_eq_true, if_false, hparameter]
  rfl

/-- With these live mounts the request is admitted. -/
theorem teamDb_admitted {mounts : List SecretEngineMount}
    (hlive : (mounts.map SecretEngineMount.path).contains "team-db" = true) :
    Ends (@prepareExplorerExecution packaging openBaoCluster readTeamDb) (admittedWith mounts) (.ok teamDbRead) := by
  have hdocument : Ends (@engineDocument packaging)
      [⟨.backend, .ok ()⟩, ⟨.sealStatus, .ok unsealed⟩,
        ⟨.discoverCapabilities, .ok (advertised "team_db_mount_path")⟩] (.ok (advertised "team_db_mount_path")) :=
    Admin.asked (Admin.asked (Admin.asked (.start _)))
  refine Ends.andThen hdocument ?_
  refine Admin.unraised (by decide) ?_
  refine Admin.passed resolve_teamDb ?_
  refine Admin.passed (a := ()) rfl ?_
  refine Admin.asked (r := .hasPerm _) (a := true) ?_
  refine Admin.unraised rfl ?_
  refine Admin.asked (r := .listSecretEngines) (a := mounts) ?_
  refine Admin.passed (checkMount_teamDb hlive) ?_
  refine Admin.passed path_teamDb ?_
  refine Admin.unraised (by decide) ?_
  exact .start _

end Sample

theorem explorer_operation_of_one_mount_iff_warehouse :
    ((∃ mount ∈ [Sample.teamDb, Sample.warehouse], mount.path = "team-db") ∧
        Advertises Sample.teamDbRead.document Sample.teamDbRead.operation "team-db" ∧
        ∀ other ∈ [Sample.teamDb, Sample.warehouse], other.path ≠ "team-db" →
          ¬ Advertises Sample.teamDbRead.document Sample.teamDbRead.operation other.path) ↔
      ∀ other ∈ [Sample.teamDb, Sample.warehouse], other.path ≠ "team-db" → ¬ Alike "team-db" other.path :=
  @explorer_operation_of_one_mount_iff Sample.packaging _ Sample.openBaoCluster Sample.readTeamDb Sample.teamDbRead
    [Sample.teamDb, Sample.warehouse] (@Sample.teamDb_admitted [Sample.teamDb, Sample.warehouse] (by decide +kernel))
    (by simp [Sample.admittedWith])

/-- A read is admitted for `team-db` although `team_db` is live too and the document names the operation of both. -/
theorem explorer_admits_alike_mounts :
    ¬ ∀ (cluster : OpenBaoCluster) (data : ExplorerData) (h : List PlaneExchange) (prepared : PreparedOperation)
        (mounts : List SecretEngineMount),
        Ends (@prepareExplorerExecution Sample.packaging cluster data) h (.ok prepared) →
        (⟨.listSecretEngines, .ok mounts⟩ : PlaneExchange) ∈ h →
        (∃ mount ∈ mounts, mount.path = data.mountPath) ∧
          Advertises prepared.document prepared.operation data.mountPath ∧
          ∀ other ∈ mounts, other.path ≠ data.mountPath →
            ¬ Advertises prepared.document prepared.operation other.path := by
  intro hall
  have hadmitted := @Sample.teamDb_admitted [Sample.teamDb, Sample.teamDbUnderscore] (by decide +kernel)
  obtain ⟨-, hadvertised, halone⟩ := hall _ _ _ _ [Sample.teamDb, Sample.teamDbUnderscore] hadmitted
    (by simp [Sample.admittedWith])
  refine halone Sample.teamDbUnderscore (by simp) (by decide +kernel) ⟨hadvertised.1, ?_⟩
  have halike : Alike Sample.teamDb.path Sample.teamDbUnderscore.path := by decide +kernel
  rw [← (mountParameterForPath_eq_iff Sample.teamDb.valid Sample.teamDbUnderscore.valid).mpr halike]
  exact hadvertised.2

end NetboxOpenbao
