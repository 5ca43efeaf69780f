import NetboxOpenbao.Proof.Administration.Discovery

/-!
# Paths with and without their version

A document may write its paths with `/v1` before them. A path is normalized without it, but the mount it names is read
before it is taken away, so an operation under a mount loses the name of its mount parameter.
-/

namespace NetboxOpenbao

open Effect

namespace Schema

/-- Whether a path is among the chosen ones, and does not start with `/v1/` already. -/
def rewrites (chosen : String → Bool) (rawPath : String) : Bool := chosen rawPath && !Text.startsWith rawPath "/v1/"

def versioned (chosen : String → Bool) (rawPath : String) : String :=
  if rewrites chosen rawPath then "/v1" ++ rawPath else rawPath

def versionedPaths (chosen : String → Bool) (paths : JsonObject) : JsonObject :=
  paths.map fun entry => (versioned chosen entry.1, entry.2)

/-- A document whose paths are `paths`, with the chosen ones written with `/v1`. -/
def versionedDocument (chosen : String → Bool) (entries paths : JsonObject) : JsonObject :=
  withPaths entries (versionedPaths chosen paths)

variable {chosen : String → Bool}

/-! ### One path -/

theorem startsWith_slash {rawPath path : String} (h : normalizePath rawPath = .ok path) :
    ∃ rest, rawPath.toList = '/' :: rest := by
  unfold normalizePath at h
  obtain ⟨raw, hsafe, hchecked⟩ := Fallible.bind_ok h
  have hraw : raw = rawPath := by
    unfold safeString at hsafe
    dsimp only at hsafe
    split at hsafe
    · cases hsafe
    · exact (Except.ok.inj hsafe).symm
  subst hraw
  dsimp only at hchecked
  by_cases hversion : Text.startsWith raw "/v1/" = true
  · obtain ⟨rest, hrest⟩ := List.isPrefixOf_iff_prefix.mp hversion
    exact ⟨_, hrest.symm⟩
  · rw [if_neg hversion] at hchecked
    split at hchecked
    · cases hchecked
    · next hsafePath =>
        unfold unsafePath at hsafePath
        simp only [Bool.or_eq_true, not_or, Bool.not_eq_true', Bool.not_eq_false] at hsafePath
        have hre := hsafePath.1.1.1.1.1
        unfold pathRe at hre
        split at hre
        · next rest hpath => exact ⟨rest, hpath⟩
        · cases hre

/-- A path with `/v1` before it is normalized as without, and names no mount parameter. -/
theorem normalizePath_versioned {rawPath path : String} (h : normalizePath rawPath = .ok path)
    (hplain : Text.startsWith rawPath "/v1/" = false) (hlength : ("/v1" ++ rawPath).length ≤ 500) :
    normalizePath ("/v1" ++ rawPath) = .ok path ∧ mountParameterOf ("/v1" ++ rawPath) = "" := by
  obtain ⟨rest, hrest⟩ := startsWith_slash h
  have hlist : ("/v1" ++ rawPath).toList = '/' :: 'v' :: '1' :: rawPath.toList := String.toList_append
  have hversion : Text.startsWith ("/v1" ++ rawPath) "/v1/" = true := by
    unfold Text.startsWith
    rw [hlist, hrest]
    rfl
  constructor
  · unfold normalizePath at h ⊢
    obtain ⟨raw, hsafe, hchecked⟩ := Fallible.bind_ok h
    obtain ⟨-, hcontrol, rfl⟩ := safeString_ok_iff.mp hsafe
    have hsafe' : safeString (.str ("/v1" ++ raw)) "path template" 500 = .ok ("/v1" ++ raw) := by
      refine safeString_ok_iff.mpr ⟨hlength, ?_, rfl⟩
      rw [hlist, List.any_cons, List.any_cons, List.any_cons, hcontrol]
      rfl
    have hdropped : String.ofList (("/v1" ++ raw).toList.drop 3) = raw := by
      rw [hlist]
      exact String.ofList_toList
    rw [hsafe', Fallible.ok_bind]
    dsimp only at hchecked ⊢
    rw [hversion, if_pos rfl, hdropped]
    rw [hplain] at hchecked
    exact hchecked
  · have hnone : firstPlaceholder ('/' :: 'v' :: '1' :: rawPath.toList) = none := rfl
    unfold mountParameterOf
    rw [hlist, hnone]

/-- An operation that names no mount parameter. -/
def clearMount (operation : DiscoveredOperation) : DiscoveredOperation := { operation with mountParameter := "" }

theorem normalizeOperation_mount (path mountParameter method : String) (source : Json) (schemas : JsonObject)
    (inheritedParameters : Json) : normalizeOperation path "" method source schemas inheritedParameters =
      (normalizeOperation path mountParameter method source schemas inheritedParameters).map clearMount := by
  unfold normalizeOperation
  cases source with
  | dict entries =>
      dsimp only
      rw [Fallible.map_bind]
      refine congrArg _ (funext fun operationId => ?_)
      split
      · rfl
      · simp only [Fallible.map_bind]
        rfl
  | null | bool b | int n | float x | str s | list items => rfl

theorem readMethod_mount (path mountParameter : String) (inheritedParameters : Json) (schemas : JsonObject)
    (entry : String × Json) : readMethod path "" inheritedParameters schemas entry =
      (readMethod path mountParameter inheritedParameters schemas entry).map (List.map clearMount) := by
  unfold readMethod
  split
  · rfl
  · rw [normalizeOperation_mount path mountParameter]
    cases normalizeOperation path mountParameter (Text.lower entry.1) entry.2 schemas inheritedParameters with
    | error error => rfl
    | ok operation => rfl

/-! ### The operations of one path -/

/-- What a path adds when the chosen paths are written with `/v1`. -/
def versionedPart (chosen : String → Bool) (entry : String × Json) (added : List DiscoveredOperation) :
    List DiscoveredOperation :=
  if rewrites chosen entry.1 then added.map clearMount else added

theorem readPath_versioned {schemas : JsonObject} {entry : String × Json} {added : List DiscoveredOperation}
    (h : readPath schemas entry = .ok added) (hlength : (versioned chosen entry.1).length ≤ 500) :
    readPath schemas (versioned chosen entry.1, entry.2) = .ok (versionedPart chosen entry added) := by
  obtain ⟨rawPath, item⟩ := entry
  unfold versioned at hlength
  unfold versioned versionedPart
  dsimp only at hlength ⊢
  by_cases hrewrites : rewrites chosen rawPath = true
  · rw [if_pos hrewrites] at hlength ⊢
    rw [if_pos hrewrites]
    obtain ⟨path, pathItem, parts, hpath, rfl, rfl, hparts⟩ := readPath_ok h
    have hplain : Text.startsWith rawPath "/v1/" = false := by
      unfold rewrites at hrewrites
      rw [Bool.and_eq_true, Bool.not_eq_true'] at hrewrites
      exact hrewrites.2
    obtain ⟨hversioned, hmount⟩ := normalizePath_versioned hpath hplain hlength
    unfold readPath
    rw [hversioned, Fallible.ok_bind, hmount]
    dsimp only
    rw [Fallible.mapM_map (readMethod_mount path (mountParameterOf rawPath) _ schemas), hparts]
    exact congrArg Except.ok List.map_flatten.symm
  · rw [if_neg hrewrites, if_neg hrewrites]
    exact h

/-- The operations that name their mount parameter. -/
def namesMount (operation : DiscoveredOperation) : Bool := operation.mountParameter != ""

/-- A path that is written with `/v1` has no operation to lose the name of its mount parameter. -/
def LosesNothing (chosen : String → Bool) (entry : String × Json) : Prop :=
  chosen entry.1 = true → mountParameterOf entry.1 ≠ "" → ¬ HasOperation entry.2

theorem versionedPart_eq {schemas : JsonObject} {entry : String × Json} {added : List DiscoveredOperation}
    (h : readPath schemas entry = .ok added) (hkeeps : LosesNothing chosen entry) :
    versionedPart chosen entry added = added := by
  obtain ⟨rawPath, item⟩ := entry
  unfold versionedPart
  by_cases hrewrites : rewrites chosen rawPath = true
  · rw [if_pos hrewrites]
    by_cases hmount : mountParameterOf rawPath = ""
    · have hsame : ∀ operation ∈ added, clearMount operation = operation := by
        intro operation hmem
        obtain ⟨path, method, -, -, hderived⟩ := readPath_derived h operation hmem
        have hempty : operation.mountParameter = "" := hderived.mount.trans hmount
        unfold clearMount
        rw [← hempty]
      exact (List.map_congr_left hsame).trans (List.map_id _)
    · have hchosen : chosen rawPath = true := by
        unfold rewrites at hrewrites
        rw [Bool.and_eq_true] at hrewrites
        exact hrewrites.1
      obtain rfl := (readPath_eq_nil h).mpr (hkeeps hchosen hmount)
      rfl
  · exact if_neg hrewrites

theorem mountParameterOf_plain {rawPath : String} (h : mountParameterOf rawPath ≠ "") :
    Text.startsWith rawPath "/v1/" = false := by
  rw [Bool.eq_false_iff]
  intro hversion
  obtain ⟨rest, hrest⟩ := List.isPrefixOf_iff_prefix.mp hversion
  have hnone : firstPlaceholder ("/v1/".toList ++ rest) = none := rfl
  unfold mountParameterOf at h
  rw [← hrest, hnone] at h
  exact h rfl

theorem versionedPart_named {schemas : JsonObject} {entry : String × Json} {added : List DiscoveredOperation}
    (h : readPath schemas entry = .ok added) (hloses : ¬ LosesNothing chosen entry) :
    (versionedPart chosen entry added).countP namesMount < added.countP namesMount := by
  obtain ⟨rawPath, item⟩ := entry
  unfold LosesNothing at hloses
  push Not at hloses
  obtain ⟨hchosen, hmount, hoperation⟩ := hloses
  have hrewrites : rewrites chosen rawPath = true := by
    unfold rewrites
    rw [hchosen, mountParameterOf_plain hmount]
    rfl
  have hnone : (added.map clearMount).countP namesMount = 0 := by
    rw [List.countP_map]
    exact List.countP_eq_zero.mpr fun operation _ => Bool.false_ne_true
  unfold versionedPart
  rw [if_pos hrewrites, hnone]
  cases added with
  | nil => exact absurd hoperation ((readPath_eq_nil h).mp rfl)
  | cons operation others =>
      obtain ⟨path, method, -, -, hderived⟩ := readPath_derived h operation List.mem_cons_self
      refine List.countP_pos_iff.mpr ⟨operation, List.mem_cons_self, ?_⟩
      unfold namesMount
      rw [hderived.mount]
      exact bne_iff_ne.mpr hmount

/-! ### The operations of a document -/

def versionedParts (chosen : String → Bool) (paths : JsonObject) (parts : List (List DiscoveredOperation)) :
    List (List DiscoveredOperation) :=
  List.zipWith (versionedPart chosen) paths parts

theorem mapM_versioned {schemas paths : JsonObject} {parts : List (List DiscoveredOperation)}
    (h : paths.mapM (readPath schemas) = .ok parts) (hlength : ∀ entry ∈ paths, (versioned chosen entry.1).length ≤ 500) :
    (versionedPaths chosen paths).mapM (readPath schemas) = .ok (versionedParts chosen paths parts) := by
  refine Fallible.mapM_of_forall₂ ?_
  have hforall := Fallible.mapM_forall₂ h
  clear h
  induction hforall with
  | nil => exact .nil
  | cons hread _ ih =>
      obtain ⟨hfirst, hrest⟩ := List.forall_mem_cons.mp hlength
      exact .cons (readPath_versioned hread hfirst) (ih hrest)

theorem versionedParts_eq {schemas paths : JsonObject} {parts : List (List DiscoveredOperation)}
    (h : paths.mapM (readPath schemas) = .ok parts) (hkeeps : ∀ entry ∈ paths, LosesNothing chosen entry) :
    versionedParts chosen paths parts = parts := by
  have hforall := Fallible.mapM_forall₂ h
  clear h
  unfold versionedParts
  induction hforall with
  | nil => rfl
  | cons hread _ ih =>
      obtain ⟨hfirst, hrest⟩ := List.forall_mem_cons.mp hkeeps
      rw [List.zipWith_cons_cons, versionedPart_eq hread hfirst, ih hrest]

/-- No operation gains the name of a mount parameter, and only where nothing is lost do as many have one. -/
theorem versionedParts_named {schemas paths : JsonObject} {parts : List (List DiscoveredOperation)}
    (h : paths.mapM (readPath schemas) = .ok parts) :
    (versionedParts chosen paths parts).flatten.countP namesMount ≤ parts.flatten.countP namesMount ∧
      ((versionedParts chosen paths parts).flatten.countP namesMount = parts.flatten.countP namesMount →
        ∀ entry ∈ paths, LosesNothing chosen entry) := by
  have hforall := Fallible.mapM_forall₂ h
  clear h
  unfold versionedParts
  induction hforall with
  | nil => exact ⟨Nat.le_refl _, fun _ entry hmem => absurd hmem List.not_mem_nil⟩
  | @cons entry added _ _ hread _ ih =>
      obtain ⟨hle, hsame⟩ := ih
      rw [List.zipWith_cons_cons, List.flatten_cons, List.flatten_cons, List.countP_append, List.countP_append,
        List.forall_mem_cons]
      by_cases hkeeps : LosesNothing chosen entry
      · rw [versionedPart_eq hread hkeeps]
        exact ⟨Nat.add_le_add_left hle _, fun heq => ⟨hkeeps, hsame (Nat.add_left_cancel heq)⟩⟩
      · have hlt := versionedPart_named hread hkeeps
        exact ⟨by omega, fun heq => by omega⟩

theorem versionedParts_perm_iff {schemas paths : JsonObject} {parts : List (List DiscoveredOperation)}
    (h : paths.mapM (readPath schemas) = .ok parts) :
    (versionedParts chosen paths parts).flatten.Perm parts.flatten ↔ ∀ entry ∈ paths, LosesNothing chosen entry := by
  constructor
  · intro hperm
    exact (versionedParts_named h).2 (hperm.countP_eq namesMount)
  · intro hkeeps
    rw [versionedParts_eq h hkeeps]

theorem versionedParts_length (paths : JsonObject) {schemas : JsonObject} {parts : List (List DiscoveredOperation)}
    (h : paths.mapM (readPath schemas) = .ok parts) :
    (versionedParts chosen paths parts).flatten.length = parts.flatten.length := by
  have hforall := Fallible.mapM_forall₂ h
  clear h
  unfold versionedParts
  induction hforall with
  | nil => rfl
  | @cons entry added _ _ hread _ ih =>
      have hpart : (versionedPart chosen entry added).length = added.length := by
        unfold versionedPart
        split
        · exact List.length_map _
        · rfl
      rw [List.zipWith_cons_cons, List.flatten_cons, List.flatten_cons, List.length_append, List.length_append, hpart, ih]

/-! ### The document around them -/

/-- The bounds on a document's shape allow for `/v1` before its paths. -/
theorem validateShape_versioned {entries paths : JsonObject}
    (hpaths : JsonObject.get entries "paths" .null = .dict paths) (h : validateShape (.dict entries) 0 = .ok ())
    (hlength : ∀ entry ∈ paths, (versioned chosen entry.1).length ≤ 500) :
    validateShape (.dict (versionedDocument chosen entries paths)) 0 = .ok () := by
  obtain ⟨hdepth, hmany, hentries⟩ := (validateShape_dict_iff _ _).mp h
  have hall := (validateEntries_iff _ _).mp hentries
  obtain ⟨hdepth', hmany', hpathEntries⟩ := (validateShape_dict_iff _ _).mp (hall _ (mem_of_get hpaths)).2
  have hversioned : validateShape (.dict (versionedPaths chosen paths)) 1 = .ok () := by
    refine (validateShape_dict_iff _ _).mpr ⟨hdepth', ?_, (validateEntries_iff _ _).mpr ?_⟩
    · unfold versionedPaths
      rw [List.length_map]
      exact hmany'
    · unfold versionedPaths
      refine List.forall_mem_map.mpr fun entry hmem => ?_
      obtain ⟨⟨name, hname⟩, hitem⟩ := (validateEntries_iff _ _).mp hpathEntries entry hmem
      refine ⟨⟨versioned chosen entry.1, safeString_ok_iff.mpr ⟨hlength entry hmem, ?_, rfl⟩⟩, hitem⟩
      have hcontrol := (safeString_ok_iff.mp hname).2.1
      unfold versioned
      split
      · rw [String.toList_append, List.any_append, hcontrol]
        rfl
      · exact hcontrol
  unfold versionedDocument withPaths
  refine (validateShape_dict_iff _ _).mpr ⟨hdepth, ?_, (validateEntries_iff _ _).mpr ?_⟩
  · rw [List.length_map]
    exact hmany
  · refine List.forall_mem_map.mpr fun entry hmem => ?_
    split
    · exact ⟨(hall entry hmem).1, hversioned⟩
    · exact hall entry hmem

section

variable [DocumentHashing]

/-- Writing `/v1` before paths of an accepted document leaves it accepted, and every operation as it was but for the
mount parameters of those paths. -/
theorem versioned_accepted {entries paths : JsonObject} {capabilities : CapabilityDocument}
    (haccepted : normalizeOpenapiDocument (.dict entries) = .ok capabilities)
    (hpaths : JsonObject.get entries "paths" .null = .dict paths)
    (hlength : ∀ entry ∈ paths, (versioned chosen entry.1).length ≤ 500)
    (hsize : ((Json.dict (versionedDocument chosen entries paths)).encode true).length ≤ maxDocumentBytes) :
    ∃ schemas parts capabilities', paths.mapM (readPath schemas) = .ok parts ∧
      capabilities.operations.Perm parts.flatten ∧
      normalizeOpenapiDocument (.dict (versionedDocument chosen entries paths)) = .ok capabilities' ∧
      capabilities'.operations.Perm (versionedParts chosen paths parts).flatten := by
  obtain ⟨-, hshape, metadata, operations, hmetadata, hdiscovered, rfl⟩ :=
    (normalizeOpenapiDocument_ok_iff _ _).mp haccepted
  obtain rfl := Json.dict.inj (hpaths.symm.trans (documentMetadata_paths hmetadata))
  obtain ⟨parts, hparts, rfl, hbound⟩ := (discovered_iff _ _).mp hdiscovered
  let metadata' : DocumentMetadata := { metadata with paths := versionedPaths chosen metadata.paths }
  have hmetadata' : documentMetadata (versionedDocument chosen entries metadata.paths) = .ok metadata' := by
    have hlengths : (versionedPaths chosen metadata.paths).length = metadata.paths.length := List.length_map _
    unfold versionedDocument
    rw [documentMetadata_withPaths hpaths hlengths, hmetadata]
    rfl
  have hdiscovered' : discovered metadata' = .ok (versionedParts chosen metadata.paths parts).flatten :=
    (discovered_iff _ _).mpr ⟨_, mapM_versioned hparts hlength, rfl, versionedParts_length _ hparts ▸ hbound⟩
  exact ⟨metadata.schemas, parts, _, hparts, List.perm_insertionSort _ _,
    (normalizeOpenapiDocument_ok_iff _ _).mpr
      ⟨hsize, validateShape_versioned hpaths hshape hlength, metadata', _, hmetadata', hdiscovered', rfl⟩,
    List.perm_insertionSort _ _⟩

/-- With `/v1` before some of its paths a document lists the same operations exactly when none of those paths has both
an operation and a mount that it names. -/
theorem versioned_paths_same_operations_iff (chosen : String → Bool) {entries paths : JsonObject}
    {capabilities : CapabilityDocument} (haccepted : normalizeOpenapiDocument (.dict entries) = .ok capabilities)
    (hpaths : JsonObject.get entries "paths" .null = .dict paths)
    (hlength : ∀ entry ∈ paths, (versioned chosen entry.1).length ≤ 500)
    (hsize : ((Json.dict (versionedDocument chosen entries paths)).encode true).length ≤ maxDocumentBytes) :
    (∃ capabilities', normalizeOpenapiDocument (.dict (versionedDocument chosen entries paths)) = .ok capabilities' ∧
      capabilities'.operations.Perm capabilities.operations) ↔
      ∀ entry ∈ paths, chosen entry.1 = true → mountParameterOf entry.1 ≠ "" → ¬ HasOperation entry.2 := by
  obtain ⟨schemas, parts, versionedCapabilities, hparts, hbefore, hversioned, hafter⟩ :=
    versioned_accepted haccepted hpaths hlength hsize
  constructor
  · rintro ⟨capabilities', hcapabilities, hperm⟩
    obtain rfl := Except.ok.inj (hversioned.symm.trans hcapabilities)
    exact (versionedParts_perm_iff hparts).mp ((hafter.symm.trans hperm).trans hbefore)
  · intro hkeeps
    exact ⟨versionedCapabilities, hversioned,
      (hafter.trans ((versionedParts_perm_iff hparts).mpr hkeeps)).trans hbefore.symm⟩

end

/-- A document that describes one path outside every mount, and one under a mount it names. -/
def mountsEntries (mounts data : String) : JsonObject :=
  Sample.described
    [(mounts, .dict [("get", Sample.operationObject "mounts-list" [])]),
     (data, .dict [("get", Sample.operationObject "kv-read"
       [Sample.parameter "kv_mount_path" "path" true, Sample.parameter "path" "path" true])])]

def plainEntries : JsonObject := mountsEntries "/sys/mounts" "/{kv_mount_path}/data/{path}"

def plainPaths : JsonObject :=
  match JsonObject.get plainEntries "paths" .null with
  | .dict paths => paths
  | _ => []

/-- The digests of the document as it is, with `/v1` before its first path, and before its second. -/
@[reducible] def mountsHashing : DocumentHashing where
  sha256 text :=
    if text = (Json.dict plainEntries).canonical then "7da616dea70b1da9a2fc67b413887f06c2aa430e831a6c357f63e34444362e19"
    else if text = (Json.dict (mountsEntries "/v1/sys/mounts" "/{kv_mount_path}/data/{path}")).canonical then
      "1a6fcb758d85e54eb1a6f5a0b3ffde52995bab57e6f01346d29e3fcb697be44b"
    else "95f3f12739e3f8bdb2b84ca3192ce6e67e96a72502368b25b9fb687ab86d2dc8"

theorem plain_accepted :
    ∃ capabilities, @normalizeOpenapiDocument mountsHashing (.dict plainEntries) = .ok capabilities := by
  have hread : ∃ metadata operations, documentMetadata plainEntries = .ok metadata ∧
      discovered metadata = .ok operations := by
    have hboth : (documentMetadata plainEntries >>= discovered).toOption.isSome = true := by decide +kernel
    cases hresult : documentMetadata plainEntries >>= discovered with
    | error error =>
        rw [hresult] at hboth
        cases hboth
    | ok operations =>
        obtain ⟨metadata, hmetadata, hdiscovered⟩ := Fallible.bind_ok hresult
        exact ⟨metadata, operations, hmetadata, hdiscovered⟩
  obtain ⟨metadata, operations, hmetadata, hdiscovered⟩ := hread
  exact ⟨_, (@normalizeOpenapiDocument_ok_iff mountsHashing _ _).mpr ⟨by decide +kernel,
    Fallible.ok_of_toOption (by decide +kernel), metadata, operations, hmetadata, hdiscovered, rfl⟩⟩

/-- Outside every mount `/v1` makes no difference. -/
theorem mounts_path_versioned : ∃ capabilities capabilities',
    @normalizeOpenapiDocument mountsHashing (.dict plainEntries) = .ok capabilities ∧
    @normalizeOpenapiDocument mountsHashing (.dict (versionedDocument (· == "/sys/mounts") plainEntries plainPaths)) =
      .ok capabilities' ∧ capabilities'.operations.Perm capabilities.operations := by
  obtain ⟨capabilities, haccepted⟩ := plain_accepted
  obtain ⟨capabilities', hversioned, hperm⟩ :=
    (@versioned_paths_same_operations_iff mountsHashing (· == "/sys/mounts") plainEntries plainPaths capabilities
      haccepted rfl (by decide +kernel) (by decide +kernel)).mpr (by
        intro entry hentry hchosen hmount
        rw [beq_iff_eq.mp hchosen] at hmount
        exact absurd (by decide +kernel) hmount)
  exact ⟨capabilities, capabilities', haccepted, hversioned, hperm⟩

/-- Under a mount it loses the name of its parameter. -/
theorem mount_path_loses_parameter : ∃ capabilities capabilities',
    @normalizeOpenapiDocument mountsHashing (.dict plainEntries) = .ok capabilities ∧
    @normalizeOpenapiDocument mountsHashing
        (.dict (versionedDocument (· == "/{kv_mount_path}/data/{path}") plainEntries plainPaths)) =
      .ok capabilities' ∧ ¬ capabilities'.operations.Perm capabilities.operations := by
  obtain ⟨capabilities, haccepted⟩ := plain_accepted
  obtain ⟨schemas, parts, capabilities', hparts, hbefore, hversioned, hafter⟩ :=
    @versioned_accepted (· == "/{kv_mount_path}/data/{path}") mountsHashing plainEntries plainPaths
      capabilities haccepted rfl (by decide +kernel) (by decide +kernel)
  refine ⟨capabilities, capabilities', haccepted, hversioned, fun hperm => ?_⟩
  have hkeeps := (versionedParts_perm_iff hparts).mp ((hafter.symm.trans hperm).trans hbefore)
  have hdata := hkeeps _ (List.mem_cons_of_mem _ List.mem_cons_self) (by decide +kernel) (by decide +kernel)
  exact hdata ⟨_, rfl, _, List.mem_cons_self, by decide +kernel⟩

end Schema

end NetboxOpenbao
