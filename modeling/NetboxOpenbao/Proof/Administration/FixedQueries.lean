import NetboxOpenbao.Administration.EngineViews
import NetboxOpenbao.Proof.Administration.Compilation
import NetboxOpenbao.Proof.Administration.Journeys
import NetboxOpenbao.Proof.Administration.Plane

/-!
# Journeys that fix a query parameter

A parameter that a journey fixes may not be sent, and the check that every required parameter was sent comes before the
fixed ones are added. So such a journey can be run just when the document requires none of them.
-/

namespace NetboxOpenbao

open Effect Engines EngineJourneys Dialogue

namespace FixedQueries

/-! ### The registry -/

def fixedNames (journey : EngineJourney) : List String := journey.fixedQuery.map Prod.fst

/-- What every journey that fixes a query parameter has in common. -/
structure Uniform (journey : EngineJourney) : Prop where
  notDiff : (journey.journeyId == "kv2.diff") = false
  unconfirmed : journey.confirmationPrefix = ""
  unrestricted : journey.pathParameterChoices = []
  placeholders : ∀ name ∈ placeholders journey.pathTemplate, name = "secret_mount_path" ∨ name = "path"

instance (journey : EngineJourney) : Decidable (Uniform journey) :=
  decidable_of_iff ((journey.journeyId == "kv2.diff") = false ∧ journey.confirmationPrefix = "" ∧
      journey.pathParameterChoices = [] ∧
      ∀ name ∈ Engines.placeholders journey.pathTemplate, name = "secret_mount_path" ∨ name = "path")
    ⟨fun h => ⟨h.1, h.2.1, h.2.2.1, h.2.2.2⟩, fun h => ⟨h.notDiff, h.unconfirmed, h.unrestricted, h.placeholders⟩⟩

theorem uniform_of_fixed : ∀ journey ∈ engineJourneys, journey.fixedQuery ≠ [] → Uniform journey := by decide +kernel

/-! ### Checks of fields -/

theorem validateDeclaredFieldTypes_ok_iff (value : JsonObject) (types : List (String × String)) :
    validateDeclaredFieldTypes value types = .ok () ↔
      ∀ entry ∈ value, matchesDeclaredType entry.2 ((types.reverse.lookup entry.1).getD "json") = true := by
  unfold validateDeclaredFieldTypes
  cases hall : value.all fun entry => matchesDeclaredType entry.2 ((types.reverse.lookup entry.1).getD "json") with
  | true => exact ⟨fun _ => List.all_eq_true.mp hall, fun _ => rfl⟩
  | false =>
      constructor
      · intro h
        cases h
      · intro h
        rw [List.all_eq_true.mpr h] at hall
        cases hall

theorem keys_all_iff (entries : JsonObject) (names : List String) :
    (keys entries).all names.contains = true ↔ ∀ name ∈ keys entries, name ∈ names := by
  rw [List.all_eq_true]
  exact forall₂_congr fun name _ => List.contains_iff_mem

theorem names_all_iff (entries : JsonObject) (names : List String) :
    names.all (keys entries).contains = true ↔ ∀ name ∈ names, name ∈ keys entries := by
  rw [List.all_eq_true]
  exact forall₂_congr fun name _ => List.contains_iff_mem

/-- What `_validate_journey_fields` asks of a query and a body, and of the types of all fields. -/
structure FieldsValid (operation : ExplorerOperation) (query body pathParameters : JsonObject) : Prop where
  declared : ∀ name ∈ keys query, name ∈ operation.queryParameters
  required : ∀ name ∈ operation.requiredQueryParameters, name ∈ keys query
  declaredBody : ∀ name ∈ keys body, name ∈ operation.bodyFields
  requiredBody : ∀ name ∈ operation.requiredBodyFields, name ∈ keys body
  queryTypes : validateDeclaredFieldTypes query operation.queryParameterTypes = .ok ()
  bodyTypes : validateDeclaredFieldTypes body operation.bodyFieldTypes = .ok ()
  pathTypes : validateDeclaredFieldTypes pathParameters operation.pathParameterTypes = .ok ()

theorem validateFields_ok_iff (operation : ExplorerOperation) (query body pathParameters : JsonObject) :
    validateFields operation query body pathParameters = .ok () ↔
      FieldsValid operation query body pathParameters := by
  unfold validateFields
  constructor
  · intro h
    split at h
    · cases h
    · next hdeclared =>
        split at h
        · cases h
        · next hrequired =>
            split at h
            · cases h
            · next hdeclaredBody =>
                split at h
                · cases h
                · next hrequiredBody =>
                    obtain ⟨_, hquery, h₁⟩ := Fallible.bind_ok h
                    obtain ⟨_, hbody, hpath⟩ := Fallible.bind_ok h₁
                    simp only [Bool.not_eq_true', Bool.not_eq_false] at hdeclared hrequired hdeclaredBody hrequiredBody
                    exact ⟨(keys_all_iff _ _).mp hdeclared, (names_all_iff _ _).mp hrequired,
                      (keys_all_iff _ _).mp hdeclaredBody, (names_all_iff _ _).mp hrequiredBody, hquery, hbody, hpath⟩
  · intro h
    rw [(keys_all_iff _ _).mpr h.declared, (names_all_iff _ _).mpr h.required, (keys_all_iff _ _).mpr h.declaredBody,
      (names_all_iff _ _).mpr h.requiredBody, h.queryTypes, h.bodyTypes]
    exact h.pathTypes

/-! ### Requests -/

/-- A request that supplies what the operation requires other than the fixed names, with the declared types, and sends
nothing that is fixed or not declared. -/
structure Supplies (operation : ExplorerOperation) (fixed : List String) (data : ExplorerData) : Prop where
  required : ∀ name ∈ operation.requiredQueryParameters, name ∉ fixed → name ∈ keys data.query
  declared : ∀ name ∈ keys data.query, name ∈ operation.queryParameters ∧ name ∉ fixed
  requiredBody : ∀ name ∈ operation.requiredBodyFields, name ∈ keys data.body
  declaredBody : ∀ name ∈ keys data.body, name ∈ operation.bodyFields
  queryTypes : validateDeclaredFieldTypes data.query operation.queryParameterTypes = .ok ()
  bodyTypes : validateDeclaredFieldTypes data.body operation.bodyFieldTypes = .ok ()
  path : ∃ mount, Matches (placeholders operation.pathTemplate) data.mountPath data.resourcePath data.pathParameters mount
  pathTypes : validateDeclaredFieldTypes data.pathParameters operation.pathParameterTypes = .ok ()

theorem normalizeJourneyPathParameters_nil (journey : EngineJourney) :
    normalizeJourneyPathParameters journey [] = .ok [] := by
  unfold normalizeJourneyPathParameters
  dsimp only [List.lookup_nil]
  split
  · next name hname => exact absurd (List.find?_some hname) Bool.false_ne_true
  · split
    · rfl
    · rfl

/-- A template without further placeholders takes no parameters. -/
theorem parameters_nil {template mount : String} {data : ExplorerData}
    (hnames : ∀ name ∈ placeholders template, name = "secret_mount_path" ∨ name = "path")
    (h : Matches (placeholders template) data.mountPath data.resourcePath data.pathParameters mount) :
    data.pathParameters = [] := by
  cases hparameters : data.pathParameters with
  | nil => rfl
  | cons entry rest =>
      have hentry : entry ∈ data.pathParameters := hparameters ▸ List.mem_cons_self
      obtain ⟨hname, hmount, hpath⟩ := h.mem_of_key hentry
      exact absurd (hnames entry.1 hname) (not_or.mpr ⟨hmount, hpath⟩)

section

variable [Packaging]

/-- The journey is prepared once its permission is granted, and its run sends what the client sent and the fixed
parameters with it. -/
def Admitted (before : List PlaneExchange) (mounts : List SecretEngineMount) (capabilities : CapabilityDocument)
    (journey : EngineJourney) (operation : ExplorerOperation) (cluster : OpenBaoCluster) (data : ExplorerData) : Prop :=
  ∃ path, Ends (prepareEngineJourney cluster data)
      (before ++ [⟨.listSecretEngines, .ok mounts⟩, ⟨.hasPerm journey.requiredPermission, .ok true⟩])
      (.ok ⟨journey, capabilities, operation, path⟩) ∧
    ∀ result, Ends (runEngineJourney data ⟨journey, capabilities, operation, path⟩)
      [⟨.executeMountedOperation
        { method := operation.method, path, query := withFixed data.query journey.fixedQuery, body := data.body
          mountPath := data.mountPath, operationId := operation.operationId
          pathTemplate := operation.pathTemplate, mountParameter := operation.mountParameter }, .ok result⟩]
      (.ok result)

/-- Whatever the client sends, a prepared journey's operation requires nothing that the journey fixes. -/
theorem prepared_requires_nothing_fixed {cluster : OpenBaoCluster} {data : ExplorerData} {h : List PlaneExchange}
    {prepared : PreparedJourney} (he : Ends (prepareEngineJourney cluster data) h (.ok prepared)) :
    ∀ name ∈ prepared.prepared.operation.requiredQueryParameters, name ∉ fixedNames prepared.journey := by
  unfold prepareEngineJourney at he
  obtain ⟨h₁, rest, document, -, -, hdocument⟩ := he.bind_ok
  obtain ⟨-, hlist⟩ := Admin.raiseIf_ok hdocument
  obtain ⟨mounts, rest₂, -, hresolve⟩ := Admin.ask_ok hlist
  obtain ⟨⟨journey, operation⟩, -, hperm⟩ := Admin.ofExcept_ok hresolve
  obtain ⟨permitted, rest₃, -, hpermitted⟩ := Admin.ask_ok hperm
  obtain ⟨-, hoverride⟩ := Admin.raiseIf_ok hpermitted
  obtain ⟨hfixed, hparameters⟩ := Admin.raiseIf_ok hoverride
  obtain ⟨pathParameters, -, hcompile⟩ := Admin.ofExcept_ok hparameters
  obtain ⟨path, -, hfields⟩ := Admin.ofExcept_ok hcompile
  obtain ⟨_, hvalid, hconfirm⟩ := Admin.ofExcept_ok hfields
  obtain ⟨-, hdone⟩ := Admin.raiseIf_ok hconfirm
  obtain ⟨-, rfl⟩ := Ends.pure_ok hdone
  have hsent : ∀ name ∈ keys data.query, name ∉ fixedNames journey := by
    intro name hname hmem
    have hnone := List.any_eq_false.mp hfixed name hname
    exact hnone (List.contains_iff_mem.mpr hmem)
  intro name hname
  dsimp only at hname ⊢
  cases hdiff : journey.journeyId == "kv2.diff" with
  | true =>
      rw [hdiff, if_pos rfl] at hvalid
      obtain ⟨_, hempty, -⟩ := Fallible.bind_ok hvalid
      have hrequired := ((validateFields_ok_iff _ _ _ _).mp hempty).required name hname
      exact absurd hrequired List.not_mem_nil
  | false =>
      rw [hdiff, if_neg Bool.false_ne_true] at hvalid
      exact hsent name (((validateFields_ok_iff _ _ _ _).mp hvalid).required name hname)

/-! ### A journey that fixes a parameter -/

variable {before : List PlaneExchange} {mounts : List SecretEngineMount} {capabilities : CapabilityDocument}
variable {mountPath journeyId : String} {journey : EngineJourney} {operation : ExplorerOperation}

/-- A request that supplies the rest is admitted if nothing fixed is required. -/
theorem admitted_of_supplies (hdocument : Ends engineDocument before (.ok capabilities))
    (hresolved : resolveEngineJourney capabilities mounts mountPath journeyId = .ok (journey, operation))
    (hfixed : journey.fixedQuery ≠ [])
    (hrequired : ∀ name ∈ operation.requiredQueryParameters, name ∉ fixedNames journey) (cluster : OpenBaoCluster)
    {data : ExplorerData} (hdigest : data.capabilityDigest = capabilities.digest) (hmount : data.mountPath = mountPath)
    (hjourney : data.journeyId = journeyId) (h : Supplies operation (fixedNames journey) data) :
    Admitted before mounts capabilities journey operation cluster data := by
  obtain ⟨hmem, -, hlisted, hexecutable, htemplate⟩ := resolved_facts hresolved
  have huniform := uniform_of_fixed journey hmem hfixed
  obtain ⟨mount, hmatches⟩ := h.path
  have hparameters : data.pathParameters = [] := by
    refine parameters_nil (fun name hname => huniform.placeholders name ?_) hmatches
    exact htemplate ▸ hname
  have hre := executable_re hlisted hexecutable
  obtain ⟨others, hmounted⟩ := mounted_of_re hre
  have hcompiled := (compileOperationPath_ok_iff hmounted hre _).mpr
    ⟨(by rw [hparameters]; exact Nat.zero_le 16), mount, hmatches, rfl⟩
  have hvalid : validateFields operation data.query data.body data.pathParameters = .ok () :=
    (validateFields_ok_iff _ _ _ _).mpr
      ⟨fun name hname => (h.declared name hname).1, fun name hname => h.required name hname (hrequired name hname),
        h.declaredBody, h.requiredBody, h.queryTypes, h.bodyTypes, h.pathTypes⟩
  have hsent : ((keys data.query).any fun key => (journey.fixedQuery.map Prod.fst).contains key) = false := by
    refine List.any_eq_false.mpr fun name hname hcontains => (h.declared name hname).2 ?_
    exact List.contains_iff_mem.mp hcontains
  have hfound : resolveEngineJourney capabilities mounts data.mountPath data.journeyId = .ok (journey, operation) := by
    rw [hmount, hjourney]
    exact hresolved
  have hnormalized : normalizeJourneyPathParameters journey data.pathParameters = .ok data.pathParameters := by
    rw [hparameters]
    exact normalizeJourneyPathParameters_nil journey
  refine ⟨substitute (placeholderValue mount data.resourcePath data.pathParameters) operation.pathTemplate, ?_, ?_⟩
  · unfold prepareEngineJourney
    refine Ends.andThen hdocument ?_
    refine Admin.unraised (bne_eq_false_iff_eq.mpr hdigest) ?_
    refine Admin.asked (r := .listSecretEngines) (a := mounts) ?_
    refine Admin.passed (a := (journey, operation)) hfound ?_
    refine Admin.asked (r := .hasPerm _) (a := true) ?_
    refine Admin.unraised rfl ?_
    refine Admin.unraised hsent ?_
    refine Admin.passed hnormalized ?_
    refine Admin.passed hcompiled ?_
    refine Admin.passed (a := ()) ?_ ?_
    · rw [huniform.notDiff, if_neg Bool.false_ne_true]
      exact hvalid
    · refine Admin.unraised ?_ (.start _)
      rw [huniform.unconfirmed]
      rfl
  · intro result
    unfold runEngineJourney
    rw [huniform.notDiff]
    exact Talks.answered (.ok result) (.start _)

end

/-! ### A request that supplies what is left -/

/-- A value of a declared type. -/
def valueOf (declared : String) : Json :=
  match declared with
  | "array" => .list []
  | "boolean" => .bool false
  | "integer" => .int 0
  | "number" => .int 0
  | "object" => .dict []
  | "string" => .str ""
  | _ => .null

theorem valueOf_matches : ∀ declared ∈ Schema.declaredTypes, matchesDeclaredType (valueOf declared) declared = true := by
  decide

/-- These names, each with a value of its type. -/
def valued (names : List String) (types : List (String × String)) : JsonObject :=
  names.map fun name => (name, valueOf ((types.reverse.lookup name).getD "json"))

theorem keys_valued (names : List String) (types : List (String × String)) : keys (valued names types) = names := by
  unfold keys valued
  rw [List.map_map]
  exact List.map_id names

theorem valued_typed (names : List String) {types : List (String × String)}
    (htypes : ∀ entry ∈ types, entry.2 ∈ Schema.declaredTypes) :
    validateDeclaredFieldTypes (valued names types) types = .ok () := by
  refine (validateDeclaredFieldTypes_ok_iff _ _).mpr fun entry hentry => ?_
  obtain ⟨name, -, rfl⟩ := List.mem_map.mp hentry
  refine valueOf_matches _ ?_
  cases hlookup : types.reverse.lookup name with
  | none => exact (by decide : "json" ∈ Schema.declaredTypes)
  | some declared =>
      obtain ⟨before, after, hsplit, -⟩ := List.lookup_eq_some_iff.mp hlookup
      have hmem : (name, declared) ∈ types.reverse := by
        rw [hsplit]
        exact List.mem_append_right before List.mem_cons_self
      exact htypes (name, declared) (List.mem_reverse.mp hmem)

def leastRequest (capabilities : CapabilityDocument) (mountPath journeyId : String) (fixed : List String)
    (operation : ExplorerOperation) : ExplorerData where
  operationKey := ""
  journeyId
  capabilityDigest := capabilities.digest
  mountPath
  resourcePath := if (placeholders operation.pathTemplate).contains "path" then "a" else ""
  pathParameters := []
  query := valued (operation.requiredQueryParameters.filter fun name => !fixed.contains name)
    operation.queryParameterTypes
  body := valued operation.requiredBodyFields operation.bodyFieldTypes
  reason := ""
  confirmation := ""

theorem normalizeResourcePath_a : normalizeResourcePath "a" = .ok "a" :=
  Fallible.ok_of_toOption (by decide +kernel)

/-- There always is a request that supplies the rest. -/
theorem leastRequest_supplies [DocumentHashing] {document : Json} {capabilities : CapabilityDocument}
    (haccepted : Schema.normalizeOpenapiDocument document = .ok capabilities) {mounts : List SecretEngineMount}
    {mountPath journeyId : String} {journey : EngineJourney} {operation : ExplorerOperation}
    (hresolved : resolveEngineJourney capabilities mounts mountPath journeyId = .ok (journey, operation))
    (hfixed : journey.fixedQuery ≠ []) :
    Supplies operation (fixedNames journey)
      (leastRequest capabilities mountPath journeyId (fixedNames journey) operation) := by
  obtain ⟨hmem, ⟨mount, -, hpath⟩, hlisted, hexecutable, htemplate⟩ := resolved_facts hresolved
  obtain ⟨discovered, hdiscovered, rfl⟩ := mem_classifyExplorerOperations hlisted
  obtain ⟨read⟩ := Schema.accepted_read haccepted discovered hdiscovered
  have hfields := Schema.normalizeOperation_fields read.normalized
  have hnames := (uniform_of_fixed journey hmem hfixed).placeholders
  constructor
  case required =>
    intro name hname hfree
    show name ∈ keys (valued _ _)
    rw [keys_valued]
    refine List.mem_filter.mpr ⟨hname, ?_⟩
    rw [Bool.not_eq_true']
    exact Bool.eq_false_iff.mpr fun hcontains => hfree (List.contains_iff_mem.mp hcontains)
  case declared =>
    intro name hname
    replace hname : name ∈ keys (valued _ _) := hname
    rw [keys_valued] at hname
    obtain ⟨hrequired, hfree⟩ := List.mem_filter.mp hname
    refine ⟨hfields.query.required name hrequired, fun hcontains => ?_⟩
    rw [List.contains_iff_mem.mpr hcontains] at hfree
    cases hfree
  case requiredBody =>
    intro name hname
    show name ∈ keys (valued _ _)
    rw [keys_valued]
    exact hname
  case declaredBody =>
    intro name hname
    replace hname : name ∈ keys (valued _ _) := hname
    rw [keys_valued] at hname
    exact hfields.body.required name hname
  case queryTypes => exact valued_typed _ hfields.query.types
  case bodyTypes => exact valued_typed _ hfields.body.types
  case pathTypes => exact (validateDeclaredFieldTypes_ok_iff _ _).mpr fun entry hentry => absurd hentry List.not_mem_nil
  case path =>
    have hmount : normalizeMountPath mountPath = .ok mountPath := by
      rw [← hpath]
      exact normalizeMountPath_of_valid mount.valid
    have hothers : (placeholders (explorerOperation discovered).pathTemplate).filter
        (fun name => name != "secret_mount_path" && name != "path") = [] := by
      refine List.filter_eq_nil_iff.mpr fun name hname hother => ?_
      rw [htemplate] at hname
      rw [Bool.and_eq_true, bne_iff_ne, bne_iff_ne] at hother
      exact absurd (hnames name hname) (not_or.mpr hother)
    refine ⟨mountPath, hmount, ?_, ?_, ?_, fun entry hentry => absurd hentry List.not_mem_nil⟩
    · intro hne
      unfold leastRequest at hne ⊢
      dsimp only at hne ⊢
      split at hne
      · next hcontains =>
          rw [if_pos hcontains]
          exact normalizeResourcePath_a
      · exact absurd rfl hne
    · rw [hothers]
      rfl
    · unfold leastRequest
      dsimp only
      cases (placeholders (explorerOperation discovered).pathTemplate).contains "path" with
      | true => decide
      | false => decide

/-- A journey that fixes a query parameter runs for every request that supplies the rest just when the operation
requires nothing that is fixed; otherwise no request whatever is admitted. -/
theorem fixed_journey_runs_iff [Packaging] [DocumentHashing] {document : Json} {capabilities : CapabilityDocument}
    (haccepted : Schema.normalizeOpenapiDocument document = .ok capabilities) {before : List PlaneExchange}
    (hdocument : Ends engineDocument before (.ok capabilities)) {mounts : List SecretEngineMount}
    {mountPath journeyId : String} {journey : EngineJourney} {operation : ExplorerOperation}
    (hresolved : resolveEngineJourney capabilities mounts mountPath journeyId = .ok (journey, operation))
    (hfixed : journey.fixedQuery ≠ []) (cluster : OpenBaoCluster) :
    ((∀ data : ExplorerData, data.capabilityDigest = capabilities.digest → data.mountPath = mountPath →
        data.journeyId = journeyId → Supplies operation (fixedNames journey) data →
          Admitted before mounts capabilities journey operation cluster data) ↔
      ∀ name ∈ operation.requiredQueryParameters, name ∉ fixedNames journey) ∧
    ((∃ data, Admitted before mounts capabilities journey operation cluster data) ↔
      ∀ name ∈ operation.requiredQueryParameters, name ∉ fixedNames journey) := by
  have hnothing : ∀ data, Admitted before mounts capabilities journey operation cluster data →
      ∀ name ∈ operation.requiredQueryParameters, name ∉ fixedNames journey := by
    rintro data ⟨path, hprepared, -⟩
    exact prepared_requires_nothing_fixed hprepared
  have hleast := leastRequest_supplies haccepted hresolved hfixed
  refine ⟨⟨fun hall => ?_, fun hrequired data hdigest hmount hjourney hsupplies => ?_⟩, ?_, fun hrequired => ?_⟩
  · exact hnothing _ (hall _ rfl rfl rfl hleast)
  · exact admitted_of_supplies hdocument hresolved hfixed hrequired cluster hdigest hmount hjourney hsupplies
  · rintro ⟨data, hadmitted⟩
    exact hnothing data hadmitted
  · exact ⟨_, admitted_of_supplies hdocument hresolved hfixed hrequired cluster rfl rfl rfl hleast⟩

/-! ### Listing the keys of a transit mount -/

/-- A document in which the `list` parameter of the operation is required or not. -/
def transitEntries (required : Bool) : JsonObject :=
  Sample.openapi "/\x7btransit_mount_path\x7d/keys" "get" "transit-list-keys"
    [Sample.parameter "transit_mount_path" "path" true, Sample.parameter "list" "query" required]

def transitDigest (required : Bool) : String :=
  if required then "f91ba81fcca7c199eba14109cd0a7e92ccdfe92ffd254ff73ebe80012b55b186"
  else "0b333d6afe0cc416a739bdab560087fab3db3ac17904339f8565d1dbfa0c1842"

def transitListKeys (required : Bool) : DiscoveredOperation where
  operationId := "transit-list-keys"
  method := "GET"
  pathTemplate := "/\x7bsecret_mount_path\x7d/keys"
  summary := ""
  tags := ["secrets"]
  family := "mounted-secrets"
  riskLevel := "read"
  responseClass := "unreviewed"
  requiredPermission := "netbox_openbao.discover_openbaocluster"
  classified := true
  mountParameter := "transit_mount_path"
  queryParameters := ["list"]
  requiredQueryParameters := if required then ["list"] else []
  pathParameters := ["secret_mount_path"]
  requiredPathParameters := ["secret_mount_path"]
  pathParameterTypes := [("secret_mount_path", "string")]
  bodyFields := []
  requiredBodyFields := []
  queryParameterTypes := [("list", "string")]
  bodyFieldTypes := []

def transitMount : SecretEngineMount := { Sample.kvMount "transit" (by decide +kernel) with engineType := "transit" }

def transitKeys : EngineJourney :=
  { journey "transit.keys" "transit" "Transit keys" "List keys" "GET" "/{secret_mount_path}/keys" "transit-list-keys"
    "use_transit" with fixedQuery := [("list", "true")] }

theorem transit_accepted (required : Bool) : ∃ capabilities,
    @Schema.normalizeOpenapiDocument (Sample.documentHashing (transitDigest required)) (.dict (transitEntries required)) =
      .ok capabilities ∧ capabilities.productVersion = "2.6.2" ∧
      capabilities.operations = [transitListKeys required] := by
  cases required with
  | true =>
      obtain ⟨capabilities, haccepted, -, hversion, hoperations⟩ :=
        @Sample.accepted_of (transitDigest true) "2.6.2" (transitEntries true) [transitListKeys true]
          (by decide +kernel) (by decide +kernel) (by decide +kernel) (by decide +kernel)
      exact ⟨capabilities, haccepted, hversion, hoperations⟩
  | false =>
      obtain ⟨capabilities, haccepted, -, hversion, hoperations⟩ :=
        @Sample.accepted_of (transitDigest false) "2.6.2" (transitEntries false) [transitListKeys false]
          (by decide +kernel) (by decide +kernel) (by decide +kernel) (by decide +kernel)
      exact ⟨capabilities, haccepted, hversion, hoperations⟩

theorem transit_resolved {capabilities : CapabilityDocument} {required : Bool}
    (h : capabilities.operations = [transitListKeys required]) :
    resolveEngineJourney capabilities [transitMount] "transit" "transit.keys" =
      .ok (transitKeys, explorerOperation (transitListKeys required)) := by
  have hclassified : classifyExplorerOperations capabilities = [explorerOperation (transitListKeys required)] := by
    unfold classifyExplorerOperations
    rw [h]
    exact List.mergeSort_singleton _
  refine (resolveEngineJourney_ok_iff _ _).mpr ⟨transitMount, by decide +kernel, by rfl, ?_⟩
  unfold resolution operationFor
  rw [hclassified, if_neg (by decide +kernel), if_pos (by decide +kernel)]
  cases required with
  | true => decide +kernel
  | false => decide +kernel

/-- How the document of a ready cluster is read. -/
def transitBefore (capabilities : CapabilityDocument) : List PlaneExchange :=
  [⟨.backend, .ok ()⟩, ⟨.sealStatus, .ok Sample.unsealed⟩, ⟨.discoverCapabilities, .ok capabilities⟩]

theorem transit_document {capabilities : CapabilityDocument} (h : capabilities.productVersion = "2.6.2") :
    Ends (@engineDocument Sample.packaging) (transitBefore capabilities) (.ok capabilities) := by
  unfold engineDocument
  refine Admin.asked (r := .backend) (a := ()) ?_
  refine Admin.asked (r := .sealStatus) (a := Sample.unsealed) ?_
  refine Admin.unraised (by decide) ?_
  refine Admin.unraised (by decide) ?_
  refine Admin.asked (r := .discoverCapabilities) (a := capabilities) ?_
  refine Admin.unraised ?_ (.start _)
  rw [h]
  decide

theorem optional_list_runs : ∃ capabilities data, @Admitted Sample.packaging (transitBefore capabilities) [transitMount]
    capabilities transitKeys (explorerOperation (transitListKeys false)) Sample.openBaoCluster data := by
  obtain ⟨capabilities, haccepted, hversion, hoperations⟩ := transit_accepted false
  have hiff := @fixed_journey_runs_iff Sample.packaging (Sample.documentHashing (transitDigest false)) _ capabilities haccepted
    (transitBefore capabilities) (transit_document hversion) [transitMount] "transit" "transit.keys" transitKeys _
    (transit_resolved hoperations) (by decide) Sample.openBaoCluster
  exact ⟨capabilities, hiff.2.mpr fun name hname => absurd hname List.not_mem_nil⟩

/-- With a required `list` the request that supplies the rest is refused, and so is every other. -/
theorem required_list_never_runs : ∃ capabilities,
    @Schema.normalizeOpenapiDocument (Sample.documentHashing (transitDigest true)) (.dict (transitEntries true)) =
      .ok capabilities ∧
    resolveEngineJourney capabilities [transitMount] "transit" "transit.keys" =
      .ok (transitKeys, explorerOperation (transitListKeys true)) ∧
    (∃ data, data.mountPath = "transit" ∧ data.journeyId = "transit.keys" ∧
      data.capabilityDigest = capabilities.digest ∧
      Supplies (explorerOperation (transitListKeys true)) (fixedNames transitKeys) data) ∧
    ∀ data, ¬ @Admitted Sample.packaging (transitBefore capabilities) [transitMount] capabilities transitKeys
      (explorerOperation (transitListKeys true)) Sample.openBaoCluster data := by
  obtain ⟨capabilities, haccepted, -, hoperations⟩ := transit_accepted true
  have hresolved := transit_resolved hoperations
  have hleast := @leastRequest_supplies (Sample.documentHashing (transitDigest true)) _ capabilities haccepted _ _ _ _ _
    hresolved (by decide)
  refine ⟨capabilities, haccepted, hresolved, ⟨_, rfl, rfl, rfl, hleast⟩, ?_⟩
  rintro data ⟨path, hprepared, -⟩
  have hfree := @prepared_requires_nothing_fixed Sample.packaging _ _ _ _ hprepared "list" List.mem_cons_self
  exact hfree List.mem_cons_self

end FixedQueries

end NetboxOpenbao
