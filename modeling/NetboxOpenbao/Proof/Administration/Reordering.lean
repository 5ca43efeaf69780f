import NetboxOpenbao.Effect.Gather
import NetboxOpenbao.Proof.Administration.Discovery
import NetboxOpenbao.Proof.Administration.Sorted

/-!
# Documents in another order

Each part of a document is read from its sorted form as it is read from the document. The paths and the methods of a
path are taken in the order in which they stand, so the operations are the same up to their order.
-/

namespace NetboxOpenbao

open Effect

namespace Schema

/-! ### Values -/

theorem safeString_sorted (value : Json) (field : String) (maximum : Nat) :
    safeString value.sorted field maximum = safeString value field maximum := by
  cases value with
  | null | bool b | int n | float x | str s | list items | dict entries => rfl

theorem objectOr_sorted (value : Json) : objectOr value.sorted = (objectOr value).map sortedObject := by
  unfold objectOr
  rw [truthy_sorted]
  split
  · cases value with
    | dict entries => rw [sorted_dict]; rfl
    | null | bool b | int n | float x | str s | list items => rfl
  · rw [Option.map_some, sortedObject_nil]

theorem objectOr_distinct {value : Json} {entries : JsonObject} (h : value.distinct = true)
    (hentries : objectOr value = some entries) : (Json.dict entries).distinct = true := by
  unfold objectOr at hentries
  split at hentries
  · split at hentries
    · exact Option.some.inj hentries ▸ h
    · cases hentries
  · obtain rfl := Option.some.inj hentries
    rfl

theorem valueOr_sorted (value : Json) : valueOr value.sorted = (valueOr value).sorted := by
  unfold valueOr
  rw [truthy_sorted]
  split
  · rfl
  · exact sorted_dict_nil.symm

theorem valueOr_distinct {value : Json} (h : value.distinct = true) : (valueOr value).distinct = true := by
  unfold valueOr
  split
  · exact h
  · rfl

/-- `value or []`. -/
def listOr (value : Json) : Json := if value.truthy then value else .list []

theorem listOr_sorted (value : Json) : listOr value.sorted = (listOr value).sorted := by
  unfold listOr
  rw [truthy_sorted]
  split
  · rfl
  · rfl

theorem operationTags_sorted {operation : JsonObject} (h : (Json.dict operation).distinct = true) :
    operationTags (sortedObject operation) = operationTags operation := by
  unfold operationTags
  dsimp only
  rw [get_sorted h "tags" rfl, ← listOr, ← listOr, listOr_sorted]
  cases listOr (JsonObject.get operation "tags" .null) with
  | list tags =>
      rw [sorted_list]
      dsimp only
      rw [List.length_map, Fallible.mapM_congr_map fun tag _ => safeString_sorted tag "operation tag" 100]
  | dict entries => rw [sorted_dict]
  | null | bool b | int n | float x | str s => rfl

theorem declaredType_sorted {schema : Json} (h : schema.distinct = true) :
    declaredType schema.sorted = declaredType schema := by
  cases schema with
  | dict entries =>
      rw [sorted_dict]
      unfold declaredType
      dsimp only
      rw [get_sorted h "type" rfl]
      cases JsonObject.get entries "type" (.str "json") with
      | null | bool b | int n | float x | str s | list items | dict entries => rfl
  | null | bool b | int n | float x | str s | list items => rfl

/-! ### Parameters -/

theorem addParameter_sorted (location : String) (metadata : Parameters) {parameter : Json}
    (h : parameter.distinct = true) :
    addParameter location metadata parameter.sorted = addParameter location metadata parameter := by
  cases parameter with
  | dict entries =>
      rw [sorted_dict]
      unfold addParameter
      dsimp only
      have hschema := valueOr_distinct (distinct_get h "schema" (rfl : Json.null.distinct = true))
      rw [get_sorted h "in" rfl, get_sorted h "name" rfl, get_sorted h "schema" rfl, get_sorted h "required" rfl,
        safeString_sorted, valueOr_sorted, declaredType_sorted hschema]
      cases JsonObject.get entries "required" .null with
      | null | bool b | int n | float x | str s | list items | dict others =>
          cases JsonObject.get entries "in" .null with
          | null | bool b | int n | float x | str s | list items | dict others => rfl
  | null | bool b | int n | float x | str s | list items => rfl

theorem addGroup_sorted (location : String) (metadata : Parameters) {group : Json} (h : group.distinct = true) :
    addGroup location metadata group.sorted = addGroup location metadata group := by
  cases group with
  | list parameters =>
      rw [sorted_list]
      unfold addGroup
      dsimp only
      rw [List.length_map, Fallible.foldlM_congr_map fun metadata parameter hmem =>
        addParameter_sorted location metadata ((distinct_list_iff parameters).mp h parameter hmem)]
  | dict entries => rw [sorted_dict]; rfl
  | null | bool b | int n | float x | str s => rfl

theorem parameterMetadata_sorted (location : String) {groups : List Json} (h : ∀ group ∈ groups, group.distinct = true) :
    parameterMetadata location (groups.map Json.sorted) = parameterMetadata location groups := by
  unfold parameterMetadata
  rw [Fallible.foldlM_congr_map fun metadata group hmem => addGroup_sorted location metadata (h group hmem)]

/-! ### Request bodies -/

/-- What a request body says of JSON. -/
def contentMedia (body : JsonObject) : Json :=
  match valueOr (JsonObject.get body "content" .null) with
  | .dict content => JsonObject.get content "application/json" .null
  | _ => .null

def mediaSchema (media : Json) : Json :=
  match media with
  | .dict media => JsonObject.get media "schema" .null
  | _ => .null

/-- The schema itself, or the one it refers to. -/
def resolvedSchema (schema : Json) (schemas : JsonObject) : Except Error (Option JsonObject) :=
  match schema with
  | .dict schema =>
      match JsonObject.get schema "$ref" .null with
      | .null => .ok (some schema)
      | .str reference =>
          if Text.startsWith reference "#/components/schemas/" then
            match JsonObject.get schemas (String.ofList (reference.toList.drop "#/components/schemas/".length)) .null with
            | .dict schema => .ok (some schema)
            | _ => refuse "OpenBao capability operation references a missing schema."
          else refuse "OpenBao capability operation has an unsupported schema reference."
      | _ => refuse "OpenBao capability operation has an unsupported schema reference."
  | _ => refuse "OpenBao capability operation has an invalid request body."

theorem requestSchema_dict (body schemas : JsonObject) :
    requestSchema (.dict body) schemas = resolvedSchema (mediaSchema (contentMedia body)) schemas := rfl

theorem contentMedia_sorted {body : JsonObject} (h : (Json.dict body).distinct = true) :
    contentMedia (sortedObject body) = (contentMedia body).sorted := by
  have hcontent := valueOr_distinct (distinct_get h "content" (rfl : Json.null.distinct = true))
  unfold contentMedia
  rw [get_sorted h "content" rfl, valueOr_sorted]
  revert hcontent
  cases valueOr (JsonObject.get body "content" .null) with
  | dict content =>
      intro hcontent
      rw [sorted_dict]
      exact get_sorted hcontent "application/json" rfl
  | null | bool b | int n | float x | str s | list items => exact fun _ => rfl

theorem contentMedia_distinct {body : JsonObject} (h : (Json.dict body).distinct = true) :
    (contentMedia body).distinct = true := by
  have hcontent := valueOr_distinct (distinct_get h "content" (rfl : Json.null.distinct = true))
  unfold contentMedia
  split
  · next content heq => exact distinct_get (heq ▸ hcontent) "application/json" rfl
  · rfl

theorem mediaSchema_sorted {media : Json} (h : media.distinct = true) :
    mediaSchema media.sorted = (mediaSchema media).sorted := by
  cases media with
  | dict entries =>
      rw [sorted_dict]
      exact get_sorted h "schema" rfl
  | null | bool b | int n | float x | str s | list items => rfl

theorem mediaSchema_distinct {media : Json} (h : media.distinct = true) : (mediaSchema media).distinct = true := by
  cases media with
  | dict entries => exact distinct_get h "schema" rfl
  | null | bool b | int n | float x | str s | list items => rfl

theorem resolvedSchema_sorted {schema : Json} {schemas : JsonObject} (h : schema.distinct = true)
    (hschemas : (Json.dict schemas).distinct = true) :
    resolvedSchema schema.sorted (sortedObject schemas) = (resolvedSchema schema schemas).map (Option.map sortedObject) := by
  cases schema with
  | dict entries =>
      rw [sorted_dict]
      unfold resolvedSchema
      dsimp only
      rw [get_sorted h "$ref" rfl]
      cases JsonObject.get entries "$ref" .null with
      | str reference =>
          have hreference : (Json.str reference).sorted = .str reference := rfl
          rw [hreference]
          dsimp only
          split
          · rw [get_sorted hschemas _ rfl]
            cases JsonObject.get schemas
                (String.ofList (reference.toList.drop "#/components/schemas/".length)) .null with
            | dict found => rw [sorted_dict]; rfl
            | null | bool b | int n | float x | str s | list items => rfl
          · rfl
      | null | bool b | int n | float x | list items | dict others => rfl
  | null | bool b | int n | float x | str s | list items => rfl

theorem resolvedSchema_distinct {schema : Json} {schemas found : JsonObject} (h : schema.distinct = true)
    (hschemas : (Json.dict schemas).distinct = true) (hfound : resolvedSchema schema schemas = .ok (some found)) :
    (Json.dict found).distinct = true := by
  unfold resolvedSchema at hfound
  split at hfound
  · split at hfound
    · obtain rfl := Option.some.inj (Except.ok.inj hfound)
      exact h
    · split at hfound
      · split at hfound
        · next reference _ _ given hgiven =>
            obtain rfl := Option.some.inj (Except.ok.inj hfound)
            exact hgiven ▸ distinct_get hschemas _ rfl
        · cases hfound
      · cases hfound
    · cases hfound
  · cases hfound

/-! ### Request fields -/

theorem mapM_safeString (field : String) (maximum : Nat) (names : List String) :
    (names.mapM fun name => safeString (.str name) field maximum) =
      if names.any fun name => name.length > maximum || name.toList.any Text.control then
        refuse s!"OpenBao capability document has an invalid {field}."
      else .ok names := by
  induction names with
  | nil => rfl
  | cons name names ih =>
      rw [List.mapM_cons, ih, List.any_cons]
      unfold safeString
      dsimp only
      cases decide (name.length > maximum) || name.toList.any Text.control with
      | true => rfl
      | false =>
          cases names.any fun name => name.length > maximum || name.toList.any Text.control with
          | true => rfl
          | false => rfl

theorem sortedStrings_perm {names others : List String} (h : names.Perm others) :
    sortedStrings names = sortedStrings others := by
  unfold sortedStrings
  have hperm := ((List.perm_insertionSort (· ≤ ·) names).trans h).trans (List.perm_insertionSort (· ≤ ·) others).symm
  exact List.Perm.eq_of_pairwise' (List.pairwise_insertionSort _ _) (List.pairwise_insertionSort _ _) hperm

/-- The fields of a schema, from its properties and the fields it requires. -/
def declaredFields (properties : JsonObject) (required : List Json) : Except Error FieldMetadata := do
  let fields ← properties.mapM fun entry => safeString (.str entry.1) "request field" 100
  let requiredFields ← required.mapM fun key => safeString key "required request field" 100
  if !requiredFields.all fields.contains then
    refuse "OpenBao capability operation has invalid required fields."
  else do
    let types ← (sortedStrings fields).mapM fun field => do
      return (field, ← declaredType (JsonObject.get properties field .null))
    return ⟨sortedStrings fields, sortedStrings requiredFields, types⟩

theorem declaredFields_sorted {properties : JsonObject} (h : (Json.dict properties).distinct = true)
    (required : List Json) :
    declaredFields (sortedObject properties) (required.map Json.sorted) = declaredFields properties required := by
  have hkeys := sortedObject_keys properties
  have hnames : ∀ properties : JsonObject, (properties.mapM fun entry => safeString (.str entry.1) "request field" 100) =
      (properties.map Prod.fst).mapM fun name => safeString (.str name) "request field" 100 :=
    fun properties => (Fallible.mapM_congr_map (f := fun name => safeString (.str name) "request field" 100)
      (g := Prod.fst) fun entry _ => rfl).symm
  unfold declaredFields
  rw [hnames, hnames, mapM_safeString, mapM_safeString, hkeys.any_eq,
    Fallible.mapM_congr_map fun key _ => safeString_sorted key "required request field" 100]
  split
  · rfl
  · rw [Fallible.ok_bind, Fallible.ok_bind]
    refine congrArg _ (funext fun requiredFields => ?_)
    have hcontains : ((sortedObject properties).map Prod.fst).contains = (properties.map Prod.fst).contains :=
      funext fun name => hkeys.contains_eq
    have htypes : (fun field => (do
          return (field, ← declaredType (JsonObject.get (sortedObject properties) field .null)) :
            Except Error (String × String))) =
        fun field => do return (field, ← declaredType (JsonObject.get properties field .null)) := by
      funext field
      rw [get_sorted h field rfl, declaredType_sorted (distinct_get h field rfl)]
    rw [hcontains, sortedStrings_perm hkeys, htypes]

theorem schemaFieldMetadata_sorted {schema : Option JsonObject}
    (h : ∀ entries, schema = some entries → (Json.dict entries).distinct = true) :
    schemaFieldMetadata (schema.map sortedObject) = schemaFieldMetadata schema := by
  cases schema with
  | none => rfl
  | some schema =>
      have hdistinct := h schema rfl
      have hproperties := distinct_get hdistinct "properties" (rfl : Json.null.distinct = true)
      rw [Option.map_some]
      unfold schemaFieldMetadata
      dsimp only
      rw [get_sorted hdistinct "required" rfl, get_sorted hdistinct "properties" rfl, ← listOr, ← listOr, listOr_sorted,
        objectOr_sorted]
      revert hproperties
      generalize JsonObject.get schema "properties" .null = given
      intro hgiven
      cases hobject : objectOr given with
      | none =>
          cases listOr (JsonObject.get schema "required" .null) with
          | null | bool b | int n | float x | str s | list items | dict entries => rfl
      | some properties =>
          have hproperties := objectOr_distinct hgiven hobject
          cases listOr (JsonObject.get schema "required" .null) with
          | list required =>
              rw [sorted_list, Option.map_some]
              exact declaredFields_sorted hproperties required
          | null | bool b | int n | float x | str s | dict entries => rfl

theorem bodyFieldMetadata_sorted {requestBody : Json} {schemas : JsonObject} (h : requestBody.distinct = true)
    (hschemas : (Json.dict schemas).distinct = true) :
    bodyFieldMetadata requestBody.sorted (sortedObject schemas) = bodyFieldMetadata requestBody schemas := by
  cases requestBody with
  | dict body =>
      have hmedia := contentMedia_distinct h
      have hschema := mediaSchema_distinct hmedia
      rw [sorted_dict]
      unfold bodyFieldMetadata
      rw [requestSchema_dict, requestSchema_dict, contentMedia_sorted h, mediaSchema_sorted hmedia,
        resolvedSchema_sorted hschema hschemas]
      cases hresolved : resolvedSchema (mediaSchema (contentMedia body)) schemas with
      | error error => rfl
      | ok schema =>
          exact schemaFieldMetadata_sorted fun entries hsome =>
            resolvedSchema_distinct hschema hschemas (hresolved.trans (congrArg Except.ok hsome))
  | null | bool b | int n | float x | str s | list items => rfl

/-! ### Operations -/

/-- An operation is read of its sorted form as it is of itself. -/
theorem normalizeOperation_sorted (path mountParameter method : String) {source inheritedParameters : Json}
    {schemas : JsonObject} (h : source.distinct = true) (hschemas : (Json.dict schemas).distinct = true)
    (hinherited : inheritedParameters.distinct = true) :
    normalizeOperation path mountParameter method source.sorted (sortedObject schemas) inheritedParameters.sorted =
      normalizeOperation path mountParameter method source schemas inheritedParameters := by
  cases source with
  | dict operation =>
      have hparameters := distinct_get h "parameters" (rfl : Json.null.distinct = true)
      have hgroups : ∀ group ∈ [inheritedParameters, JsonObject.get operation "parameters" .null],
          group.distinct = true :=
        List.forall_mem_cons.mpr ⟨hinherited, List.forall_mem_singleton.mpr hparameters⟩
      have hsorted : [inheritedParameters.sorted, (JsonObject.get operation "parameters" .null).sorted] =
          [inheritedParameters, JsonObject.get operation "parameters" .null].map Json.sorted := rfl
      rw [sorted_dict]
      unfold normalizeOperation
      dsimp only
      rw [get_sorted h "operationId" rfl, safeString_sorted, operationTags_sorted h, get_sorted h "parameters" rfl,
        hsorted, parameterMetadata_sorted "query" hgroups, parameterMetadata_sorted "path" hgroups,
        get_sorted h "requestBody" rfl, bodyFieldMetadata_sorted (distinct_get h "requestBody" rfl) hschemas,
        get_sorted h "summary" rfl, safeString_sorted]
  | null | bool b | int n | float x | str s | list items => rfl

theorem readMethod_sorted (path mountParameter : String) {inheritedParameters : Json} {schemas : JsonObject}
    {entry : String × Json} (h : entry.2.distinct = true) (hschemas : (Json.dict schemas).distinct = true)
    (hinherited : inheritedParameters.distinct = true) :
    readMethod path mountParameter inheritedParameters.sorted (sortedObject schemas) (sortedEntry entry) =
      readMethod path mountParameter inheritedParameters schemas entry := by
  unfold readMethod sortedEntry
  dsimp only
  rw [normalizeOperation_sorted path mountParameter _ h hschemas hinherited]

theorem readPath_dict (schemas : JsonObject) (rawPath : String) (pathItem : JsonObject) :
    readPath schemas (rawPath, .dict pathItem) = normalizePath rawPath >>= fun path => Fallible.gather
      (readMethod path (mountParameterOf rawPath) (JsonObject.get pathItem "parameters" .null) schemas) pathItem := rfl

/-- A path has the operations of its sorted form. -/
theorem readPath_sorted {schemas : JsonObject} {entry : String × Json} (h : entry.2.distinct = true)
    (hschemas : (Json.dict schemas).distinct = true) :
    Fallible.SameItems (readPath schemas entry) (readPath (sortedObject schemas) (sortedEntry entry)) := by
  obtain ⟨rawPath, item⟩ := entry
  unfold sortedEntry
  cases item with
  | dict pathItem =>
      dsimp only
      rw [sorted_dict, readPath_dict, readPath_dict]
      cases normalizePath rawPath with
      | error error => exact .error error error
      | ok path =>
          rw [Fallible.ok_bind, Fallible.ok_bind, get_sorted h "parameters" rfl]
          have hinherited := distinct_get h "parameters" (rfl : Json.null.distinct = true)
          refine (Fallible.gather_map (g := sortedEntry) fun entry hentry => ?_).trans
            (Fallible.gather_perm _ (sortedObject_perm pathItem).symm)
          rw [readMethod_sorted path _ (((distinct_dict_iff pathItem).mp h).2 entry hentry) hschemas hinherited]
          exact .refl _
  | null | bool b | int n | float x | str s | list items =>
      unfold readPath
      dsimp only
      cases normalizePath rawPath with
      | error error => exact .error error error
      | ok path => exact .error _ _

/-! ### Documents -/

def sortedMetadata (metadata : DocumentMetadata) : DocumentMetadata :=
  { metadata with paths := sortedObject metadata.paths, schemas := sortedObject metadata.schemas }

theorem documentMetadata_sorted {entries : JsonObject} (h : (Json.dict entries).distinct = true) :
    documentMetadata (sortedObject entries) = (documentMetadata entries).map sortedMetadata := by
  have hinfo := distinct_get h "info" (rfl : Json.null.distinct = true)
  have hcomponents := distinct_get h "components" (rfl : Json.null.distinct = true)
  unfold documentMetadata
  rw [get_sorted h "openapi" rfl, safeString_sorted, get_sorted h "info" rfl, objectOr_sorted,
    get_sorted h "paths" rfl, get_sorted h "components" rfl, objectOr_sorted, Fallible.map_bind]
  refine congrArg _ (funext fun openapiVersion => ?_)
  split
  · rfl
  · cases hinfo' : objectOr (JsonObject.get entries "info" .null) with
    | none => rfl
    | some info =>
        dsimp only [Option.map_some]
        rw [get_sorted (objectOr_distinct hinfo hinfo') "version" rfl, safeString_sorted, Fallible.map_bind]
        refine congrArg _ (funext fun productVersion => ?_)
        cases JsonObject.get entries "paths" .null with
        | dict paths =>
            rw [sorted_dict]
            dsimp only
            rw [sortedObject_length]
            split
            · rfl
            · cases hcomponents' : objectOr (JsonObject.get entries "components" .null) with
              | none => rfl
              | some components =>
                  dsimp only [Option.map_some]
                  rw [get_sorted (objectOr_distinct hcomponents hcomponents') "schemas" sorted_dict_nil]
                  cases JsonObject.get components "schemas" (.dict []) with
                  | dict schemas => rw [sorted_dict]; rfl
                  | null | bool b | int n | float x | str s | list items => rfl
        | null | bool b | int n | float x | str s | list items => rfl

theorem documentMetadata_distinct {entries : JsonObject} {metadata : DocumentMetadata}
    (h : (Json.dict entries).distinct = true) (hmetadata : documentMetadata entries = .ok metadata) :
    (Json.dict metadata.paths).distinct = true ∧ (Json.dict metadata.schemas).distinct = true := by
  constructor
  · rw [← documentMetadata_paths hmetadata]
    exact distinct_get h "paths" rfl
  · have hcomponents := distinct_get h "components" (rfl : Json.null.distinct = true)
    unfold documentMetadata at hmetadata
    obtain ⟨openapiVersion, -, h₁⟩ := Fallible.bind_ok hmetadata
    split at h₁
    · cases h₁
    · split at h₁
      · cases h₁
      · obtain ⟨productVersion, -, h₂⟩ := Fallible.bind_ok h₁
        split at h₂
        · split at h₂
          · cases h₂
          · split at h₂
            · cases h₂
            · next components hobject =>
                split at h₂
                · next schemas hschemas =>
                    obtain rfl := Except.ok.inj h₂
                    exact hschemas ▸ distinct_get (objectOr_distinct hcomponents hobject) "schemas" rfl
                · cases h₂
        · cases h₂

theorem discovered_gather (metadata : DocumentMetadata) (operations : List DiscoveredOperation) :
    discovered metadata = .ok operations ↔
      Fallible.gather (readPath metadata.schemas) metadata.paths = .ok operations ∧ operations.length ≤ maxOperations := by
  rw [discovered_iff]
  constructor
  · rintro ⟨parts, hparts, rfl, hlength⟩
    refine ⟨?_, hlength⟩
    unfold Fallible.gather
    rw [hparts]
    rfl
  · rintro ⟨hgather, hlength⟩
    obtain ⟨parts, hparts, hsame⟩ := Fallible.bind_ok hgather
    exact ⟨parts, hparts, (Except.ok.inj hsame).symm, hlength⟩

theorem gather_sorted {metadata : DocumentMetadata} (hpaths : (Json.dict metadata.paths).distinct = true)
    (hschemas : (Json.dict metadata.schemas).distinct = true) :
    Fallible.SameItems (Fallible.gather (readPath metadata.schemas) metadata.paths)
      (Fallible.gather (readPath (sortedMetadata metadata).schemas) (sortedMetadata metadata).paths) :=
  (Fallible.gather_map (g := sortedEntry) fun entry hentry =>
    readPath_sorted (((distinct_dict_iff metadata.paths).mp hpaths).2 entry hentry) hschemas).trans
    (Fallible.gather_perm _ (sortedObject_perm metadata.paths).symm)

/-- Documents with the same metadata up to order list the same operations up to order. -/
theorem discovered_reordered {metadata metadata' : DocumentMetadata}
    (hpaths : (Json.dict metadata.paths).distinct = true) (hschemas : (Json.dict metadata.schemas).distinct = true)
    (hpaths' : (Json.dict metadata'.paths).distinct = true) (hschemas' : (Json.dict metadata'.schemas).distinct = true)
    (hsame : sortedMetadata metadata = sortedMetadata metadata') {operations : List DiscoveredOperation}
    (h : discovered metadata = .ok operations) :
    ∃ operations', discovered metadata' = .ok operations' ∧ operations.Perm operations' := by
  obtain ⟨hgather, hlength⟩ := (discovered_gather _ _).mp h
  have hfirst := gather_sorted hpaths hschemas
  rw [hsame] at hfirst
  obtain ⟨operations', hgather', hperm⟩ := (hfirst.trans (gather_sorted hpaths' hschemas').symm).exists_ok hgather
  exact ⟨operations', (discovered_gather _ _).mpr ⟨hgather', hperm.length_eq ▸ hlength⟩, hperm⟩

theorem validateItems_iff (items : List Json) (depth : Nat) :
    validateItems items depth = .ok () ↔ ∀ item ∈ items, validateShape item (depth + 1) = .ok () := by
  induction items with
  | nil =>
      unfold validateItems
      exact iff_of_true rfl fun item hmem => absurd hmem List.not_mem_nil
  | cons item items ih =>
      unfold validateItems
      rw [List.forall_mem_cons, ← ih]
      constructor
      · intro h
        obtain ⟨_, hitem, hrest⟩ := Fallible.bind_ok h
        exact ⟨hitem, hrest⟩
      · rintro ⟨hitem, hrest⟩
        rw [hitem]
        exact hrest

theorem validateShape_list_iff (items : List Json) (depth : Nat) : validateShape (.list items) depth = .ok () ↔
    depth ≤ maxDocumentDepth ∧ items.length ≤ maxOperations ∧ validateItems items depth = .ok () := by
  unfold validateShape
  split
  · next hdeep =>
      refine iff_of_false ?_ fun h => absurd h.1 (Nat.not_le.mpr hdeep)
      intro h
      cases h
  · next hdeep =>
      dsimp only
      split
      · next hmany =>
          refine iff_of_false ?_ fun h => absurd h.2.1 (Nat.not_le.mpr hmany)
          intro h
          cases h
      · next hmany => exact ⟨fun h => ⟨Nat.not_lt.mp hdeep, Nat.not_lt.mp hmany, h⟩, fun h => h.2.2⟩

theorem validateShape_sorted (value : Json) (depth : Nat) :
    validateShape value.sorted depth = .ok () ↔ validateShape value depth = .ok () := by
  induction value using Json.induct generalizing depth with
  | null => exact Iff.rfl
  | bool b => exact Iff.rfl
  | int n => exact Iff.rfl
  | float x => exact Iff.rfl
  | str s => exact Iff.rfl
  | list items ih =>
      rw [sorted_list, validateShape_list_iff, validateShape_list_iff, List.length_map, validateItems_iff,
        validateItems_iff, List.forall_mem_map]
      exact and_congr_right fun _ => and_congr_right fun _ => forall₂_congr fun item hmem => ih item hmem _
  | dict entries ih =>
      rw [sorted_dict, validateShape_dict_iff, validateShape_dict_iff, sortedObject_length, validateEntries_iff,
        validateEntries_iff]
      refine and_congr_right fun _ => and_congr_right fun _ => ?_
      constructor
      · intro h entry hmem
        obtain ⟨hkey, hvalue⟩ := h _ ((sortedObject_perm entries).mem_iff.mpr (List.mem_map_of_mem hmem))
        exact ⟨hkey, (ih entry hmem _).mp hvalue⟩
      · intro h entry hmem
        obtain ⟨given, hgiven, rfl⟩ := List.mem_map.mp ((sortedObject_perm entries).mem_iff.mp hmem)
        obtain ⟨hkey, hvalue⟩ := h given hgiven
        exact ⟨hkey, (ih given hgiven _).mpr hvalue⟩

section

variable [DocumentHashing] {entries others : JsonObject}

/-- A document is accepted in every order, with the same operations in some order. -/
theorem accepted_reordered (hdistinct : (Json.dict entries).distinct = true)
    (hsame : (Json.dict entries).Same (.dict others)) {metadata : DocumentMetadata}
    {operations : List DiscoveredOperation}
    (haccepted : normalizeOpenapiDocument (.dict entries) = .ok (capabilityDocument entries metadata operations))
    (hmetadata : documentMetadata entries = .ok metadata) (hdiscovered : discovered metadata = .ok operations) :
    ∃ metadata' operations', documentMetadata others = .ok metadata' ∧ discovered metadata' = .ok operations' ∧
      operations.Perm operations' ∧ normalizeOpenapiDocument (.dict others) = .ok { capabilityDocument entries metadata
        operations with operations := operations'.insertionSort fun a b => operationOrder a b } := by
  have hdistinct' := hdistinct
  rw [hsame.distinct_iff] at hdistinct'
  have hsorted : sortedObject entries = sortedObject others := by
    have hdicts : (Json.dict entries).sorted = (Json.dict others).sorted := hsame
    rw [sorted_dict, sorted_dict] at hdicts
    exact Json.dict.inj hdicts
  have hread := documentMetadata_sorted hdistinct
  rw [hsorted, documentMetadata_sorted hdistinct', hmetadata] at hread
  cases hmetadata' : documentMetadata others with
  | error error =>
      rw [hmetadata'] at hread
      cases hread
  | ok metadata' =>
      rw [hmetadata'] at hread
      have hsameMetadata : sortedMetadata metadata' = sortedMetadata metadata := Except.ok.inj hread
      obtain ⟨hpaths, hschemas⟩ := documentMetadata_distinct hdistinct hmetadata
      obtain ⟨hpaths', hschemas'⟩ := documentMetadata_distinct hdistinct' hmetadata'
      obtain ⟨operations', hdiscovered', hperm⟩ :=
        discovered_reordered hpaths hschemas hpaths' hschemas' hsameMetadata.symm hdiscovered
      obtain ⟨hsize, hshape, -⟩ := (normalizeOpenapiDocument_ok_iff _ _).mp haccepted
      refine ⟨metadata', operations', rfl, hdiscovered', hperm, (normalizeOpenapiDocument_ok_iff _ _).mpr
        ⟨?_, ?_, metadata', operations', hmetadata', hdiscovered', ?_⟩⟩
      · rw [← canonical_length, ← (canonical_eq_iff _ _).mpr hsame, canonical_length]
        exact hsize
      · rw [← validateShape_sorted, ← hsame, validateShape_sorted]
        exact hshape
      · unfold capabilityDocument
        rw [(canonical_eq_iff _ _).mpr hsame]
        have hopenapi : (sortedMetadata metadata').openapiVersion = (sortedMetadata metadata).openapiVersion :=
          congrArg DocumentMetadata.openapiVersion hsameMetadata
        have hproduct : (sortedMetadata metadata').productVersion = (sortedMetadata metadata).productVersion :=
          congrArg DocumentMetadata.productVersion hsameMetadata
        unfold sortedMetadata at hopenapi hproduct
        rw [hopenapi, hproduct]

end

end Schema

end NetboxOpenbao
