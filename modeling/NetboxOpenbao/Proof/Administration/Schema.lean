import NetboxOpenbao.Administration.Schema
import NetboxOpenbao.Effect.Fallible
import NetboxOpenbao.Proof.Administration.Dumps
import NetboxOpenbao.Proof.Administration.Templates

/-!
# Operations of an accepted document

Every operation that `normalize_openapi_document` lists was read by `_normalize_operation` under a path that
`_normalize_path` accepted, and such a path has no segment that leads elsewhere.
-/

namespace NetboxOpenbao

open Effect

namespace Schema

/-! ### Paths -/

theorem firstPlaceholder_eq_some {path name after : List Char} (h : firstPlaceholder path = some (name, after)) :
    path = '/' :: '{' :: (name ++ '}' :: after) ∧ '/' ∉ name := by
  unfold firstPlaceholder at h
  split at h
  · next rest =>
      dsimp only at h
      split at h
      · next tail hdrop =>
          split at h
          · obtain ⟨rfl, rfl⟩ := Prod.mk.inj (Option.some.inj h)
            constructor
            · rw [← hdrop, List.prefix_iff_eq_append.mp (List.takeWhile_prefix _)]
            · intro hmem
              have hall := List.all_takeWhile (p := fun c : Char => c.isAlphanum || c == '_') (l := rest)
              exact absurd (List.all_eq_true.mp hall '/' hmem) (by decide)
          · cases h
      · cases h
  · cases h

def dots (part : List Char) : Prop := part = ['.'] ∨ part = ['.', '.']

theorem not_dots_nil : ¬ dots [] := by
  rintro (h | h)
  · cases h
  · cases h

theorem not_dots_brace (cs : List Char) : ¬ dots ('{' :: cs) := by
  rintro (h | h)
  · cases h
  · cases h

theorem not_dots_of_safe {path : String} (h : unsafePath path = false) :
    ∀ part ∈ Text.segments path.toList, ¬ dots part := by
  unfold unsafePath at h
  simp only [Bool.or_eq_false_iff, Bool.not_eq_false'] at h
  obtain ⟨⟨⟨⟨⟨hre, -⟩, -⟩, hdot⟩, hdotdot⟩, -⟩ := h
  have hstart : ∃ rest, path.toList = '/' :: rest := by
    unfold pathRe at hre
    split at hre
    · next rest hpath => exact ⟨rest, hpath⟩
    · cases hre
  obtain ⟨rest, hrest⟩ := hstart
  have hsegments : Text.segments path.toList = [] :: Text.segments rest := by rw [hrest]; rfl
  have happend : (path ++ "/").toList = path.toList ++ ['/'] := String.toList_append
  unfold Text.contains at hdot hdotdot
  rw [happend] at hdot hdotdot
  intro part hpart hdots
  rw [hsegments] at hpart
  cases List.mem_cons.mp hpart with
  | inl hnil => exact not_dots_nil (hnil ▸ hdots)
  | inr hmem =>
      have hoccurs := Text.occursIn_segment hsegments hmem
      cases hdots with
      | inl h =>
          subst h
          exact absurd (hdot.symm.trans hoccurs) Bool.false_ne_true
      | inr h =>
          subst h
          exact absurd (hdotdot.symm.trans hoccurs) Bool.false_ne_true

/-- A path of an accepted document has no dot segment. -/
theorem normalizePath_not_dots {rawPath path : String} (h : normalizePath rawPath = .ok path) :
    ∀ part ∈ Text.segments path.toList, ¬ dots part := by
  unfold normalizePath at h
  obtain ⟨raw, -, hchecked⟩ := Fallible.bind_ok h
  dsimp only at hchecked
  generalize (if Text.startsWith raw "/v1/" then String.ofList (raw.toList.drop 3) else raw) = unversioned at hchecked
  split at hchecked
  · cases hchecked
  · next hsafe =>
      have hclear := not_dots_of_safe (Bool.eq_false_iff.mpr hsafe)
      split at hchecked
      · next name after hfirst =>
          split at hchecked
          · obtain rfl := Except.ok.inj hchecked
            obtain ⟨hpath, hslash⟩ := firstPlaceholder_eq_some hfirst
            obtain ⟨head, tail, hafter⟩ := Text.segments_ne_nil after
            -- what follows the placeholder is the same in both
            have hshape : ∀ {braced : List Char}, '/' ∉ braced →
                Text.segments ('/' :: (braced ++ after)) = [] :: (braced ++ head) :: tail := by
              intro braced hbraced
              rw [Text.segments_slash, Text.segments_clear_append hbraced hafter]
            have hold : unversioned.toList = '/' :: (('{' :: name ++ ['}']) ++ after) := by
              rw [hpath, List.append_assoc]
              rfl
            have hbraced : '/' ∉ '{' :: name ++ ['}'] := by
              simp [hslash]
            rw [hold, hshape hbraced] at hclear
            have hnew : Text.segments (String.ofList ("/\x7bsecret_mount_path\x7d".toList ++ after)).toList =
                [] :: (Text.braced "secret_mount_path" ++ head) :: tail := by
              rw [String.toList_ofList]
              exact hshape (by decide)
            rw [hnew]
            intro part hpart
            cases List.mem_cons.mp hpart with
            | inl hnil => exact hnil ▸ not_dots_nil
            | inr hrest =>
                cases List.mem_cons.mp hrest with
                | inl hmount => exact hmount ▸ not_dots_brace _
                | inr htail => exact hclear part (List.mem_cons_of_mem _ (List.mem_cons_of_mem _ htail))
          · exact Except.ok.inj hchecked ▸ hclear
      · exact Except.ok.inj hchecked ▸ hclear

/-! ### Fields -/

/-- What is required is declared, and every declared type is one of those a value is checked against. -/
structure FieldMetadata.Sound (metadata : FieldMetadata) : Prop where
  required : ∀ name ∈ metadata.required, name ∈ metadata.names
  types : ∀ entry ∈ metadata.types, entry.2 ∈ declaredTypes

theorem declaredType_mem {schema : Json} {declared : String} (h : declaredType schema = .ok declared) :
    declared ∈ declaredTypes := by
  unfold declaredType at h
  split at h
  · split at h
    · next name _ =>
        obtain rfl := Except.ok.inj h
        by_cases hname : declaredTypes.contains name = true
        · rw [if_pos hname]
          exact List.contains_iff_mem.mp hname
        · rw [if_neg hname]
          decide
    · cases h
    · cases h
    · exact Except.ok.inj h ▸ (by decide)
  · cases h

def Parameters.Typed (metadata : Parameters) : Prop := ∀ entry ∈ metadata, entry.2.1 ∈ declaredTypes

theorem Parameters.Typed.put {metadata : Parameters} (h : metadata.Typed) (name : String) {value : String × Bool}
    (hvalue : value.1 ∈ declaredTypes) : (metadata.put name value).Typed := by
  intro entry hentry
  cases List.mem_append.mp hentry with
  | inl hkept => exact h entry (List.mem_filter.mp hkept).1
  | inr hlast => exact List.mem_singleton.mp hlast ▸ hvalue

theorem addParameter_typed {location : String} {metadata added : Parameters} {parameter : Json}
    (hmetadata : metadata.Typed) (h : addParameter location metadata parameter = .ok added) : added.Typed := by
  unfold addParameter at h
  split at h
  · split at h
    · split at h
      · obtain ⟨name, -, h₁⟩ := Fallible.bind_ok h
        obtain ⟨declared, hdeclared, h₂⟩ := Fallible.bind_ok h₁
        exact Except.ok.inj h₂ ▸ hmetadata.put _ (declaredType_mem hdeclared)
      · exact Except.ok.inj h ▸ hmetadata
    · exact Except.ok.inj h ▸ hmetadata
  · cases h

theorem addGroup_typed {location : String} {metadata added : Parameters} {group : Json} (hmetadata : metadata.Typed)
    (h : addGroup location metadata group = .ok added) : added.Typed := by
  unfold addGroup at h
  split at h
  · exact Except.ok.inj h ▸ hmetadata
  · split at h
    · cases h
    · exact Fallible.foldlM_ok (fun _ metadata => Parameters.Typed metadata)
        (fun _ _ _ _ _ _ hs hstep => addParameter_typed hs hstep) hmetadata h
  · cases h

theorem parameterMetadata_sound {location : String} {groups : List Json} {result : FieldMetadata}
    (h : parameterMetadata location groups = .ok result) : result.Sound := by
  unfold parameterMetadata at h
  obtain ⟨metadata, hmetadata, h₁⟩ := Fallible.bind_ok h
  have htyped : Parameters.Typed metadata :=
    Fallible.foldlM_ok (fun _ metadata => Parameters.Typed metadata)
      (fun _ _ _ _ _ _ hs hstep => addGroup_typed hs hstep) (fun _ hmem => absurd hmem List.not_mem_nil) hmetadata
  obtain rfl := Except.ok.inj h₁
  refine ⟨fun name hname => (List.mem_filter.mp hname).1, fun entry hentry => ?_⟩
  obtain ⟨name, -, rfl⟩ := List.mem_map.mp hentry
  cases hvalue : metadata.lookup name with
  | none => exact (by decide : "json" ∈ declaredTypes)
  | some value =>
      obtain ⟨before, after, rfl, -⟩ := List.lookup_eq_some_iff.mp hvalue
      exact htyped (name, value) (List.mem_append_right before List.mem_cons_self)

theorem schemaFieldMetadata_sound {schema : Option JsonObject} {result : FieldMetadata}
    (h : schemaFieldMetadata schema = .ok result) : result.Sound := by
  unfold schemaFieldMetadata at h
  split at h
  · exact Except.ok.inj h ▸ ⟨fun _ hmem => absurd hmem List.not_mem_nil, fun _ hmem => absurd hmem List.not_mem_nil⟩
  · dsimp only at h
    split at h
    · obtain ⟨fields, -, h₁⟩ := Fallible.bind_ok h
      obtain ⟨required, -, h₂⟩ := Fallible.bind_ok h₁
      split at h₂
      · cases h₂
      · next hrequired =>
          obtain ⟨types, htypes, h₃⟩ := Fallible.bind_ok h₂
          obtain rfl := Except.ok.inj h₃
          rw [Bool.not_eq_true', Bool.not_eq_false, List.all_eq_true] at hrequired
          refine ⟨fun name hname => ?_, fun entry hentry => ?_⟩
          · have hmem := hrequired name ((List.mem_insertionSort _).mp hname)
            exact (List.mem_insertionSort _).mpr (List.contains_iff_mem.mp hmem)
          · obtain ⟨field, hfield⟩ := Fallible.mapM_ok_mem htypes entry hentry
            obtain ⟨declared, hdeclared, hpair⟩ := Fallible.bind_ok hfield.2
            exact Except.ok.inj hpair ▸ declaredType_mem hdeclared
    · cases h

/-- The fields of an operation, each kind of them. -/
structure Fields (operation : DiscoveredOperation) : Prop where
  query : FieldMetadata.Sound
    ⟨operation.queryParameters, operation.requiredQueryParameters, operation.queryParameterTypes⟩
  path : FieldMetadata.Sound
    ⟨operation.pathParameters, operation.requiredPathParameters, operation.pathParameterTypes⟩
  body : FieldMetadata.Sound ⟨operation.bodyFields, operation.requiredBodyFields, operation.bodyFieldTypes⟩

/-! ### Operations -/

/-- How an operation of a document came to be listed. -/
structure Read (operation : DiscoveredOperation) where
  rawPath : String
  method : String
  source : Json
  schemas : JsonObject
  inheritedParameters : Json
  path : normalizePath rawPath = .ok operation.pathTemplate
  allowed : method ∈ allowedMethods
  normalized : normalizeOperation operation.pathTemplate (mountParameterOf rawPath) method source schemas
    inheritedParameters = .ok operation

/-- What an operation takes from where it stands. -/
structure Derived (path mountParameter method : String) (operation : DiscoveredOperation) : Prop where
  template : operation.pathTemplate = path
  mount : operation.mountParameter = mountParameter
  methodName : operation.method = upperMethod method
  risk : operation.riskLevel = riskFor method path
  family : operation.family = familyFor path operation.tags

theorem normalizeOperation_derived {path mountParameter method : String} {source inheritedParameters : Json}
    {schemas : JsonObject} {operation : DiscoveredOperation}
    (h : normalizeOperation path mountParameter method source schemas inheritedParameters = .ok operation) :
    Derived path mountParameter method operation := by
  unfold normalizeOperation at h
  split at h
  · obtain ⟨operationId, -, h₁⟩ := Fallible.bind_ok h
    split at h₁
    · cases h₁
    · obtain ⟨tags, -, h₂⟩ := Fallible.bind_ok h₁
      obtain ⟨query, -, h₃⟩ := Fallible.bind_ok h₂
      obtain ⟨pathParameters, -, h₄⟩ := Fallible.bind_ok h₃
      obtain ⟨body, -, h₅⟩ := Fallible.bind_ok h₄
      obtain ⟨summary, -, h₆⟩ := Fallible.bind_ok h₅
      obtain rfl := Except.ok.inj h₆
      exact ⟨rfl, rfl, rfl, rfl, rfl⟩
  · cases h

theorem normalizeOperation_fields {path mountParameter method : String} {source inheritedParameters : Json}
    {schemas : JsonObject} {operation : DiscoveredOperation}
    (h : normalizeOperation path mountParameter method source schemas inheritedParameters = .ok operation) :
    Fields operation := by
  unfold normalizeOperation at h
  split at h
  · obtain ⟨operationId, -, h₁⟩ := Fallible.bind_ok h
    split at h₁
    · cases h₁
    · obtain ⟨tags, -, h₂⟩ := Fallible.bind_ok h₁
      obtain ⟨query, hquery, h₃⟩ := Fallible.bind_ok h₂
      obtain ⟨pathParameters, hpath, h₄⟩ := Fallible.bind_ok h₃
      obtain ⟨body, hbody, h₅⟩ := Fallible.bind_ok h₄
      obtain ⟨summary, -, h₆⟩ := Fallible.bind_ok h₅
      obtain ⟨schema, -, hschema⟩ := Fallible.bind_ok hbody
      obtain rfl := Except.ok.inj h₆
      exact ⟨parameterMetadata_sound hquery, parameterMetadata_sound hpath, schemaFieldMetadata_sound hschema⟩
  · cases h

theorem addOperation_read {schemas : JsonObject} {rawPath path : String} {inheritedParameters : Json}
    {entry : String × Json} {operations extended : List DiscoveredOperation}
    (hpath : normalizePath rawPath = .ok path) (hall : ∀ operation ∈ operations, Nonempty (Read operation))
    (h : addOperation path (mountParameterOf rawPath) inheritedParameters schemas operations entry = .ok extended) :
    ∀ operation ∈ extended, Nonempty (Read operation) := by
  unfold addOperation at h
  dsimp only at h
  split at h
  · exact Except.ok.inj h ▸ hall
  · next hallowed =>
      obtain ⟨added, hnormalized, h₁⟩ := Fallible.bind_ok h
      split at h₁
      · cases h₁
      · obtain rfl := Except.ok.inj h₁
        have hsame := (normalizeOperation_derived hnormalized).template
        intro operation hmem
        cases List.mem_append.mp hmem with
        | inl hbefore => exact hall operation hbefore
        | inr hlast =>
            obtain rfl := List.mem_singleton.mp hlast
            exact ⟨⟨rawPath, Text.lower entry.1, entry.2, schemas, inheritedParameters, hsame ▸ hpath,
              List.contains_iff_mem.mp (Bool.not_eq_false _ ▸ Bool.not_eq_true' _ ▸ hallowed), hsame ▸ hnormalized⟩⟩

theorem addPath_read {schemas : JsonObject} {entry : String × Json} {operations extended : List DiscoveredOperation}
    (hall : ∀ operation ∈ operations, Nonempty (Read operation))
    (h : addPath schemas operations entry = .ok extended) : ∀ operation ∈ extended, Nonempty (Read operation) := by
  unfold addPath at h
  obtain ⟨path, hpath, h₁⟩ := Fallible.bind_ok h
  split at h₁
  · next pathItem hitem =>
      exact Fallible.foldlM_ok (fun _ operations => ∀ operation ∈ operations, Nonempty (Read operation))
        (fun _ _ _ _ _ _ hs hstep => addOperation_read hpath hs hstep) hall h₁
  · cases h₁

/-! ### Documents -/

/-- The operations of a document in the order it lists them. -/
def discovered (metadata : DocumentMetadata) : Except Error (List DiscoveredOperation) :=
  metadata.paths.foldlM (addPath metadata.schemas) []

section

variable [DocumentHashing]

/-- What is made of a document with this metadata and these operations. -/
def capabilityDocument (entries : JsonObject) (metadata : DocumentMetadata) (operations : List DiscoveredOperation) :
    CapabilityDocument where
  openapiVersion := metadata.openapiVersion
  productVersion := metadata.productVersion
  digest := DocumentHashing.sha256 (Json.dict entries).canonical
  operations := operations.insertionSort fun a b => operationOrder a b

/-- What accepting a document takes, and what it gives. -/
theorem normalizeOpenapiDocument_ok_iff (entries : JsonObject) (capabilities : CapabilityDocument) :
    normalizeOpenapiDocument (.dict entries) = .ok capabilities ↔
      ((Json.dict entries).encode true).length ≤ maxDocumentBytes ∧ validateShape (.dict entries) 0 = .ok () ∧
      ∃ metadata operations, documentMetadata entries = .ok metadata ∧ discovered metadata = .ok operations ∧
        capabilities = capabilityDocument entries metadata operations := by
  unfold normalizeOpenapiDocument canonicalBytes
  dsimp only
  rw [canonical_length]
  constructor
  · intro h
    obtain ⟨canonical, hcanonical, h₁⟩ := Fallible.bind_ok h
    split at hcanonical
    · cases hcanonical
    · next hsize =>
        obtain rfl := Except.ok.inj hcanonical
        obtain ⟨_, hshape, h₂⟩ := Fallible.bind_ok h₁
        obtain ⟨metadata, hmetadata, h₃⟩ := Fallible.bind_ok h₂
        obtain ⟨operations, hoperations, h₄⟩ := Fallible.bind_ok h₃
        exact ⟨Nat.le_of_not_lt hsize, hshape, metadata, operations, hmetadata, hoperations, (Except.ok.inj h₄).symm⟩
  · rintro ⟨hsize, hshape, metadata, operations, hmetadata, hoperations, rfl⟩
    unfold discovered at hoperations
    rw [if_neg (Nat.not_lt.mpr hsize), Fallible.ok_bind, hshape, Fallible.ok_bind, hmetadata, Fallible.ok_bind,
      hoperations]
    rfl

theorem accepted_dict {document : Json} {capabilities : CapabilityDocument}
    (h : normalizeOpenapiDocument document = .ok capabilities) : ∃ entries, document = .dict entries := by
  cases document with
  | dict entries => exact ⟨entries, rfl⟩
  | null | bool b | int n | float x | str s | list items => cases h

end

theorem discovered_read {metadata : DocumentMetadata} {operations : List DiscoveredOperation}
    (h : discovered metadata = .ok operations) : ∀ operation ∈ operations, Nonempty (Read operation) :=
  Fallible.foldlM_ok (fun _ operations => ∀ operation ∈ operations, Nonempty (Read operation))
    (fun _ _ _ _ _ _ hs hstep => addPath_read hs hstep) (fun _ hmem => absurd hmem List.not_mem_nil) h

theorem accepted_read [DocumentHashing] {document : Json} {capabilities : CapabilityDocument}
    (h : normalizeOpenapiDocument document = .ok capabilities) :
    ∀ operation ∈ capabilities.operations, Nonempty (Read operation) := by
  obtain ⟨entries, rfl⟩ := accepted_dict h
  obtain ⟨-, -, metadata, operations, -, hoperations, rfl⟩ := (normalizeOpenapiDocument_ok_iff _ _).mp h
  intro operation hmem
  exact discovered_read hoperations operation ((List.mem_insertionSort _).mp hmem)

end Schema

namespace Sample

/-- The digest of every text the samples are accepted under. -/
@[reducible] def documentHashing (digest : String) : DocumentHashing := ⟨fun _ => digest⟩

/-- The digests of these texts; of any other, that of the empty text. -/
@[reducible] def digesting (digests : List (String × String)) : DocumentHashing where
  sha256 text := (digests.lookup text).getD "e3b0c44298fc1c149afbf4c8996fb92427ae41e4649b934ca495991b7852b855"

theorem digesting_self (text digest : String) : (digesting [(text, digest)]).sha256 text = digest := by
  show (([(text, digest)] : List (String × String)).lookup text).getD _ = digest
  rw [List.lookup_cons_self]
  rfl

def parameter (name location : String) (required : Bool) : Json :=
  .dict [("name", .str name), ("in", .str location), ("required", .bool required),
    ("schema", .dict [("type", .str "string")])]

/-- A document with these paths. -/
def described (paths : JsonObject) : JsonObject :=
  [("openapi", .str "3.0.2"), ("info", .dict [("version", .str "2.6.2")]), ("paths", .dict paths)]

def operationObject (operationId : String) (parameters : List Json) : Json :=
  .dict [("operationId", .str operationId), ("tags", .list [.str "secrets"]), ("parameters", .list parameters)]

/-- A document that describes one operation. -/
def openapi (path method operationId : String) (parameters : List Json) : JsonObject :=
  described [(path, .dict [(method, operationObject operationId parameters)])]

/-- A small document is accepted if its parts are. -/
theorem accepted_of {digest version : String} {entries : JsonObject} {operations : List DiscoveredOperation}
    (hversion : (Schema.documentMetadata entries).toOption.map Schema.DocumentMetadata.productVersion = some version)
    (hsize : ((Json.dict entries).encode true).length ≤ Schema.maxDocumentBytes)
    (hshape : (Schema.validateShape (.dict entries) 0).toOption = some ())
    (hoperations : (Schema.documentMetadata entries >>= Schema.discovered).toOption = some operations) :
    ∃ capabilities, @Schema.normalizeOpenapiDocument (documentHashing digest) (.dict entries) = .ok capabilities ∧
      capabilities.digest = digest ∧ capabilities.productVersion = version ∧
      capabilities.operations = operations.insertionSort fun a b => Schema.operationOrder a b := by
  cases hvalid : Schema.validateShape (.dict entries) 0 with
  | error error =>
      rw [hvalid] at hshape
      cases hshape
  | ok u =>
      cases hread : Schema.documentMetadata entries >>= Schema.discovered with
      | error error =>
          rw [hread] at hoperations
          cases hoperations
      | ok found =>
          rw [hread] at hoperations
          obtain rfl := Option.some.inj hoperations
          obtain ⟨metadata, hmetadata, hfound⟩ := Fallible.bind_ok hread
          rw [hmetadata] at hversion
          refine ⟨@Schema.capabilityDocument (documentHashing digest) entries metadata found, ?_, rfl,
            Option.some.inj hversion, rfl⟩
          exact (@Schema.normalizeOpenapiDocument_ok_iff (documentHashing digest) entries _).mpr
            ⟨hsize, hvalid, metadata, found, hmetadata, hfound, rfl⟩

end Sample

namespace Engines

/-- An operation of the explorer is one of the document's. -/
theorem mem_classifyExplorerOperations {capabilities : CapabilityDocument} {operation : ExplorerOperation}
    (h : operation ∈ classifyExplorerOperations capabilities) :
    ∃ discovered ∈ capabilities.operations, explorerOperation discovered = operation :=
  List.mem_map.mp (List.mem_mergeSort.mp h)

end Engines

end NetboxOpenbao
