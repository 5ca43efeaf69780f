import NetboxOpenbao.Proof.Administration.Schema
import NetboxOpenbao.Proof.Administration.Sorted

/-!
# What a document describes, path by path

Each method of each path is read by itself, so that the operations of a document are those of its paths one after
another, as long as there are not too many.
-/

namespace NetboxOpenbao

open Effect

namespace Schema

theorem safeString_ok_iff {s field result : String} {maximum : Nat} :
    safeString (.str s) field maximum = .ok result ↔
      s.length ≤ maximum ∧ s.toList.any Text.control = false ∧ result = s := by
  unfold safeString
  dsimp only
  split
  · next hbad =>
      refine iff_of_false nofun fun h => ?_
      rw [Bool.or_eq_true, decide_eq_true_eq, h.2.1] at hbad
      exact absurd h.1 (Nat.not_le.mpr (hbad.resolve_right Bool.false_ne_true))
  · next hgood =>
      rw [Bool.or_eq_true, decide_eq_true_eq, not_or] at hgood
      exact ⟨fun h => ⟨Nat.not_lt.mp hgood.1, Bool.eq_false_iff.mpr hgood.2, (Except.ok.inj h).symm⟩,
        fun h => congrArg Except.ok h.2.2.symm⟩

/-- What one method of a path adds. -/
def readMethod (path mountParameter : String) (inheritedParameters : Json) (schemas : JsonObject)
    (entry : String × Json) : Except Error (List DiscoveredOperation) :=
  if !allowedMethods.contains (Text.lower entry.1) then .ok []
  else do
    let operation ← normalizeOperation path mountParameter (Text.lower entry.1) entry.2 schemas inheritedParameters
    return [operation]

/-- What one path adds. -/
def readPath (schemas : JsonObject) (entry : String × Json) : Except Error (List DiscoveredOperation) := do
  let path ← normalizePath entry.1
  match entry.2 with
  | .dict pathItem => do
      let parts ← pathItem.mapM
        (readMethod path (mountParameterOf entry.1) (JsonObject.get pathItem "parameters" .null) schemas)
      return parts.flatten
  | _ => refuse "OpenBao capability path entry must be an object."

theorem addOperation_iff {path mountParameter : String} {inheritedParameters : Json} {schemas : JsonObject}
    (operations : List DiscoveredOperation) (entry : String × Json) (extended : List DiscoveredOperation)
    (hbound : operations.length ≤ maxOperations) :
    addOperation path mountParameter inheritedParameters schemas operations entry = .ok extended ↔
      ∃ added, readMethod path mountParameter inheritedParameters schemas entry = .ok added ∧
        extended = operations ++ added ∧ extended.length ≤ maxOperations := by
  unfold addOperation readMethod
  dsimp only
  split
  · constructor
    · intro h
      obtain rfl := Except.ok.inj h
      exact ⟨[], rfl, (List.append_nil _).symm, hbound⟩
    · rintro ⟨added, hadded, rfl, -⟩
      obtain rfl := Except.ok.inj hadded
      rw [List.append_nil]
  · constructor
    · intro h
      obtain ⟨operation, hoperation, h₁⟩ := Fallible.bind_ok h
      split at h₁
      · cases h₁
      · next hroom =>
          obtain rfl := Except.ok.inj h₁
          refine ⟨[operation], ?_, rfl, ?_⟩
          · rw [hoperation]
            rfl
          · rw [List.length_append]
            exact Nat.not_lt.mp hroom
    · rintro ⟨added, hadded, rfl, hroom⟩
      obtain ⟨operation, hoperation, h₁⟩ := Fallible.bind_ok hadded
      obtain rfl := Except.ok.inj h₁
      rw [List.length_append] at hroom
      have hfew : ¬ operations.length + 1 > maxOperations := Nat.not_lt.mpr hroom
      rw [hoperation, Fallible.ok_bind, if_neg hfew]
      rfl

theorem addPath_iff {schemas : JsonObject} (operations : List DiscoveredOperation) (entry : String × Json)
    (extended : List DiscoveredOperation) (hbound : operations.length ≤ maxOperations) :
    addPath schemas operations entry = .ok extended ↔
      ∃ added, readPath schemas entry = .ok added ∧ extended = operations ++ added ∧ extended.length ≤ maxOperations := by
  obtain ⟨rawPath, item⟩ := entry
  unfold addPath readPath
  dsimp only
  cases normalizePath rawPath with
  | error error =>
      refine iff_of_false nofun ?_
      rintro ⟨added, hadded, -⟩
      cases hadded
  | ok path =>
      rw [Fallible.ok_bind, Fallible.ok_bind]
      cases item with
      | dict pathItem =>
          dsimp only
          rw [Fallible.foldlM_append_iff addOperation_iff pathItem hbound]
          constructor
          · rintro ⟨parts, hparts, hsame, hlength⟩
            refine ⟨parts.flatten, ?_, hsame, hlength⟩
            rw [hparts]
            rfl
          · rintro ⟨added, hadded, hsame, hlength⟩
            obtain ⟨parts, hparts, h₁⟩ := Fallible.bind_ok hadded
            obtain rfl := Except.ok.inj h₁
            exact ⟨parts, hparts, hsame, hlength⟩
      | null | bool b | int n | float x | str s | list items =>
          refine iff_of_false nofun ?_
          rintro ⟨added, hadded, -⟩
          cases hadded

/-- The operations of a document are what its paths add. -/
theorem discovered_iff (metadata : DocumentMetadata) (operations : List DiscoveredOperation) :
    discovered metadata = .ok operations ↔ ∃ parts, metadata.paths.mapM (readPath metadata.schemas) = .ok parts ∧
      operations = parts.flatten ∧ operations.length ≤ maxOperations := by
  unfold discovered
  rw [Fallible.foldlM_append_iff addPath_iff metadata.paths (Nat.zero_le _)]
  simp only [List.nil_append]

/-! ### What a path adds -/

theorem readMethod_ok {path mountParameter : String} {inheritedParameters : Json} {schemas : JsonObject}
    {entry : String × Json} {added : List DiscoveredOperation}
    (h : readMethod path mountParameter inheritedParameters schemas entry = .ok added) :
    (Text.lower entry.1 ∉ allowedMethods ∧ added = []) ∨ ∃ operation, added = [operation] ∧
      Text.lower entry.1 ∈ allowedMethods ∧
      normalizeOperation path mountParameter (Text.lower entry.1) entry.2 schemas inheritedParameters = .ok operation := by
  unfold readMethod at h
  split at h
  · next hother =>
      refine .inl ⟨fun hmem => ?_, (Except.ok.inj h).symm⟩
      rw [List.contains_iff_mem.mpr hmem] at hother
      cases hother
  · next hallowed =>
      obtain ⟨operation, hoperation, h₁⟩ := Fallible.bind_ok h
      refine .inr ⟨operation, (Except.ok.inj h₁).symm, ?_, hoperation⟩
      exact List.contains_iff_mem.mp (Bool.not_eq_false _ ▸ Bool.not_eq_true' _ ▸ hallowed)

/-- The methods of a path that is read. -/
theorem readPath_ok {schemas : JsonObject} {rawPath : String} {item : Json} {added : List DiscoveredOperation}
    (h : readPath schemas (rawPath, item) = .ok added) : ∃ path pathItem parts, normalizePath rawPath = .ok path ∧
      item = .dict pathItem ∧ added = parts.flatten ∧
      pathItem.mapM (readMethod path (mountParameterOf rawPath) (JsonObject.get pathItem "parameters" .null) schemas) =
        .ok parts := by
  obtain ⟨path, hpath, h₁⟩ := Fallible.bind_ok h
  cases item with
  | dict pathItem =>
      obtain ⟨parts, hparts, h₂⟩ := Fallible.bind_ok h₁
      exact ⟨path, pathItem, parts, hpath, rfl, (Except.ok.inj h₂).symm, hparts⟩
  | null | bool b | int n | float x | str s | list items => cases h₁

/-- Every operation of a path has what it takes from where it stands. -/
theorem readPath_derived {schemas : JsonObject} {rawPath : String} {item : Json} {added : List DiscoveredOperation}
    (h : readPath schemas (rawPath, item) = .ok added) : ∀ operation ∈ added, ∃ path method,
      normalizePath rawPath = .ok path ∧ method ∈ allowedMethods ∧
      Derived path (mountParameterOf rawPath) method operation := by
  obtain ⟨path, pathItem, parts, hpath, -, rfl, hparts⟩ := readPath_ok h
  intro operation hoperation
  obtain ⟨part, hpart, hmem⟩ := List.mem_flatten.mp hoperation
  obtain ⟨entry, -, hread⟩ := Fallible.mapM_ok_mem hparts part hpart
  rcases readMethod_ok hread with ⟨-, rfl⟩ | ⟨other, rfl, hallowed, hnormalized⟩
  · exact absurd hmem List.not_mem_nil
  · obtain rfl := List.mem_singleton.mp hmem
    exact ⟨path, _, hpath, hallowed, normalizeOperation_derived hnormalized⟩

/-- One of the methods of a path is an operation's. -/
def HasOperation (item : Json) : Prop :=
  ∃ pathItem, item = .dict pathItem ∧ ∃ entry ∈ pathItem, Text.lower entry.1 ∈ allowedMethods

theorem readPath_eq_nil {schemas : JsonObject} {rawPath : String} {item : Json} {added : List DiscoveredOperation}
    (h : readPath schemas (rawPath, item) = .ok added) : added = [] ↔ ¬ HasOperation item := by
  obtain ⟨path, pathItem, parts, -, rfl, rfl, hparts⟩ := readPath_ok h
  have hforall := Fallible.mapM_forall₂ hparts
  have hiff : parts.flatten = [] ↔ ∀ entry ∈ pathItem, Text.lower entry.1 ∉ allowedMethods := by
    clear h hparts
    generalize JsonObject.get pathItem "parameters" .null = inheritedParameters at hforall
    induction hforall with
    | nil => exact iff_of_true rfl fun _ hmem => absurd hmem List.not_mem_nil
    | cons hread _ ih =>
        rw [List.flatten_cons, List.append_eq_nil_iff, ih, List.forall_mem_cons]
        refine and_congr_left fun _ => ?_
        rcases readMethod_ok hread with ⟨hother, rfl⟩ | ⟨operation, rfl, hallowed, -⟩
        · exact iff_of_true rfl hother
        · exact iff_of_false (List.cons_ne_nil _ _) fun hother => hother hallowed
  rw [hiff]
  constructor
  · rintro hnone ⟨others, hsame, entry, hentry, hallowed⟩
    obtain rfl := Json.dict.inj hsame
    exact hnone entry hentry hallowed
  · exact fun hnone entry hentry hallowed => hnone ⟨pathItem, rfl, entry, hentry, hallowed⟩

/-! ### The document around the paths -/

/-- A document with other paths. -/
def withPaths (entries paths : JsonObject) : JsonObject :=
  entries.map fun entry => if entry.1 == "paths" then (entry.1, .dict paths) else entry

theorem get_withPaths (entries paths : JsonObject) {key : String} (default : Json) (hkey : key ≠ "paths") :
    JsonObject.get (withPaths entries paths) key default = JsonObject.get entries key default := by
  unfold JsonObject.get withPaths
  refine congrArg (Option.getD · default) ?_
  induction entries with
  | nil => rfl
  | cons entry entries ih =>
      obtain ⟨name, value⟩ := entry
      rw [List.map_cons]
      by_cases hname : name = "paths"
      · subst hname
        have hother : (key == "paths") = false := beq_eq_false_iff_ne.mpr hkey
        dsimp only
        rw [if_pos (beq_self_eq_true _), List.lookup_cons, List.lookup_cons, hother]
        exact ih
      · rw [if_neg (beq_eq_false_iff_ne.mpr hname ▸ Bool.false_ne_true), List.lookup_cons, List.lookup_cons, ih]

theorem get_withPaths_paths {entries paths : JsonObject} (others : JsonObject)
    (hpaths : JsonObject.get entries "paths" .null = .dict paths) :
    JsonObject.get (withPaths entries others) "paths" .null = .dict others := by
  unfold JsonObject.get withPaths at *
  induction entries with
  | nil => cases hpaths
  | cons entry entries ih =>
      obtain ⟨name, value⟩ := entry
      rw [List.map_cons]
      by_cases hname : name = "paths"
      · subst hname
        dsimp only
        rw [if_pos (beq_self_eq_true _), List.lookup_cons_self]
        rfl
      · have hother : ("paths" == name) = false := beq_eq_false_iff_ne.mpr (Ne.symm hname)
        rw [List.lookup_cons, hother] at hpaths
        rw [if_neg (beq_eq_false_iff_ne.mpr hname ▸ Bool.false_ne_true), List.lookup_cons, hother]
        exact ih hpaths

theorem mem_of_get {entries paths : JsonObject} {key : String} (h : JsonObject.get entries key .null = .dict paths) :
    (key, Json.dict paths) ∈ entries := by
  unfold JsonObject.get at h
  cases hvalue : entries.lookup key with
  | none =>
      rw [hvalue] at h
      cases h
  | some value =>
      rw [hvalue] at h
      obtain rfl : value = .dict paths := h
      exact mem_of_lookup hvalue

/-- A document is read as before, its paths apart. -/
theorem documentMetadata_withPaths {entries paths others : JsonObject}
    (hpaths : JsonObject.get entries "paths" .null = .dict paths) (hlength : others.length = paths.length) :
    documentMetadata (withPaths entries others) =
      (documentMetadata entries).map fun metadata => { metadata with paths := others } := by
  unfold documentMetadata
  have hopenapi : "openapi" ≠ "paths" := by decide
  have hinfo : "info" ≠ "paths" := by decide
  have hcomponents : "components" ≠ "paths" := by decide
  rw [get_withPaths _ _ _ hopenapi, get_withPaths _ _ _ hinfo, get_withPaths _ _ _ hcomponents,
    get_withPaths_paths others hpaths, hpaths, Fallible.map_bind]
  refine congrArg _ (funext fun openapiVersion => ?_)
  split
  · rfl
  · cases objectOr (JsonObject.get entries "info" .null) with
    | none => rfl
    | some info =>
        dsimp only
        rw [Fallible.map_bind]
        refine congrArg _ (funext fun productVersion => ?_)
        rw [hlength]
        split
        · rfl
        · cases objectOr (JsonObject.get entries "components" .null) with
          | none => rfl
          | some components =>
              dsimp only
              cases JsonObject.get components "schemas" (.dict []) <;> rfl

theorem documentMetadata_paths {entries : JsonObject} {metadata : DocumentMetadata}
    (h : documentMetadata entries = .ok metadata) : JsonObject.get entries "paths" .null = .dict metadata.paths := by
  unfold documentMetadata at h
  obtain ⟨openapiVersion, -, h₁⟩ := Fallible.bind_ok h
  split at h₁
  · cases h₁
  · split at h₁
    · cases h₁
    · obtain ⟨productVersion, -, h₂⟩ := Fallible.bind_ok h₁
      split at h₂
      · next paths hpaths =>
          split at h₂
          · cases h₂
          · split at h₂
            · cases h₂
            · split at h₂
              · exact Except.ok.inj h₂ ▸ hpaths
              · cases h₂
      · cases h₂

theorem validateEntries_iff (entries : JsonObject) (depth : Nat) : validateEntries entries depth = .ok () ↔
    ∀ entry ∈ entries, (∃ name, safeString (.str entry.1) "object key" 500 = .ok name) ∧
      validateShape entry.2 (depth + 1) = .ok () := by
  induction entries with
  | nil =>
      unfold validateEntries
      exact iff_of_true rfl fun entry hmem => absurd hmem List.not_mem_nil
  | cons entry entries ih =>
      obtain ⟨key, child⟩ := entry
      unfold validateEntries
      rw [List.forall_mem_cons, ← ih]
      constructor
      · intro h
        obtain ⟨name, hname, h₁⟩ := Fallible.bind_ok h
        obtain ⟨_, hchild, hrest⟩ := Fallible.bind_ok h₁
        exact ⟨⟨⟨name, hname⟩, hchild⟩, hrest⟩
      · rintro ⟨⟨⟨name, hname⟩, hchild⟩, hrest⟩
        rw [hname, Fallible.ok_bind, hchild]
        exact hrest

theorem validateShape_dict_iff (entries : JsonObject) (depth : Nat) : validateShape (.dict entries) depth = .ok () ↔
    depth ≤ maxDocumentDepth ∧ entries.length ≤ maxOperations ∧ validateEntries entries depth = .ok () := by
  unfold validateShape
  split
  · next hdeep => exact iff_of_false nofun fun h => absurd h.1 (Nat.not_le.mpr hdeep)
  · next hdeep =>
      dsimp only
      split
      · next hmany => exact iff_of_false nofun fun h => absurd h.2.1 (Nat.not_le.mpr hmany)
      · next hmany => exact ⟨fun h => ⟨Nat.not_lt.mp hdeep, Nat.not_lt.mp hmany, h⟩, fun h => h.2.2⟩

section

variable [DocumentHashing]

/-- The operations of an accepted document, path by path. -/
theorem accepted_parts {entries paths : JsonObject} {capabilities : CapabilityDocument}
    (haccepted : normalizeOpenapiDocument (.dict entries) = .ok capabilities)
    (hpaths : JsonObject.get entries "paths" .null = .dict paths) : ∃ schemas parts,
      paths.mapM (readPath schemas) = .ok parts ∧
      capabilities.operations = parts.flatten.insertionSort (fun a b => operationOrder a b) := by
  obtain ⟨-, -, metadata, operations, hmetadata, hdiscovered, rfl⟩ := (normalizeOpenapiDocument_ok_iff _ _).mp haccepted
  obtain rfl := Json.dict.inj (hpaths.symm.trans (documentMetadata_paths hmetadata))
  obtain ⟨parts, hparts, rfl, -⟩ := (discovered_iff _ _).mp hdiscovered
  exact ⟨metadata.schemas, parts, hparts, rfl⟩

end

end Schema

namespace Sample

/-- The read of a secret on a mount, as it is listed. -/
def readOf (mountParameter : String) : DiscoveredOperation where
  operationId := "kv-read-data-path"
  method := "GET"
  pathTemplate := "/\x7bsecret_mount_path\x7d/data/\x7bpath\x7d"
  summary := ""
  tags := ["secrets"]
  family := "mounted-secrets"
  riskLevel := "read"
  responseClass := "unreviewed"
  requiredPermission := "netbox_openbao.discover_openbaocluster"
  classified := true
  mountParameter
  queryParameters := []
  requiredQueryParameters := []
  pathParameters := ["path", "secret_mount_path"]
  requiredPathParameters := ["path", "secret_mount_path"]
  pathParameterTypes := [("path", "string"), ("secret_mount_path", "string")]
  bodyFields := []
  requiredBodyFields := []
  queryParameterTypes := []
  bodyFieldTypes := []

end Sample

end NetboxOpenbao
