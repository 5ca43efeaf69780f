import Mathlib.Data.List.TakeWhile
import Mathlib.Data.Prod.Lex
import NetboxOpenbao.Proof.Administration.Prefixes
import NetboxOpenbao.Proof.Administration.Reordering

/-!
# Operations that the order of a document decides between

Operations are sorted by family, path, method and operation ID. Where two of them agree in all four, the one that stands
first in the document is listed first. The order of a document shows in what is made of it exactly if two such
operations differ.
-/

namespace NetboxOpenbao

open Effect

namespace Schema

/-! ### The order of operations -/

/-- What operations are sorted by. -/
abbrev SortKey : Type := String ×ₗ String ×ₗ String ×ₗ String

def sortKey (operation : DiscoveredOperation) : SortKey :=
  toLex (operation.family, toLex (operation.pathTemplate, toLex (operation.method, operation.operationId)))

theorem operationOrder_iff (a b : DiscoveredOperation) : operationOrder a b = true ↔ sortKey a ≤ sortKey b := by
  have hstep : ∀ {first second : String} {rest : Bool} {P : Prop}, (rest = true ↔ P) →
      ((if first != second then decide (first < second) else rest) = true ↔ first < second ∨ first = second ∧ P) := by
    intro first second rest P hrest
    by_cases hsame : first = second
    · subst hsame
      simpa using hrest
    · rw [if_pos (bne_iff_ne.mpr hsame), decide_eq_true_eq]
      exact ⟨.inl, fun h => h.resolve_right fun hboth => hsame hboth.1⟩
  unfold operationOrder sortKey
  rw [Prod.Lex.toLex_le_toLex, Prod.Lex.toLex_le_toLex, Prod.Lex.toLex_le_toLex]
  exact hstep (hstep (hstep decide_eq_true_iff))

instance : Std.Total fun a b : DiscoveredOperation => operationOrder a b = true where
  total a b := by
    rw [operationOrder_iff, operationOrder_iff]
    exact le_total _ _

instance : IsTrans DiscoveredOperation fun a b => operationOrder a b = true where
  trans a b c hab hbc := by
    rw [operationOrder_iff] at hab hbc ⊢
    exact le_trans hab hbc

/-- Two operations that the sorting leaves in the order of the document. -/
def Tied (a b : DiscoveredOperation) : Prop :=
  a.family = b.family ∧ a.pathTemplate = b.pathTemplate ∧ a.method = b.method ∧ a.operationId = b.operationId

instance (a b : DiscoveredOperation) : Decidable (Tied a b) := inferInstanceAs (Decidable (_ ∧ _))

theorem tied_iff (a b : DiscoveredOperation) : Tied a b ↔ sortKey a = sortKey b := by
  unfold Tied sortKey
  rw [toLex_inj, Prod.mk.injEq, toLex_inj, Prod.mk.injEq, toLex_inj, Prod.mk.injEq]

theorem Tied.refl (a : DiscoveredOperation) : Tied a a := ⟨rfl, rfl, rfl, rfl⟩

def sortedOperations (operations : List DiscoveredOperation) : List DiscoveredOperation :=
  operations.insertionSort fun a b => operationOrder a b

/-- Where tied operations are equal, sorting forgets the order. -/
theorem sortedOperations_perm {operations others : List DiscoveredOperation} (hperm : operations.Perm others)
    (htied : ∀ a ∈ operations, ∀ b ∈ operations, Tied a b → a = b) :
    sortedOperations operations = sortedOperations others := by
  have hall := ((List.perm_insertionSort (fun a b => operationOrder a b = true) operations).trans hperm).trans
    (List.perm_insertionSort (fun a b => operationOrder a b = true) others).symm
  refine List.Perm.eq_of_pairwise (fun a b ha hb hab hba => ?_) (List.pairwise_insertionSort _ operations)
    (List.pairwise_insertionSort _ others) hall
  refine htied a ((List.mem_insertionSort _).mp ha) b (hperm.mem_iff.mpr ((List.mem_insertionSort _).mp hb)) ?_
  rw [operationOrder_iff] at hab hba
  exact (tied_iff a b).mpr (le_antisymm hab hba)

theorem first_of_tied (operation : DiscoveredOperation) (others : List DiscoveredOperation) :
    (sortedOperations (operation :: others)).find? (fun other => Tied operation other) = some operation := by
  unfold sortedOperations
  rw [List.insertionSort_cons_eq_take_drop, List.find?_append]
  have hnone : ∀ other ∈ (others.insertionSort fun a b => operationOrder a b).takeWhile
      (fun other => ¬ operationOrder operation other), ¬ decide (Tied operation other) = true := by
    intro other hmem htied
    have hbefore : ¬ operationOrder operation other = true := by
      simpa only [decide_eq_true_eq] using List.mem_takeWhile_imp hmem
    rw [operationOrder_iff, (tied_iff _ _).mp (of_decide_eq_true htied)] at hbefore
    exact hbefore le_rfl
  rw [List.find?_eq_none.mpr hnone, Option.none_or]
  exact List.find?_cons_of_pos (p := fun other => decide (Tied operation other)) (decide_eq_true (Tied.refl operation))

/-! ### Where an operation stands -/

/-- A method of a path, and the operation that is read of it. -/
structure Site (schemas paths : JsonObject) where
  rawPath : String
  pathItem : JsonObject
  key : String
  source : Json
  path : String
  operation : DiscoveredOperation
  listed : (rawPath, Json.dict pathItem) ∈ paths
  given : (key, source) ∈ pathItem
  allowed : Text.lower key ∈ allowedMethods
  normal : normalizePath rawPath = .ok path
  normalized : normalizeOperation path (mountParameterOf rawPath) (Text.lower key) source schemas
    (JsonObject.get pathItem "parameters" .null) = .ok operation

theorem readMethod_allowed {path mountParameter method : String} {inheritedParameters source : Json}
    {schemas : JsonObject} {operation : DiscoveredOperation} (hallowed : Text.lower method ∈ allowedMethods)
    (h : normalizeOperation path mountParameter (Text.lower method) source schemas inheritedParameters = .ok operation) :
    readMethod path mountParameter inheritedParameters schemas (method, source) = .ok [operation] := by
  unfold readMethod
  rw [List.contains_iff_mem.mpr hallowed, Bool.not_true, if_neg Bool.false_ne_true, h]
  rfl

theorem mem_discovered_iff {metadata : DocumentMetadata} {operations : List DiscoveredOperation}
    (h : discovered metadata = .ok operations) (operation : DiscoveredOperation) :
    operation ∈ operations ↔ ∃ site : Site metadata.schemas metadata.paths, site.operation = operation := by
  have hgather := ((discovered_gather _ _).mp h).1
  constructor
  · intro hmem
    obtain ⟨⟨rawPath, item⟩, hlisted, added, hadded, hmem₁⟩ := (Fallible.gather_mem hgather operation).mp hmem
    obtain ⟨path, pathItem, parts, hpath, rfl, rfl, hparts⟩ := readPath_ok hadded
    obtain ⟨part, hpart, hmem₂⟩ := List.mem_flatten.mp hmem₁
    obtain ⟨⟨key, source⟩, hgiven, hread⟩ := Fallible.mapM_ok_mem hparts part hpart
    rcases readMethod_ok hread with ⟨-, rfl⟩ | ⟨other, rfl, hallowed, hnormalized⟩
    · exact absurd hmem₂ List.not_mem_nil
    · obtain rfl := List.mem_singleton.mp hmem₂
      exact ⟨⟨rawPath, pathItem, key, source, path, operation, hlisted, hgiven, hallowed, hpath, hnormalized⟩, rfl⟩
  · rintro ⟨site, rfl⟩
    obtain ⟨parts, hparts, rfl, -⟩ := (discovered_iff _ _).mp h
    have hread := (Fallible.mapM_ok_exists.mp ⟨parts, hparts⟩) _ site.listed
    obtain ⟨added, hadded⟩ := hread
    refine (Fallible.gather_mem hgather site.operation).mpr ⟨_, site.listed, added, hadded, ?_⟩
    rw [readPath_dict, site.normal, Fallible.ok_bind] at hadded
    exact (Fallible.gather_mem hadded site.operation).mpr
      ⟨_, site.given, _, readMethod_allowed site.allowed site.normalized, List.mem_singleton_self _⟩

/-! ### Another operation first -/

/-- A document in which one operation stands before all others is the same but for its order. -/
theorem exists_first {entries : JsonObject} {metadata : DocumentMetadata}
    (hdistinct : (Json.dict entries).distinct = true) (hmetadata : documentMetadata entries = .ok metadata)
    (site : Site metadata.schemas metadata.paths) : ∃ others, (Json.dict entries).Same (.dict others) ∧
      ∀ metadata' operations, documentMetadata others = .ok metadata' → discovered metadata' = .ok operations →
        ∃ rest, operations = site.operation :: rest := by
  obtain ⟨hentries, hvalues⟩ := (distinct_dict_iff entries).mp hdistinct
  obtain ⟨hpaths, -⟩ := documentMetadata_distinct hdistinct hmetadata
  obtain ⟨hrawPaths, hitems⟩ := (distinct_dict_iff metadata.paths).mp hpaths
  have hitem := hitems _ site.listed
  obtain ⟨hkeys, -⟩ := (distinct_dict_iff site.pathItem).mp hitem
  have hget := documentMetadata_paths hmetadata
  obtain ⟨before, after, hsplit⟩ := List.append_of_mem site.listed
  obtain ⟨before', after', hsplit'⟩ := List.append_of_mem site.given
  let pathItem : JsonObject := (site.key, site.source) :: (before' ++ after')
  let paths : JsonObject := (site.rawPath, .dict pathItem) :: (before ++ after)
  have hpathItem : site.pathItem.Perm pathItem := by
    rw [hsplit']
    exact List.perm_middle
  have hitemSame : (Json.dict site.pathItem).sorted = (Json.dict pathItem).sorted := by
    rw [sorted_dict, sorted_dict, sortedObject_eq_of_perm (hpathItem.map sortedEntry) hkeys]
  have hpathsPerm : (metadata.paths.map sortedEntry).Perm (paths.map sortedEntry) := by
    have hsame : sortedEntry (site.rawPath, .dict pathItem) = sortedEntry (site.rawPath, .dict site.pathItem) :=
      Prod.ext rfl hitemSame.symm
    rw [hsplit, List.map_append, List.map_cons, List.map_cons, hsame, List.map_append]
    exact List.perm_middle
  have hpathsSame : (Json.dict metadata.paths).sorted = (Json.dict paths).sorted := by
    rw [sorted_dict, sorted_dict, sortedObject_eq_of_perm hpathsPerm hrawPaths]
  refine ⟨withPaths entries paths, ?_, fun metadata' operations hmetadata' hdiscovered => ?_⟩
  · have hmap : entries.map sortedEntry = (withPaths entries paths).map sortedEntry := by
      unfold withPaths
      rw [List.map_map]
      refine List.map_congr_left fun entry hmem => ?_
      dsimp only [Function.comp_apply]
      split
      · next hkey =>
          have hvalue := eq_of_key hentries hmem (mem_of_get hget) (beq_iff_eq.mp hkey)
          exact Prod.ext rfl (hvalue ▸ hpathsSame)
      · rfl
    unfold Json.Same
    rw [sorted_dict, sorted_dict, sortedObject_eq_of_perm (.of_eq hmap) hentries]
  · have hlength : paths.length = metadata.paths.length := by
      have hlengths := hpathsPerm.length_eq
      rw [List.length_map, List.length_map] at hlengths
      exact hlengths.symm
    rw [documentMetadata_withPaths hget hlength, hmetadata] at hmetadata'
    obtain rfl := Except.ok.inj hmetadata'
    obtain ⟨part, rest, hpart, -, rfl⟩ := Fallible.gather_cons_ok ((discovered_gather _ _).mp hdiscovered).1
    rw [readPath_dict, site.normal, Fallible.ok_bind] at hpart
    obtain ⟨first, others, hfirst, -, rfl⟩ := Fallible.gather_cons_ok hpart
    have hparameters : JsonObject.get pathItem "parameters" .null = JsonObject.get site.pathItem "parameters" .null := by
      unfold JsonObject.get
      rw [lookup_perm hpathItem hkeys]
    rw [hparameters, readMethod_allowed site.allowed site.normalized] at hfirst
    obtain rfl := Except.ok.inj hfirst
    exact ⟨others ++ rest, rfl⟩

/-! ### Documents -/

/-- Any two operations of a document that are tied are equal. -/
def Untied (document : Json) : Prop :=
  ∀ entries metadata, document = .dict entries → documentMetadata entries = .ok metadata →
    ∀ first second : Site metadata.schemas metadata.paths,
      Tied first.operation second.operation → first.operation = second.operation

section

variable [DocumentHashing] {document : Json}

theorem accepted_in_every_order (hdistinct : document.distinct = true) {reordered : Json}
    (hsame : document.Same reordered) {capabilities : CapabilityDocument}
    (haccepted : normalizeOpenapiDocument document = .ok capabilities) :
    ∃ others, normalizeOpenapiDocument reordered = .ok others := by
  obtain ⟨entries, rfl⟩ := accepted_dict haccepted
  obtain ⟨others, rfl⟩ := hsame.dict
  obtain ⟨-, -, metadata, operations, hmetadata, hdiscovered, rfl⟩ := (normalizeOpenapiDocument_ok_iff _ _).mp haccepted
  obtain ⟨_, _, _, _, _, hreordered⟩ := accepted_reordered hdistinct hsame haccepted hmetadata hdiscovered
  exact ⟨_, hreordered⟩

theorem unchanged_of_untied (hdistinct : document.distinct = true) (huntied : Untied document) {reordered : Json}
    (hsame : document.Same reordered) {capabilities : CapabilityDocument}
    (haccepted : normalizeOpenapiDocument document = .ok capabilities) :
    normalizeOpenapiDocument reordered = .ok capabilities := by
  obtain ⟨entries, rfl⟩ := accepted_dict haccepted
  obtain ⟨others, rfl⟩ := hsame.dict
  obtain ⟨-, -, metadata, operations, hmetadata, hdiscovered, rfl⟩ := (normalizeOpenapiDocument_ok_iff _ _).mp haccepted
  obtain ⟨metadata', operations', -, -, hperm, hreordered⟩ :=
    accepted_reordered hdistinct hsame haccepted hmetadata hdiscovered
  have hsorted : sortedOperations operations = sortedOperations operations' := by
    refine sortedOperations_perm hperm fun a ha b hb htied => ?_
    obtain ⟨first, rfl⟩ := (mem_discovered_iff hdiscovered a).mp ha
    obtain ⟨second, rfl⟩ := (mem_discovered_iff hdiscovered b).mp hb
    exact huntied entries metadata rfl hmetadata first second htied
  rw [hreordered]
  unfold capabilityDocument
  exact congrArg Except.ok (congrArg (CapabilityDocument.mk _ _ _) hsorted.symm)

/-- What is made of a document does not depend on the order of its keys exactly if the document is refused or no two of
its operations are tied without being equal. -/
theorem order_unseen_iff (hdistinct : document.distinct = true) :
    (∀ reordered, document.Same reordered → ∀ capabilities,
      normalizeOpenapiDocument reordered = .ok capabilities ↔ normalizeOpenapiDocument document = .ok capabilities) ↔
      ((∃ capabilities, normalizeOpenapiDocument document = .ok capabilities) → Untied document) := by
  constructor
  · rintro hunseen ⟨capabilities, haccepted⟩ entries metadata rfl hmetadata first second htied
    -- each of the two is the first of its kind in some order, and so in every order
    have hfirst : ∀ site : Site metadata.schemas metadata.paths,
        capabilities.operations.find? (fun other => Tied site.operation other) = some site.operation := by
      intro site
      obtain ⟨others, hsame, hfront⟩ := exists_first hdistinct hmetadata site
      have hreordered := (hunseen _ hsame capabilities).mpr haccepted
      obtain ⟨-, -, metadata', operations, hmetadata', hdiscovered, rfl⟩ :=
        (normalizeOpenapiDocument_ok_iff _ _).mp hreordered
      obtain ⟨rest, rfl⟩ := hfront metadata' operations hmetadata' hdiscovered
      exact first_of_tied site.operation rest
    have hkeys : (fun other => decide (Tied first.operation other)) = fun other => decide (Tied second.operation other) := by
      funext other
      refine decide_eq_decide.mpr ?_
      rw [tied_iff, tied_iff, (tied_iff _ _).mp htied]
    have hsecond := hfirst second
    rw [← hkeys, hfirst first] at hsecond
    exact Option.some.inj hsecond
  · intro huntied reordered hsame capabilities
    constructor
    · intro hreordered
      obtain ⟨original, haccepted⟩ := accepted_in_every_order (hsame.distinct_iff ▸ hdistinct) hsame.symm hreordered
      have hunchanged := unchanged_of_untied hdistinct (huntied ⟨original, haccepted⟩) hsame haccepted
      obtain rfl := Except.ok.inj (hunchanged.symm.trans hreordered)
      exact haccepted
    · intro haccepted
      exact unchanged_of_untied hdistinct (huntied ⟨capabilities, haccepted⟩) hsame haccepted

end

/-- Of two operations on two paths every order gives one document. -/
theorem plain_order_unseen : (∃ capabilities,
      @normalizeOpenapiDocument mountsHashing (.dict plainEntries) = .ok capabilities) ∧
    ∀ reordered, (Json.dict plainEntries).Same reordered → ∀ capabilities,
      @normalizeOpenapiDocument mountsHashing reordered = .ok capabilities ↔
        @normalizeOpenapiDocument mountsHashing (.dict plainEntries) = .ok capabilities := by
  refine ⟨plain_accepted, (@order_unseen_iff mountsHashing (.dict plainEntries) (by decide +kernel)).mpr fun _ => ?_⟩
  intro entries metadata hentries hmetadata first second htied
  obtain rfl := Json.dict.inj hentries
  have hall : ((documentMetadata plainEntries >>= discovered).toOption.all fun operations =>
      operations.all fun a => operations.all fun b => decide (Tied a b → a = b)) = true := by decide +kernel
  obtain ⟨operations, hdiscovered⟩ : ∃ operations, discovered metadata = .ok operations := by
    obtain ⟨capabilities, haccepted⟩ := plain_accepted
    obtain ⟨-, -, other, operations, hother, hdiscovered, -⟩ :=
      (@normalizeOpenapiDocument_ok_iff mountsHashing _ _).mp haccepted
    obtain rfl := Except.ok.inj (hmetadata.symm.trans hother)
    exact ⟨operations, hdiscovered⟩
  rw [hmetadata, Fallible.ok_bind, hdiscovered] at hall
  have hfirst := List.all_eq_true.mp hall _ ((mem_discovered_iff hdiscovered _).mpr ⟨first, rfl⟩)
  have hboth := List.all_eq_true.mp hfirst _ ((mem_discovered_iff hdiscovered _).mpr ⟨second, rfl⟩)
  exact of_decide_eq_true hboth htied

/-- The read of a secret on a mount that its path names. -/
def readPathEntry (mountParameter : String) : String × Json :=
  ("/\x7b" ++ mountParameter ++ "\x7d/data/\x7bpath\x7d", .dict [("get", Sample.operationObject "kv-read-data-path"
    [Sample.parameter mountParameter "path" true, Sample.parameter "path" "path" true])])

def twoMounts (first second : String) : JsonObject := Sample.described [readPathEntry first, readPathEntry second]

theorem twoMounts_same (first second : String) (hne : (readPathEntry first).1 ≠ (readPathEntry second).1) :
    (Json.dict (twoMounts first second)).Same (.dict (twoMounts second first)) := by
  have hpaths : sortedObject [readPathEntry first, readPathEntry second] =
      sortedObject [readPathEntry second, readPathEntry first] :=
    sortedObject_eq_of_perm (.swap _ _ _) (List.nodup_cons.mpr ⟨fun hmem => hne (List.mem_singleton.mp hmem),
      List.nodup_singleton _⟩)
  have hmap : (twoMounts first second).map sortedEntry = (twoMounts second first).map sortedEntry := by
    unfold twoMounts Sample.described
    simp only [List.map_cons, List.map_nil, sortedEntry, sorted_dict, hpaths]
  have hkeys : ((twoMounts first second).map Prod.fst).Nodup := (by decide : ["openapi", "info", "paths"].Nodup)
  unfold Json.Same
  rw [sorted_dict, sorted_dict, sortedObject_eq_of_perm (.of_eq hmap) hkeys]

/-- Two mounts of one engine: the order of their paths in the document is the order of their operations. -/
theorem mount_order_seen : ∃ capabilities others,
    (Json.dict (twoMounts "kv_mount_path" "team_mount_path")).Same (.dict (twoMounts "team_mount_path" "kv_mount_path")) ∧
    @normalizeOpenapiDocument (Sample.documentHashing "822e3666ebcca39f33c42613d56b90aaeebdfe47e355985e27a9dd91ed415734")
      (.dict (twoMounts "kv_mount_path" "team_mount_path")) = .ok capabilities ∧
    @normalizeOpenapiDocument (Sample.documentHashing "822e3666ebcca39f33c42613d56b90aaeebdfe47e355985e27a9dd91ed415734")
      (.dict (twoMounts "team_mount_path" "kv_mount_path")) = .ok others ∧
    capabilities.digest = others.digest ∧ capabilities ≠ others := by
  obtain ⟨capabilities, haccepted, hdigest, -, hoperations⟩ := @Sample.accepted_of
    "822e3666ebcca39f33c42613d56b90aaeebdfe47e355985e27a9dd91ed415734" "2.6.2"
    (twoMounts "kv_mount_path" "team_mount_path") [Sample.readOf "kv_mount_path", Sample.readOf "team_mount_path"]
    (by decide +kernel) (by decide +kernel) (by decide +kernel) (by decide +kernel)
  obtain ⟨others, haccepted', hdigest', -, hoperations'⟩ := @Sample.accepted_of
    "822e3666ebcca39f33c42613d56b90aaeebdfe47e355985e27a9dd91ed415734" "2.6.2"
    (twoMounts "team_mount_path" "kv_mount_path") [Sample.readOf "team_mount_path", Sample.readOf "kv_mount_path"]
    (by decide +kernel) (by decide +kernel) (by decide +kernel) (by decide +kernel)
  refine ⟨capabilities, others, twoMounts_same _ _ (by decide), haccepted, haccepted', hdigest.trans hdigest'.symm, ?_⟩
  rintro rfl
  have hdiffer : sortedOperations [Sample.readOf "kv_mount_path", Sample.readOf "team_mount_path"] ≠
      sortedOperations [Sample.readOf "team_mount_path", Sample.readOf "kv_mount_path"] := by decide +kernel
  exact hdiffer (hoperations.symm.trans hoperations')

end Schema

end NetboxOpenbao
