import NetboxOpenbao.Proof.Administration.Journeys
import NetboxOpenbao.Proof.Administration.Prefixes
import NetboxOpenbao.Coding.Characters

/-!
# Operation keys

The key of an operation tells its mount parameter, operation ID, method and path. A document gives two operations one key
where one path names one method twice, in letters of another case. The explorer then finds neither, and a journey the
one that comes last.
-/

namespace NetboxOpenbao

open Effect

namespace Schema

/-! ### What a key tells -/

/-- The first part of a key. -/
def scopeOf (operation : DiscoveredOperation) : String :=
  if operation.mountParameter == "" then "global" else operation.mountParameter

theorem operationKey_toList (operation : DiscoveredOperation) : operation.operationKey.toList =
    (scopeOf operation).toList ++ ' ' :: ':' :: ':' :: ' ' :: (operation.operationId.toList ++
      ' ' :: ':' :: ':' :: ' ' :: (operation.method.toList ++ ' ' :: operation.pathTemplate.toList)) := by
  unfold DiscoveredOperation.operationKey
  dsimp only
  rw [← scopeOf]
  simp only [String.toList_append, List.append_assoc]
  rfl

/-- No part of a key but the path has a space in it, and a mount parameter is not the scope of every other operation. -/
structure Keyed (operation : DiscoveredOperation) : Prop where
  mount : operation.mountParameter = "" ∨ mountPathName operation.mountParameter.toList = true
  scope : ∀ c ∈ (scopeOf operation).toList, ¬ c = ' '
  operationId : ∀ c ∈ operation.operationId.toList, ¬ c = ' '
  method : ∀ c ∈ operation.method.toList, ¬ c = ' '

theorem mountParameter_of_scope {a b : DiscoveredOperation} (ha : Keyed a) (hb : Keyed b)
    (h : scopeOf a = scopeOf b) : a.mountParameter = b.mountParameter := by
  have hglobal : mountPathName "global".toList = false := by decide
  have hempty : mountPathName "".toList = false := by decide
  unfold scopeOf at h
  rcases ha.mount with hnone | hname
  · rcases hb.mount with hnone' | hname'
    · rw [hnone, hnone']
    · have hne : (b.mountParameter == "") = false := by
        refine beq_eq_false_iff_ne.mpr fun heq => ?_
        rw [heq, hempty] at hname'
        cases hname'
      rw [hnone, hne] at h
      have hscope : "global" = b.mountParameter := h
      rw [← hscope, hglobal] at hname'
      cases hname'
  · have hne : (a.mountParameter == "") = false := by
      refine beq_eq_false_iff_ne.mpr fun heq => ?_
      rw [heq, hempty] at hname
      cases hname
    rcases hb.mount with hnone' | hname'
    · rw [hnone', hne] at h
      have hscope : a.mountParameter = "global" := h
      rw [hscope, hglobal] at hname
      cases hname
    · have hne' : (b.mountParameter == "") = false := by
        refine beq_eq_false_iff_ne.mpr fun heq => ?_
        rw [heq, hempty] at hname'
        cases hname'
      rw [hne, hne'] at h
      exact h

theorem operationKey_eq_iff {a b : DiscoveredOperation} (ha : Keyed a) (hb : Keyed b) :
    a.operationKey = b.operationKey ↔ a.mountParameter = b.mountParameter ∧ a.operationId = b.operationId ∧
      a.method = b.method ∧ a.pathTemplate = b.pathTemplate := by
  constructor
  · intro h
    have hlist := congrArg String.toList h
    rw [operationKey_toList, operationKey_toList] at hlist
    have hspace : ∀ rest, Coding.Starts (· = ' ') (' ' :: rest) := fun rest => @Coding.Starts.cons Char (· = ' ') ' ' rfl rest
    obtain ⟨hscope, hrest⟩ := Coding.eq_of_clear ha.scope hb.scope (hspace _) (hspace _) hlist
    simp only [List.cons.injEq, true_and] at hrest
    obtain ⟨hid, hrest⟩ := Coding.eq_of_clear ha.operationId hb.operationId (hspace _) (hspace _) hrest
    simp only [List.cons.injEq, true_and] at hrest
    obtain ⟨hmethod, hpath⟩ := Coding.eq_of_clear ha.method hb.method (hspace _) (hspace _) hrest
    exact ⟨mountParameter_of_scope ha hb (String.toList_inj.mp hscope), String.toList_inj.mp hid,
      String.toList_inj.mp hmethod, String.toList_inj.mp (List.cons.inj hpath).2⟩
  · rintro ⟨hmount, hid, hmethod, hpath⟩
    unfold DiscoveredOperation.operationKey
    rw [hmount, hid, hmethod, hpath]

/-! ### Operations of an accepted document -/

/-- The operation ID of one method of a path. -/
def operationIdOf (source : Json) : Option String :=
  match source with
  | .dict operation =>
      match JsonObject.get operation "operationId" (.str "") with
      | .str operationId => some operationId
      | _ => none
  | _ => none

theorem operationIdOf_of_safeString {entries : JsonObject} {operationId field : String} {maximum : Nat}
    (h : safeString (JsonObject.get entries "operationId" (.str "")) field maximum = .ok operationId) :
    operationIdOf (.dict entries) = some operationId := by
  unfold operationIdOf
  dsimp only
  generalize JsonObject.get entries "operationId" (.str "") = found at h ⊢
  cases found with
  | str given => rw [(safeString_ok_iff.mp h).2.2]
  | _ => cases h

theorem normalizeOperation_operationId {path mountParameter method : String} {source inheritedParameters : Json}
    {schemas : JsonObject} {operation : DiscoveredOperation}
    (h : normalizeOperation path mountParameter method source schemas inheritedParameters = .ok operation) :
    operationIdOf source = some operation.operationId ∧ operationIdRe operation.operationId = true := by
  unfold normalizeOperation at h
  split at h
  · next entries =>
      obtain ⟨operationId, hid, h₁⟩ := Fallible.bind_ok h
      split at h₁
      · cases h₁
      · next hre =>
          obtain ⟨tags, -, h₂⟩ := Fallible.bind_ok h₁
          obtain ⟨query, -, h₃⟩ := Fallible.bind_ok h₂
          obtain ⟨pathParameters, -, h₄⟩ := Fallible.bind_ok h₃
          obtain ⟨body, -, h₅⟩ := Fallible.bind_ok h₄
          obtain ⟨summary, -, h₆⟩ := Fallible.bind_ok h₅
          obtain rfl := Except.ok.inj h₆
          exact ⟨operationIdOf_of_safeString hid, Bool.not_eq_false _ ▸ Bool.not_eq_true' _ ▸ hre⟩
  · cases h

theorem mountParameterOf_cases (rawPath : String) : mountParameterOf rawPath = "" ∨
    ∃ name after, firstPlaceholder rawPath.toList = some (name, after) ∧ mountPathName name = true ∧
      mountParameterOf rawPath = String.ofList name := by
  unfold mountParameterOf
  split
  · next name after hfirst =>
      split
      · next hname => exact .inr ⟨name, after, hfirst, hname, rfl⟩
      · exact .inl rfl
  · exact .inl rfl

theorem nameChars {path name after : List Char} (h : firstPlaceholder path = some (name, after)) :
    ∀ c ∈ name, c.isAlphanum || c == '_' := by
  unfold firstPlaceholder at h
  split at h
  · next rest =>
      dsimp only at h
      split at h
      · split at h
        · obtain ⟨rfl, -⟩ := Prod.mk.inj (Option.some.inj h)
          exact fun c hc => List.all_eq_true.mp (List.all_takeWhile (l := rest)) c hc
        · cases h
      · cases h
  · cases h

theorem not_space {c : Char} {allowed : List Char} (hallowed : ' ' ∉ allowed)
    (h : (c.isAlphanum || allowed.contains c) = true) : ¬ c = ' ' := by
  rintro rfl
  rw [Bool.or_eq_true, List.contains_iff_mem] at h
  exact h.elim (by decide) hallowed

theorem operationIdRe_clear {operationId : String} (h : operationIdRe operationId = true) :
    ∀ c ∈ operationId.toList, ¬ c = ' ' := by
  unfold operationIdRe at h
  split at h
  · cases h
  · next first others hlist =>
      rw [Bool.and_eq_true, Bool.and_eq_true, List.all_eq_true] at h
      rw [hlist]
      refine List.forall_mem_cons.mpr ⟨?_, fun c hc => not_space (by decide) (h.2 c hc)⟩
      rintro rfl
      exact absurd h.1.1 (by decide)

theorem upperMethod_clear : ∀ method ∈ allowedMethods, ∀ c ∈ (upperMethod method).toList, ¬ c = ' ' := by decide +kernel

theorem keyed_of_normalized {rawPath path method : String} {source inheritedParameters : Json} {schemas : JsonObject}
    {operation : DiscoveredOperation} (hallowed : method ∈ allowedMethods)
    (h : normalizeOperation path (mountParameterOf rawPath) method source schemas inheritedParameters = .ok operation) :
    Keyed operation := by
  have hderived := normalizeOperation_derived h
  obtain ⟨-, hre⟩ := normalizeOperation_operationId h
  have hmount := hderived.mount
  have hmethod : ∀ c ∈ operation.method.toList, ¬ c = ' ' := by
    rw [hderived.methodName]
    exact upperMethod_clear method hallowed
  rcases mountParameterOf_cases rawPath with hnone | ⟨name, after, hfirst, hname, hsome⟩
  · have hempty := hmount.trans hnone
    refine ⟨.inl hempty, ?_, operationIdRe_clear hre, hmethod⟩
    unfold scopeOf
    rw [hempty]
    decide
  · have hnamed := hmount.trans hsome
    have hchars : ∀ c ∈ operation.mountParameter.toList, ¬ c = ' ' := by
      rw [hnamed, String.toList_ofList]
      rintro c hc rfl
      exact absurd (nameChars hfirst ' ' hc) (by decide)
    refine ⟨.inr ?_, ?_, operationIdRe_clear hre, hmethod⟩
    · rw [hnamed, String.toList_ofList]
      exact hname
    · unfold scopeOf
      split
      · decide
      · exact hchars

/-- A path of a document is told by the mount it names and its template. -/
theorem rawPath_unique {rawPath rawPath' path mountParameter : String} (hne : mountParameter ≠ "")
    (hmount : mountParameterOf rawPath = mountParameter) (hmount' : mountParameterOf rawPath' = mountParameter)
    (hpath : normalizePath rawPath = .ok path) (hpath' : normalizePath rawPath' = .ok path) : rawPath = rawPath' := by
  have hshape : ∀ {raw : String}, mountParameterOf raw = mountParameter → normalizePath raw = .ok path →
      ∃ after, raw.toList = '/' :: '{' :: (mountParameter.toList ++ '}' :: after) ∧
        path.toList = "/\x7bsecret_mount_path\x7d".toList ++ after := by
    intro raw hraw hnormal
    rcases mountParameterOf_cases raw with hnone | ⟨name, after, hfirst, hname, hsome⟩
    · exact absurd (hraw.symm.trans hnone) hne
    · obtain rfl := hsome.symm.trans hraw
      refine ⟨after, ?_, ?_⟩
      · rw [String.toList_ofList]
        exact (firstPlaceholder_eq_some hfirst).1
      · unfold normalizePath at hnormal
        obtain ⟨given, hgiven, hchecked⟩ := Fallible.bind_ok hnormal
        obtain ⟨-, -, rfl⟩ := safeString_ok_iff.mp hgiven
        have hplain := mountParameterOf_plain (hraw ▸ hne)
        dsimp only at hchecked
        rw [hplain, if_neg Bool.false_ne_true] at hchecked
        split at hchecked
        · cases hchecked
        · rw [hfirst] at hchecked
          dsimp only at hchecked
          rw [if_pos hname] at hchecked
          rw [← Except.ok.inj hchecked, String.toList_ofList]
  obtain ⟨after, hraw, hafter⟩ := hshape hmount hpath
  obtain ⟨after', hraw', hafter'⟩ := hshape hmount' hpath'
  obtain rfl := List.append_cancel_left (hafter.symm.trans hafter')
  exact String.toList_inj.mp (hraw.trans hraw'.symm)

/-! ### How often a document describes an operation -/

/-- A method of a path that becomes an operation of this method and operation ID. -/
def describes (operationId method : String) (entry : String × Json) : Bool :=
  allowedMethods.contains (Text.lower entry.1) && upperMethod (Text.lower entry.1) == method &&
    operationIdOf entry.2 == some operationId

/-- A path that is listed under this template, naming this mount parameter. -/
def listedAs (mountParameter template rawPath : String) : Bool :=
  mountParameterOf rawPath == mountParameter && (normalizePath rawPath).toOption == some template

/-- How often a path of a document describes one operation. -/
def timesDescribed (mountParameter operationId method template : String) (entry : String × Json) : Nat :=
  match entry.2 with
  | .dict pathItem =>
      if listedAs mountParameter template entry.1 then pathItem.countP (describes operationId method) else 0
  | _ => 0

theorem listedAs_iff {mountParameter template rawPath : String} : listedAs mountParameter template rawPath = true ↔
    mountParameterOf rawPath = mountParameter ∧ normalizePath rawPath = .ok template := by
  unfold listedAs
  rw [Bool.and_eq_true, beq_iff_eq, beq_iff_eq]
  refine and_congr_right fun _ => ⟨Fallible.ok_of_toOption, fun h => ?_⟩
  rw [h]
  rfl

def hasKey (wanted : DiscoveredOperation) (operation : DiscoveredOperation) : Bool :=
  operation.operationKey == wanted.operationKey

theorem readMethod_hasKey {wanted : DiscoveredOperation} (hwanted : Keyed wanted) {rawPath path : String}
    {inheritedParameters : Json} {schemas : JsonObject} {entry : String × Json} {added : List DiscoveredOperation}
    (h : readMethod path (mountParameterOf rawPath) inheritedParameters schemas entry = .ok added) :
    added.countP (hasKey wanted) = if mountParameterOf rawPath = wanted.mountParameter ∧ path = wanted.pathTemplate ∧
      describes wanted.operationId wanted.method entry = true then 1 else 0 := by
  rcases readMethod_ok h with ⟨hother, rfl⟩ | ⟨operation, rfl, hallowed, hnormalized⟩
  · have hnot : allowedMethods.contains (Text.lower entry.1) = false :=
      Bool.eq_false_iff.mpr (mt List.contains_iff_mem.mp hother)
    rw [if_neg]
    · rfl
    · rintro ⟨-, -, hdescribes⟩
      unfold describes at hdescribes
      rw [hnot] at hdescribes
      cases hdescribes
  · have hderived := normalizeOperation_derived hnormalized
    obtain ⟨hid, -⟩ := normalizeOperation_operationId hnormalized
    have hiff : hasKey wanted operation = true ↔ mountParameterOf rawPath = wanted.mountParameter ∧
        path = wanted.pathTemplate ∧ describes wanted.operationId wanted.method entry = true := by
      unfold hasKey describes
      rw [beq_iff_eq, operationKey_eq_iff (keyed_of_normalized hallowed hnormalized) hwanted, hderived.mount,
        hderived.methodName, hderived.template, hid, List.contains_iff_mem.mpr hallowed, Bool.true_and, Bool.and_eq_true,
        beq_iff_eq, beq_iff_eq, Option.some.injEq]
      constructor
      · rintro ⟨hmount, hsame, hmethod, hpath⟩
        exact ⟨hmount, hpath, hmethod, hsame⟩
      · rintro ⟨hmount, hpath, hmethod, hsame⟩
        exact ⟨hmount, hsame, hmethod, hpath⟩
    rw [List.countP_singleton]
    by_cases hkey : hasKey wanted operation = true
    · rw [if_pos hkey, if_pos (hiff.mp hkey)]
    · rw [if_neg hkey, if_neg (mt hiff.mpr hkey)]

/-- A path adds an operation with a key as often as it describes it. -/
theorem readPath_hasKey {wanted : DiscoveredOperation} (hwanted : Keyed wanted) {schemas : JsonObject}
    {entry : String × Json} {added : List DiscoveredOperation} (h : readPath schemas entry = .ok added) :
    added.countP (hasKey wanted) =
      timesDescribed wanted.mountParameter wanted.operationId wanted.method wanted.pathTemplate entry := by
  obtain ⟨rawPath, item⟩ := entry
  obtain ⟨path, pathItem, parts, hpath, rfl, rfl, hparts⟩ := readPath_ok h
  have hforall := Fallible.mapM_forall₂ hparts
  clear hparts h
  unfold timesDescribed
  dsimp only
  have hlisted : listedAs wanted.mountParameter wanted.pathTemplate rawPath = true ↔
      mountParameterOf rawPath = wanted.mountParameter ∧ path = wanted.pathTemplate := by
    rw [listedAs_iff, hpath, Except.ok.injEq]
  generalize JsonObject.get pathItem "parameters" .null = inheritedParameters at hforall
  induction hforall with
  | nil =>
      rw [List.countP_nil, ite_self]
      rfl
  | cons hread _ ih =>
      rw [List.flatten_cons, List.countP_append, ih, readMethod_hasKey hwanted hread, List.countP_cons]
      by_cases hcase : listedAs wanted.mountParameter wanted.pathTemplate rawPath = true
      · rw [if_pos hcase, if_pos hcase]
        obtain ⟨hmount, htemplate⟩ := hlisted.mp hcase
        simp only [hmount, htemplate, true_and]
        exact Nat.add_comm _ _
      · rw [if_neg hcase, if_neg hcase, if_neg fun hall => hcase (hlisted.mpr ⟨hall.1, hall.2.1⟩)]

theorem parts_hasKey {wanted : DiscoveredOperation} (hwanted : Keyed wanted) {schemas paths : JsonObject}
    {parts : List (List DiscoveredOperation)} (h : paths.mapM (readPath schemas) = .ok parts) :
    parts.flatten.countP (hasKey wanted) =
      (paths.map (timesDescribed wanted.mountParameter wanted.operationId wanted.method wanted.pathTemplate)).sum := by
  have hforall := Fallible.mapM_forall₂ h
  clear h
  induction hforall with
  | nil => rfl
  | cons hread _ ih =>
      rw [List.flatten_cons, List.countP_append, ih, readPath_hasKey hwanted hread, List.map_cons, List.sum_cons]

theorem sum_le_one_iff {α : Type} {times : α → Nat} {xs : List α}
    (hone : xs.Pairwise fun a b => times a = 0 ∨ times b = 0) :
    (xs.map times).sum ≤ 1 ↔ ∀ a ∈ xs, times a ≤ 1 := by
  induction xs with
  | nil => exact iff_of_true (Nat.zero_le _) fun a ha => absurd ha List.not_mem_nil
  | cons a xs ih =>
      obtain ⟨hfirst, hrest⟩ := List.pairwise_cons.mp hone
      rw [List.map_cons, List.sum_cons, List.forall_mem_cons, ← ih hrest]
      by_cases hzero : times a = 0
      · omega
      · have hnone : (xs.map times).sum = 0 := by
          refine List.sum_eq_zero_iff_forall_eq_nat.mpr fun n hn => ?_
          obtain ⟨b, hb, rfl⟩ := List.mem_map.mp hn
          exact (hfirst b hb).resolve_left hzero
        omega

/-- Under one mount, an accepted document has a key once exactly when none of its paths describes it twice. -/
theorem accepted_hasKey_iff [DocumentHashing] {entries paths : JsonObject} {capabilities : CapabilityDocument}
    (haccepted : normalizeOpenapiDocument (.dict entries) = .ok capabilities)
    (hpaths : JsonObject.get entries "paths" .null = .dict paths) (hdistinct : (paths.map Prod.fst).Nodup)
    {wanted : DiscoveredOperation} (hmem : wanted ∈ capabilities.operations) (hmount : wanted.mountParameter ≠ "") :
    capabilities.operations.countP (hasKey wanted) ≤ 1 ↔ ∀ entry ∈ paths,
      timesDescribed wanted.mountParameter wanted.operationId wanted.method wanted.pathTemplate entry ≤ 1 := by
  obtain ⟨read⟩ := accepted_read haccepted wanted hmem
  have hwanted := keyed_of_normalized read.allowed read.normalized
  obtain ⟨schemas, parts, hparts, hoperations⟩ := accepted_parts haccepted hpaths
  rw [hoperations, (List.perm_insertionSort _ _).countP_eq, parts_hasKey hwanted hparts]
  refine sum_le_one_iff ((List.pairwise_map.mp hdistinct).imp fun {first second} hne => ?_)
  have hlisted : ∀ {entry : String × Json},
      timesDescribed wanted.mountParameter wanted.operationId wanted.method wanted.pathTemplate entry ≠ 0 →
        listedAs wanted.mountParameter wanted.pathTemplate entry.1 = true := by
    intro entry htimes
    unfold timesDescribed at htimes
    split at htimes
    · by_contra hnot
      rw [if_neg hnot] at htimes
      exact htimes rfl
    · exact absurd rfl htimes
  by_contra hboth
  push Not at hboth
  obtain ⟨hmount₁, hpath₁⟩ := listedAs_iff.mp (hlisted hboth.1)
  obtain ⟨hmount₂, hpath₂⟩ := listedAs_iff.mp (hlisted hboth.2)
  exact hne (rawPath_unique hmount hmount₁ hmount₂ hpath₁ hpath₂)

end Schema

namespace EngineJourneys

open Engines Schema

/-- The explorer finds an executable operation exactly if no other has its key. -/
theorem explorer_finds_iff {document : CapabilityDocument} {wanted : DiscoveredOperation}
    (hmem : wanted ∈ document.operations) (hexecutable : (explorerOperation wanted).executable = true) :
    resolveExplorerOperation document wanted.operationKey = .ok (explorerOperation wanted) ↔
      document.operations.countP (hasKey wanted) ≤ 1 := by
  have hcount : ((classifyExplorerOperations document).filter fun item => item.operationKey == wanted.operationKey).length
      = document.operations.countP (hasKey wanted) := by
    unfold classifyExplorerOperations
    rw [← List.countP_eq_length_filter, (List.mergeSort_perm _ _).countP_eq, List.countP_map]
    rfl
  have hfound : explorerOperation wanted ∈
      (classifyExplorerOperations document).filter fun item => item.operationKey == wanted.operationKey :=
    List.mem_filter.mpr ⟨List.mem_mergeSort.mpr (List.mem_map_of_mem hmem), beq_self_eq_true _⟩
  unfold resolveExplorerOperation
  rw [← hcount]
  generalize (classifyExplorerOperations document).filter (fun item => item.operationKey == wanted.operationKey) =
    matching at hfound
  cases matching with
  | nil => cases hfound
  | cons first others =>
      cases others with
      | nil =>
          obtain rfl := List.mem_singleton.mp hfound
          dsimp only
          rw [if_pos hexecutable]
          exact iff_of_true rfl (Nat.le_refl 1)
      | cons second others =>
          refine iff_of_false nofun fun hle => ?_
          rw [List.length_cons, List.length_cons] at hle
          omega

/-- What a resolved operation is among those of the document. -/
theorem resolved_discovered {document : CapabilityDocument} {mounts : List SecretEngineMount}
    {mountPath journeyId : String} {journey : EngineJourney} {operation : ExplorerOperation}
    (h : resolveEngineJourney document mounts mountPath journeyId = .ok (journey, operation)) :
    ∃ wanted ∈ document.operations, explorerOperation wanted = operation ∧ operation.executable = true ∧
      mountParameterForPath mountPath = .ok wanted.mountParameter ∧ mountPathName wanted.mountParameter.toList = true ∧
      wanted.operationId = journey.operationId ∧ wanted.method = journey.method ∧
      wanted.pathTemplate = journey.pathTemplate := by
  obtain ⟨mount, hjourney, hmount, hresolution⟩ := (resolveEngineJourney_ok_iff _ _).mp h
  unfold resolution at hresolution
  split at hresolution
  · cases hresolution
  · split at hresolution
    · unfold operationFor at hresolution
      have hfound := List.find?_some hresolution
      simp only [Bool.and_eq_true, beq_iff_eq] at hfound
      obtain ⟨⟨⟨⟨hexecutable, hparameter⟩, hid⟩, hmethod⟩, htemplate⟩ := hfound
      obtain ⟨wanted, hwanted, rfl⟩ :=
        mem_classifyExplorerOperations (List.mem_reverse.mp (List.mem_of_find?_eq_some hresolution))
      have hpath := beq_iff_eq.mp (List.find?_some (p := fun mount : SecretEngineMount => mount.path == mountPath) hmount)
      have hsame : wanted.mountParameter = parameterOf mount := hparameter
      refine ⟨wanted, hwanted, rfl, hexecutable, ?_, ?_, hid, hmethod, htemplate⟩
      · rw [← hpath, hsame]
        exact mountParameterForPath_eq mount
      · unfold mountPathName
        rw [hsame, parameterOf, String.toList_append]
        exact List.isSuffixOf_iff_suffix.mpr (List.suffix_append _ _)
    · cases hresolution

/-- A journey that a document advertises for a mount is resolved. -/
theorem resolved_of_advertised {document : CapabilityDocument} {mounts : List SecretEngineMount}
    {mountPath journeyId : String} {journey : EngineJourney} {mount : SecretEngineMount}
    (hjourney : engineJourneys.find? (fun journey => journey.journeyId == journeyId) = some journey)
    (hmount : mounts.find? (fun mount => mount.path == mountPath) = some mount) (halone : ¬ Ambiguous mounts mount)
    (hsupports : mountSupports mount journey = true) {wanted : DiscoveredOperation}
    (hmem : wanted ∈ document.operations) (hexecutable : (explorerOperation wanted).executable = true)
    (hparameter : wanted.mountParameter = parameterOf mount) (hid : wanted.operationId = journey.operationId)
    (hmethod : wanted.method = journey.method) (htemplate : wanted.pathTemplate = journey.pathTemplate) :
    ∃ operation, resolveEngineJourney document mounts mountPath journeyId = .ok (journey, operation) := by
  have hsome : (operationFor document (parameterOf mount) journey).isSome = true := by
    unfold operationFor
    refine List.find?_isSome.mpr ⟨explorerOperation wanted, ?_, ?_⟩
    · exact List.mem_reverse.mpr (List.mem_mergeSort.mpr (List.mem_map_of_mem hmem))
    · simp only [hexecutable, Bool.true_and, Bool.and_eq_true, beq_iff_eq]
      exact ⟨⟨⟨hparameter, hid⟩, hmethod⟩, htemplate⟩
  obtain ⟨operation, hoperation⟩ := Option.isSome_iff_exists.mp hsome
  refine ⟨operation, (resolveEngineJourney_ok_iff journey operation).mpr ⟨mount, hjourney, hmount, ?_⟩⟩
  unfold resolution
  rw [if_neg halone, if_pos hsupports]
  exact hoperation

/-- The explorer finds the operation of a resolved journey exactly if no path of the document describes it twice. -/
theorem resolved_journey_explored_iff [DocumentHashing] {entries paths : JsonObject}
    {capabilities : CapabilityDocument} (haccepted : normalizeOpenapiDocument (.dict entries) = .ok capabilities)
    (hpaths : JsonObject.get entries "paths" .null = .dict paths) (hdistinct : (paths.map Prod.fst).Nodup)
    {mounts : List SecretEngineMount} {mountPath journeyId mountParameter : String}
    (hparameter : mountParameterForPath mountPath = .ok mountParameter) {journey : EngineJourney}
    {operation : ExplorerOperation}
    (hresolved : resolveEngineJourney capabilities mounts mountPath journeyId = .ok (journey, operation)) :
    resolveExplorerOperation capabilities operation.operationKey = .ok operation ↔ ∀ entry ∈ paths,
      timesDescribed mountParameter journey.operationId journey.method journey.pathTemplate entry ≤ 1 := by
  obtain ⟨wanted, hmem, rfl, hexecutable, hmount, hname, hid, hmethod, htemplate⟩ := resolved_discovered hresolved
  obtain rfl := Except.ok.inj (hparameter.symm.trans hmount)
  have hne : wanted.mountParameter ≠ "" := by
    intro hempty
    rw [hempty] at hname
    exact absurd hname (by decide)
  rw [← hid, ← hmethod, ← htemplate]
  exact (explorer_finds_iff hmem hexecutable).trans (accepted_hasKey_iff haccepted hpaths hdistinct hmem hne)

/-- A document whose one path, under the mount `kv`, has these methods, all the same but for their names. -/
def kvEntries (methods : List String) : JsonObject :=
  Sample.described [("/\x7bkv_mount_path\x7d/data/\x7bpath\x7d", .dict (methods.map fun method =>
    (method, Sample.operationObject "kv-read-data-path"
      [Sample.parameter "kv_mount_path" "path" true, Sample.parameter "path" "path" true])))]

def kvPaths (methods : List String) : JsonObject :=
  match JsonObject.get (kvEntries methods) "paths" .null with
  | .dict paths => paths
  | _ => []

def kvLive : SecretEngineMount := Sample.kvMount "kv" (by decide +kernel)

/-- A document that describes the read of a secret is accepted, and the journey for it resolved. -/
theorem kv_resolved {digest : String} {methods : List String} {operations : List DiscoveredOperation}
    (hversion : (documentMetadata (kvEntries methods)).toOption.map DocumentMetadata.productVersion = some "2.6.2")
    (hsize : ((Json.dict (kvEntries methods)).encode true).length ≤ maxDocumentBytes)
    (hshape : (validateShape (.dict (kvEntries methods)) 0).toOption = some ())
    (hoperations : (documentMetadata (kvEntries methods) >>= discovered).toOption = some operations)
    (hmem : Sample.readOf "kv_mount_path" ∈ operations) : ∃ capabilities journey operation,
      @normalizeOpenapiDocument (Sample.documentHashing digest) (.dict (kvEntries methods)) = .ok capabilities ∧
      resolveEngineJourney capabilities [kvLive] "kv" "kv2.read" = .ok (journey, operation) ∧
      capabilities.operations.Perm operations := by
  obtain ⟨capabilities, haccepted, -, -, hsorted⟩ := Sample.accepted_of hversion hsize hshape hoperations
  have hjourney : engineJourneys.find? (fun journey => journey.journeyId == "kv2.read") =
      some { journey "kv2.read" "kv" "KV v2" "Read secret version" "GET"
        "/\x7bsecret_mount_path\x7d/data/\x7bpath\x7d" "kv-read-data-path" "reveal_kv_secrets" with
          kvVersions := [2] } := by decide +kernel
  have hperm : capabilities.operations.Perm operations := hsorted ▸ List.perm_insertionSort _ _
  obtain ⟨operation, hresolved⟩ := @resolved_of_advertised capabilities [kvLive] "kv" "kv2.read" _ kvLive hjourney rfl
    (by decide +kernel) (by decide +kernel) (Sample.readOf "kv_mount_path") (hperm.mem_iff.mpr hmem) (by decide +kernel) (by decide +kernel)
    rfl rfl rfl
  exact ⟨capabilities, _, operation, haccepted, hresolved, hperm⟩

/-- One read, which both find. -/
theorem single_read_explored : ∃ capabilities journey operation,
    @normalizeOpenapiDocument
      (Sample.documentHashing "b059374a20a94f21d3eb30b41949ce362bc434da05968bc1349ead4a3f37b286")
      (.dict (kvEntries ["get"])) = .ok capabilities ∧
    resolveEngineJourney capabilities [kvLive] "kv" "kv2.read" = .ok (journey, operation) ∧
    resolveExplorerOperation capabilities operation.operationKey = .ok operation := by
  obtain ⟨capabilities, journey, operation, haccepted, hresolved, -⟩ := @kv_resolved
    "b059374a20a94f21d3eb30b41949ce362bc434da05968bc1349ead4a3f37b286" ["get"] [Sample.readOf "kv_mount_path"]
    (by decide +kernel) (by decide +kernel) (by decide +kernel) (by decide +kernel) (by decide)
  refine ⟨capabilities, journey, operation, haccepted, hresolved, ?_⟩
  have honce : ∀ entry ∈ kvPaths ["get"],
      timesDescribed "kv_mount_path" journey.operationId journey.method journey.pathTemplate entry ≤ 1 := by
    intro entry hentry
    obtain rfl := List.mem_singleton.mp hentry
    unfold timesDescribed
    dsimp only
    split
    · exact List.countP_le_length
    · exact Nat.zero_le 1
  exact (@resolved_journey_explored_iff
    (Sample.documentHashing "b059374a20a94f21d3eb30b41949ce362bc434da05968bc1349ead4a3f37b286") _ _ _ haccepted rfl
    (by decide) _ _ _ _ (Fallible.ok_of_toOption (by decide +kernel)) _ _ hresolved).mpr honce

/-- Two reads that differ in the case of their method: the journey has one of them, and the explorer none. -/
theorem duplicate_read_resolved : ∃ capabilities journey operation,
    @normalizeOpenapiDocument
      (Sample.documentHashing "e7b7a19e21ead9738da55c59101803bdfb19f09b02545e0f72783808e8c57a7b")
      (.dict (kvEntries ["GET", "get"])) = .ok capabilities ∧
    resolveEngineJourney capabilities [kvLive] "kv" "kv2.read" = .ok (journey, operation) ∧
    resolveExplorerOperation capabilities operation.operationKey ≠ .ok operation := by
  obtain ⟨capabilities, journey, operation, haccepted, hresolved, hperm⟩ := @kv_resolved
    "e7b7a19e21ead9738da55c59101803bdfb19f09b02545e0f72783808e8c57a7b" ["GET", "get"] [Sample.readOf "kv_mount_path", Sample.readOf "kv_mount_path"]
    (by decide +kernel) (by decide +kernel) (by decide +kernel) (by decide +kernel) (by decide)
  refine ⟨capabilities, journey, operation, haccepted, hresolved, fun hfound => ?_⟩
  obtain ⟨wanted, hmem, rfl, hexecutable, -⟩ := resolved_discovered hresolved
  have honce := (explorer_finds_iff hmem hexecutable).mp hfound
  obtain rfl : wanted = Sample.readOf "kv_mount_path" := by simpa using hperm.mem_iff.mp hmem
  have htwice : [Sample.readOf "kv_mount_path", Sample.readOf "kv_mount_path"].countP (hasKey (Sample.readOf "kv_mount_path")) = 2 := by decide +kernel
  rw [hperm.countP_eq, htwice] at honce
  omega

end EngineJourneys

end NetboxOpenbao
