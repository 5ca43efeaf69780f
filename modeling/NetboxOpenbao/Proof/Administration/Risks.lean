import NetboxOpenbao.Proof.Administration.Schema

/-!
# Two classifications of risk

Discovery looks for substrings of a path, the explorer for its method and for whole segments. The explorer's risk is
what a request is asked a permission and a confirmation for.
-/

namespace NetboxOpenbao

open Effect Schema

namespace Engines

/-- The order of the risk levels. -/
def riskRank (risk : String) : Nat :=
  if risk == "destructive" then 2 else if risk == "write" then 1 else 0

/-- The path holds one of the substrings that discovery takes for destructive. -/
def destructiveText (path : String) : Bool := destructiveTokens.any (Text.contains path)

/-- The path has a segment that the explorer takes for destructive. -/
def destructiveSegment (path : String) : Bool :=
  ((Text.segments path.toList).map fun segment => Text.lower (String.ofList segment)).any
    destructivePathSegments.contains

def mutatingMethods : List String := ["POST", "PUT", "PATCH"]

theorem riskFor_eq (method path : String) : riskFor method path =
    if method == "delete" || destructiveText path then "destructive"
    else if method == "get" || method == "list" then "read" else "write" := rfl

theorem mountedOperationRisk_eq (operation : DiscoveredOperation) : mountedOperationRisk operation =
    if operation.method == "DELETE" then "destructive"
    else if mutatingMethods.contains operation.method && destructiveSegment operation.pathTemplate then "destructive"
    else if ["GET", "LIST"].contains operation.method then "read"
    else "write" := rfl

theorem ranks_le_iff : ∀ method ∈ allowedMethods, ∀ text segment : Bool,
    riskRank (if method == "delete" || text then "destructive"
        else if method == "get" || method == "list" then "read" else "write") ≤
      riskRank (if upperMethod method == "DELETE" then "destructive"
        else if mutatingMethods.contains (upperMethod method) && segment then "destructive"
        else if ["GET", "LIST"].contains (upperMethod method) then "read" else "write") ↔
    upperMethod method = "DELETE" ∨ text = false ∨ (upperMethod method ∈ mutatingMethods ∧ segment = true) := by
  decide +kernel

/-- The explorer's risk is at least what discovery found, except for an operation other than DELETE whose path holds a
destructive substring: there it is only when the operation writes and a whole segment is destructive. This is so of
every operation listed, executable or not. -/
theorem mounted_risk_covers_iff [DocumentHashing] {document : Json} {capabilities : CapabilityDocument}
    (haccepted : normalizeOpenapiDocument document = .ok capabilities) {operation : DiscoveredOperation}
    (hlisted : operation ∈ capabilities.operations) :
    riskRank operation.riskLevel ≤ riskRank (explorerOperation operation).riskLevel ↔
      operation.method = "DELETE" ∨ destructiveText operation.pathTemplate = false ∨
        (operation.method ∈ mutatingMethods ∧ destructiveSegment operation.pathTemplate = true) := by
  obtain ⟨read⟩ := accepted_read haccepted operation hlisted
  have hderived := normalizeOperation_derived read.normalized
  have hmounted : (explorerOperation operation).riskLevel = mountedOperationRisk operation := rfl
  rw [hmounted, mountedOperationRisk_eq, hderived.risk, hderived.methodName, riskFor_eq]
  exact ranks_le_iff read.method read.allowed _ _

/-! ### Restoring a key and destroying a secret -/

def destructiveEntries : JsonObject :=
  Sample.described
    [("/\x7btransit_mount_path\x7d/restore/\x7bname\x7d",
        .dict [("post", Sample.operationObject "transit-restore-key"
          [Sample.parameter "transit_mount_path" "path" true, Sample.parameter "name" "path" true])]),
     ("/\x7bkv_mount_path\x7d/destroy/\x7bpath\x7d",
        .dict [("post", Sample.operationObject "kv-destroy-path"
          [Sample.parameter "kv_mount_path" "path" true, Sample.parameter "path" "path" true])])]

def destructiveDigest : String := "b736a591fb87605bc6f1d2ffa8c9bbbef22994e2e902d6b9013077d7c5a3082d"

/-- A POST that discovery takes for destructive, with one parameter beside the mount. -/
def destructiveWrite (operationId pathTemplate mountParameter : String) (names : List String) : DiscoveredOperation where
  operationId
  method := "POST"
  pathTemplate
  summary := ""
  tags := ["secrets"]
  family := "mounted-secrets"
  riskLevel := "destructive"
  responseClass := "unreviewed"
  requiredPermission := "netbox_openbao.operate_destructive_openbaocluster"
  classified := true
  mountParameter
  queryParameters := []
  requiredQueryParameters := []
  pathParameters := names
  requiredPathParameters := names
  pathParameterTypes := names.map fun name => (name, "string")
  bodyFields := []
  requiredBodyFields := []
  queryParameterTypes := []
  bodyFieldTypes := []

def transitRestore : DiscoveredOperation :=
  destructiveWrite "transit-restore-key" "/\x7bsecret_mount_path\x7d/restore/\x7bname\x7d" "transit_mount_path"
    ["name", "secret_mount_path"]

def kvDestroy : DiscoveredOperation :=
  destructiveWrite "kv-destroy-path" "/\x7bsecret_mount_path\x7d/destroy/\x7bpath\x7d" "kv_mount_path"
    ["path", "secret_mount_path"]

theorem destructive_accepted :
    ∃ capabilities, @normalizeOpenapiDocument (Sample.documentHashing destructiveDigest) (.dict destructiveEntries) =
      .ok capabilities ∧ transitRestore ∈ capabilities.operations ∧ kvDestroy ∈ capabilities.operations := by
  obtain ⟨capabilities, haccepted, -, -, hoperations⟩ := @Sample.accepted_of destructiveDigest "2.6.2"
    destructiveEntries [transitRestore, kvDestroy]
    (by decide +kernel) (by decide +kernel) (by decide +kernel) (by decide +kernel)
  refine ⟨capabilities, haccepted, ?_, ?_⟩
  · rw [hoperations]
    exact (List.mem_insertionSort _).mpr List.mem_cons_self
  · rw [hoperations]
    exact (List.mem_insertionSort _).mpr (List.mem_cons_of_mem _ (List.mem_singleton_self _))

theorem destroy_risk_covered :
    ∃ capabilities, @normalizeOpenapiDocument (Sample.documentHashing destructiveDigest) (.dict destructiveEntries) =
        .ok capabilities ∧ kvDestroy ∈ capabilities.operations ∧ (explorerOperation kvDestroy).executable = true ∧
      riskRank kvDestroy.riskLevel ≤ riskRank (explorerOperation kvDestroy).riskLevel := by
  obtain ⟨capabilities, haccepted, -, hdestroy⟩ := destructive_accepted
  exact ⟨capabilities, haccepted, hdestroy, by decide +kernel,
    (@mounted_risk_covers_iff (Sample.documentHashing destructiveDigest) _ capabilities haccepted kvDestroy hdestroy).mpr
      (.inr (.inr ⟨by decide, by decide +kernel⟩))⟩

/-- Restoring a key is destructive to discovery and an ordinary write to the explorer. -/
theorem restore_risk_not_covered :
    ∃ capabilities, @normalizeOpenapiDocument (Sample.documentHashing destructiveDigest) (.dict destructiveEntries) =
        .ok capabilities ∧ transitRestore ∈ capabilities.operations ∧
      (explorerOperation transitRestore).executable = true ∧ transitRestore.riskLevel = "destructive" ∧
      (explorerOperation transitRestore).riskLevel = "write" ∧
      ¬ riskRank transitRestore.riskLevel ≤ riskRank (explorerOperation transitRestore).riskLevel := by
  obtain ⟨capabilities, haccepted, hrestore, -⟩ := destructive_accepted
  exact ⟨capabilities, haccepted, hrestore, by decide +kernel, rfl, by decide +kernel, by decide +kernel⟩

end Engines

end NetboxOpenbao
