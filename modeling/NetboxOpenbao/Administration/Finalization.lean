import NetboxOpenbao.Administration.AccessResources
import NetboxOpenbao.Administration.BoundedJson
import NetboxOpenbao.Administration.Leases

/-!
# Final operations

The reviewed operations on leases, wrapped responses, tools and headers of the UI, the payloads they admit, and the
comparison of a live capability document with the routes they were reviewed against.
-/

namespace NetboxOpenbao

namespace Finalization

structure FinalOperation where
  method : String
  pathTemplate : String
  permission : String
  risk : String
  fields : FieldRules := []
  responseKind : ResponseKind := .metadata
  confirmation : String := ""
  identifierKind : String := ""
deriving DecidableEq, Repr

structure FinalResource where
  key : String
  operations : List (String × FinalOperation)
deriving DecidableEq, Repr

/-- `FinalResource.path`, for an operation of the resource. -/
def FinalOperation.path (operation : FinalOperation) (identifier : String) : String :=
  let hierarchical := operation.identifierKind == "lease-prefix"
  let identifier := if hierarchical then Text.rstripSlashes identifier else identifier
  Text.replace operation.pathTemplate "{identifier}" (Text.quote (if hierarchical then ['/'] else []) identifier)

/-! ### Resources -/

def boolField : FieldRule := { kind := .boolean, maximum := 1 }
def leaseId : FieldRule := { kind := .text, required := true, maximum := 500 }
def token : FieldRule := { kind := .text, required := true, maximum := 20000, material := true }
def outputFormat : FieldRule := { kind := .choice, maximum := 20, choices := ["hex", "base64"] }

def leases : FinalResource where
  key := "leases"
  operations :=
    [("list",
      { method := "LIST", pathTemplate := "/sys/leases/lookup/{identifier}", permission := "view_leases_openbaocluster"
        risk := "read", identifierKind := "lease-prefix" }),
     ("lookup",
      { method := "POST", pathTemplate := "/sys/leases/lookup", permission := "view_leases_openbaocluster"
        risk := "read", fields := [("lease_id", leaseId)] }),
     ("renew",
      { method := "POST", pathTemplate := "/sys/leases/renew", permission := "manage_leases_openbaocluster"
        risk := "write"
        fields := [("lease_id", leaseId), ("increment", { kind := .positiveInteger, maximum := 1048576 })] }),
     ("revoke",
      { method := "POST", pathTemplate := "/sys/leases/revoke", permission := "revoke_leases_openbaocluster"
        risk := "destructive", fields := [("lease_id", leaseId), ("sync", boolField)]
        confirmation := "REVOKE lease {target} ON {cluster}" }),
     ("revoke-prefix",
      { method := "POST", pathTemplate := "/sys/leases/revoke-prefix/{identifier}"
        permission := "revoke_leases_openbaocluster", risk := "destructive", fields := [("sync", boolField)]
        confirmation := "REVOKE lease prefix {target} ON {cluster}", identifierKind := "lease-prefix" }),
     ("force-revoke",
      { method := "POST", pathTemplate := "/sys/leases/revoke-force/{identifier}"
        permission := "force_revoke_leases_openbaocluster", risk := "destructive"
        confirmation := "FORCE REVOKE lease prefix {target} ON {cluster}", identifierKind := "lease-prefix" })]

def wrapping : FinalResource where
  key := "wrapping"
  operations :=
    [("wrap",
      { method := "POST", pathTemplate := "/sys/wrapping/wrap", permission := "use_wrapping_openbaocluster"
        risk := "write"
        fields :=
          [("data",
            { kind := .boundedJsonMap, required := true, maximum := maxWrappingJsonMembers, material := true }),
           ("ttl", { kind := .duration, maximum := 100 })]
        responseKind := .material }),
     ("lookup",
      { method := "POST", pathTemplate := "/sys/wrapping/lookup", permission := "use_wrapping_openbaocluster"
        risk := "read", fields := [("token", token)] }),
     ("rewrap",
      { method := "POST", pathTemplate := "/sys/wrapping/rewrap", permission := "use_wrapping_openbaocluster"
        risk := "write", fields := [("token", token)], responseKind := .material }),
     ("unwrap",
      { method := "POST", pathTemplate := "/sys/wrapping/unwrap", permission := "unwrap_material_openbaocluster"
        risk := "write", fields := [("token", token)], responseKind := .material })]

def hash : FinalResource where
  key := "hash"
  operations :=
    [("run",
      { method := "POST", pathTemplate := "/sys/tools/hash/{identifier}", permission := "use_tools_openbaocluster"
        risk := "write"
        fields :=
          [("input", { kind := .base64Text, required := true, maximum := 1000000, material := true }),
           ("format", outputFormat)]
        responseKind := .material, identifierKind := "algorithm" })]

def random : FinalResource where
  key := "random"
  operations :=
    [("generate",
      { method := "POST", pathTemplate := "/sys/tools/random/{identifier}", permission := "use_tools_openbaocluster"
        risk := "write"
        fields :=
          [("bytes", { kind := .strictPositiveInteger, required := true, maximum := 4096 }), ("format", outputFormat)]
        responseKind := .material, identifierKind := "source" })]

def tokenTools : FinalResource where
  key := "token-tools"
  operations :=
    [("lookup",
      { method := "POST", pathTemplate := "/auth/token/lookup", permission := "manage_tokens_openbaocluster"
        risk := "read", fields := [("token", token)] })]

def uiHeaders : FinalResource where
  key := "ui-headers"
  operations :=
    [("list",
      { method := "LIST", pathTemplate := "/sys/config/ui/headers", permission := "view_ui_configuration_openbaocluster"
        risk := "read" }),
     ("read",
      { method := "GET", pathTemplate := "/sys/config/ui/headers/{identifier}"
        permission := "view_ui_configuration_openbaocluster", risk := "read", identifierKind := "header" }),
     ("write",
      { method := "POST", pathTemplate := "/sys/config/ui/headers/{identifier}"
        permission := "manage_ui_configuration_openbaocluster", risk := "write"
        fields := [("values", { kind := .headerValues, required := true, maximum := 64 })]
        confirmation := "REPLACE UI header {target} ON {cluster}", identifierKind := "header" }),
     ("delete",
      { method := "DELETE", pathTemplate := "/sys/config/ui/headers/{identifier}"
        permission := "manage_ui_configuration_openbaocluster", risk := "destructive"
        confirmation := "DELETE UI header {target} ON {cluster}", identifierKind := "header" })]

/-- `FINAL_RESOURCES`. -/
def finalResources : List FinalResource := [leases, wrapping, hash, random, tokenTools, uiHeaders]

/-- Every operation, under the keys of its resource and its own. -/
def finalOperations : List (String × String × FinalOperation) :=
  finalResources.flatMap fun resource => resource.operations.map fun entry => (resource.key, entry.1, entry.2)

def operationContract (resourceKey operationName : String) : Except Error (FinalResource × FinalOperation) :=
  match finalResources.find? fun resource => resource.key == resourceKey with
  | none => .error (.schema "The finalization operation is unsupported.")
  | some resource =>
      match resource.operations.lookup operationName with
      | some operation => .ok (resource, operation)
      | none => .error (.schema "The finalization operation is unsupported.")

/-! ### Payloads -/

mutual

/-- A value as the Python value it was read as. -/
def pythonValue : Json → Python.Value
  | .null => .null
  | .bool b => .bool b
  | .int n => .int n
  | .float x => .float x
  | .str s => .str (Python.ascii s)
  | .list items => .list (pythonItems items)
  | .dict entries => .dict (pythonEntries entries)

def pythonItems : List Json → List Python.Value
  | [] => []
  | item :: rest => pythonValue item :: pythonItems rest

def pythonEntries : JsonObject → List (Python.Key × Python.Value)
  | [] => []
  | (key, value) :: rest => (.str (Python.ascii key), pythonValue value) :: pythonEntries rest

end

/-- `_ordinary_validation_fields`. -/
def ordinaryValidationFields (operation : FinalOperation) : FieldRules :=
  (operation.fields.filter fun entry => entry.2.kind != .boundedJsonMap).map fun entry =>
    (entry.1, { entry.2 with
      kind := if entry.2.kind = .duration then .text else if entry.2.kind = .headerValues then .stringList
        else entry.2.kind })

/-- `_add_bounded_fields`. -/
def addBoundedFields (normalized payload : JsonObject) (fields : FieldRules) : Except Error JsonObject :=
  fields.foldlM (fun normalized entry =>
    if entry.2.kind != .boundedJsonMap then .ok normalized
    else match payload.lookup entry.1 with
      | none =>
          if entry.2.required then .error (.schema "The operation payload is missing a required field.")
          else .ok normalized
      | some value => do
          let _ ← validateWrappingJson (pythonValue value)
          return normalized ++ [(entry.1, value)]) normalized

/-- The units that may follow the digits of a duration. -/
def durationUnits : List (List Char) := ["ns", "us", "µs", "ms", "s", "m", "h"].map String.toList

/-- A full match of `_DURATION_RE` after `fuel` groups at most. -/
def durationFrom (fuel : Nat) (s : List Char) : Bool :=
  match fuel with
  | 0 => false
  | fuel + 1 =>
      let digits := s.takeWhile Char.isDigit
      let unit := (s.drop digits.length).takeWhile fun c => !c.isDigit
      let rest := s.drop (digits.length + unit.length)
      (digits.head?.any (· != '0')) && durationUnits.contains unit && (rest.isEmpty || durationFrom fuel rest)

def durationRe (s : String) : Bool := durationFrom (s.length + 1) s.toList

/-- `_validate_normalized_value`. -/
def validateNormalizedValue (value : Json) (rule : FieldRule) : Except Error Unit := do
  let exceeds := match value with
    | .int n => decide (n > rule.maximum)
    | .dict entries => decide (entries.length > rule.maximum)
    | _ => false
  let duration := match value with
    | .str s => durationRe s
    | _ => false
  let controlled := match value with
    | .list items => items.any fun item => match item with
        | .str s => s.toList.any fun c => Text.control c || c.toNat == 127
        | _ => false
    | _ => false
  if exceeds then .error (.schema "The operation payload exceeds its reviewed bound.")
  else if rule.kind == .duration && !duration then
    .error (.schema "The operation payload contains an invalid duration.")
  else if rule.kind == .headerValues && controlled then
    .error (.schema "UI header values must not contain control characters.")
  else .ok ()

/-- The rule of a field that an operation declares. -/
def FinalOperation.rule (operation : FinalOperation) (name : String) : Except Error FieldRule :=
  match operation.fields.lookup name with
  | some rule => .ok rule
  | none => .error (.keyError name)

def validatePayload (payload : Json) (operation : FinalOperation) : Except Error JsonObject :=
  match payload with
  | .dict entries => do
      let fields := ordinaryValidationFields operation
      let ordinary := entries.filter fun entry => (fields.map Prod.fst).contains entry.1
      if !(JsonObject.keys entries).all (operation.fields.map Prod.fst).contains then
        .error (.schema "The operation payload contains unsupported fields.")
      else do
        let normalized ← Access.validateAccessPayload (.dict ordinary) fields
        let normalized ← addBoundedFields normalized entries operation.fields
        let _ ← normalized.mapM fun entry => do
          let rule ← operation.rule entry.1
          validateNormalizedValue entry.2 rule
        return normalized
  | _ => .error (.schema "The operation payload must be an object.")

/-! ### The routes the operations were reviewed against -/

/-- An entry of `openbao-final-v2.6.2.json`. -/
structure FinalRoute where
  resource : String
  operation : String
  method : String
  path : String
  operationIds : List String
  query : List (String × String) := []
  body : List (String × String) := []
deriving DecidableEq, Repr

/-- The operations of `load_final_route_fixture()`. -/
def finalRoutes : List FinalRoute :=
  [⟨"leases", "list", "LIST", "/sys/leases/lookup/{identifier}", ["leases-look-up", "leases-look-up-with-prefix"],
     [("list", "string!")], []⟩,
   ⟨"leases", "lookup", "POST", "/sys/leases/lookup", ["leases-read-lease"], [], [("lease_id", "string")]⟩,
   ⟨"leases", "renew", "POST", "/sys/leases/renew", ["leases-renew-lease2"], [],
     [("increment", "integer"), ("lease_id", "string"), ("url_lease_id", "string")]⟩,
   ⟨"leases", "revoke", "POST", "/sys/leases/revoke", ["leases-revoke-lease2"], [],
     [("lease_id", "string"), ("sync", "boolean"), ("url_lease_id", "string")]⟩,
   ⟨"leases", "revoke-prefix", "POST", "/sys/leases/revoke-prefix/{identifier}",
     ["leases-revoke-lease-with-prefix2"], [], [("sync", "boolean")]⟩,
   ⟨"leases", "force-revoke", "POST", "/sys/leases/revoke-force/{identifier}",
     ["leases-force-revoke-lease-with-prefix2"], [], []⟩,
   ⟨"wrapping", "wrap", "POST", "/sys/wrapping/wrap", ["wrap"], [], []⟩,
   ⟨"wrapping", "lookup", "POST", "/sys/wrapping/lookup", ["read-wrapping-properties"], [], [("token", "string")]⟩,
   ⟨"wrapping", "rewrap", "POST", "/sys/wrapping/rewrap", ["rewrap"], [], [("token", "string")]⟩,
   ⟨"wrapping", "unwrap", "POST", "/sys/wrapping/unwrap", ["unwrap"], [], [("token", "string")]⟩,
   ⟨"hash", "run", "POST", "/sys/tools/hash/{identifier}", ["generate-hash-with-algorithm"], [],
     [("algorithm", "string"), ("format", "string"), ("input", "string")]⟩,
   ⟨"random", "generate", "POST", "/sys/tools/random/{identifier}", ["generate-random-with-source"], [],
     [("bytes", "integer"), ("format", "string"), ("urlbytes", "string")]⟩,
   ⟨"token-tools", "lookup", "POST", "/auth/token/lookup", ["token-look-up-update"], [], [("token", "string")]⟩,
   ⟨"ui-headers", "list", "LIST", "/sys/config/ui/headers", ["ui-headers-list"], [("list", "string!")], []⟩,
   ⟨"ui-headers", "read", "GET", "/sys/config/ui/headers/{identifier}", ["ui-headers-read-configuration"], [], []⟩,
   ⟨"ui-headers", "write", "POST", "/sys/config/ui/headers/{identifier}", ["ui-headers-configure"], [],
     [("multivalue", "boolean"), ("values", "array")]⟩,
   ⟨"ui-headers", "delete", "DELETE", "/sys/config/ui/headers/{identifier}", ["ui-headers-delete-configuration"], [],
     []⟩]

/-- `dict(pairs) == dict(others)`; the last of several values of a key counts. -/
def sameMapping (pairs others : List (String × String)) : Bool :=
  (pairs ++ others).all fun entry => pairs.reverse.lookup entry.1 == others.reverse.lookup entry.1

/-- `expected_shapes` in `_runtime_matches`. -/
def expectedShapes (operation : FinalOperation) : List String :=
  Access.operationShape (Text.replace operation.pathTemplate "{identifier}" "{name}") ::
    if operation.pathTemplate == "/sys/leases/lookup/{identifier}" then [Access.operationShape "/sys/leases/lookup/"]
    else []

def methodMatches (operation : FinalOperation) (candidate : DiscoveredOperation) : Bool :=
  candidate.method == operation.method || (operation.method == "LIST" && candidate.method == "GET")

def identifierMatches (operation : FinalOperation) (candidate : DiscoveredOperation) : Bool :=
  operation.identifierKind != "source" ||
    (let parameter := Text.afterLast '/' candidate.pathTemplate
     let parameter := Text.lower (String.ofList (Text.trimmed (fun c => c == '{' || c == '}') parameter))
     parameter == "source" || parameter == "name")

def metadataMatches (contract : FinalRoute) (operation : FinalOperation) (candidate : DiscoveredOperation) : Bool :=
  let expectedQuery := contract.query.map fun entry => (entry.1, Text.removeSuffix entry.2 "!")
  let requiredQuery := (contract.query.filter fun entry => entry.2.toList.getLast? == some '!').map Prod.fst
  let expectedPathCount :=
    if candidate.operationId == "leases-look-up" then 0 else Text.count operation.pathTemplate "{identifier}"
  contract.operationIds.contains candidate.operationId &&
    sameMapping candidate.queryParameterTypes expectedQuery &&
    Engines.sameSet candidate.requiredQueryParameters requiredQuery &&
    sameMapping candidate.bodyFieldTypes contract.body && candidate.requiredBodyFields.isEmpty &&
    candidate.pathParameters.length == expectedPathCount &&
    Engines.sameSet candidate.requiredPathParameters candidate.pathParameters &&
    candidate.pathParameterTypes.all fun entry => entry.2 == "string"

/-- `_runtime_matches`. The route of an operation is the one of its method and path. -/
def runtimeMatches (document : CapabilityDocument) (operation : FinalOperation) : List DiscoveredOperation :=
  match finalRoutes.find? fun entry => entry.method == operation.method && entry.path == operation.pathTemplate with
  | none => []
  | some contract =>
      document.operations.filter fun candidate =>
        methodMatches operation candidate &&
          (expectedShapes operation).contains (Access.operationShape candidate.pathTemplate) &&
          identifierMatches operation candidate && metadataMatches contract operation candidate

def advertised (document : CapabilityDocument) (operation : FinalOperation) : Bool :=
  let expected := if operation.pathTemplate == "/sys/leases/lookup/{identifier}" then 2 else 1
  (runtimeMatches document operation).length == expected

structure ConformanceEntry where
  resource : String
  operation : String
  advertised : Bool
  duplicates : Nat
  unclassified : Nat
deriving DecidableEq, Repr

structure ConformanceReport where
  productVersion : String
  operations : List ConformanceEntry
  missing : List ConformanceEntry
  duplicates : List ConformanceEntry
  unclassified : List ConformanceEntry
  stale : Bool
  conformant : Bool
deriving DecidableEq, Repr

def conformanceEntry (document : CapabilityDocument) (resource name : String) (operation : FinalOperation) :
    ConformanceEntry :=
  let found := runtimeMatches document operation
  let expectedCount := if resource == "leases" && name == "list" then 2 else 1
  { resource, operation := name, advertised := found.length ≥ expectedCount
    duplicates := found.length - expectedCount
    unclassified := (found.filter fun candidate => !candidate.classified).length }

def conformanceReport (document : CapabilityDocument) : ConformanceReport :=
  let entries := finalOperations.map fun entry => conformanceEntry document entry.1 entry.2.1 entry.2.2
  let missing := entries.filter fun entry => !entry.advertised
  let duplicates := entries.filter fun entry => entry.duplicates != 0
  let unclassified := entries.filter fun entry => entry.unclassified != 0
  let stale := document.productVersion != "2.6.2"
  { productVersion := document.productVersion, operations := entries, missing, duplicates, unclassified, stale
    conformant := missing.isEmpty && duplicates.isEmpty && unclassified.isEmpty && !stale }

end Finalization

end NetboxOpenbao
