import Mathlib.Data.List.Sort
import NetboxOpenbao.Administration.Capabilities
import NetboxOpenbao.Administration.Dumps
import NetboxOpenbao.Administration.Templates

/-!
# Capability documents from OpenAPI documents

What `normalize_openapi_document` accepts of a server's own description, and the operations it reads there. A document
is bounded as a whole before anything in it is looked at.
-/

namespace NetboxOpenbao

/-- The hexadecimal SHA-256 digest of a text. -/
class DocumentHashing where
  sha256 : String → String

namespace Schema

def maxDocumentBytes : Nat := 2000000
def maxDocumentDepth : Nat := 30
def maxPaths : Nat := 2000
def maxOperations : Nat := 5000
def maxStringLength : Nat := 20000
def allowedMethods : List String := ["delete", "get", "list", "patch", "post", "put"]

/-- `raise CapabilitySchemaError(message)`. -/
def refuse {α : Type} (message : String) : Except Error α := .error (.schema message)

/-! ### Patterns -/

/-- `_PATH_RE`. -/
def pathRe (path : List Char) : Bool :=
  match path with
  | '/' :: rest => rest.all fun c => c.isAlphanum || ['_', '.', '*', '{', '}', '~', ':', '/', '+', '^', '$', '-'].contains c
  | _ => false

/-- `_OPERATION_ID_RE`. -/
def operationIdRe (s : String) : Bool :=
  match s.toList with
  | [] => false
  | first :: others =>
      first.isAlpha && others.length ≤ 199 && others.all fun c => c.isAlphanum || ['_', '.', ':', '-'].contains c

/-- What is left of `cs` after its digits, if it begins with one. -/
def afterDigits (cs : List Char) : Option (List Char) :=
  if cs.head?.any Char.isDigit then some (cs.dropWhile Char.isDigit) else none

/-- `(?:[-+][A-Za-z0-9.-]+)?$`. -/
def versionSuffix (cs : List Char) : Bool :=
  match cs with
  | [] => true
  | sign :: rest =>
      (sign == '-' || sign == '+') && !rest.isEmpty && rest.all fun c => c.isAlphanum || c == '.' || c == '-'

/-- `_OPENAPI_VERSION_RE`. -/
def openapiVersionRe (s : String) : Bool :=
  match s.toList with
  | '3' :: '.' :: rest =>
      match afterDigits rest with
      | none => false
      | some ('.' :: patch) => (afterDigits patch).any versionSuffix
      | some suffix => versionSuffix suffix
  | _ => false

/-- The name a path's first placeholder has, and what follows it: a match of `^/\x7b([A-Za-z][A-Za-z0-9_]*)\x7d`. -/
def firstPlaceholder (path : List Char) : Option (List Char × List Char) :=
  match path with
  | '/' :: '{' :: rest =>
      let name := rest.takeWhile fun c => c.isAlphanum || c == '_'
      match rest.drop name.length with
      | '}' :: after => if name.head?.any Char.isAlpha then some (name, after) else none
      | _ => none
  | _ => none

/-- `name.endswith('_mount_path')`. -/
def mountPathName (name : List Char) : Bool := "_mount_path".toList.isSuffixOf name

/-! ### Bounds -/

/-- `_safe_string`. -/
def safeString (value : Json) (field : String) (maximum : Nat) : Except Error String :=
  match value with
  | .str s =>
      if s.length > maximum || s.toList.any Text.control then
        refuse s!"OpenBao capability document has an invalid {field}."
      else .ok s
  | _ => refuse s!"OpenBao capability document has an invalid {field}."

mutual

/-- The entries of `_validate_mapping`. -/
def validateEntries (entries : JsonObject) (depth : Nat) : Except Error Unit :=
  match entries with
  | [] => .ok ()
  | (key, child) :: rest => do
      let _ ← safeString (.str key) "object key" 500
      validateShape child (depth + 1)
      validateEntries rest depth

/-- The items of `_validate_list`. -/
def validateItems (items : List Json) (depth : Nat) : Except Error Unit :=
  match items with
  | [] => .ok ()
  | child :: rest => do
      validateShape child (depth + 1)
      validateItems rest depth

def validateShape (value : Json) (depth : Nat) : Except Error Unit :=
  if depth > maxDocumentDepth then refuse "OpenBao capability document is nested too deeply."
  else match value with
    | .dict entries =>
        if entries.length > maxOperations then refuse "OpenBao capability document contains too many fields."
        else validateEntries entries depth
    | .list items =>
        if items.length > maxOperations then refuse "OpenBao capability document contains too many list items."
        else validateItems items depth
    | .str s =>
        if s.length > maxStringLength || s.toList.contains '\x00' then
          refuse "OpenBao capability document has an invalid string."
        else .ok ()
    | .float x =>
        if x.isFinite then .ok () else refuse "OpenBao capability document contains an unsupported value."
    | _ => .ok ()

end

def canonicalBytes (document : JsonObject) : Except Error String :=
  let encoded := (Json.dict document).canonical
  if encoded.length > maxDocumentBytes then refuse "OpenBao capability document is too large." else .ok encoded

/-! ### Paths -/

/-- What `_normalize_path` refuses in a path without its version. -/
def unsafePath (path : String) : Bool :=
  !pathRe path.toList || Text.contains path "//" || path.toList.contains '\\' ||
    Text.contains (path ++ "/") "/./" || Text.contains (path ++ "/") "/../" || Text.startsWith path "//"

/-- A path without its version, its mount named as every other path names it. -/
def normalizePath (path : String) : Except Error String := do
  let path ← safeString (.str path) "path template" 500
  let path := if Text.startsWith path "/v1/" then String.ofList (path.toList.drop 3) else path
  if unsafePath path then refuse "OpenBao capability document contains an unsafe path template."
  else match firstPlaceholder path.toList with
    | some (name, after) =>
        if mountPathName name then return String.ofList ("/\x7bsecret_mount_path\x7d".toList ++ after) else return path
    | none => return path

/-- The mount parameter that the path of a document names. -/
def mountParameterOf (rawPath : String) : String :=
  match firstPlaceholder rawPath.toList with
  | some (name, _) => if mountPathName name then String.ofList name else ""
  | none => ""

/-! ### What an operation is classified as -/

/-- The path prefixes of each family, the first that matches counting. -/
def familyRules : List (String × List String) :=
  [("cluster", ["/sys/health", "/sys/init", "/sys/seal", "/sys/unseal", "/sys/leader", "/sys/ha-status"]),
   ("storage", ["/sys/storage/raft"]),
   ("authentication", ["/sys/auth", "/auth"]),
   ("mfa", ["/identity/mfa", "/sys/mfa"]),
   ("policies", ["/sys/policies", "/sys/policy"]),
   ("identity", ["/identity/entity", "/identity/group"]),
   ("oidc", ["/identity/oidc"]),
   ("namespaces", ["/sys/namespaces"]),
   ("leases", ["/sys/leases"]),
   ("tools", ["/sys/wrapping", "/sys/tools"]),
   ("ui-configuration", ["/sys/config/ui"]),
   ("api-explorer", ["/sys/internal/specs/openapi"]),
   ("secret-engine-lifecycle", ["/sys/mounts", "/sys/remount"])]

def endsWith (s suffix : String) : Bool := suffix.toList.isSuffixOf s.toList

def familyFor (path : String) (tags : List String) : String :=
  let loweredTags := tags.map Text.lower
  match familyRules.find? fun rule =>
      rule.2.any fun start => path == start || Text.startsWith path (start ++ "/") with
  | some rule => rule.1
  | none =>
      if loweredTags.contains "secrets" || loweredTags.contains "secret" ||
          Text.startsWith path "/\x7bsecret_mount_path\x7d/" ||
          (Text.startsWith path "/\x7b" && endsWith path "/^.*$") then
        "mounted-secrets"
      else "unclassified"

def destructiveTokens : List String :=
  ["destroy", "/delete/", "force-revoke", "revoke-force", "restore", "/seal", "remove-peer"]

def riskFor (method path : String) : String :=
  if method == "delete" || destructiveTokens.any (Text.contains path) then "destructive"
  else if method == "get" || method == "list" then "read"
  else "write"

def permissionFor (riskLevel : String) : String :=
  if riskLevel == "destructive" then "netbox_openbao.operate_destructive_openbaocluster"
  else if riskLevel == "write" then "netbox_openbao.operate_openbaocluster"
  else "netbox_openbao.discover_openbaocluster"

/-! ### The parts of a document -/

/-- `value or {}`, where the value has to be an object. -/
def objectOr (value : Json) : Option JsonObject :=
  if value.truthy then
    match value with
    | .dict entries => some entries
    | _ => none
  else some []

structure DocumentMetadata where
  openapiVersion : String
  productVersion : String
  paths : JsonObject
  schemas : JsonObject

def documentMetadata (document : JsonObject) : Except Error DocumentMetadata := do
  let openapiVersion ← safeString (JsonObject.get document "openapi" (.str "")) "OpenAPI version" 32
  if !openapiVersionRe openapiVersion then
    refuse "OpenBao capability document uses an unsupported OpenAPI version."
  else match objectOr (JsonObject.get document "info" .null) with
    | none => refuse "OpenBao capability document has invalid product metadata."
    | some info => do
        let productVersion ← safeString (JsonObject.get info "version" (.str "")) "product version" 64
        match JsonObject.get document "paths" .null with
        | .dict paths =>
            if paths.length > maxPaths then refuse "OpenBao capability document contains too many paths."
            else match objectOr (JsonObject.get document "components" .null) with
              | none => refuse "OpenBao capability document has invalid component metadata."
              | some components =>
                  match JsonObject.get components "schemas" (.dict []) with
                  | .dict schemas => return ⟨openapiVersion, productVersion, paths, schemas⟩
                  | _ => refuse "OpenBao capability document has invalid component metadata."
        | _ => refuse "OpenBao capability document has no paths object."

def sortedStrings (values : List String) : List String := values.insertionSort fun a b => a ≤ b

def operationTags (operation : JsonObject) : Except Error (List String) :=
  let rawTags := JsonObject.get operation "tags" .null
  match (if rawTags.truthy then rawTags else .list []) with
  | .list tags =>
      if tags.length > 20 then refuse "OpenBao capability operation has invalid tags."
      else do
        let tags ← tags.mapM fun tag => safeString tag "operation tag" 100
        return sortedStrings tags.eraseDups
  | _ => refuse "OpenBao capability operation has invalid tags."

def declaredTypes : List String := ["array", "boolean", "integer", "number", "object", "string", "json"]

def declaredType (schema : Json) : Except Error String :=
  match schema with
  | .dict entries =>
      match JsonObject.get entries "type" (.str "json") with
      | .str declared => .ok (if declaredTypes.contains declared then declared else "json")
      -- neither can be looked up in a set
      | .list _ | .dict _ => .error (.raised "TypeError")
      | _ => .ok "json"
  | _ => refuse "OpenBao capability operation has an invalid field schema."

/-- `value or {}`. -/
def valueOr (value : Json) : Json := if value.truthy then value else .dict []

/-! ### Fields of an operation -/

/-- The names an operation has fields of, those it requires, and the declared type of each. -/
structure FieldMetadata where
  names : List String
  required : List String
  types : List (String × String)

/-- What is known of one parameter: its declared type, and whether it is required. -/
abbrev Parameters : Type := List (String × String × Bool)

/-- `metadata[name] = value`. -/
def Parameters.put (metadata : Parameters) (name : String) (value : String × Bool) : Parameters :=
  metadata.filter (fun entry => entry.1 != name) ++ [(name, value)]

/-- The name a parameter goes by: one of a mount's path is named as in every other path. -/
def parameterName (location name : String) : String :=
  if location == "path" && mountPathName name.toList then "secret_mount_path" else name

def addParameter (location : String) (metadata : Parameters) (parameter : Json) : Except Error Parameters :=
  match parameter with
  | .dict entries =>
      match JsonObject.get entries "in" .null with
      | .str place =>
          if place == location then do
            let name ← safeString (JsonObject.get entries "name" (.str "")) s!"{location} parameter" 100
            let declared ← declaredType (valueOr (JsonObject.get entries "schema" .null))
            let required := match JsonObject.get entries "required" .null with
              | .bool true => true
              | _ => false
            return metadata.put (parameterName location name) (declared, required)
          else .ok metadata
      | _ => .ok metadata
  | _ => refuse "OpenBao capability operation has invalid parameters."

def addGroup (location : String) (metadata : Parameters) (group : Json) : Except Error Parameters :=
  match group with
  | .null => .ok metadata
  | .list parameters =>
      if parameters.length > 100 then refuse "OpenBao capability operation has invalid parameters."
      else parameters.foldlM (addParameter location) metadata
  | _ => refuse "OpenBao capability operation has invalid parameters."

def parameterMetadata (location : String) (groups : List Json) : Except Error FieldMetadata := do
  let metadata ← groups.foldlM (addGroup location) []
  let names := sortedStrings (metadata.map Prod.fst)
  return {
    names
    required := names.filter fun name => (metadata.lookup name).any Prod.snd
    types := names.map fun name => (name, ((metadata.lookup name).map Prod.fst).getD "json") }

def requestSchema (requestBody : Json) (schemas : JsonObject) : Except Error (Option JsonObject) :=
  match requestBody with
  | .null => .ok none
  | .dict body =>
      let media := match valueOr (JsonObject.get body "content" .null) with
        | .dict content => JsonObject.get content "application/json" .null
        | _ => .null
      let schema := match media with
        | .dict media => JsonObject.get media "schema" .null
        | _ => .null
      match schema with
      | .dict schema =>
          match JsonObject.get schema "$ref" .null with
          | .null => .ok (some schema)
          | .str reference =>
              if Text.startsWith reference "#/components/schemas/" then
                match JsonObject.get schemas (String.ofList (reference.toList.drop "#/components/schemas/".length)) .null with
                | .dict schema => .ok (some schema)
                | _ => refuse "OpenBao capability operation references a missing schema."
              else refuse "OpenBao capability operation has an unsupported schema reference."
          | _ => refuse "OpenBao capability operation has an unsupported schema reference."
      | _ => refuse "OpenBao capability operation has an invalid request body."
  | _ => refuse "OpenBao capability operation has an invalid request body."

def schemaFieldMetadata (schema : Option JsonObject) : Except Error FieldMetadata :=
  match schema with
  | none => .ok ⟨[], [], []⟩
  | some schema =>
      let required := JsonObject.get schema "required" .null
      match objectOr (JsonObject.get schema "properties" .null), (if required.truthy then required else .list []) with
      | some properties, .list required => do
          let fields ← properties.mapM fun entry => safeString (.str entry.1) "request field" 100
          let requiredFields ← required.mapM fun key => safeString key "required request field" 100
          if !requiredFields.all fields.contains then
            refuse "OpenBao capability operation has invalid required fields."
          else do
            let types ← (sortedStrings fields).mapM fun field => do
              return (field, ← declaredType (JsonObject.get properties field .null))
            return ⟨sortedStrings fields, sortedStrings requiredFields, types⟩
      | _, _ => refuse "OpenBao capability operation has an invalid request schema."

def bodyFieldMetadata (requestBody : Json) (schemas : JsonObject) : Except Error FieldMetadata := do
  schemaFieldMetadata (← requestSchema requestBody schemas)

/-! ### Operations -/

/-- `method.upper()`, for the methods of `allowedMethods`. -/
def upperMethod (method : String) : String := method.map Char.toUpper

def normalizeOperation (path mountParameter method : String) (operation : Json) (schemas : JsonObject)
    (inheritedParameters : Json) : Except Error DiscoveredOperation :=
  match operation with
  | .dict operation => do
      let operationId ← safeString (JsonObject.get operation "operationId" (.str "")) "operation ID" 200
      if !operationIdRe operationId then refuse "OpenBao capability document has an invalid operation ID."
      else do
        let tags ← operationTags operation
        let family := familyFor path tags
        let riskLevel := riskFor method path
        let classified := family != "unclassified"
        let groups := [inheritedParameters, JsonObject.get operation "parameters" .null]
        let query ← parameterMetadata "query" groups
        let pathParameters ← parameterMetadata "path" groups
        let body ← bodyFieldMetadata (JsonObject.get operation "requestBody" .null) schemas
        let summary ← safeString (JsonObject.get operation "summary" (.str "")) "operation summary" 500
        return {
          operationId
          method := upperMethod method
          pathTemplate := path
          summary
          tags
          family
          riskLevel
          responseClass := if ["cluster", "api-explorer"].contains family then "public-metadata" else "unreviewed"
          requiredPermission := if classified then permissionFor riskLevel else ""
          classified
          mountParameter
          queryParameters := query.names
          requiredQueryParameters := query.required
          pathParameters := pathParameters.names
          requiredPathParameters := pathParameters.required
          pathParameterTypes := pathParameters.types
          bodyFields := body.names
          requiredBodyFields := body.required
          queryParameterTypes := query.types
          bodyFieldTypes := body.types }
  | _ => refuse "OpenBao capability operation must be an object."

/-- One method of a path: an operation more, unless the method is not an operation's. -/
def addOperation (path mountParameter : String) (inheritedParameters : Json) (schemas : JsonObject)
    (operations : List DiscoveredOperation) (entry : String × Json) : Except Error (List DiscoveredOperation) :=
  let method := Text.lower entry.1
  if !allowedMethods.contains method then .ok operations
  else do
    let operation ← normalizeOperation path mountParameter method entry.2 schemas inheritedParameters
    if operations.length + 1 > maxOperations then refuse "OpenBao capability document contains too many operations."
    else return operations ++ [operation]

/-- One path of a document, with all its methods. -/
def addPath (schemas : JsonObject) (operations : List DiscoveredOperation) (entry : String × Json) :
    Except Error (List DiscoveredOperation) := do
  let path ← normalizePath entry.1
  match entry.2 with
  | .dict pathItem =>
      pathItem.foldlM
        (addOperation path (mountParameterOf entry.1) (JsonObject.get pathItem "parameters" .null) schemas) operations
  | _ => refuse "OpenBao capability path entry must be an object."

/-- The order in which operations are listed. -/
def operationOrder (a b : DiscoveredOperation) : Bool :=
  if a.family != b.family then a.family < b.family
  else if a.pathTemplate != b.pathTemplate then a.pathTemplate < b.pathTemplate
  else if a.method != b.method then a.method < b.method
  else a.operationId ≤ b.operationId

variable [DocumentHashing]

def normalizeOpenapiDocument (document : Json) : Except Error CapabilityDocument :=
  match document with
  | .dict entries => do
      let canonical ← canonicalBytes entries
      validateShape (.dict entries) 0
      let metadata ← documentMetadata entries
      let operations ← metadata.paths.foldlM (addPath metadata.schemas) []
      return ⟨metadata.openapiVersion, metadata.productVersion, DocumentHashing.sha256 canonical,
        operations.insertionSort fun a b => operationOrder a b⟩
  | _ => refuse "OpenBao capability document must be an object."

end Schema

end NetboxOpenbao
