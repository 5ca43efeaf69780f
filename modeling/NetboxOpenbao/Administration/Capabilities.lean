import NetboxOpenbao.Administration.Engines

/-!
# Capability documents and the mounted operations in them

What discovery reports of a server, and what the explorer makes of the operations it advertises for a mount: which are
executable, at which risk and permission, and the path one of them is sent to.
-/

namespace NetboxOpenbao

structure DiscoveredOperation where
  operationId : String
  method : String
  pathTemplate : String
  summary : String
  tags : List String
  family : String
  riskLevel : String
  responseClass : String
  requiredPermission : String
  classified : Bool
  mountParameter : String
  queryParameters : List String
  requiredQueryParameters : List String
  pathParameters : List String
  requiredPathParameters : List String
  pathParameterTypes : List (String × String)
  bodyFields : List String
  requiredBodyFields : List String
  queryParameterTypes : List (String × String)
  bodyFieldTypes : List (String × String)
deriving DecidableEq, Repr

/-- A stable identity: an operation ID may be used more than once. -/
def DiscoveredOperation.operationKey (operation : DiscoveredOperation) : String :=
  let scope := if operation.mountParameter == "" then "global" else operation.mountParameter
  s!"{scope} :: {operation.operationId} :: {operation.method} {operation.pathTemplate}"

structure CapabilityDocument where
  openapiVersion : String
  productVersion : String
  digest : String
  operations : List DiscoveredOperation
deriving DecidableEq, Repr

structure ExplorerOperation where
  operationKey : String
  operationId : String
  method : String
  pathTemplate : String
  mountParameter : String
  summary : String
  riskLevel : String
  responseClass : String
  requiredPermission : String
  executable : Bool
  queryParameters : List String
  requiredQueryParameters : List String
  pathParameters : List String
  requiredPathParameters : List String
  pathParameterTypes : List (String × String)
  bodyFields : List String
  requiredBodyFields : List String
  queryParameterTypes : List (String × String)
  bodyFieldTypes : List (String × String)
deriving DecidableEq, Repr

namespace Engines

def reservedMountPaths : List String := ["cubbyhole", "identity", "sys"]
def genericMethods : List String := ["GET", "LIST", "POST", "PUT", "PATCH", "DELETE"]
def destructivePathSegments : List String := ["delete", "destroy", "revoke"]

def resourceSegmentRe (s : String) : Bool := Text.token ['_', '.', ':', '@', '+', '~', '-'] 199 s

def normalizeResourcePath (value : String) : Except Error String :=
  let segments := (Text.segments value.toList).map String.ofList
  if value == "" || value.length > 1024 || value != Text.strip value ||
      segments.any (fun segment => !resourceSegmentRe segment || segment == "." || segment == "..") then
    .error (.schema "The mounted resource path is invalid.")
  else .ok value

/-! ### Templates -/

/-- A placeholder name, `[A-Za-z][A-Za-z0-9_]{0,63}`. -/
def placeholderName (name : List Char) : Bool :=
  match name with
  | [] => false
  | first :: others => first.isAlpha && others.length ≤ 63 && others.all fun c => c.isAlphanum || c == '_'

/-- The name between the braces of a placeholder segment. -/
def placeholder? (segment : List Char) : Option String :=
  match segment with
  | '{' :: rest =>
      match rest.reverse with
      | '}' :: name => if placeholderName name.reverse then some (String.ofList name.reverse) else none
      | _ => none
  | _ => none

def literalSegment (segment : List Char) : Bool :=
  !segment.isEmpty && segment.all fun c => c.isAlphanum || ['_', '.', ':', '@', '+', '~', '-'].contains c

/-- `_MOUNTED_TEMPLATE_RE`: the mount first, then literal segments and placeholders. -/
def mountedTemplateRe (template : String) : Bool :=
  match Text.segments template.toList with
  | [] :: mount :: rest =>
      placeholder? mount == some "secret_mount_path" &&
        rest.all fun segment => literalSegment segment || (placeholder? segment).isSome
  | _ => false

/-- The placeholder names of a mounted template. -/
def placeholders (template : String) : List String := (Text.segments template.toList).filterMap placeholder?

def sameSet (xs ys : List String) : Bool := xs.all ys.contains && ys.all xs.contains

def genericTemplate (operation : DiscoveredOperation) : Bool :=
  operation.family == "mounted-secrets" && mountedTemplateRe operation.pathTemplate &&
    sameSet operation.pathParameters (placeholders operation.pathTemplate) &&
    sameSet operation.requiredPathParameters (placeholders operation.pathTemplate)

def mountedOperationRisk (operation : DiscoveredOperation) : String :=
  if operation.method == "DELETE" then "destructive"
  else
    let segments := (Text.segments operation.pathTemplate.toList).map fun segment => Text.lower (String.ofList segment)
    if ["POST", "PUT", "PATCH"].contains operation.method && segments.any destructivePathSegments.contains then
      "destructive"
    else if ["GET", "LIST"].contains operation.method then "read"
    else "write"

def explorerPermission (risk : String) : String :=
  if risk == "read" then "netbox_openbao.reveal_secret_operations_openbaocluster"
  else if risk == "destructive" then "netbox_openbao.delete_secret_operations_openbaocluster"
  else "netbox_openbao.execute_secret_operations_openbaocluster"

def explorerOperation (operation : DiscoveredOperation) : ExplorerOperation where
  operationKey := operation.operationKey
  operationId := operation.operationId
  method := operation.method
  pathTemplate := operation.pathTemplate
  mountParameter := operation.mountParameter
  summary := operation.summary
  riskLevel := mountedOperationRisk operation
  responseClass := "sensitive-material"
  requiredPermission := explorerPermission (mountedOperationRisk operation)
  executable := genericMethods.contains operation.method && genericTemplate operation
  queryParameters := operation.queryParameters
  requiredQueryParameters := operation.requiredQueryParameters
  pathParameters := operation.pathParameters
  requiredPathParameters := operation.requiredPathParameters
  pathParameterTypes := operation.pathParameterTypes
  bodyFields := operation.bodyFields
  requiredBodyFields := operation.requiredBodyFields
  queryParameterTypes := operation.queryParameterTypes
  bodyFieldTypes := operation.bodyFieldTypes

/-- The executable operations come first, each part by its key. -/
def classifyExplorerOperations (document : CapabilityDocument) : List ExplorerOperation :=
  (document.operations.map explorerOperation).mergeSort fun a b =>
    if a.executable == b.executable then a.operationKey ≤ b.operationKey else a.executable

def resolveExplorerOperation (document : CapabilityDocument) (operationKey : String) :
    Except Error ExplorerOperation :=
  match (classifyExplorerOperations document).filter fun item => item.operationKey == operationKey with
  | [operation] =>
      if operation.executable then .ok operation
      else .error (.schema "The selected operation is not in the reviewed executable registry.")
  | _ => .error (.schema "The selected operation is not in the reviewed executable registry.")

/-! ### Requests for a mounted operation -/

def matchesDeclaredType (value : Json) (declared : String) : Bool :=
  match declared, value with
  | "json", _ => true
  | "array", .list _ => true
  | "boolean", .bool _ => true
  | "integer", .int _ => true
  | "number", .int _ => true
  | "number", .float _ => true
  | "object", .dict _ => true
  | "string", .str _ => true
  | _, _ => false

def validateDeclaredFieldTypes (value : JsonObject) (declaredTypes : List (String × String)) : Except Error Unit :=
  if value.all fun entry => matchesDeclaredType entry.2 ((declaredTypes.reverse.lookup entry.1).getD "json") then .ok ()
  else .error (.schema "The OpenBao request field has an invalid JSON type.")

/-- The text a path parameter is sent as. -/
def parameterText : Json → Option String
  | .bool b => some (if b then "true" else "false")
  | .int n => some (toString n)
  | .float x => if x.isFinite then some x.repr else none
  | .str s => some s
  | _ => none

def invalidParameters : Error := .schema "The mounted operation path parameters are invalid."

def operationReplacements (names : List String) (mountPath resourcePath : String) (pathParameters : JsonObject) :
    Except Error (List (String × String)) := do
  let mount ← normalizeMountPath mountPath
  let resource ← (if resourcePath != "" then normalizeResourcePath resourcePath else .ok "")
  let expected := names.filter fun name => name != "secret_mount_path" && name != "path"
  if !sameSet (pathParameters.map Prod.fst) expected || names.contains "path" != (resource != "") then
    .error (.schema "The mounted operation path parameters do not match the reviewed template.")
  else do
    let own := [("secret_mount_path", Text.quote ['-', '.', '_', '~'] mount)] ++
      if names.contains "path" then
        [("path", "/".intercalate ((Text.segments resource.toList).map fun part =>
          Text.quote ['-', '.', '_', '~', ':', '@', '+'] (String.ofList part)))]
      else []
    let given ← pathParameters.mapM fun entry =>
      match parameterText entry.2 with
      | some text =>
          if resourceSegmentRe text && text != "." && text != ".." then
            .ok (entry.1, Text.quote ['-', '.', '_', '~', ':', '@', '+'] text)
          else .error invalidParameters
      | none => .error invalidParameters
    return own ++ given

/-- The path of an admitted template, its placeholders replaced one after another. -/
def compileOperationPath (template mountPath resourcePath : String) (pathParameters : JsonObject) :
    Except Error String :=
  if !mountedTemplateRe template then
    .error (.schema "The mounted operation template is outside the reviewed registry.")
  else if pathParameters.length > 16 then .error invalidParameters
  else do
    let replacements ← operationReplacements (placeholders template) mountPath resourcePath pathParameters
    let compiled := replacements.foldl
      (fun compiled entry => Text.replace compiled ("\x7b" ++ entry.1 ++ "\x7d") entry.2) template
    if compiled.toList.any fun c => c == '{' || c == '}' then
      .error (.schema "The mounted operation template has unresolved parameters.")
    else .ok compiled

end Engines

end NetboxOpenbao
