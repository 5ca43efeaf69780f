import NetboxOpenbao.Administration.Access
import NetboxOpenbao.Administration.Capabilities
import NetboxOpenbao.Administration.Fields
import NetboxOpenbao.Administration.Templates

/-!
# Access-control resources

The reviewed operations on policies, identities, OIDC and namespaces. A server's document proves that an operation
exists; its method, path, fields, permission and confirmation come from here only.
-/

namespace NetboxOpenbao

/-- Whether a response is public or may hold material. -/
inductive ResponseKind where
  | metadata | material
deriving DecidableEq, Repr

structure AccessOperationSpec where
  method : String
  pathTemplate : String
  permission : String
  risk : String
  fields : FieldRules := []
  responseKind : ResponseKind := .metadata
  confirmation : String := ""
deriving DecidableEq, Repr

structure AccessResourceSpec where
  key : String
  identifierKind : Access.IdentifierKind
  operations : List (String × AccessOperationSpec)
deriving DecidableEq, Repr

namespace Access

def AccessOperationSpec.identifierRequired (operation : AccessOperationSpec) : Bool :=
  Text.contains operation.pathTemplate "{identifier}"

/-- The path of an operation of a resource. -/
def AccessOperationSpec.path (operation : AccessOperationSpec) (identifier : String) : String :=
  if !AccessOperationSpec.identifierRequired operation then operation.pathTemplate
  else Text.replace operation.pathTemplate "{identifier}" (Text.quote [] identifier)

/-! ### Fields -/

def text (required : Bool) (maximum : Nat) : FieldRule := { kind := .text, required, maximum }
def choice (choices : List String) : FieldRule := { kind := .choice, maximum := 100, choices }
def boolField : FieldRule := { kind := .boolean }
def positiveInteger : FieldRule := { kind := .positiveInteger }
def stringList : FieldRule := { kind := .stringList, maximum := 1000 }
def stringMap : FieldRule := { kind := .stringMap, maximum := 2000 }
def uuidList : FieldRule := { kind := .uuidList, maximum := 256 }
def uuidText : FieldRule := { kind := .uuid, maximum := 36 }
def urlList : FieldRule := { kind := .urlList, maximum := 64 }

def policyFields : FieldRules := [("policy", text true maxPolicyDocument)]

def entityFields : FieldRules :=
  [("id", uuidText), ("name", text false 200), ("metadata", stringMap), ("policies", stringList),
   ("disabled", boolField)]

def entityAliasFields : FieldRules :=
  [("id", uuidText), ("name", text true 200), ("canonical_id", uuidText), ("mount_accessor", text true 256)]

def groupFields : FieldRules :=
  [("id", uuidText), ("name", text false 200), ("type", choice ["internal", "external"]), ("metadata", stringMap),
   ("policies", stringList), ("member_entity_ids", uuidList), ("member_group_ids", uuidList)]

def groupAliasFields : FieldRules :=
  [("id", uuidText), ("name", text true 200), ("canonical_id", uuidText), ("mount_accessor", text true 256)]

def oidcClientFields : FieldRules :=
  [("key", text false 200), ("redirect_uris", urlList), ("assignments", stringList),
   ("client_type", choice ["confidential", "public"]), ("id_token_ttl", positiveInteger),
   ("access_token_ttl", positiveInteger), ("authorization_code", boolField), ("client_credentials", boolField)]

def oidcKeyFields : FieldRules :=
  [("algorithm", choice ["RS256", "RS384", "RS512", "ES256", "ES384", "ES512", "EdDSA"]),
   ("allowed_client_ids", stringList), ("rotation_period", positiveInteger), ("verification_ttl", positiveInteger)]

def oidcAssignmentFields : FieldRules := [("entity_ids", uuidList), ("group_ids", uuidList)]

def oidcProviderFields : FieldRules :=
  [("issuer", text false 4096), ("allowed_client_ids", stringList), ("scopes_supported", stringList)]

def oidcScopeFields : FieldRules := [("description", text false 2000), ("template", text true 64000)]

def namespaceFields : FieldRules :=
  [("custom_metadata", { kind := .stringMap, required := true, maximum := 128 })]

def mergeFields : FieldRules :=
  [("from_entity_ids", { kind := .uuidList, required := true, maximum := 32 }),
   ("to_entity_id", { kind := .uuid, required := true, maximum := 36 }), ("force", boolField),
   ("conflicting_alias_ids_to_keep", { kind := .uuidList, maximum := 32 })]

/-! ### Resources -/

/-- `_crud`; all of its callers view with one permission and list with `LIST`. -/
def crud (collection item manage delete : String) (fields : FieldRules) (responseKind : ResponseKind)
    (writePath : String) : List (String × AccessOperationSpec) :=
  let view := "view_access_openbaocluster"
  [("list", { method := "LIST", pathTemplate := collection, permission := view, risk := "read" }),
   ("read", { method := "GET", pathTemplate := item, permission := view, risk := "read", responseKind }),
   ("write",
    { method := "POST", pathTemplate := if writePath != "" then writePath else item, permission := manage
      risk := "write", fields, responseKind }),
   ("delete",
    { method := "DELETE", pathTemplate := item, permission := delete, risk := "destructive"
      confirmation := "DELETE {resource} {identifier} ON {cluster}" })]

def aclPolicies : AccessResourceSpec where
  key := "acl-policies"
  identifierKind := .name
  operations := crud "/sys/policies/acl" "/sys/policies/acl/{identifier}" "manage_policies_openbaocluster"
    "delete_policies_openbaocluster" policyFields .metadata ""

def passwordPolicies : AccessResourceSpec where
  key := "password-policies"
  identifierKind := .name
  operations :=
    crud "/sys/policies/password" "/sys/policies/password/{identifier}" "manage_policies_openbaocluster"
      "delete_policies_openbaocluster" policyFields .metadata "" ++
    [("generate",
      { method := "GET", pathTemplate := "/sys/policies/password/{identifier}/generate"
        permission := "generate_passwords_openbaocluster", risk := "material", responseKind := .material })]

def entities : AccessResourceSpec where
  key := "entities"
  identifierKind := .uuid
  operations :=
    crud "/identity/entity/id" "/identity/entity/id/{identifier}" "manage_identity_openbaocluster"
      "delete_identity_openbaocluster" entityFields .metadata "/identity/entity" ++
    [("merge",
      { method := "POST", pathTemplate := "/identity/entity/merge", permission := "merge_identity_openbaocluster"
        risk := "destructive", fields := mergeFields, confirmation := "MERGE identities ON {cluster}" })]

def entityAliases : AccessResourceSpec where
  key := "entity-aliases"
  identifierKind := .uuid
  operations := crud "/identity/entity-alias/id" "/identity/entity-alias/id/{identifier}"
    "manage_identity_openbaocluster" "delete_identity_openbaocluster" entityAliasFields .metadata
    "/identity/entity-alias"

def groups : AccessResourceSpec where
  key := "groups"
  identifierKind := .uuid
  operations := crud "/identity/group/id" "/identity/group/id/{identifier}" "manage_identity_openbaocluster"
    "delete_identity_openbaocluster" groupFields .metadata "/identity/group"

def groupAliases : AccessResourceSpec where
  key := "group-aliases"
  identifierKind := .uuid
  operations := crud "/identity/group-alias/id" "/identity/group-alias/id/{identifier}"
    "manage_identity_openbaocluster" "delete_identity_openbaocluster" groupAliasFields .metadata
    "/identity/group-alias"

/-- Reading a client shows its secret, so the read of `_crud` is replaced. -/
def oidcClients : AccessResourceSpec where
  key := "oidc-clients"
  identifierKind := .name
  operations :=
    (crud "/identity/oidc/client" "/identity/oidc/client/{identifier}" "manage_oidc_openbaocluster"
      "delete_oidc_openbaocluster" oidcClientFields .material "").map fun entry =>
        if entry.1 == "read" then
          ("read",
            { method := "GET", pathTemplate := "/identity/oidc/client/{identifier}"
              permission := "reveal_oidc_client_secrets_openbaocluster", risk := "read", responseKind := .material })
        else entry

def oidcKeys : AccessResourceSpec where
  key := "oidc-keys"
  identifierKind := .name
  operations :=
    crud "/identity/oidc/key" "/identity/oidc/key/{identifier}" "manage_oidc_openbaocluster"
      "delete_oidc_openbaocluster" oidcKeyFields .metadata "" ++
    [("rotate",
      { method := "POST", pathTemplate := "/identity/oidc/key/{identifier}/rotate"
        permission := "rotate_oidc_keys_openbaocluster", risk := "destructive"
        confirmation := "ROTATE oidc-keys {identifier} ON {cluster}" })]

def oidcAssignments : AccessResourceSpec where
  key := "oidc-assignments"
  identifierKind := .name
  operations := crud "/identity/oidc/assignment" "/identity/oidc/assignment/{identifier}"
    "manage_oidc_openbaocluster" "delete_oidc_openbaocluster" oidcAssignmentFields .metadata ""

def oidcProviders : AccessResourceSpec where
  key := "oidc-providers"
  identifierKind := .name
  operations := crud "/identity/oidc/provider" "/identity/oidc/provider/{identifier}" "manage_oidc_openbaocluster"
    "delete_oidc_openbaocluster" oidcProviderFields .metadata ""

def oidcScopes : AccessResourceSpec where
  key := "oidc-scopes"
  identifierKind := .name
  operations := crud "/identity/oidc/scope" "/identity/oidc/scope/{identifier}" "manage_oidc_openbaocluster"
    "delete_oidc_openbaocluster" oidcScopeFields .metadata ""

def namespaces : AccessResourceSpec where
  key := "namespaces"
  identifierKind := .namespaceSegment
  operations := crud "/sys/namespaces" "/sys/namespaces/{identifier}" "manage_namespaces_openbaocluster"
    "delete_namespaces_openbaocluster" namespaceFields .metadata ""

/-- `ACCESS_RESOURCES`, each under its key. -/
def accessResources : List AccessResourceSpec :=
  [aclPolicies, passwordPolicies, entities, entityAliases, groups, groupAliases, oidcClients, oidcKeys,
   oidcAssignments, oidcProviders, oidcScopes, namespaces]

def resourceSpec (key : String) : Except Error AccessResourceSpec :=
  match accessResources.find? fun resource => resource.key == key with
  | some resource => .ok resource
  | none => .error (.schema "The access-control resource is unsupported.")

def operationContract (resourceKey operationName : String) :
    Except Error (AccessResourceSpec × AccessOperationSpec) := do
  let resource ← resourceSpec resourceKey
  match resource.operations.lookup operationName with
  | some operation => return (resource, operation)
  | none => .error (.schema "The access-control operation is unsupported.")

/-- The document has the operation, under any names for its placeholders. -/
def runtimeAdvertises (document : CapabilityDocument) (operation : AccessOperationSpec) : Bool :=
  let expectedShape := operationShape (Text.replace operation.pathTemplate "{identifier}" "{name}")
  document.operations.any fun candidate =>
    (candidate.method == operation.method ||
      (operation.method == "LIST" && candidate.method == "GET" &&
        (candidate.requiredQueryParameters == ["list"] || candidate.pathTemplate == "/sys/namespaces"))) &&
    operationShape candidate.pathTemplate == expectedShape

end Access

end NetboxOpenbao
