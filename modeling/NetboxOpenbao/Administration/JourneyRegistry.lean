import NetboxOpenbao.Administration.Engines

/-!
# The registry of engine journeys

One reviewed task for each entry: the exact mounted operation it stands for, who may run it, and the parameters it
fixes or restricts.
-/

namespace NetboxOpenbao

structure EngineJourney where
  journeyId : String
  engineType : String
  group : String
  label : String
  method : String
  pathTemplate : String
  operationId : String
  requiredPermission : String
  riskLevel : String
  responseClass : String
  confirmationPrefix : String
  kvVersions : List Nat
  fixedQuery : List (String × String)
  pathParameterChoices : List (String × List String)
  downloadFilename : String
deriving DecidableEq, Repr

namespace EngineJourneys

/-- A journey that reads, on any version of its engine. -/
def journey (journeyId engineType group label method pathTemplate operationId permission : String) :
    EngineJourney where
  journeyId
  engineType
  group
  label
  method
  pathTemplate
  operationId
  requiredPermission := "netbox_openbao." ++ permission ++ "_openbaocluster"
  riskLevel := "read"
  responseClass := "sensitive-material"
  confirmationPrefix := ""
  kvVersions := []
  fixedQuery := []
  pathParameterChoices := []
  downloadFilename := ""

def kv : List EngineJourney :=
  [{ journey "kv1.browse" "kv" "KV v1" "Browse keys" "GET" "/{secret_mount_path}/{path}" "kv-read-path"
     "reveal_kv_secrets" with
       kvVersions := [1], fixedQuery := [("list", "true")] },
   { journey "kv1.read" "kv" "KV v1" "Read secret" "GET" "/{secret_mount_path}/{path}" "kv-read-path"
     "reveal_kv_secrets" with
       kvVersions := [1] },
   { journey "kv1.write" "kv" "KV v1" "Create or update secret" "POST" "/{secret_mount_path}/{path}" "kv-write-path"
     "manage_kv_secrets" with
       riskLevel := "write", kvVersions := [1] },
   { journey "kv1.delete" "kv" "KV v1" "Delete secret" "DELETE" "/{secret_mount_path}/{path}" "kv-delete-path"
     "destroy_kv_versions" with
       riskLevel := "destructive", confirmationPrefix := "DELETE KV SECRET", kvVersions := [1] },
   { journey "kv2.browse" "kv" "KV v2" "Browse keys" "GET" "/{secret_mount_path}/metadata/{path}"
     "kv-read-metadata-path" "reveal_kv_secrets" with
       kvVersions := [2], fixedQuery := [("list", "true")] },
   { journey "kv2.read" "kv" "KV v2" "Read secret version" "GET" "/{secret_mount_path}/data/{path}"
     "kv-read-data-path" "reveal_kv_secrets" with
       kvVersions := [2] },
   { journey "kv2.diff" "kv" "KV v2" "Compare two versions" "GET" "/{secret_mount_path}/data/{path}"
     "kv-read-data-path" "reveal_kv_secrets" with
       kvVersions := [2] },
   { journey "kv2.write" "kv" "KV v2" "Create or update with CAS" "POST" "/{secret_mount_path}/data/{path}"
     "kv-write-data-path" "manage_kv_secrets" with
       riskLevel := "write", kvVersions := [2] },
   { journey "kv2.patch" "kv" "KV v2" "Patch with CAS" "PATCH" "/{secret_mount_path}/data/{path}"
     "kv-patch-data-path" "manage_kv_secrets" with
       riskLevel := "write", kvVersions := [2] },
   { journey "kv2.delete-latest" "kv" "KV v2" "Delete latest version" "DELETE" "/{secret_mount_path}/data/{path}"
     "kv-delete-data-path" "destroy_kv_versions" with
       riskLevel := "destructive", confirmationPrefix := "DELETE LATEST KV VERSION", kvVersions := [2] },
   { journey "kv2.delete-versions" "kv" "KV v2" "Delete versions" "POST" "/{secret_mount_path}/delete/{path}"
     "kv-write-delete-path" "destroy_kv_versions" with
       riskLevel := "destructive", confirmationPrefix := "DELETE KV VERSIONS", kvVersions := [2] },
   { journey "kv2.undelete" "kv" "KV v2" "Undelete versions" "POST" "/{secret_mount_path}/undelete/{path}"
     "kv-write-undelete-path" "manage_kv_secrets" with
       riskLevel := "write", kvVersions := [2] },
   { journey "kv2.destroy" "kv" "KV v2" "Destroy versions irreversibly" "POST" "/{secret_mount_path}/destroy/{path}"
     "kv-write-destroy-path" "destroy_kv_versions" with
       riskLevel := "destructive", confirmationPrefix := "DESTROY KV VERSIONS", kvVersions := [2] },
   { journey "kv2.metadata" "kv" "KV v2" "Read metadata and versions" "GET" "/{secret_mount_path}/metadata/{path}"
     "kv-read-metadata-path" "reveal_kv_secrets" with
       kvVersions := [2] },
   { journey "kv2.metadata-write" "kv" "KV v2" "Update metadata" "POST" "/{secret_mount_path}/metadata/{path}"
     "kv-write-metadata-path" "manage_kv_secrets" with
       riskLevel := "write", kvVersions := [2] },
   { journey "kv2.metadata-delete" "kv" "KV v2" "Delete metadata and all versions" "DELETE"
     "/{secret_mount_path}/metadata/{path}" "kv-delete-metadata-path" "destroy_kv_versions" with
       riskLevel := "destructive", confirmationPrefix := "DESTROY KV METADATA", kvVersions := [2] },
   { journey "kv2.config-read" "kv" "KV v2" "Read mount configuration" "GET" "/{secret_mount_path}/config"
     "kv-read-config" "reveal_kv_secrets" with
       kvVersions := [2] },
   { journey "kv2.config-write" "kv" "KV v2" "Configure mount" "POST" "/{secret_mount_path}/config"
     "kv-write-config" "manage_kv_secrets" with
       riskLevel := "write", kvVersions := [2] }]

def transit : List EngineJourney :=
  [{ journey "transit.keys" "transit" "Transit keys" "List keys" "GET" "/{secret_mount_path}/keys"
     "transit-list-keys" "use_transit" with
       fixedQuery := [("list", "true")] },
   journey "transit.key-read" "transit" "Transit keys" "Read key metadata" "GET" "/{secret_mount_path}/keys/{name}"
     "transit-read-key" "use_transit",
   { journey "transit.key-create" "transit" "Transit keys" "Create key" "POST" "/{secret_mount_path}/keys/{name}"
     "transit-create-key" "manage_transit_keys" with
       riskLevel := "write" },
   { journey "transit.key-configure" "transit" "Transit keys" "Configure key" "POST"
     "/{secret_mount_path}/keys/{name}/config" "transit-configure-key" "manage_transit_keys" with
       riskLevel := "write" },
   { journey "transit.key-rotate" "transit" "Transit keys" "Rotate key" "POST"
     "/{secret_mount_path}/keys/{name}/rotate" "transit-rotate-key" "manage_transit_keys" with
       riskLevel := "write" },
   { journey "transit.key-delete" "transit" "Transit keys" "Delete key" "DELETE" "/{secret_mount_path}/keys/{name}"
     "transit-delete-key" "delete_transit_keys" with
       riskLevel := "destructive", confirmationPrefix := "DELETE TRANSIT KEY" },
   { journey "transit.encrypt" "transit" "Transit operations" "Encrypt" "POST" "/{secret_mount_path}/encrypt/{name}"
     "transit-encrypt" "use_transit" with
       riskLevel := "write" },
   { journey "transit.decrypt" "transit" "Transit operations" "Decrypt" "POST" "/{secret_mount_path}/decrypt/{name}"
     "transit-decrypt" "use_transit" with
       riskLevel := "write" },
   { journey "transit.rewrap" "transit" "Transit operations" "Rewrap" "POST" "/{secret_mount_path}/rewrap/{name}"
     "transit-rewrap" "use_transit" with
       riskLevel := "write" },
   { journey "transit.sign" "transit" "Transit operations" "Sign" "POST" "/{secret_mount_path}/sign/{name}"
     "transit-sign" "use_transit" with
       riskLevel := "write" },
   { journey "transit.verify" "transit" "Transit operations" "Verify signature" "POST"
     "/{secret_mount_path}/verify/{name}" "transit-verify" "use_transit" with
       riskLevel := "write" },
   { journey "transit.hash" "transit" "Transit operations" "Hash" "POST" "/{secret_mount_path}/hash" "transit-hash"
     "use_transit" with
       riskLevel := "write" },
   { journey "transit.hmac" "transit" "Transit operations" "Generate HMAC" "POST" "/{secret_mount_path}/hmac/{name}"
     "transit-generate-hmac" "use_transit" with
       riskLevel := "write" },
   { journey "transit.random" "transit" "Transit operations" "Generate random bytes" "POST"
     "/{secret_mount_path}/random" "transit-generate-random" "use_transit" with
       riskLevel := "write" }]

def database : List EngineJourney :=
  [{ journey "database.connections" "database" "Database connections" "List connections" "GET"
     "/{secret_mount_path}/config" "database-list-connections" "manage_database_roles" with
       fixedQuery := [("list", "true")] },
   journey "database.connection-read" "database" "Database connections" "Read connection" "GET"
     "/{secret_mount_path}/config/{name}" "database-read-connection-configuration" "manage_database_roles",
   { journey "database.connection-write" "database" "Database connections" "Configure connection" "POST"
     "/{secret_mount_path}/config/{name}" "database-configure-connection" "manage_database_roles" with
       riskLevel := "write" },
   { journey "database.connection-delete" "database" "Database connections" "Delete connection" "DELETE"
     "/{secret_mount_path}/config/{name}" "database-delete-connection-configuration" "delete_database_resources"
     with
       riskLevel := "destructive", confirmationPrefix := "DELETE DATABASE CONNECTION" },
   { journey "database.roles" "database" "Database roles" "List dynamic roles" "GET" "/{secret_mount_path}/roles"
     "database-list-roles" "manage_database_roles" with
       fixedQuery := [("list", "true")] },
   journey "database.role-read" "database" "Database roles" "Read dynamic role" "GET"
     "/{secret_mount_path}/roles/{name}" "database-read-role" "manage_database_roles",
   { journey "database.role-write" "database" "Database roles" "Configure dynamic role" "POST"
     "/{secret_mount_path}/roles/{name}" "database-write-role" "manage_database_roles" with
       riskLevel := "write" },
   { journey "database.role-delete" "database" "Database roles" "Delete dynamic role" "DELETE"
     "/{secret_mount_path}/roles/{name}" "database-delete-role" "delete_database_resources" with
       riskLevel := "destructive", confirmationPrefix := "DELETE DATABASE ROLE" },
   { journey "database.static-roles" "database" "Database static roles" "List static roles" "GET"
     "/{secret_mount_path}/static-roles" "database-list-static-roles" "manage_database_roles" with
       fixedQuery := [("list", "true")] },
   journey "database.static-role-read" "database" "Database static roles" "Read static role" "GET"
     "/{secret_mount_path}/static-roles/{name}" "database-read-static-role" "manage_database_roles",
   { journey "database.static-role-write" "database" "Database static roles" "Configure static role" "POST"
     "/{secret_mount_path}/static-roles/{name}" "database-write-static-role" "manage_database_roles" with
       riskLevel := "write" },
   { journey "database.static-role-delete" "database" "Database static roles" "Delete static role" "DELETE"
     "/{secret_mount_path}/static-roles/{name}" "database-delete-static-role" "delete_database_resources" with
       riskLevel := "destructive", confirmationPrefix := "DELETE DATABASE STATIC ROLE" },
   journey "database.credentials" "database" "Database credentials" "Generate dynamic credentials" "GET"
     "/{secret_mount_path}/creds/{name}" "database-generate-credentials" "generate_database_credentials",
   journey "database.static-credentials" "database" "Database credentials" "Read static credentials" "GET"
     "/{secret_mount_path}/static-creds/{name}" "database-read-static-role-credentials"
     "generate_database_credentials",
   { journey "database.rotate-root" "database" "Database rotation" "Rotate root credentials" "POST"
     "/{secret_mount_path}/rotate-root/{name}" "database-rotate-root-credentials" "rotate_database_credentials" with
       riskLevel := "destructive", confirmationPrefix := "ROTATE DATABASE ROOT CREDENTIALS" },
   { journey "database.rotate-static" "database" "Database rotation" "Rotate static-role credentials" "POST"
     "/{secret_mount_path}/rotate-role/{name}" "database-rotate-static-role-credentials"
     "rotate_database_credentials" with
       riskLevel := "destructive", confirmationPrefix := "ROTATE DATABASE STATIC CREDENTIALS" },
   { journey "database.reset" "database" "Database rotation" "Reset connection" "POST"
     "/{secret_mount_path}/reset/{name}" "database-reset-connection" "rotate_database_credentials" with
       riskLevel := "destructive", confirmationPrefix := "RESET DATABASE CONNECTION" }]

def ssh : List EngineJourney :=
  [{ journey "ssh.roles" "ssh" "SSH roles" "List roles" "GET" "/{secret_mount_path}/roles" "ssh-list-roles"
     "manage_ssh_roles" with
       fixedQuery := [("list", "true")] },
   journey "ssh.role-read" "ssh" "SSH roles" "Read role" "GET" "/{secret_mount_path}/roles/{role}" "ssh-read-role"
     "manage_ssh_roles",
   { journey "ssh.role-write" "ssh" "SSH roles" "Configure role" "POST" "/{secret_mount_path}/roles/{role}"
     "ssh-write-role" "manage_ssh_roles" with
       riskLevel := "write" },
   { journey "ssh.role-delete" "ssh" "SSH roles" "Delete role" "DELETE" "/{secret_mount_path}/roles/{role}"
     "ssh-delete-role" "delete_ssh_roles" with
       riskLevel := "destructive", confirmationPrefix := "DELETE SSH ROLE" },
   { journey "ssh.credentials" "ssh" "SSH credentials" "Generate credentials" "POST"
     "/{secret_mount_path}/creds/{role}" "ssh-generate-credentials" "issue_ssh_credentials" with
       riskLevel := "write" },
   { journey "ssh.sign" "ssh" "SSH credentials" "Sign public key" "POST" "/{secret_mount_path}/sign/{role}"
     "ssh-sign-certificate" "issue_ssh_credentials" with
       riskLevel := "write" },
   { journey "ssh.lookup" "ssh" "SSH credentials" "Find roles for IP" "POST" "/{secret_mount_path}/lookup"
     "ssh-list-roles-by-ip" "issue_ssh_credentials" with
       riskLevel := "write" },
   journey "ssh.public-key" "ssh" "SSH credentials" "Read CA public key" "GET" "/{secret_mount_path}/public_key"
     "ssh-read-public-key" "issue_ssh_credentials",
   { journey "ssh.verify-otp" "ssh" "SSH credentials" "Verify OTP" "POST" "/{secret_mount_path}/verify"
     "ssh-verify-otp" "issue_ssh_credentials" with
       riskLevel := "write" }]

def totp : List EngineJourney :=
  [{ journey "totp.keys" "totp" "TOTP keys" "List keys" "GET" "/{secret_mount_path}/keys" "totp-list-keys"
     "manage_totp_keys" with
       fixedQuery := [("list", "true")] },
   journey "totp.key-read" "totp" "TOTP keys" "Read key metadata" "GET" "/{secret_mount_path}/keys/{name}"
     "totp-read-key" "manage_totp_keys",
   { journey "totp.key-create" "totp" "TOTP keys" "Create or import key" "POST" "/{secret_mount_path}/keys/{name}"
     "totp-create-key" "manage_totp_keys" with
       riskLevel := "write" },
   { journey "totp.key-delete" "totp" "TOTP keys" "Delete key" "DELETE" "/{secret_mount_path}/keys/{name}"
     "totp-delete-key" "delete_totp_keys" with
       riskLevel := "destructive", confirmationPrefix := "DELETE TOTP KEY" },
   journey "totp.code" "totp" "TOTP codes" "Generate code" "GET" "/{secret_mount_path}/code/{name}"
     "totp-generate-code" "generate_totp_codes",
   { journey "totp.validate" "totp" "TOTP codes" "Validate code" "POST" "/{secret_mount_path}/code/{name}"
     "totp-validate-code" "generate_totp_codes" with
       riskLevel := "write" }]

def pki : List EngineJourney :=
  [journey "pki.cluster-read" "pki" "PKI configuration" "Read cluster URLs" "GET"
     "/{secret_mount_path}/config/cluster" "pki-read-cluster-configuration" "view_pki",
   { journey "pki.cluster-write" "pki" "PKI configuration" "Configure cluster URLs" "POST"
     "/{secret_mount_path}/config/cluster" "pki-configure-cluster" "manage_pki_configuration" with
       riskLevel := "write" },
   journey "pki.crl-read" "pki" "PKI configuration" "Read CRL configuration" "GET" "/{secret_mount_path}/config/crl"
     "pki-read-crl-configuration" "view_pki",
   { journey "pki.crl-write" "pki" "PKI configuration" "Configure CRL" "POST" "/{secret_mount_path}/config/crl"
     "pki-configure-crl" "manage_pki_configuration" with
       riskLevel := "write" },
   journey "pki.issuers-config-read" "pki" "PKI configuration" "Read issuer defaults" "GET"
     "/{secret_mount_path}/config/issuers" "pki-read-issuers-configuration" "view_pki",
   { journey "pki.issuers-config-write" "pki" "PKI configuration" "Configure issuer defaults" "POST"
     "/{secret_mount_path}/config/issuers" "pki-configure-issuers" "manage_pki_configuration" with
       riskLevel := "write" },
   journey "pki.keys-config-read" "pki" "PKI configuration" "Read key defaults" "GET"
     "/{secret_mount_path}/config/keys" "pki-read-keys-configuration" "view_pki",
   { journey "pki.keys-config-write" "pki" "PKI configuration" "Configure key defaults" "POST"
     "/{secret_mount_path}/config/keys" "pki-configure-keys" "manage_pki_configuration" with
       riskLevel := "write" },
   journey "pki.urls-read" "pki" "PKI configuration" "Read issuing URLs" "GET" "/{secret_mount_path}/config/urls"
     "pki-read-urls-configuration" "view_pki",
   { journey "pki.urls-write" "pki" "PKI configuration" "Configure issuing URLs" "POST"
     "/{secret_mount_path}/config/urls" "pki-configure-urls" "manage_pki_configuration" with
       riskLevel := "write" },
   journey "pki.acme-read" "pki" "PKI configuration" "Read ACME configuration" "GET"
     "/{secret_mount_path}/config/acme" "pki-read-acme-configuration" "view_pki",
   { journey "pki.acme-write" "pki" "PKI configuration" "Configure ACME" "POST" "/{secret_mount_path}/config/acme"
     "pki-configure-acme" "manage_pki_configuration" with
       riskLevel := "write" },
   { journey "pki.issuers" "pki" "PKI issuers" "List issuers" "GET" "/{secret_mount_path}/issuers"
     "pki-list-issuers" "view_pki" with
       fixedQuery := [("list", "true")] },
   journey "pki.issuer-read" "pki" "PKI issuers" "Read issuer" "GET" "/{secret_mount_path}/issuer/{issuer_ref}"
     "pki-read-issuer" "view_pki",
   { journey "pki.issuer-write" "pki" "PKI issuers" "Update issuer" "POST"
     "/{secret_mount_path}/issuer/{issuer_ref}" "pki-write-issuer" "manage_pki_issuers" with
       riskLevel := "write" },
   { journey "pki.issuer-delete" "pki" "PKI issuers" "Delete issuer" "DELETE"
     "/{secret_mount_path}/issuer/{issuer_ref}" "pki-delete-issuer" "delete_pki_issuers" with
       riskLevel := "destructive", confirmationPrefix := "DELETE PKI ISSUER" },
   { journey "pki.issuer-import-cert" "pki" "PKI issuers" "Import issuer certificate" "POST"
     "/{secret_mount_path}/issuers/import/cert" "pki-issuers-import-cert" "manage_pki_issuers" with
       riskLevel := "write" },
   { journey "pki.issuer-import-bundle" "pki" "PKI issuers" "Import issuer bundle" "POST"
     "/{secret_mount_path}/issuers/import/bundle" "pki-issuers-import-bundle" "manage_pki_issuers" with
       riskLevel := "write" },
   { journey "pki.keys" "pki" "PKI keys" "List keys" "GET" "/{secret_mount_path}/keys" "pki-list-keys" "view_pki"
     with
       fixedQuery := [("list", "true")] },
   journey "pki.key-read" "pki" "PKI keys" "Read key metadata" "GET" "/{secret_mount_path}/key/{key_ref}"
     "pki-read-key" "view_pki",
   { journey "pki.key-write" "pki" "PKI keys" "Update key metadata" "POST" "/{secret_mount_path}/key/{key_ref}"
     "pki-write-key" "manage_pki_keys" with
       riskLevel := "write" },
   { journey "pki.key-delete" "pki" "PKI keys" "Delete key" "DELETE" "/{secret_mount_path}/key/{key_ref}"
     "pki-delete-key" "delete_pki_keys" with
       riskLevel := "destructive", confirmationPrefix := "DELETE PKI KEY" },
   { journey "pki.key-generate-internal" "pki" "PKI keys" "Generate internal key" "POST"
     "/{secret_mount_path}/keys/generate/internal" "pki-generate-internal-key" "generate_pki_keys" with
       riskLevel := "destructive", confirmationPrefix := "GENERATE PKI KEY" },
   { journey "pki.key-generate-exported" "pki" "PKI keys" "Generate exported key" "POST"
     "/{secret_mount_path}/keys/generate/exported" "pki-generate-exported-key" "generate_pki_keys" with
       riskLevel := "destructive", confirmationPrefix := "GENERATE PKI KEY",
       downloadFilename := "openbao-pki-key.json" },
   { journey "pki.key-generate-kms" "pki" "PKI keys" "Generate managed key" "POST"
     "/{secret_mount_path}/keys/generate/kms" "pki-generate-kms-key" "generate_pki_keys" with
       riskLevel := "destructive", confirmationPrefix := "GENERATE PKI KEY" },
   { journey "pki.key-import" "pki" "PKI keys" "Import key" "POST" "/{secret_mount_path}/keys/import"
     "pki-import-key" "manage_pki_keys" with
       riskLevel := "write" },
   { journey "pki.roles" "pki" "PKI roles" "List roles" "GET" "/{secret_mount_path}/roles" "pki-list-roles"
     "view_pki" with
       fixedQuery := [("list", "true")] },
   journey "pki.role-read" "pki" "PKI roles" "Read role" "GET" "/{secret_mount_path}/roles/{name}" "pki-read-role"
     "view_pki",
   { journey "pki.role-write" "pki" "PKI roles" "Configure role" "POST" "/{secret_mount_path}/roles/{name}"
     "pki-write-role" "manage_pki_roles" with
       riskLevel := "write" },
   { journey "pki.role-patch" "pki" "PKI roles" "Patch role" "PATCH" "/{secret_mount_path}/roles/{name}"
     "pki-patch-role" "manage_pki_roles" with
       riskLevel := "write" },
   { journey "pki.role-delete" "pki" "PKI roles" "Delete role" "DELETE" "/{secret_mount_path}/roles/{name}"
     "pki-delete-role" "delete_pki_roles" with
       riskLevel := "destructive", confirmationPrefix := "DELETE PKI ROLE" },
   { journey "pki.certificates" "pki" "PKI certificates" "List certificates" "GET" "/{secret_mount_path}/certs"
     "pki-list-certs" "view_pki" with
       fixedQuery := [("list", "true")] },
   { journey "pki.revoked-certificates" "pki" "PKI certificates" "List revoked certificates" "GET"
     "/{secret_mount_path}/certs/revoked" "pki-list-revoked-certs" "view_pki" with
       fixedQuery := [("list", "true")] },
   { journey "pki.certificate-read" "pki" "PKI certificates" "Read certificate" "GET"
     "/{secret_mount_path}/cert/{serial}" "pki-read-cert" "view_pki" with
       downloadFilename := "openbao-certificate.json" },
   { journey "pki.issue" "pki" "PKI issuance" "Issue certificate" "POST" "/{secret_mount_path}/issue/{role}"
     "pki-issue-with-role" "issue_pki_certificates" with
       riskLevel := "write", downloadFilename := "openbao-issued-certificate.json" },
   { journey "pki.sign" "pki" "PKI issuance" "Sign CSR" "POST" "/{secret_mount_path}/sign/{role}"
     "pki-sign-with-role" "issue_pki_certificates" with
       riskLevel := "write", downloadFilename := "openbao-signed-certificate.json" },
   { journey "pki.issuer-issue" "pki" "PKI issuance" "Issue with issuer" "POST"
     "/{secret_mount_path}/issuer/{issuer_ref}/issue/{role}" "pki-issuer-issue-with-role" "issue_pki_certificates"
     with
       riskLevel := "write", downloadFilename := "openbao-issued-certificate.json" },
   { journey "pki.issuer-sign" "pki" "PKI issuance" "Sign with issuer" "POST"
     "/{secret_mount_path}/issuer/{issuer_ref}/sign/{role}" "pki-issuer-sign-with-role" "issue_pki_certificates"
     with
       riskLevel := "write", downloadFilename := "openbao-signed-certificate.json" },
   { journey "pki.revoke" "pki" "PKI certificates" "Revoke certificate" "POST" "/{secret_mount_path}/revoke"
     "pki-revoke" "revoke_pki_certificates" with
       riskLevel := "destructive", confirmationPrefix := "REVOKE PKI CERTIFICATE" },
   { journey "pki.root-generate" "pki" "PKI root and intermediate" "Generate root" "POST"
     "/{secret_mount_path}/root/generate/{exported}" "pki-generate-root" "rotate_pki_roots" with
       riskLevel := "destructive", confirmationPrefix := "GENERATE PKI ROOT",
       pathParameterChoices := [("exported", ["internal", "exported", "kms"])],
       downloadFilename := "openbao-root-ca.json" },
   { journey "pki.issuers-root-generate" "pki" "PKI root and intermediate" "Generate multi-issuer root" "POST"
     "/{secret_mount_path}/issuers/generate/root/{exported}" "pki-issuers-generate-root" "rotate_pki_roots" with
       riskLevel := "destructive", confirmationPrefix := "GENERATE PKI ROOT",
       pathParameterChoices := [("exported", ["internal", "exported", "existing", "kms"])],
       downloadFilename := "openbao-multi-issuer-root.json" },
   { journey "pki.root-rotate" "pki" "PKI root and intermediate" "Rotate root" "POST"
     "/{secret_mount_path}/root/rotate/{exported}" "pki-rotate-root" "rotate_pki_roots" with
       riskLevel := "destructive", confirmationPrefix := "ROTATE PKI ROOT",
       pathParameterChoices := [("exported", ["internal", "exported", "kms"])],
       downloadFilename := "openbao-rotated-root.json" },
   { journey "pki.intermediate-generate" "pki" "PKI root and intermediate" "Generate intermediate CSR" "POST"
     "/{secret_mount_path}/intermediate/generate/{exported}" "pki-generate-intermediate" "manage_pki_issuers" with
       riskLevel := "write", pathParameterChoices := [("exported", ["internal", "exported", "kms"])],
       downloadFilename := "openbao-intermediate-csr.json" },
   { journey "pki.issuers-intermediate-generate" "pki" "PKI root and intermediate"
     "Generate multi-issuer intermediate CSR" "POST" "/{secret_mount_path}/issuers/generate/intermediate/{exported}"
     "pki-issuers-generate-intermediate" "manage_pki_issuers" with
       riskLevel := "write", pathParameterChoices := [("exported", ["internal", "exported", "existing", "kms"])],
       downloadFilename := "openbao-multi-issuer-intermediate-csr.json" },
   { journey "pki.intermediate-set-signed" "pki" "PKI root and intermediate" "Import signed intermediate" "POST"
     "/{secret_mount_path}/intermediate/set-signed" "pki-set-signed-intermediate" "manage_pki_issuers" with
       riskLevel := "write" },
   { journey "pki.intermediate-cross-sign" "pki" "PKI root and intermediate" "Cross-sign intermediate" "POST"
     "/{secret_mount_path}/intermediate/cross-sign" "pki-cross-sign-intermediate" "issue_pki_certificates" with
       riskLevel := "write", downloadFilename := "openbao-cross-signed-certificate.json" },
   { journey "pki.issuer-sign-intermediate" "pki" "PKI root and intermediate" "Sign intermediate with issuer" "POST"
     "/{secret_mount_path}/issuer/{issuer_ref}/sign-intermediate" "pki-issuer-sign-intermediate"
     "issue_pki_certificates" with
       riskLevel := "write", downloadFilename := "openbao-signed-intermediate.json" },
   { journey "pki.root-delete" "pki" "PKI root and intermediate" "Delete all issuers and keys" "DELETE"
     "/{secret_mount_path}/root" "pki-delete-root" "delete_pki_roots" with
       riskLevel := "destructive", confirmationPrefix := "DELETE ALL PKI ROOT MATERIAL" },
   { journey "pki.tidy" "pki" "PKI tidy" "Start manual tidy" "POST" "/{secret_mount_path}/tidy" "pki-tidy"
     "tidy_pki" with
       riskLevel := "destructive", confirmationPrefix := "TIDY PKI" },
   journey "pki.tidy-status" "pki" "PKI tidy" "Read tidy status" "GET" "/{secret_mount_path}/tidy-status"
     "pki-tidy-status" "view_pki",
   { journey "pki.tidy-cancel" "pki" "PKI tidy" "Cancel tidy" "POST" "/{secret_mount_path}/tidy-cancel"
     "pki-tidy-cancel" "tidy_pki" with
       riskLevel := "destructive", confirmationPrefix := "CANCEL PKI TIDY" },
   journey "pki.auto-tidy-read" "pki" "PKI tidy" "Read auto-tidy configuration" "GET"
     "/{secret_mount_path}/config/auto-tidy" "pki-read-auto-tidy-configuration" "view_pki",
   { journey "pki.auto-tidy-write" "pki" "PKI tidy" "Configure auto-tidy" "POST"
     "/{secret_mount_path}/config/auto-tidy" "pki-configure-auto-tidy" "tidy_pki" with
       riskLevel := "write" }]

def kubernetes : List EngineJourney :=
  [journey "kubernetes.check" "kubernetes" "Kubernetes configuration" "Check configuration" "GET"
     "/{secret_mount_path}/check" "kubernetes-check-configuration" "view_kubernetes_engine",
   journey "kubernetes.config-read" "kubernetes" "Kubernetes configuration" "Read configuration" "GET"
     "/{secret_mount_path}/config" "kubernetes-read-configuration" "view_kubernetes_engine",
   { journey "kubernetes.config-write" "kubernetes" "Kubernetes configuration" "Configure Kubernetes" "POST"
     "/{secret_mount_path}/config" "kubernetes-configure" "manage_k8s_configuration" with
       riskLevel := "write" },
   { journey "kubernetes.config-delete" "kubernetes" "Kubernetes configuration" "Delete configuration" "DELETE"
     "/{secret_mount_path}/config" "kubernetes-delete-configuration" "delete_k8s_configuration" with
       riskLevel := "destructive", confirmationPrefix := "DELETE KUBERNETES CONFIGURATION" },
   { journey "kubernetes.roles" "kubernetes" "Kubernetes roles" "List roles" "GET" "/{secret_mount_path}/roles"
     "kubernetes-list-roles" "view_kubernetes_engine" with
       fixedQuery := [("list", "true")] },
   journey "kubernetes.role-read" "kubernetes" "Kubernetes roles" "Read role" "GET"
     "/{secret_mount_path}/roles/{name}" "kubernetes-read-role" "view_kubernetes_engine",
   { journey "kubernetes.role-write" "kubernetes" "Kubernetes roles" "Configure role" "POST"
     "/{secret_mount_path}/roles/{name}" "kubernetes-write-role" "manage_kubernetes_roles" with
       riskLevel := "write" },
   { journey "kubernetes.role-delete" "kubernetes" "Kubernetes roles" "Delete role" "DELETE"
     "/{secret_mount_path}/roles/{name}" "kubernetes-delete-role" "delete_kubernetes_roles" with
       riskLevel := "destructive", confirmationPrefix := "DELETE KUBERNETES ROLE" },
   { journey "kubernetes.credentials" "kubernetes" "Kubernetes credentials" "Generate credentials" "POST"
     "/{secret_mount_path}/creds/{name}" "kubernetes-generate-credentials" "generate_k8s_credentials" with
       riskLevel := "write", downloadFilename := "openbao-kubernetes-credentials.json" }]

def engineJourneys : List EngineJourney := kv ++ transit ++ database ++ ssh ++ totp ++ pki ++ kubernetes

end EngineJourneys

end NetboxOpenbao
