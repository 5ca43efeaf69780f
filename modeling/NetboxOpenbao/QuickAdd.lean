import NetboxOpenbao.Administration.Json
import Mathlib.Data.List.Dedup
import Mathlib.Data.List.Sort

/-!
# Adding SSH access in one action

`quick_add_ssh` with the Application Service it finds or creates, and the connection that is read off such a service.
The rows of the services carry their addresses. What comes after the service, the credential and its assignment, writes
neither services nor addresses and is an argument.
-/

namespace NetboxOpenbao.QuickAdd

/-! ### The rows -/

/-- `host` is `str(address.address.ip)`. -/
structure IPAddress where
  pk : Nat
  address : String
  vrf : Option Nat
  host : String
deriving DecidableEq, Repr

structure Service where
  pk : Nat
  parentObjectType : Nat
  parentObjectId : Nat
  name : String
  portMappings : List String
  description : String
  ipaddresses : List IPAddress
deriving DecidableEq, Repr

structure ServiceTemplate where
  name : String
  portMappings : List String
  description : String
deriving DecidableEq, Repr

/-- A Device or a VM. -/
structure Target where
  objectType : Nat
  pk : Nat
  primaryIp : Option Nat
deriving DecidableEq, Repr

structure Tables where
  services : List Service
  addresses : List IPAddress
  nextService : Nat
  nextAddress : Nat
deriving DecidableEq, Repr

/-- The IPAM permissions of a user: by name, and those that restrict to rows. -/
structure User where
  hasPerm : String → Bool
  service : String → Service → Bool
  address : String → IPAddress → Bool
  template : ServiceTemplate → Bool

inductive Error where
  | validation (message : String)
  | permissionDenied (message : String)
  | valueError
deriving DecidableEq, Repr

/-! ### The connection -/

/-- The digits of `str.isdigit`, and of these the decimal ones, which `int` reads. -/
class Digits where
  isDigit : Char → Bool
  decimal : Char → Option Nat
  ascii : ∀ n < 10, isDigit (Nat.digitChar n) = true ∧ decimal (Nat.digitChar n) = some n

inductive ConnectionError where
  | noIp
  | multipleIps
  | noTcpPort
  | multipleTcpPorts
deriving DecidableEq, Repr

/-- The connection target, or the reason there is none. -/
inductive ServiceConnection where
  | usable (host : String) (port : Nat)
  | unusable (error : ConnectionError)
deriving DecidableEq, Repr

section Connection

variable [Digits]

/-- `int(port)` of digits; it reads no more than 4300 of them. -/
def int (digits : List Char) : Except Error Nat :=
  if 4300 < digits.length then .error .valueError
  else digits.foldlM (fun value c => (Digits.decimal c).elim (.error .valueError) fun digit => .ok (10 * value + digit)) 0

/-- The port of one mapping, if it is a TCP port. -/
def tcpPort (mapping : String) : Except Error (Option Nat) :=
  let protocol := mapping.toList.takeWhile (· != '/')
  let port := Text.trimmed Text.space (String.ofList ((mapping.toList.dropWhile (· != '/')).drop 1))
  if Text.lower (Text.strip (String.ofList protocol)) == "tcp" && !port.isEmpty && port.all Digits.isDigit then
    (int port).map some
  else .ok none

/-- `_tcp_ports`. -/
def tcpPorts (portMappings : List String) : Except Error (List Nat) := do
  let ports ← portMappings.mapM tcpPort
  .ok ((ports.filterMap id).dedup.insertionSort (· ≤ ·))

def serviceConnection (service : Service) : Except Error ServiceConnection :=
  match service.ipaddresses with
  | [] => .ok (.unusable .noIp)
  | _ :: _ :: _ => .ok (.unusable .multipleIps)
  | [address] => do
      match ← tcpPorts service.portMappings with
      | [] => .ok (.unusable .noTcpPort)
      | _ :: _ :: _ => .ok (.unusable .multipleTcpPorts)
      | [port] => .ok (.usable address.host port)

end Connection

/-! ### The port mappings -/

/-- `m.lower().startswith('tcp/')`. -/
def tcpMapping (mapping : String) : Bool := Text.startsWith (Text.lower mapping) "tcp/"

/-- The first TCP mapping replaced, if there is one. -/
def replaceFirst (chosen : String) : List String → Option (List String)
  | [] => none
  | mapping :: rest =>
      if tcpMapping mapping then some (chosen :: rest) else (replaceFirst chosen rest).map (mapping :: ·)

/-- `_port_mappings`. -/
def portMappings (template : Option ServiceTemplate) (port : Option Int) : List String :=
  let mappings := (template.map ServiceTemplate.portMappings).getD []
  match port with
  | none => if mappings.isEmpty then ["tcp/22"] else mappings
  | some port =>
      let chosen := "tcp/" ++ toString port
      match replaceFirst chosen mappings with
      | some replaced => replaced.eraseDups
      | none => mappings ++ [chosen]

/-! ### Permissions and addresses -/

/-- What the action takes from NetBox and from the libraries under it: `netaddr.IPNetwork` of a stripped text with the
host it denotes, `str.lower`, and the two `full_clean`s. -/
structure Environment where
  network : String → Option (String × String)
  lower : String → String
  cleanService : Service → Option String
  cleanAddress : IPAddress → Option String

/-- `full_clean`. -/
def fullClean {α : Type} (clean : α → Option String) (row : α) : Except Error Unit :=
  (clean row).elim (.ok ()) fun message => .error (.validation message)

/-- `_require_service_permission`; without a user the caller has been authorized already. -/
def requireServicePermission (user : Option User) (action : String) (service : Option Service) : Except Error Unit :=
  match user with
  | none => .ok ()
  | some user =>
      if !user.hasPerm ("ipam." ++ action ++ "_service") then
        .error (.permissionDenied ("ipam." ++ action ++ "_service is required to manage the SSH service."))
      else if service.any fun row => !user.service action row then
        .error (.permissionDenied ("ipam." ++ action ++ "_service does not permit this service."))
      else .ok ()

/-- `_visible_ip_addresses`. -/
def visibleIpAddresses (user : Option User) (tables : Tables) (pks : List Nat) : Except Error (List IPAddress) :=
  let rows := tables.addresses.filter fun row => pks.contains row.pk
  match user with
  | none => .ok rows
  | some user =>
      let visible := rows.filter (user.address "view")
      if visible.length ≠ pks.dedup.length then
        .error (.permissionDenied "You do not have permission to use that IP address.")
      else .ok visible

/-- `_primary_ip_addresses`. -/
def primaryIpAddresses (user : Option User) (target : Target) (tables : Tables) : List Nat :=
  let rows := tables.addresses.filter fun row => target.primaryIp == some row.pk
  ((match user with
    | none => rows
    | some user => rows.filter (user.address "view")).map IPAddress.pk)

/-- Inserting the address of a network, with the caller's own permission. -/
def createIpAddress (env : Environment) (user : Option User) (network host : String) (tables : Tables) :
    Except Error (List Nat × Tables) := do
  if user.any fun user => !user.hasPerm "ipam.add_ipaddress" then
    .error (.permissionDenied "ipam.add_ipaddress is required to create the IP address.")
  else do
    let created : IPAddress := { pk := tables.nextAddress, address := network, vrf := none, host }
    fullClean env.cleanAddress created
    if user.any fun user => !user.address "add" created then
      .error (.permissionDenied "ipam.add_ipaddress does not permit this IP address.")
    else
      .ok ([created.pk],
        { tables with addresses := tables.addresses ++ [created], nextAddress := tables.nextAddress + 1 })

/-- `_new_ip_address`: the address is created, or the visible one of the same network without a VRF is taken. -/
def newIpAddress (env : Environment) (user : Option User) (cidr : String) (tables : Tables) :
    Except Error (List Nat × Tables) :=
  match env.network (Text.strip cidr), cidr.toList.contains '/' with
  | some (network, host), true =>
      let existing := tables.addresses.filter fun row =>
        row.vrf.isNone && row.address == network && user.all fun user => user.address "view" row
      match existing with
      | [] => createIpAddress env user network host tables
      | [row] => .ok ([row.pk], tables)
      | _ => .error (.validation ("More than one IP address " ++ network ++ " exists; choose one."))
  | _, _ =>
      .error (.validation "Enter the IP address as an address with a prefix length, for example 10.0.0.5/24.")

/-- `_connection_ip_addresses`. -/
def connectionIpAddresses (env : Environment) (user : Option User) (target : Target) (ipAddresses : List Nat)
    (newAddress : String) (tables : Tables) : Except Error (List Nat × Tables) :=
  if !ipAddresses.isEmpty && newAddress != "" then
    .error (.validation "Choose an existing IP address or enter a new one, not both.")
  else if newAddress != "" then newIpAddress env user newAddress tables
  else if !ipAddresses.isEmpty then .ok (ipAddresses, tables)
  else .ok (primaryIpAddresses user target tables, tables)

/-- `_require_requested_ip_on_existing_service`. -/
def requireRequestedIp (service : Service) (pks : List Nat) : Except Error Unit :=
  let attached := service.ipaddresses.map IPAddress.pk
  if !attached.isEmpty && !pks.all attached.contains then
    .error (.validation ("The existing \"" ++ service.name ++ "\" service already has a different IP address; change " ++
      "it in NetBox, or leave the address empty to keep it."))
  else .ok ()

/-! ### The service -/

def Tables.saveService (tables : Tables) (service : Service) : Tables :=
  { tables with services := tables.services.map fun row => if row.pk = service.pk then service else row }

/-- The mappings that a service does not have. -/
def missing (mappings : List String) (service : Service) : List String :=
  mappings.filter fun mapping => !service.portMappings.contains mapping

/-- An existing service takes the mappings it does not have. -/
def widen (env : Environment) (user : Option User) (mappings : List String) (existing : Service) (tables : Tables) :
    Except Error (Service × Tables) :=
  if (missing mappings existing).isEmpty then .ok (existing, tables)
  else do
    requireServicePermission user "change" (some existing)
    let widened := { existing with portMappings := existing.portMappings ++ missing mappings existing }
    fullClean env.cleanService widened
    .ok (widened, tables.saveService widened)

/-- An existing service without an address takes the ones that are given. -/
def attach (user : Option User) (addresses : List IPAddress) (existing : Service) (tables : Tables) :
    Except Error (Service × Tables) :=
  if addresses.isEmpty || !existing.ipaddresses.isEmpty then .ok (existing, tables)
  else do
    requireServicePermission user "change" (some existing)
    let attached := { existing with ipaddresses := addresses }
    .ok (attached, tables.saveService attached)

/-- A service is created from the template. -/
def createService (env : Environment) (user : Option User) (target : Target) (template : Option ServiceTemplate)
    (mappings : List String) (name : String) (addresses : List IPAddress) (tables : Tables) :
    Except Error (Service × Tables) := do
  requireServicePermission user "add" none
  let service : Service :=
    { pk := tables.nextService
      parentObjectType := target.objectType
      parentObjectId := target.pk
      name
      portMappings := mappings
      description := (template.map ServiceTemplate.description).getD ""
      ipaddresses := [] }
  fullClean env.cleanService service
  let stored := { service with ipaddresses := addresses }
  .ok (stored, { tables with services := tables.services ++ [stored], nextService := tables.nextService + 1 })

/-- `_get_or_create_service`, with whether the service was created. -/
def getOrCreateService (env : Environment) (user : Option User) (target : Target) (template : Option ServiceTemplate)
    (port : Option Int) (name : String) (pks : List Nat) (tables : Tables) : Except Error (Service × Bool × Tables) := do
  let mappings := portMappings template port
  if !mappings.any tcpMapping then
    .error (.validation "The service template must define a TCP port for SSH.")
  else do
    let addresses ← (if pks.isEmpty then .ok [] else visibleIpAddresses user tables pks)
    match tables.services.find? fun row =>
        row.parentObjectType == target.objectType && row.parentObjectId == target.pk && row.name == name with
    | some existing =>
        if !existing.portMappings.any tcpMapping then
          .error (.validation ("A service named \"" ++ name ++ "\" already exists on this object and is not a TCP " ++
            "service."))
        else do
          let (widened, tables) ← widen env user mappings existing tables
          let (attached, tables) ← attach user addresses widened tables
          .ok (attached, false, tables)
    | none => do
        let (service, tables) ← createService env user target template mappings name addresses tables
        .ok (service, true, tables)

/-! ### The action -/

/-- A request, with the template it chooses or the seeded one. `grant` stores the credential, unless it takes an
existing one, assigns it to the service and checks the caller's constraints. -/
structure Request where
  target : Target
  authMethod : String
  password : String
  existingCredential : Option Nat
  privateKey : String
  generate : Bool
  template : Option ServiceTemplate
  port : Option Int
  serviceName : String
  ipAddresses : List Nat
  newIpAddress : String
  user : Option User
  grant : Service → Except Error Nat

/-- Exactly one source of the key, or a password. -/
def Request.checkSources (request : Request) : Except Error Unit :=
  if request.authMethod == "password" then
    if request.password == "" then .error (.validation "An SSH login password is required.") else .ok ()
  else if ([request.existingCredential.isSome, request.privateKey != "", request.generate].count true) != 1 then
    .error (.validation
      "Choose exactly one of: reuse an existing credential, paste a private key, or generate one.")
  else .ok ()

def Request.checkTemplate (request : Request) : Except Error Unit :=
  match request.template, request.user with
  | some template, some user =>
      if user.template template then .ok ()
      else .error (.permissionDenied "The selected service template is not permitted.")
  | _, _ => .ok ()

/-- `service_name or (template.name.lower() if template is not None else SSH_SERVICE_NAME)`. -/
def Request.name (env : Environment) (request : Request) : String :=
  if request.serviceName != "" then request.serviceName
  else (request.template.map fun template => env.lower template.name).getD "ssh"

structure Result where
  credential : Nat
  service : Service
  created : Bool
  tables : Tables
deriving DecidableEq, Repr

/-- `quick_add_ssh`. It runs in one transaction, so that one that raises leaves the tables as they were. -/
def quickAddSsh (env : Environment) (request : Request) (tables : Tables) : Except Error Result := do
  request.checkSources
  request.checkTemplate
  let explicitIp := !request.ipAddresses.isEmpty || request.newIpAddress != ""
  let (pks, tables) ←
    connectionIpAddresses env request.user request.target request.ipAddresses request.newIpAddress tables
  let (service, created, tables) ←
    getOrCreateService env request.user request.target request.template request.port (request.name env) pks tables
  (if explicitIp && !created then requireRequestedIp service pks else .ok ())
  let credential ← request.grant service
  .ok { credential, service, created, tables }

end NetboxOpenbao.QuickAdd
