import NetboxOpenbao.QuickAdd
import NetboxOpenbao.Effect.Fallible

/-!
# What a quick-add does to a service that works

A service is reused with its address, and takes the mappings of the request that it does not have. So the connection of
a service that works can only change through the TCP ports among these: they leave it as it is when they are its own
port, and otherwise there are several and the connection is refused. It never leads to another host or port.
-/

namespace NetboxOpenbao.QuickAdd

open Effect

/-! ### The ports -/

/-- The distinct ports in order are one port when there is a port and no other. -/
theorem sorted_singleton_iff {ports : List Nat} {port : Nat} :
    ports.dedup.insertionSort (· ≤ ·) = [port] ↔ port ∈ ports ∧ ∀ other ∈ ports, other = port := by
  constructor
  · intro h
    have hperm : [port].Perm ports.dedup := h ▸ List.perm_insertionSort (· ≤ ·) ports.dedup
    have hmem : ∀ other, other ∈ ports ↔ other = port := fun other => by
      rw [← List.mem_dedup, ← hperm.mem_iff, List.mem_singleton]
    exact ⟨(hmem port).mpr rfl, fun other hother => (hmem other).mp hother⟩
  · rintro ⟨hport, hall⟩
    have hperm : ports.dedup.Perm [port] := by
      rw [List.perm_ext_iff_of_nodup (List.nodup_dedup ports) (List.nodup_singleton port)]
      intro other
      rw [List.mem_dedup, List.mem_singleton]
      exact ⟨hall other, fun h => h ▸ hport⟩
    rw [List.perm_singleton.mp hperm]
    rfl

/-- What the ports of a service with one address come to. -/
def connect (host : String) : List Nat → ServiceConnection
  | [] => .unusable .noTcpPort
  | [port] => .usable host port
  | _ :: _ :: _ => .unusable .multipleTcpPorts

theorem connect_usable {host host' : String} {ports : List Nat} {port : Nat}
    (h : connect host ports = .usable host' port) : host = host' ∧ ports = [port] := by
  match ports with
  | [_] =>
      obtain ⟨rfl, rfl⟩ := ServiceConnection.usable.inj h
      exact ⟨rfl, rfl⟩

theorem connect_sorted {host : String} {ports : List Nat} {port : Nat} (hport : port ∈ ports) :
    connect host (ports.dedup.insertionSort (· ≤ ·)) =
      if ∀ other ∈ ports, other = port then .usable host port else .unusable .multipleTcpPorts := by
  split
  next hall =>
    rw [sorted_singleton_iff.mpr ⟨hport, hall⟩]
    rfl
  next hother =>
    have hmem : port ∈ ports.dedup.insertionSort (· ≤ ·) := by
      rw [List.mem_insertionSort, List.mem_dedup]
      exact hport
    cases hsorted : ports.dedup.insertionSort (· ≤ ·) with
    | nil =>
        rw [hsorted] at hmem
        cases hmem
    | cons first rest =>
        cases rest with
        | nil =>
            obtain ⟨-, hall⟩ := sorted_singleton_iff.mp hsorted
            exact absurd (fun other h => (hall other h).trans (hall port hport).symm) hother
        | cons second rest => rfl

section Connection

variable [Digits]

theorem serviceConnection_single {service : Service} {address : IPAddress} (h : service.ipaddresses = [address]) :
    serviceConnection service = (tcpPorts service.portMappings).map (connect address.host) := by
  unfold serviceConnection
  rw [h]
  dsimp only
  cases tcpPorts service.portMappings with
  | error error => rfl
  | ok ports =>
      match ports with
      | [] => rfl
      | [_] => rfl
      | _ :: _ :: _ => rfl

theorem serviceConnection_usable {service : Service} {host : String} {port : Nat}
    (h : serviceConnection service = .ok (.usable host port)) :
    ∃ address, service.ipaddresses = [address] ∧ address.host = host ∧ tcpPorts service.portMappings = .ok [port] := by
  match haddresses : service.ipaddresses with
  | [] =>
      unfold serviceConnection at h
      rw [haddresses] at h
      cases h
  | [address] =>
      rw [serviceConnection_single haddresses] at h
      cases hports : tcpPorts service.portMappings with
      | error error =>
          rw [hports] at h
          cases h
      | ok ports =>
          rw [hports] at h
          obtain ⟨hhost, rfl⟩ := connect_usable (Except.ok.inj h)
          exact ⟨address, rfl, hhost, rfl⟩
  | _ :: _ :: _ =>
      unfold serviceConnection at h
      rw [haddresses] at h
      cases h

/-- More mappings keep a connection whose port is the only one among them. -/
theorem tcpPorts_append {mappings : List String} {port : Nat} (h : tcpPorts mappings = .ok [port]) (host : String)
    (added : List String) : (tcpPorts (mappings ++ added)).map (connect host) = (do
      let ports ← tcpPorts added
      .ok (if ∀ other ∈ ports, other = port then .usable host port else .unusable .multipleTcpPorts)) := by
  unfold tcpPorts at h ⊢
  obtain ⟨own, hown, hports⟩ := Fallible.bind_ok h
  obtain ⟨hport, hall⟩ := sorted_singleton_iff.mp (Except.ok.inj hports)
  rw [List.mapM_append, hown]
  cases added.mapM tcpPort with
  | error error => rfl
  | ok more =>
      have hunion : (∀ other ∈ (own ++ more).filterMap id, other = port) ↔
          ∀ other ∈ (more.filterMap id).dedup.insertionSort (· ≤ ·), other = port := by
        rw [List.filterMap_append]
        simp only [List.forall_mem_append, List.mem_insertionSort, List.mem_dedup]
        exact and_iff_right hall
      have hmem : port ∈ (own ++ more).filterMap id := by
        rw [List.filterMap_append]
        exact List.mem_append_left _ hport
      refine congrArg Except.ok ((connect_sorted hmem).trans ?_)
      exact if_congr hunion rfl rfl

end Connection

/-! ### The service -/

theorem Tables.mem_saveService {tables : Tables} {service row : Service} (hmem : row ∈ tables.services)
    (hpk : row.pk = service.pk) : service ∈ (tables.saveService service).services :=
  List.mem_map.mpr ⟨row, hmem, if_pos hpk⟩

theorem Tables.saveService_other {tables : Tables} {service other : Service} (hmem : other ∈ tables.services)
    (hpk : other.pk ≠ service.pk) : other ∈ (tables.saveService service).services :=
  List.mem_map.mpr ⟨other, hmem, if_neg hpk⟩

/-- What one step of the reuse does to a row: it keeps its key, and no other row changes. -/
structure Rewritten (service row : Service) (tables after : Tables) : Prop where
  pk : row.pk = service.pk
  mem : service ∈ tables.services → row ∈ after.services
  other : ∀ other ∈ tables.services, other.pk ≠ service.pk → other ∈ after.services

theorem Rewritten.refl (service : Service) (tables : Tables) : Rewritten service service tables tables :=
  ⟨rfl, id, fun _ hmem _ => hmem⟩

theorem Rewritten.save {service row : Service} (tables : Tables) (hpk : row.pk = service.pk) :
    Rewritten service row tables (tables.saveService row) where
  pk := hpk
  mem hmem := Tables.mem_saveService hmem hpk.symm
  other _ hmem hne := Tables.saveService_other hmem fun heq => hne (heq.trans hpk)

theorem Rewritten.trans {first second third : Service} {tables between after : Tables}
    (h : Rewritten first second tables between) (h' : Rewritten second third between after) :
    Rewritten first third tables after where
  pk := h'.pk.trans h.pk
  mem hmem := h'.mem (h.mem hmem)
  other other hmem hne := h'.other other (h.other other hmem hne) (h.pk ▸ hne)

theorem widen_ok {env : Environment} {user : Option User} {mappings : List String} {existing row : Service}
    {tables after : Tables} (h : widen env user mappings existing tables = .ok (row, after)) :
    row = { existing with portMappings := existing.portMappings ++ missing mappings existing } ∧
      Rewritten existing row tables after := by
  unfold widen at h
  split at h
  next hnone =>
    obtain ⟨rfl, rfl⟩ := Prod.mk.inj (Except.ok.inj h)
    rw [List.isEmpty_iff.mp hnone, List.append_nil]
    exact ⟨rfl, .refl existing tables⟩
  next =>
    obtain ⟨-, -, h⟩ := Fallible.bind_ok h
    obtain ⟨-, -, h⟩ := Fallible.bind_ok h
    obtain ⟨rfl, rfl⟩ := Prod.mk.inj (Except.ok.inj h)
    exact ⟨rfl, .save tables rfl⟩

theorem attach_ok {user : Option User} {addresses : List IPAddress} {existing row : Service} {tables after : Tables}
    (h : attach user addresses existing tables = .ok (row, after)) :
    (existing.ipaddresses ≠ [] → row = existing) ∧ Rewritten existing row tables after := by
  unfold attach at h
  split at h
  next =>
    obtain ⟨rfl, rfl⟩ := Prod.mk.inj (Except.ok.inj h)
    exact ⟨fun _ => rfl, .refl existing tables⟩
  next hattach =>
    obtain ⟨-, -, h⟩ := Fallible.bind_ok h
    obtain ⟨rfl, rfl⟩ := Prod.mk.inj (Except.ok.inj h)
    rw [Bool.or_eq_true, not_or, Bool.not_eq_true', Bool.not_eq_false, List.isEmpty_iff] at hattach
    exact ⟨fun hne => absurd (List.isEmpty_iff.mp hattach.2) hne, .save tables rfl⟩

theorem createService_ok {env : Environment} {user : Option User} {target : Target} {template : Option ServiceTemplate}
    {mappings : List String} {name : String} {addresses : List IPAddress} {row : Service} {tables after : Tables}
    (h : createService env user target template mappings name addresses tables = .ok (row, after)) :
    after.services = tables.services ++ [row] := by
  unfold createService at h
  obtain ⟨-, -, h⟩ := Fallible.bind_ok h
  obtain ⟨-, -, h⟩ := Fallible.bind_ok h
  obtain ⟨rfl, rfl⟩ := Prod.mk.inj (Except.ok.inj h)
  rfl

/-- Either a row of the tables is reused, or one is added. -/
theorem getOrCreateService_ok {env : Environment} {user : Option User} {target : Target}
    {template : Option ServiceTemplate} {port : Option Int} {name : String} {pks : List Nat} {row : Service}
    {created : Bool} {tables after : Tables}
    (h : getOrCreateService env user target template port name pks tables = .ok (row, created, after)) :
    (created = false ∧ ∃ existing ∈ tables.services, Rewritten existing row tables after ∧
      (existing.ipaddresses ≠ [] → row = { existing with
        portMappings := existing.portMappings ++ missing (portMappings template port) existing })) ∨
      (created = true ∧ after.services = tables.services ++ [row]) := by
  unfold getOrCreateService at h
  dsimp only at h
  split at h
  · cases h
  obtain ⟨addresses, -, h⟩ := Fallible.bind_ok h
  split at h
  next existing hfind =>
    split at h
    · cases h
    obtain ⟨⟨widened, between⟩, hwiden, h⟩ := Fallible.bind_ok h
    obtain ⟨⟨attached, last⟩, hattach, h⟩ := Fallible.bind_ok h
    obtain ⟨rfl, rfl, rfl⟩ := Prod.mk.inj (Except.ok.inj h) |>.imp id Prod.mk.inj
    obtain ⟨rfl, hwidened⟩ := widen_ok hwiden
    obtain ⟨hsame, hattached⟩ := attach_ok hattach
    exact Or.inl ⟨rfl, existing, List.mem_of_find?_eq_some hfind, hwidened.trans hattached, hsame⟩
  next =>
    obtain ⟨⟨service, last⟩, hcreate, h⟩ := Fallible.bind_ok h
    obtain ⟨rfl, rfl, rfl⟩ := Prod.mk.inj (Except.ok.inj h) |>.imp id Prod.mk.inj
    exact Or.inr ⟨rfl, createService_ok hcreate⟩

/-! ### The action -/

theorem connectionIpAddresses_services {env : Environment} {user : Option User} {target : Target}
    {ipAddresses pks : List Nat} {newAddress : String} {tables after : Tables}
    (h : connectionIpAddresses env user target ipAddresses newAddress tables = .ok (pks, after)) :
    after.services = tables.services := by
  unfold connectionIpAddresses at h
  split at h
  · cases h
  split at h
  · unfold newIpAddress at h
    split at h
    · dsimp only at h
      split at h
      · unfold createIpAddress at h
        split at h
        · cases h
        obtain ⟨-, -, h⟩ := Fallible.bind_ok h
        split at h
        · cases h
        obtain ⟨-, rfl⟩ := Prod.mk.inj (Except.ok.inj h)
        rfl
      · obtain ⟨-, rfl⟩ := Prod.mk.inj (Except.ok.inj h)
        rfl
      · cases h
    · cases h
  split at h
  · obtain ⟨-, rfl⟩ := Prod.mk.inj (Except.ok.inj h)
    rfl
  · obtain ⟨-, rfl⟩ := Prod.mk.inj (Except.ok.inj h)
    rfl

theorem quickAddSsh_ok {env : Environment} {request : Request} {before : Tables} {result : Result}
    (h : quickAddSsh env request before = .ok result) : ∃ pks tables, tables.services = before.services ∧
      getOrCreateService env request.user request.target request.template request.port (request.name env) pks tables =
        .ok (result.service, result.created, result.tables) := by
  unfold quickAddSsh at h
  obtain ⟨-, -, h⟩ := Fallible.bind_ok h
  obtain ⟨-, -, h⟩ := Fallible.bind_ok h
  obtain ⟨⟨pks, tables⟩, haddresses, h⟩ := Fallible.bind_ok h
  obtain ⟨⟨service, created, after⟩, hservice, h⟩ := Fallible.bind_ok h
  obtain ⟨-, -, h⟩ := Fallible.bind_ok h
  obtain ⟨credential, -, h⟩ := Fallible.bind_ok h
  obtain rfl := Except.ok.inj h
  exact ⟨pks, tables, connectionIpAddresses_services haddresses, hservice⟩

section Reuse

variable [Digits]

/-- A service that works and is reused keeps its address and takes the mappings of the request that it does not have.
It has the connection it had, if the TCP ports of these are its own, and otherwise one that is refused for several
ports. -/
theorem reused_service_connection (env : Environment) (request : Request) (before : Tables)
    (hkeyed : (before.services.map Service.pk).Nodup) (service : Service) (hmem : service ∈ before.services)
    (host : String) (port : Nat) (hconnection : serviceConnection service = .ok (.usable host port)) (result : Result)
    (h : quickAddSsh env request before = .ok result) (hcreated : result.created = false)
    (hreused : result.service.pk = service.pk) :
    result.service ∈ result.tables.services ∧ result.service.ipaddresses = service.ipaddresses ∧
      result.service.portMappings =
        service.portMappings ++ missing (portMappings request.template request.port) service ∧
      serviceConnection result.service = (do
        let ports ← tcpPorts (missing (portMappings request.template request.port) service)
        .ok (if ∀ other ∈ ports, other = port then .usable host port else .unusable .multipleTcpPorts)) ∧
      ∀ host' port', serviceConnection result.service = .ok (.usable host' port') → host' = host ∧ port' = port := by
  obtain ⟨pks, tables, hservices, hservice⟩ := quickAddSsh_ok h
  rcases getOrCreateService_ok hservice with ⟨-, existing, hexisting, hrewritten, hrow⟩ | ⟨htrue, -⟩
  · rw [hservices] at hexisting
    obtain rfl : existing = service :=
      List.inj_on_of_nodup_map hkeyed hexisting hmem (hrewritten.pk.symm.trans hreused)
    obtain ⟨address, haddresses, rfl, hports⟩ := serviceConnection_usable hconnection
    have hwidened := hrow (by rw [haddresses]; exact List.cons_ne_nil _ _)
    have hsame : result.service.ipaddresses = existing.ipaddresses := by rw [hwidened]
    have hafter : serviceConnection result.service = (do
        let ports ← tcpPorts (missing (portMappings request.template request.port) existing)
        .ok (if ∀ other ∈ ports, other = port then .usable address.host port else .unusable .multipleTcpPorts)) := by
      rw [serviceConnection_single (hsame.trans haddresses), hwidened]
      exact tcpPorts_append hports address.host _
    refine ⟨hrewritten.mem (hservices ▸ hmem), hsame, by rw [hwidened], hafter, fun host' port' hfound => ?_⟩
    rw [hafter] at hfound
    obtain ⟨ports, -, hfound⟩ := Fallible.bind_ok hfound
    split at hfound
    · obtain ⟨rfl, rfl⟩ := ServiceConnection.usable.inj (Except.ok.inj hfound)
      exact ⟨rfl, rfl⟩
    · cases hfound
  · rw [hcreated] at htrue
    cases htrue

end Reuse

/-- The digits of ASCII. -/
@[reducible] def Sample.digits : Digits where
  isDigit := Char.isDigit
  decimal c := if c.isDigit then some (c.toNat - '0'.toNat) else none
  ascii := by decide

def Sample.environment : Environment := ⟨fun _ => none, id, fun _ => none, fun _ => none⟩

/-- The SSH service of a device. -/
def Sample.service : Service :=
  ⟨1, 20, 7, "ssh", ["tcp/22"], "", [⟨3, "10.0.0.5/24", none, "10.0.0.5"⟩]⟩

def Sample.tables : Tables := ⟨[Sample.service], Sample.service.ipaddresses, 2, 4⟩

/-- Access for an existing credential, through the template of the SSH service and its management port. -/
def Sample.request (port : Option Int) : Request where
  target := ⟨20, 7, none⟩
  authMethod := "keypair"
  password := ""
  existingCredential := some 9
  privateKey := ""
  generate := false
  template := some ⟨"ssh", ["tcp/22", "udp/161"], ""⟩
  port
  serviceName := ""
  ipAddresses := []
  newIpAddress := ""
  user := none
  grant _ := .ok 9

/-- The service of the sample with more mappings. -/
def Sample.reused (added : List String) : Service :=
  { Sample.service with portMappings := Sample.service.portMappings ++ added }

def Sample.added (added : List String) : Result :=
  ⟨9, Sample.reused added, false, { Sample.tables with services := [Sample.reused added] }⟩

theorem sample_keyed : (Sample.tables.services.map Service.pk).Nodup := List.nodup_singleton 1

theorem sample_connection : @serviceConnection Sample.digits Sample.service = .ok (.usable "10.0.0.5" 22) :=
  Fallible.ok_of_toOption (by decide +kernel)

theorem quick_add_keeps_connection :
    (quickAddSsh Sample.environment (Sample.request none) Sample.tables).toOption.map Result.service =
      some (Sample.reused ["udp/161"]) ∧
    (Sample.reused ["udp/161"]).ipaddresses = Sample.service.ipaddresses ∧
    (Sample.reused ["udp/161"]).portMappings = Sample.service.portMappings ++
      missing (portMappings (Sample.request none).template (Sample.request none).port) Sample.service ∧
    @serviceConnection Sample.digits (Sample.reused ["udp/161"]) = .ok (.usable "10.0.0.5" 22) := by
  have hrun : quickAddSsh Sample.environment (Sample.request none) Sample.tables = .ok (Sample.added ["udp/161"]) :=
    Fallible.ok_of_toOption (by decide +kernel)
  obtain ⟨-, haddresses, hmappings, hafter, -⟩ := @reused_service_connection Sample.digits Sample.environment
    (Sample.request none) Sample.tables sample_keyed Sample.service List.mem_cons_self "10.0.0.5" 22
    sample_connection _ hrun rfl rfl
  have hresult : (quickAddSsh Sample.environment (Sample.request none) Sample.tables).toOption.map Result.service =
      some (Sample.reused ["udp/161"]) := by
    rw [hrun]
    rfl
  exact ⟨hresult, haddresses, hmappings, hafter.trans (Fallible.ok_of_toOption (by decide +kernel))⟩

/-- A request for another port is granted and leaves the service with two TCP ports. -/
theorem quick_add_breaks_connection : ¬ ∀ (_ : Digits) (env : Environment) (request : Request) (before : Tables),
    (before.services.map Service.pk).Nodup → ∀ service ∈ before.services, ∀ host port,
    serviceConnection service = .ok (.usable host port) → ∀ result,
    quickAddSsh env request before = .ok result → result.created = false → result.service.pk = service.pk →
    serviceConnection result.service = .ok (.usable host port) := by
  intro h
  have hrun : quickAddSsh Sample.environment (Sample.request (some 2222)) Sample.tables =
      .ok (Sample.added ["tcp/2222", "udp/161"]) := Fallible.ok_of_toOption (by decide +kernel)
  have hkept := h Sample.digits Sample.environment (Sample.request (some 2222)) Sample.tables sample_keyed
    Sample.service List.mem_cons_self "10.0.0.5" 22 sample_connection _ hrun rfl rfl
  have hrefused : @serviceConnection Sample.digits (Sample.reused ["tcp/2222", "udp/161"]) =
      .ok (.unusable .multipleTcpPorts) := Fallible.ok_of_toOption (by decide +kernel)
  have hsame := Except.ok.inj (hrefused.symm.trans hkept)
  cases hsame

end NetboxOpenbao.QuickAdd
