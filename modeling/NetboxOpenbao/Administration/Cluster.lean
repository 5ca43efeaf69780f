import NetboxOpenbao.Administration.Json

/-!
# Cluster state

The typed representations of what OpenBao reports about a cluster, and the normalizers that admit a response. Every
refusal is a `CapabilitySchemaError` naming the field.
-/

namespace NetboxOpenbao

namespace Cluster

def maxClusterJsonBytes : Nat := 1000000
def maxSnapshotBytes : Nat := 512 * 1024 * 1024

def invalid {α : Type} (fieldName : String) : Except Error α :=
  .error (.schema s!"OpenBao returned invalid {fieldName}.")

def mapping (value : Json) (fieldName : String) : Except Error JsonObject :=
  match value with
  | .dict entries => .ok entries
  | _ => invalid fieldName

def boolean (value : Json) (fieldName : String) : Except Error Bool :=
  match value with
  | .bool b => .ok b
  | _ => invalid fieldName

/-- `_integer` with its default minimum. -/
def integer (value : Json) (fieldName : String) : Except Error Nat :=
  match value with
  | .int (.ofNat n) => .ok n
  | _ => invalid fieldName

def string (value : Json) (fieldName : String) (maximum : Nat) (blank : Bool) : Except Error String :=
  match value with
  | .str s =>
      if s.length > maximum || s.toList.any (fun c => Text.control c || c.toNat == 127) then invalid fieldName
      else if !blank && s.isEmpty then invalid fieldName
      else .ok s
  | _ => invalid fieldName

def optionalString (value : Json) (fieldName : String) (maximum : Nat) : Except Error String :=
  match value with
  | .null => .ok ""
  | value => string value fieldName maximum true

end Cluster

structure SealStatus where
  initialized : Bool
  isSealed : Bool
  threshold : Nat
  shares : Nat
  progress : Nat
  version : String
  sealType : String
  migration : Bool
  recoverySeal : Bool
  storageType : String
  clusterName : String
  clusterId : String
deriving DecidableEq, Repr

structure LeaderStatus where
  haEnabled : Bool
  isSelf : Bool
  leaderAddress : String
  leaderClusterAddress : String
  activeTime : String
  raftCommittedIndex : Nat
  raftAppliedIndex : Nat
deriving DecidableEq, Repr

structure RaftPeer where
  nodeId : String
  address : String
  leader : Bool
  voter : Bool
  protocolVersion : String
deriving DecidableEq, Repr

structure RaftConfiguration where
  index : Nat
  peers : List RaftPeer
deriving DecidableEq, Repr

def RaftConfiguration.peer (configuration : RaftConfiguration) (nodeId : String) : Option RaftPeer :=
  configuration.peers.find? fun peer => peer.nodeId == nodeId

structure InitializationResult where
  keys : List String
  keysBase64 : List String
  recoveryKeys : List String
  recoveryKeysBase64 : List String
  rootToken : String
deriving DecidableEq, Repr

open Cluster

def normalizeSealStatus (payload : Json) : Except Error SealStatus := do
  let value ← mapping payload "seal status"
  let initialized ← boolean (value.get "initialized" .null) "initialized state"
  let isSealed ← boolean (value.get "sealed" .null) "sealed state"
  let threshold ← integer (value.get "t" (.int 0)) "seal threshold"
  let shares ← integer (value.get "n" (.int 0)) "seal share count"
  let progress ← integer (value.get "progress" (.int 0)) "unseal progress"
  let version ← optionalString (value.get "version" .null) "version" 64
  let sealType ← optionalString (value.get "type" .null) "seal type" 64
  let migration ← boolean (value.get "migration" (.bool false)) "migration state"
  let recoverySeal ← boolean (value.get "recovery_seal" (.bool false)) "recovery seal state"
  let storageType ← optionalString (value.get "storage_type" .null) "storage type" 64
  let clusterName ← optionalString (value.get "cluster_name" .null) "cluster name" 200
  let clusterId ← optionalString (value.get "cluster_id" .null) "cluster ID" 200
  return { initialized, isSealed, threshold, shares, progress, version, sealType, migration, recoverySeal,
           storageType, clusterName, clusterId }

def materialList (value : Json) (fieldName : String) : Except Error (List String) :=
  match value with
  | .null => .ok []
  | .list items =>
      if items.length > 64 then invalid fieldName else items.mapM fun item => string item fieldName 20000 false
  | _ => invalid fieldName

def normalizeInitializationResult (payload : Json) : Except Error InitializationResult := do
  let value ← mapping payload "initialization result"
  let keys ← materialList (value.get "keys" .null) "unseal keys"
  let keysBase64 ← materialList (value.get "keys_base64" .null) "base64 unseal keys"
  let recoveryKeys ← materialList (value.get "recovery_keys" .null) "recovery keys"
  let recoveryKeysBase64 ← materialList (value.get "recovery_keys_base64" .null) "base64 recovery keys"
  let rootToken ← string (value.get "root_token" (.str "")) "initial root token" 20000 false
  return { keys, keysBase64, recoveryKeys, recoveryKeysBase64, rootToken }

end NetboxOpenbao
