import NetboxOpenbao.Administration.Plane

/-!
# Cluster actions

The view that removes a Raft peer: it reads the configuration, checks the removal against what it has read, records that
it is authorized and then asks for it.
-/

namespace NetboxOpenbao

open Effect

variable [Packaging]

/-- The validated data of `RemoveRaftPeerSerializer`. -/
structure RemoveRaftPeerData where
  serverId : String
  configurationIndex : Nat
  reason : String
  confirmation : String

def RaftConfiguration.voterCount (config : RaftConfiguration) : Nat := config.peers.countP RaftPeer.voter

/-- The peer that may be removed from the configuration a request has read. -/
def removablePeer (config : RaftConfiguration) (data : RemoveRaftPeerData) : Except Error RaftPeer :=
  match config.peer data.serverId with
  | none => .error Error.conflict
  | some peer =>
      let stale := config.index != data.configurationIndex
      let isUnsafe := peer.leader || (peer.voter && config.voterCount ≤ 3)
      if stale || isUnsafe then .error Error.conflict else .ok peer

/-- An audit row about the removal. -/
def removePeerEntry (reason : String) : AuditEntry where
  action := "remove-raft-peer"
  operationId := "raft-remove-peer"
  riskLevel := "destructive"
  method := "POST"
  pathTemplate := "/sys/storage/raft/remove-peer"
  reason

/-- What is inside the `try` of the view. -/
def runRemoveRaftPeer (mode : ConnectionMode) (cluster : OpenBaoCluster) (request : PlaneRequest)
    (data : RemoveRaftPeerData) : Admin (RaftConfiguration × RaftPeer) := do
  Admin.ask .backend
  let status ← Admin.ask .sealStatus
  requireBaseline status
  let leader ← Admin.ask .leaderStatus
  Admin.raiseIf (!status.initialized || status.isSealed || status.storageType != "raft") Error.conflict
  Admin.raiseIf (leader.haEnabled && !leader.isSelf) Error.conflict
  let config ← Admin.ask .raftConfiguration
  let peer ← Admin.ofExcept (removablePeer config data)
  let nodeId := peer.nodeId
  logAdministration mode cluster request
    { removePeerEntry data.reason with
      action := "remove-raft-peer-authorized"
      message := s!"Authorized removal of Raft peer {nodeId}." } true
  Admin.ask (.removeRaftPeer nodeId)
  return (config, peer)

/-- `_mutation_unknown_response`. -/
def mutationUnknownResponse (mode : ConnectionMode) (cluster : OpenBaoCluster) (request : PlaneRequest)
    (entry : AuditEntry) : Admin PlaneResponse := do
  match ← (logAdministration mode cluster request
      { entry with
        outcome := "unknown"
        success := false
        statusCode := some 503
        message := "The cluster mutation outcome is unknown; no request material was retained." } false).attempt with
  | .ok _ => return unknownResponse "best-effort"
  | .error error =>
      if error.isAudit || error.isDatabase then return unknownResponse "failed" else Admin.raise error

def removeRaftPeer (mode : ConnectionMode) (request : PlaneRequest) (data : RemoveRaftPeerData) :
    Admin PlaneResponse := do
  let cluster ← Admin.ask (.cluster "remove_raft_peer")
  let expected := "REMOVE " ++ data.serverId ++ " FROM " ++ cluster.slug
  Admin.raiseIf (data.confirmation != expected) (.validation "confirmation" s!"Type exactly: {expected}")
  match ← (runRemoveRaftPeer mode cluster request data).attempt with
  | .error error =>
      if error.isUnknown then mutationUnknownResponse mode cluster request (removePeerEntry data.reason)
      else if error.isPlaneFailure || error.isDatabase then
        backendFailure mode cluster request "remove-raft-peer" data.reason "destructive" error
      else Admin.raise error
  | .ok (config, peer) => do
      let nodeId := peer.nodeId
      let complete ← logBestEffort mode cluster request
        { removePeerEntry data.reason with statusCode := some 200, message := s!"Removed Raft peer {nodeId}." }
      return mutationResponse
        [("removed", .str data.serverId), ("configuration_index", .int config.index)] complete

end NetboxOpenbao
