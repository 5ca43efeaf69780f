import Mathlib.Logic.Function.Basic
import NetboxOpenbao.Administration.ClusterViews

/-!
# Removals of Raft peers next to each other

One Raft cluster and any number of requests to remove a peer of it, each of them in a view of its own. The cluster
answers a view's read with the configuration it has then. It applies a removal once, at some time after the view has
asked for it: before its answer, or after the view has given up on one.
-/

namespace NetboxOpenbao

open Effect

/-- The configuration after a removal, which the log has at the later index `index`. -/
def RaftConfiguration.remove (config : RaftConfiguration) (serverId : String) (index : Nat) : RaftConfiguration where
  index := config.index + index + 1
  peers := config.peers.filter fun peer => peer.nodeId != serverId

/-- The configuration, what is left of every view, which of the removals they wait for have been applied, and those
that no view waits for any more. -/
structure RaftSystem (σ : Type) where
  config : RaftConfiguration
  views : σ → Admin PlaneResponse
  applied : σ → Bool
  late : List String

/-- `answer` gives a view the answer it waits for, out of answers to anything it may have asked; an error for a removal
may leave the request on its way. -/
inductive RaftAction (σ : Type) where
  | answer (s : σ) (given : (r : AdminAsk) → Except Error r.Answer) (index : Nat) (onItsWay : Bool)
  | apply (s : σ) (index : Nat)
  | applyLate (position index : Nat)

namespace RaftSystem

variable {σ : Type} [DecidableEq σ]

def proceed (system : RaftSystem σ) (s : σ) (view : Admin PlaneResponse) : RaftSystem σ :=
  { system with views := Function.update system.views s view, applied := Function.update system.applied s false }

/-- The answer to a view that is in the middle of a request. -/
def answerTo (system : RaftSystem σ) (s : σ) (given : (r : AdminAsk) → Except Error r.Answer) (index : Nat)
    (onItsWay : Bool) : RaftSystem σ :=
  match system.views s with
  | Dialogue.done _ => system
  | Dialogue.ask .raftConfiguration next =>
      system.proceed s (next ((given .raftConfiguration).map fun _ => system.config))
  | Dialogue.ask (.removeRaftPeer serverId) next =>
      let after := system.proceed s (next (given (.removeRaftPeer serverId)))
      if system.applied s then after
      else match given (.removeRaftPeer serverId) with
        | .ok _ => { after with config := system.config.remove serverId index }
        | .error _ => if onItsWay then { after with late := serverId :: system.late } else after
  | Dialogue.ask r next => system.proceed s (next (given r))

def step (system : RaftSystem σ) (action : RaftAction σ) : RaftSystem σ :=
  match action with
  | .answer s given index onItsWay => system.answerTo s given index onItsWay
  | .apply s index =>
      match (system.views s).pending with
      | some (.removeRaftPeer serverId) =>
          if system.applied s then system
          else { system with
            config := system.config.remove serverId index, applied := Function.update system.applied s true }
      | _ => system
  | .applyLate position index =>
      match system.late[position]? with
      | some serverId =>
          { system with config := system.config.remove serverId index, late := system.late.eraseIdx position }
      | none => system

end RaftSystem

end NetboxOpenbao
