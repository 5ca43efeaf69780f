import Mathlib.Data.List.Nodup
import Mathlib.Data.List.Perm.Subperm
import NetboxOpenbao.Administration.RaftSystem
import NetboxOpenbao.Effect.Ahead
import NetboxOpenbao.Effect.Runs
import NetboxOpenbao.Proof.Administration.Explorer

/-!
# Removals and the quorum

A view removes the peer its check has let through, and only that one, and the check is made against the configuration
the view has read. Between that read and the removal other views may read the same configuration: the voters they are
let through to remove add up.
-/

namespace NetboxOpenbao

open Effect Dialogue Runs

/-! ### One view -/

/-- The view may still ask for the removal of `serverId` without reading the configuration again. -/
abbrev IsToRemove {α : Type} (view : Admin α) (serverId : String) : Prop :=
  view.Comes (· = .raftConfiguration) (.removeRaftPeer serverId)

/-- What follows an answer to the read: a removal is of the requested peer, which the check lets through. -/
def Checked {α : Type} (data : RemoveRaftPeerData) (answer : Except Error RaftConfiguration) (left : Admin α) : Prop :=
  ∀ serverId, IsToRemove left serverId →
    ∃ config peer, answer = .ok config ∧ removablePeer config data = .ok peer ∧ serverId = data.serverId

/-- What the check says of a peer it lets through. -/
theorem removablePeer_ok {config : RaftConfiguration} {data : RemoveRaftPeerData} {peer : RaftPeer}
    (h : removablePeer config data = .ok peer) :
    peer ∈ config.peers ∧ peer.nodeId = data.serverId ∧ peer.leader = false := by
  unfold removablePeer at h
  split at h
  · cases h
  · next found hfound =>
      dsimp only at h
      split at h
      · cases h
      · next hsafe =>
          obtain rfl := Except.ok.inj h
          have hname := List.find?_some hfound
          simp only [Bool.or_eq_true, not_or, Bool.not_eq_true] at hsafe
          exact ⟨List.mem_of_find?_eq_some hfound, by simpa using hname, hsafe.2.1⟩

section

variable {mode : ConnectionMode} {cluster : OpenBaoCluster} {request : PlaneRequest} {data : RemoveRaftPeerData}

theorem not_comes_logAdministration {skips : AdminAsk → Prop} {serverId : String} (entry : AuditEntry)
    (requireDurable : Bool) :
    ¬ (logAdministration mode cluster request entry requireDurable).Comes skips (.removeRaftPeer serverId) := by
  refine not_comes_of_avoids (logAdministration_avoids ?_ entry requireDurable)
  rintro r hlog rfl
  cases hlog

theorem mutationUnknownResponse_avoids {P : AdminAsk → Prop} (hP : ∀ r : AdminAsk, r.writesLog = true → ¬ P r)
    (entry : AuditEntry) : (mutationUnknownResponse mode cluster request entry).Avoids P := by
  refine Avoids.bind (logAdministration_avoids hP _ _).attempt fun outcome => ?_
  cases outcome with
  | ok u => exact Avoids.pure _
  | error error =>
      dsimp only
      split
      · exact Avoids.pure _
      · exact Admin.raise_avoids _

theorem no_log_is (r₀ : AdminAsk) (h : r₀.writesLog = false) : ∀ r : AdminAsk, r.writesLog = true → ¬ r = r₀ := by
  rintro r hlog rfl
  rw [h] at hlog
  cases hlog

variable [Packaging]

/-- After the read, a removal is of the peer that the check returns. -/
theorem runRemoveRaftPeer_after :
    (runRemoveRaftPeer mode cluster request data).After .raftConfiguration (Checked data) := by
  refine After.bind_avoids (Admin.ask_avoids nofun) fun _ => ?_
  refine After.bind_avoids (Admin.ask_avoids nofun) fun status => ?_
  refine After.bind_avoids (requireBaseline_avoids status) fun _ => ?_
  refine After.bind_avoids (Admin.ask_avoids nofun) fun leader => ?_
  refine After.bind_avoids (Admin.raiseIf_avoids _ _) fun _ => ?_
  refine After.bind_avoids (Admin.raiseIf_avoids _ _) fun _ => ?_
  refine After.request (fun config serverId hcomes => ?_) (fun _ _ hcomes => hcomes.elim) fun config => ?_
  · cases hpeer : removablePeer config data with
    | error error =>
        rw [hpeer] at hcomes
        exact hcomes.elim
    | ok peer =>
        rw [hpeer] at hcomes
        refine ⟨config, peer, rfl, hpeer, ?_⟩
        rcases (Comes.done_bind hcomes).bind with hlogs | ⟨⟨⟩, hcomes⟩
        · exact absurd hlogs (not_comes_logAdministration _ _)
        · rcases hcomes.bind with hasks | ⟨⟨⟩, hnever⟩
          · rcases hasks with hsame | ⟨-, answer, hnever⟩
            · have hnode : peer.nodeId = serverId := AdminAsk.removeRaftPeer.inj hsame
              exact hnode.symm.trans (removablePeer_ok hpeer).2.1
            · exact hnever.elim
          · exact hnever.elim
  · refine Avoids.bind (Admin.ofExcept_avoids _) fun peer => Avoids.bind (logAdministration_avoids ?_ _ _) fun _ =>
      Avoids.bind (Admin.ask_avoids nofun) fun _ => Avoids.pure _
    rintro r hlog rfl
    cases hlog

/-- Before the read no removal is ahead. -/
theorem not_isToRemove_run (serverId : String) : ¬ IsToRemove (runRemoveRaftPeer mode cluster request data) serverId := by
  intro hcomes
  unfold runRemoveRaftPeer at hcomes
  obtain ⟨-, hcomes⟩ := hcomes.after_avoids (Admin.ask_avoids nofun)
  obtain ⟨status, hcomes⟩ := hcomes.after_avoids (Admin.ask_avoids nofun)
  obtain ⟨⟨⟩, hcomes⟩ := hcomes.after_avoids (requireBaseline_avoids status)
  obtain ⟨leader, hcomes⟩ := hcomes.after_avoids (Admin.ask_avoids nofun)
  obtain ⟨⟨⟩, hcomes⟩ := hcomes.after_avoids (Admin.raiseIf_avoids _ _)
  obtain ⟨⟨⟩, hcomes⟩ := hcomes.after_avoids (Admin.raiseIf_avoids _ _)
  refine absurd hcomes (not_comes_of_skips rfl ?_)
  nofun

/-- The view is its `try` block between requests that neither read the configuration nor remove a peer. -/
theorem removeRaftPeer_eq (mode : ConnectionMode) (request : PlaneRequest) (data : RemoveRaftPeerData) :
    ∃ (check : OpenBaoCluster → Admin Unit)
        (settle : OpenBaoCluster → Except Error (RaftConfiguration × RaftPeer) → Admin PlaneResponse),
      removeRaftPeer mode request data = (Admin.ask (.cluster "remove_raft_peer") >>= fun cluster =>
        check cluster >>= fun _ => (runRemoveRaftPeer mode cluster request data).attempt >>= settle cluster) ∧
      (∀ cluster P, (check cluster).Avoids P) ∧
      ∀ cluster outcome P, (∀ r : AdminAsk, r.writesLog = true → ¬ P r) → (settle cluster outcome).Avoids P := by
  refine ⟨_, _, rfl, fun cluster P => Admin.raiseIf_avoids _ _, fun cluster outcome P hP => ?_⟩
  cases outcome with
  | ok pair =>
      obtain ⟨config, peer⟩ := pair
      exact Avoids.bind (logBestEffort_avoids hP _) fun _ => Avoids.pure _
  | error error =>
      dsimp only
      split
      · exact mutationUnknownResponse_avoids hP _
      · split
        · exact backendFailure_avoids hP _ _ _ _
        · exact Admin.raise_avoids _

theorem removeRaftPeer_after (mode : ConnectionMode) (request : PlaneRequest) (data : RemoveRaftPeerData) :
    (removeRaftPeer mode request data).After .raftConfiguration (Checked data) := by
  obtain ⟨check, settle, hview, hcheck, hsettle⟩ := removeRaftPeer_eq mode request data
  rw [hview]
  refine After.bind_avoids (Admin.ask_avoids nofun) fun cluster => ?_
  refine After.bind_avoids (hcheck cluster _) fun _ => ?_
  have hrun : (runRemoveRaftPeer mode cluster request data).attempt.After .raftConfiguration (Checked data) :=
    After.attempt runRemoveRaftPeer_after fun answer left hchecked serverId hcomes => hchecked serverId hcomes.attempt
  refine After.bind hrun (fun answer left hchecked serverId hcomes => ?_) fun outcome => ?_
  · rcases hcomes.bind with hfirst | ⟨outcome, hsecond⟩
    · exact hchecked serverId hfirst
    · exact absurd hsecond (not_comes_of_avoids (hsettle cluster outcome _ (no_log_is _ rfl)))
  · exact .of_avoids (hsettle cluster outcome _ (no_log_is _ rfl))

theorem not_isToRemove_removeRaftPeer (mode : ConnectionMode) (request : PlaneRequest) (data : RemoveRaftPeerData)
    (serverId : String) : ¬ IsToRemove (removeRaftPeer mode request data) serverId := by
  obtain ⟨check, settle, hview, hcheck, hsettle⟩ := removeRaftPeer_eq mode request data
  rw [hview]
  intro hcomes
  obtain ⟨cluster, hcomes⟩ := hcomes.after_avoids (Admin.ask_avoids nofun)
  obtain ⟨⟨⟩, hcomes⟩ := hcomes.after_avoids (hcheck cluster _)
  rcases hcomes.bind with hrun | ⟨outcome, hsettled⟩
  · exact not_isToRemove_run serverId hrun.attempt
  · exact not_comes_of_avoids (hsettle cluster outcome _ (no_log_is _ rfl)) hsettled

end

/-! ### Many views -/

/-- A peer of the configuration is a voter. -/
def RaftConfiguration.Voter (config : RaftConfiguration) (serverId : String) : Prop :=
  ∃ peer ∈ config.peers, peer.nodeId = serverId ∧ peer.voter = true

theorem voter_remove {config : RaftConfiguration} {serverId other : String} {index : Nat} (h : config.Voter serverId)
    (hne : serverId ≠ other) : (config.remove other index).Voter serverId := by
  obtain ⟨peer, hpeer, hname, hvoter⟩ := h
  refine ⟨peer, List.mem_filter.mpr ⟨hpeer, ?_⟩, hname, hvoter⟩
  rw [hname]
  exact bne_iff_ne.mpr hne

/-- As many voters as there are names of voters. -/
theorem length_le_voterCount {config : RaftConfiguration} {names : List String} (hnodup : names.Nodup)
    (hvoters : ∀ serverId ∈ names, config.Voter serverId) : names.length ≤ config.voterCount := by
  have hsubset : names ⊆ (config.peers.filter RaftPeer.voter).map RaftPeer.nodeId := by
    intro serverId hname
    obtain ⟨peer, hpeer, hsame, hvoter⟩ := hvoters serverId hname
    exact List.mem_map.mpr ⟨peer, List.mem_filter.mpr ⟨hpeer, hvoter⟩, hsame⟩
  have hle := (hnodup.subperm hsubset).length_le
  rwa [List.length_map, ← List.countP_eq_length_filter] at hle

namespace RaftSystem

variable {σ : Type} {system : RaftSystem σ}

/-- A view is to remove the peer, or the removal is still on its way. -/
def Targeted (system : RaftSystem σ) (serverId : String) : Prop :=
  (∃ s, IsToRemove (system.views s) serverId) ∨ serverId ∈ system.late

/-- These voters stay whatever is under way. -/
structure Stay (system : RaftSystem σ) (names : List String) : Prop where
  nodup : names.Nodup
  enough : 3 ≤ names.length
  voters : ∀ serverId ∈ names, system.config.Voter serverId
  free : ∀ serverId ∈ names, ¬ system.Targeted serverId

/-- What a view's check lets through leaves three voters that nothing under way is to remove. -/
def Spares (requests : σ → RemoveRaftPeerData) (system : RaftSystem σ) (action : RaftAction σ) : Prop :=
  ∀ s given index onItsWay read peer, action = .answer s given index onItsWay →
    (system.views s).pending = some .raftConfiguration → given .raftConfiguration = .ok read → removablePeer system.config (requests s) = .ok peer →
    ∃ names, system.Stay names ∧ (requests s).serverId ∉ names

/-- The configuration stays, or a removal that is under way is applied to it. -/
def Applies (system : RaftSystem σ) (config : RaftConfiguration) : Prop :=
  config = system.config ∨ ∃ serverId index, system.Targeted serverId ∧ config = system.config.remove serverId index

variable [DecidableEq σ]

/-- Everything a step can do: the cluster applies a removal, a view reads the configuration, or a view gets an answer to
anything else. -/
theorem step_cases (system : RaftSystem σ) (action : RaftAction σ) :
    ((system.step action).views = system.views ∧ (∀ serverId ∈ (system.step action).late, serverId ∈ system.late) ∧
        system.Applies (system.step action).config) ∨
      (∃ s given index onItsWay next, action = .answer s given index onItsWay ∧
        system.views s = Dialogue.ask .raftConfiguration next ∧
        system.step action = system.proceed s (next ((given .raftConfiguration).map fun _ => system.config))) ∨
      ∃ s r next answer, r ≠ .raftConfiguration ∧ system.views s = Dialogue.ask r next ∧
        (system.step action).views = Function.update system.views s (next answer) ∧
        (∀ serverId ∈ (system.step action).late, serverId ∈ system.late ∨ r = .removeRaftPeer serverId) ∧
        system.Applies (system.step action).config := by
  cases action with
  | apply s index =>
      refine .inl ?_
      unfold step
      dsimp only
      split
      · next serverId hpending =>
          split
          · exact ⟨rfl, fun _ h => h, .inl rfl⟩
          · exact ⟨rfl, fun _ h => h, .inr ⟨serverId, index, .inl ⟨s, .pending hpending⟩, rfl⟩⟩
      · exact ⟨rfl, fun _ h => h, .inl rfl⟩
  | applyLate position index =>
      refine .inl ?_
      unfold step
      dsimp only
      split
      · next serverId hlate =>
          exact ⟨rfl, fun _ h => List.mem_of_mem_eraseIdx h,
            .inr ⟨serverId, index, .inr (List.mem_of_getElem? hlate), rfl⟩⟩
      · exact ⟨rfl, fun _ h => h, .inl rfl⟩
  | answer s given index onItsWay =>
      unfold step
      dsimp only
      unfold answerTo
      split
      · exact .inl ⟨rfl, fun _ h => h, .inl rfl⟩
      · next next hview => exact .inr (.inl ⟨s, given, index, onItsWay, next, rfl, hview, rfl⟩)
      · next serverId next hview =>
          have htargeted : system.Targeted serverId := .inl ⟨s, .pending (by rw [hview]; rfl)⟩
          refine .inr (.inr ⟨s, _, next, given (.removeRaftPeer serverId), nofun, hview, ?_⟩)
          dsimp only
          split
          · exact ⟨rfl, fun _ h => .inl h, .inl rfl⟩
          · split
            · exact ⟨rfl, fun _ h => .inl h, .inr ⟨serverId, index, htargeted, rfl⟩⟩
            · split
              · refine ⟨rfl, fun other h => ?_, .inl rfl⟩
                rcases List.mem_cons.mp h with rfl | hold
                · exact .inr rfl
                · exact .inl hold
              · exact ⟨rfl, fun _ h => .inl h, .inl rfl⟩
      · next r next hread _ hview =>
          have hne : r ≠ .raftConfiguration := by
            rintro rfl
            exact hread next rfl HEq.rfl
          exact .inr (.inr ⟨s, r, next, given r, hne, hview, rfl, fun _ h => .inl h, .inl rfl⟩)

/-! ### What a step leaves -/

omit [DecidableEq σ] in
theorem targeted_of_wait {after : RaftSystem σ} (hviews : after.views = system.views)
    (hlate : ∀ serverId ∈ after.late, serverId ∈ system.late) {serverId : String} (h : after.Targeted serverId) :
    system.Targeted serverId := by
  rcases h with ⟨s, hcomes⟩ | hon
  · exact .inl ⟨s, hviews ▸ hcomes⟩
  · exact .inr (hlate serverId hon)

/-- An answer to anything but the read adds nothing to what is under way. -/
theorem targeted_of_answer {after : RaftSystem σ} {s : σ} {r : AdminAsk}
    {next : Except Error r.Answer → Admin PlaneResponse} {answer : Except Error r.Answer}
    (hread : r ≠ .raftConfiguration) (hview : system.views s = Dialogue.ask r next)
    (hviews : after.views = Function.update system.views s (next answer))
    (hlate : ∀ serverId ∈ after.late, serverId ∈ system.late ∨ r = .removeRaftPeer serverId) {serverId : String}
    (h : after.Targeted serverId) : system.Targeted serverId := by
  rcases h with ⟨t, hcomes⟩ | hon
  · rw [hviews] at hcomes
    by_cases hsame : t = s
    · subst hsame
      rw [Function.update_self] at hcomes
      exact .inl ⟨t, by rw [hview]; exact .answered hread hcomes⟩
    · rw [Function.update_of_ne hsame] at hcomes
      exact .inl ⟨t, hcomes⟩
  · rcases hlate serverId hon with hold | rfl
    · exact .inr hold
    · exact .inl ⟨s, by rw [hview]; exact .inl rfl⟩

omit [DecidableEq σ] in
theorem Applies.voter {config : RaftConfiguration} (h : system.Applies config) {serverId : String}
    (hvoter : system.config.Voter serverId) (hfree : ¬ system.Targeted serverId) : config.Voter serverId := by
  rcases h with rfl | ⟨other, index, htargeted, rfl⟩
  · exact hvoter
  · refine voter_remove hvoter ?_
    rintro rfl
    exact hfree htargeted

omit [DecidableEq σ] in
theorem Applies.peers {config : RaftConfiguration} (h : system.Applies config) {peer : RaftPeer}
    (hpeer : peer ∈ system.config.peers) (hfree : ¬ system.Targeted peer.nodeId) : peer ∈ config.peers := by
  rcases h with rfl | ⟨other, index, htargeted, rfl⟩
  · exact hpeer
  · refine List.mem_filter.mpr ⟨hpeer, bne_iff_ne.mpr ?_⟩
    rintro rfl
    exact hfree htargeted

omit [DecidableEq σ] in
theorem Applies.nodup {config : RaftConfiguration} (h : system.Applies config)
    (hnodup : (system.config.peers.map RaftPeer.nodeId).Nodup) : (config.peers.map RaftPeer.nodeId).Nodup := by
  rcases h with rfl | ⟨other, index, -, rfl⟩
  · exact hnodup
  · exact hnodup.sublist (List.filter_sublist.map _)

/-- The leader is there and no removal of it is under way; every view is as its own request has left it. -/
structure Sound (requests : σ → RemoveRaftPeerData) (leader : RaftPeer) (system : RaftSystem σ) : Prop where
  views : ∀ s, (system.views s).After .raftConfiguration (Checked (requests s))
  present : leader ∈ system.config.peers
  unique : (system.config.peers.map RaftPeer.nodeId).Nodup
  free : ¬ system.Targeted leader.nodeId

variable {requests : σ → RemoveRaftPeerData} {leader : RaftPeer}

/-- What a read adds to what is under way is the requested peer, let through against the configuration as it is. -/
theorem targeted_of_read (h : Sound requests leader system) {s : σ}
    {next : Except Error RaftConfiguration → Admin PlaneResponse}
    (hview : system.views s = Dialogue.ask .raftConfiguration next) {given : Except Error RaftConfiguration}
    {serverId : String} (hnew : (system.proceed s (next (given.map fun _ => system.config))).Targeted serverId) :
    system.Targeted serverId ∨
      ∃ read peer, given = .ok read ∧ removablePeer system.config (requests s) = .ok peer ∧
        serverId = (requests s).serverId := by
  rcases hnew with ⟨t, hcomes⟩ | hon
  · by_cases hsame : t = s
    · subst hsame
      have hchecked := (hview ▸ h.views t).1 rfl (given.map fun _ => system.config)
      simp only [proceed, Function.update_self] at hcomes
      obtain ⟨config, peer, hanswer, hpeer, hname⟩ := hchecked serverId hcomes
      cases given with
      | error error => cases hanswer
      | ok read =>
          cases hanswer
          exact .inr ⟨read, peer, rfl, hpeer, hname⟩
    · simp only [proceed, Function.update_of_ne hsame] at hcomes
      exact .inl (.inl ⟨t, hcomes⟩)
  · exact .inl (.inr hon)

omit [DecidableEq σ] in
/-- The check does not let the leader through. -/
theorem leader_not_removable (h : Sound requests leader system) (hleader : leader.leader = true)
    {data : RemoveRaftPeerData} {peer : RaftPeer} (hpeer : removablePeer system.config data = .ok peer) :
    leader.nodeId ≠ data.serverId := by
  intro hsame
  obtain ⟨hmem, hname, hnot⟩ := removablePeer_ok hpeer
  have heq := List.inj_on_of_nodup_map h.unique hmem h.present (hname.trans hsame.symm)
  rw [heq, hleader] at hnot
  cases hnot

theorem step_sound (hleader : leader.leader = true) (h : Sound requests leader system) (action : RaftAction σ) :
    Sound requests leader (system.step action) := by
  rcases step_cases system action with ⟨hviews, hlate, happlies⟩ | ⟨s, given, index, onItsWay, next, -, hview, hstep⟩ |
    ⟨s, r, next, answer, hread, hview, hviews, hlate, happlies⟩
  · exact
      { views := hviews ▸ h.views
        present := happlies.peers h.present h.free
        unique := happlies.nodup h.unique
        free := fun htargeted => h.free (targeted_of_wait hviews hlate htargeted) }
  · rw [hstep]
    refine { views := fun t => ?_, present := h.present, unique := h.unique, free := fun htargeted => ?_ }
    · by_cases hsame : t = s
      · subst hsame
        simpa [proceed] using (hview ▸ h.views t).2 ((given .raftConfiguration).map fun _ => system.config)
      · simpa [proceed, hsame] using h.views t
    · rcases targeted_of_read h hview htargeted with hold | ⟨read, peer, -, hpeer, hname⟩
      · exact h.free hold
      · exact leader_not_removable h hleader hpeer hname
  · refine
      { views := fun t => ?_
        present := happlies.peers h.present h.free
        unique := happlies.nodup h.unique
        free := fun htargeted => h.free (targeted_of_answer hread hview hviews hlate htargeted) }
    rw [hviews]
    by_cases hsame : t = s
    · subst hsame
      rw [Function.update_self]
      exact (hview ▸ h.views t).2 answer
    · rw [Function.update_of_ne hsame]
      exact h.views t

/-- Whether a view waits for the configuration. -/
def reads (system : RaftSystem σ) (s : σ) : Bool :=
  match system.views s with
  | Dialogue.ask .raftConfiguration _ => true
  | _ => false

omit [DecidableEq σ] in
theorem reads_of_pending {s : σ} (h : (system.views s).pending = some .raftConfiguration) : system.reads s = true := by
  unfold reads
  cases hview : system.views s with
  | done result =>
      rw [hview] at h
      cases h
  | ask r next =>
      rw [hview] at h
      obtain rfl : r = .raftConfiguration := Option.some.inj h
      rfl

omit [DecidableEq σ] in
theorem spares_of_not_reads {s : σ} (h : system.reads s = false) (given : (r : AdminAsk) → Except Error r.Answer)
    (index : Nat) (onItsWay : Bool) : Spares requests system (.answer s given index onItsWay) := by
  intro t _ _ _ _ _ hact hpending
  cases hact
  rw [reads_of_pending hpending] at h
  cases h

/-- Only a read adds to what is under way. -/
theorem targeted_of_step {s : σ} (h : system.reads s = false) {given : (r : AdminAsk) → Except Error r.Answer}
    {index : Nat} {onItsWay : Bool} {serverId : String}
    (hnow : (system.step (.answer s given index onItsWay)).Targeted serverId) : system.Targeted serverId := by
  rcases step_cases system (.answer s given index onItsWay) with ⟨hviews, hlate, -⟩ |
    ⟨t, _, _, _, next, hact, hview, -⟩ | ⟨t, r, next, answer, hread, hview, hviews, hlate, -⟩
  · exact targeted_of_wait hviews hlate hnow
  · cases hact
    rw [reads_of_pending (by rw [hview]; rfl)] at h
    cases h
  · exact targeted_of_answer hread hview hviews hlate hnow

omit [DecidableEq σ] in
/-- Voters that nothing under way is to remove stay when nothing is added to that. -/
theorem Stay.keeps {after : RaftSystem σ} {names : List String} (h : system.Stay names)
    (happlies : system.Applies after.config)
    (htargeted : ∀ serverId ∈ names, after.Targeted serverId → system.Targeted serverId) : after.Stay names where
  nodup := h.nodup
  enough := h.enough
  voters serverId hname := happlies.voter (h.voters serverId hname) (h.free serverId hname)
  free serverId hname hnow := h.free serverId hname (htargeted serverId hname hnow)

theorem step_stays (h : Sound requests leader system) {action : RaftAction σ}
    (hspares : Spares requests system action) (hstay : ∃ names, system.Stay names) :
    ∃ names, (system.step action).Stay names := by
  obtain ⟨names, hstay⟩ := hstay
  rcases step_cases system action with ⟨hviews, hlate, happlies⟩ | ⟨s, given, index, onItsWay, next, hact, hview, hstep⟩ |
    ⟨s, r, next, answer, hread, hview, hviews, hlate, happlies⟩
  · exact ⟨names, hstay.keeps happlies fun _ _ hnow => targeted_of_wait hviews hlate hnow⟩
  · rw [hstep]
    by_cases hlets : ∃ read peer, given .raftConfiguration = .ok read ∧
        removablePeer system.config (requests s) = .ok peer
    · obtain ⟨read, peer, hgiven, hpeer⟩ := hlets
      obtain ⟨spared, hspared, hnot⟩ := hspares s given index onItsWay read peer hact (by rw [hview]; rfl) hgiven hpeer
      refine ⟨spared, hspared.keeps (.inl rfl) fun serverId hname hnow => ?_⟩
      rcases targeted_of_read h hview hnow with hold | ⟨_, _, -, -, rfl⟩
      · exact hold
      · exact absurd hname hnot
    · refine ⟨names, hstay.keeps (.inl rfl) fun serverId _ hnow => ?_⟩
      rcases targeted_of_read h hview hnow with hold | ⟨read, peer, hgiven, hpeer, -⟩
      · exact hold
      · exact absurd ⟨read, peer, hgiven, hpeer⟩ hlets
  · exact ⟨names, hstay.keeps happlies fun _ _ hnow => targeted_of_answer hread hview hviews hlate hnow⟩

omit [DecidableEq σ] in
theorem Stay.quorum {names : List String} (h : system.Stay names) : 3 ≤ system.config.voterCount :=
  Nat.le_trans h.enough (length_le_voterCount h.nodup h.voters)

variable [Packaging]

/-- Every view is at its beginning, and nothing is on its way to a cluster with a leader and three voters. -/
structure Begun (system : RaftSystem σ) (mode : σ → ConnectionMode) (request : σ → PlaneRequest)
    (requests : σ → RemoveRaftPeerData) (leader : RaftPeer) : Prop where
  views : ∀ s, system.views s = removeRaftPeer (mode s) (request s) (requests s)
  late : system.late = []
  present : leader ∈ system.config.peers
  leads : leader.leader = true
  unique : (system.config.peers.map RaftPeer.nodeId).Nodup
  voters : 3 ≤ system.config.voterCount

variable {mode : σ → ConnectionMode} {request : σ → PlaneRequest}

omit [DecidableEq σ] in
theorem Begun.free (h : system.Begun mode request requests leader) (serverId : String) :
    ¬ system.Targeted serverId := by
  rintro (⟨s, hcomes⟩ | hon)
  · rw [h.views s] at hcomes
    exact not_isToRemove_removeRaftPeer _ _ _ _ hcomes
  · rw [h.late] at hon
    cases hon

omit [DecidableEq σ] in
theorem Begun.sound (h : system.Begun mode request requests leader) : Sound requests leader system where
  views s := by
    rw [h.views s]
    exact removeRaftPeer_after _ _ _
  present := h.present
  unique := h.unique
  free := h.free leader.nodeId

omit [DecidableEq σ] in
theorem Begun.stay (h : system.Begun mode request requests leader) : ∃ names, system.Stay names := by
  refine ⟨(system.config.peers.filter RaftPeer.voter).map RaftPeer.nodeId, ?_, ?_, ?_, fun serverId _ => h.free serverId⟩
  · exact h.unique.sublist (List.filter_sublist.map _)
  · rw [List.length_map, ← List.countP_eq_length_filter]
    exact h.voters
  · intro serverId hname
    obtain ⟨peer, hpeer, hsame⟩ := List.mem_map.mp hname
    exact ⟨peer, (List.mem_filter.mp hpeer).1, hsame, (List.mem_filter.mp hpeer).2⟩

end RaftSystem

/-- However the views are interleaved the leader is never removed; and there are three voters throughout every run in
which each check that lets a removal through leaves three voters that no removal under way is about. -/
theorem raft_removals_keep_quorum {σ : Type} [DecidableEq σ] [Packaging] (mode : σ → ConnectionMode)
    (request : σ → PlaneRequest) (requests : σ → RemoveRaftPeerData) (leader : RaftPeer) (system : RaftSystem σ)
    (hbegun : system.Begun mode request requests leader) (actions : List (RaftAction σ)) :
    Throughout RaftSystem.step (fun later => leader ∈ later.config.peers) system actions ∧
      (Along RaftSystem.step (RaftSystem.Spares requests) system actions →
        Throughout RaftSystem.step (fun later => 3 ≤ later.config.voterCount) system actions) := by
  constructor
  · have hsound : Throughout RaftSystem.step (RaftSystem.Sound requests leader) system actions :=
      throughout_of_step (P := RaftSystem.Sound requests leader)
        (fun _ action h => RaftSystem.step_sound hbegun.leads h action) hbegun.sound actions
    exact hsound.mono fun _ h => h.present
  · intro hspares
    have hstays : Throughout RaftSystem.step
        (fun later => RaftSystem.Sound requests leader later ∧ ∃ names, later.Stay names) system actions :=
      throughout_of_along (P := fun later => RaftSystem.Sound requests leader later ∧ ∃ names, later.Stay names)
        (fun _ action h hstep =>
          ⟨RaftSystem.step_sound hbegun.leads h.1 action, RaftSystem.step_stays h.1 hstep h.2⟩)
        ⟨hbegun.sound, hbegun.stay⟩ hspares
    refine hstays.mono fun later h => ?_
    obtain ⟨names, hstay⟩ := h.2
    exact hstay.quorum

namespace Sample

def raftPeer (nodeId : String) (leader : Bool) : RaftPeer where
  nodeId
  address := nodeId
  leader
  voter := true
  protocolVersion := "3"

def fourVoters : RaftConfiguration where
  index := 10
  peers := [raftPeer "a" true, raftPeer "b" false, raftPeer "c" false, raftPeer "d" false]

def removal (serverId : String) : RemoveRaftPeerData where
  serverId
  configurationIndex := 10
  reason := "maintenance"
  confirmation := "REMOVE " ++ serverId ++ " FROM bao"

/-- A connection in autocommit mode, outside any block. -/
def plainMode : ConnectionMode := ⟨false, true⟩

def operator : PlaneRequest := ⟨"r", "admin", true⟩

/-- Two requests, for two peers, with the index of the same configuration. -/
def twoRemovals (view : Bool) : RemoveRaftPeerData := removal (if view then "b" else "c")

def raftSystem : RaftSystem Bool where
  config := fourVoters
  views view := @removeRaftPeer packaging plainMode operator (twoRemovals view)
  applied _ := false
  late := []

/-- A server on which everything goes well. -/
def wellAnswered : (r : AdminAsk) → Except Error r.Answer
  | .cluster _ => .ok openBaoCluster
  | .sealStatus => .ok unsealed
  | .leaderStatus => .ok ⟨true, true, "", "", "", 0, 0⟩
  | .raftConfiguration => .ok fourVoters
  | .backend | .begin | .savepoint | .insertLog _ | .commit | .releaseSavepoint | .rollback | .rollbackToSavepoint
  | .removeRaftPeer _ => .ok ()
  | _ => .error (.raised "unexpected")

/-- The next `steps` answers to one view. -/
def answersTo (view : Bool) (steps : Nat) : List (RaftAction Bool) :=
  List.replicate steps (.answer view wellAnswered 0 false)

/-- Each view reads the configuration before the other removes its peer. -/
def interleavedRemovals : List (RaftAction Bool) :=
  answersTo true 5 ++ answersTo false 5 ++ answersTo true 4 ++ answersTo false 4

theorem raftSystem_begun :
    @RaftSystem.Begun Bool packaging raftSystem (fun _ => plainMode) (fun _ => operator) twoRemovals
      (raftPeer "a" true) :=
  @RaftSystem.Begun.mk Bool packaging _ _ _ _ _ (fun _ => rfl) rfl (by decide +kernel) rfl (by decide +kernel)
    (by decide +kernel)

/-- One of the two views removes its peer, and the other is not answered. -/
def oneRemoval : List (RaftAction Bool) := answersTo true 9

/-- The system after the first `steps` answers to that view. -/
def afterAnswers (steps : Nat) : RaftSystem Bool := final RaftSystem.step raftSystem (answersTo true steps)

theorem afterAnswers_free {steps : Nat} (hsteps : steps ≤ 4) (serverId : String) :
    ¬ (afterAnswers steps).Targeted serverId := by
  induction steps with
  | zero => exact @RaftSystem.Begun.free _ _ _ _ packaging _ _ raftSystem_begun serverId
  | succ steps ih =>
      have hquiet : (afterAnswers steps).reads true = false :=
        (by decide +kernel : ∀ steps < 4, (afterAnswers steps).reads true = false) steps (by omega)
      have hnext : afterAnswers (steps + 1) =
          (afterAnswers steps).step (.answer true wellAnswered 0 false) := by
        rw [afterAnswers, answersTo, List.replicate_succ', final_append]
        rfl
      rw [hnext]
      exact fun hnow => ih (by omega) (RaftSystem.targeted_of_step hquiet hnow)

theorem afterAnswers_stay : (afterAnswers 4).Stay ["a", "c", "d"] where
  nodup := by decide
  enough := Nat.le_refl 3
  voters := by
    have hconfig : (afterAnswers 4).config = fourVoters := by decide +kernel
    rw [hconfig]
    have hfound : ∀ serverId ∈ ["a", "c", "d"],
        ∃ peer ∈ fourVoters.peers, peer.nodeId = serverId ∧ peer.voter = true := by decide +kernel
    exact hfound
  free serverId _ := afterAnswers_free (Nat.le_refl 4) serverId

theorem oneRemoval_spares : Along RaftSystem.step (RaftSystem.Spares twoRemovals) raftSystem oneRemoval := by
  have hquiet : ∀ steps < 9, steps ≠ 4 → (afterAnswers steps).reads true = false := by decide +kernel
  have hother : ∀ steps < 9, steps ≠ 4 →
      RaftSystem.Spares twoRemovals (afterAnswers steps) (.answer true wellAnswered 0 false) :=
    fun steps hlt hne => RaftSystem.spares_of_not_reads (hquiet steps hlt hne) _ _ _
  refine ⟨hother 0 (by omega) (by omega), hother 1 (by omega) (by omega), hother 2 (by omega) (by omega),
    hother 3 (by omega) (by omega), ?_, hother 5 (by omega) (by omega), hother 6 (by omega) (by omega),
    hother 7 (by omega) (by omega), hother 8 (by omega) (by omega), trivial⟩
  intro view _ _ _ _ _ hact _ _ _
  cases hact
  exact ⟨["a", "c", "d"], afterAnswers_stay, by decide⟩

end Sample

theorem raft_removals_keep_quorum_one :
    Throughout RaftSystem.step (fun later => Sample.raftPeer "a" true ∈ later.config.peers) Sample.raftSystem
        Sample.oneRemoval ∧
      Throughout RaftSystem.step (fun later => 3 ≤ later.config.voterCount) Sample.raftSystem Sample.oneRemoval := by
  have hall := @raft_removals_keep_quorum Bool _ Sample.packaging _ _ _ _ _ Sample.raftSystem_begun Sample.oneRemoval
  exact ⟨hall.1, hall.2 Sample.oneRemoval_spares⟩

/-- Two requests with the index of one configuration of four voters leave two. -/
theorem interleaved_removals_break_quorum :
    ¬ ∀ (system : RaftSystem Bool) (requests : Bool → RemoveRaftPeerData) (leader : RaftPeer)
        (actions : List (RaftAction Bool)),
        @RaftSystem.Begun Bool Sample.packaging system (fun _ => Sample.plainMode) (fun _ => Sample.operator) requests
          leader →
        Throughout RaftSystem.step (fun later => 3 ≤ later.config.voterCount) system actions := by
  intro hall
  have hquorum := (hall _ _ _ Sample.interleavedRemovals Sample.raftSystem_begun).final
  have htwo : (final RaftSystem.step Sample.raftSystem Sample.interleavedRemovals).config.voterCount = 2 := by
    decide +kernel
  rw [htwo] at hquorum
  exact absurd hquorum (by decide)

end NetboxOpenbao
