import NetboxOpenbao.ApplicationServices
import NetboxOpenbao.Effect.Fallible

/-!
# What dropping the service endpoints keeps

The invariant of the loop over the live endpoints says, of every endpoint visited so far, that its login assignment is
there with its pin and that its keys are on its service. Two visited endpoints can only meet on one assignment with one
pin, since the check before the loop has found no conflict, and on one key never, since a key has one endpoint.
-/

namespace NetboxOpenbao.Migration

open Effect

/-! ### The statement -/

/-- The row of a login assignment is looked up by these three, with the purpose. -/
def CredentialAssignment.loginOf (assignment : CredentialAssignment) (credential serviceType service : Nat) : Prop :=
  assignment.credential = credential ∧ assignment.assignedObjectType = serviceType ∧
    assignment.assignedObjectId = service ∧ assignment.purpose = "login"

def CredentialAssignment.setting (assignment : CredentialAssignment) : String × Bool :=
  (assignment.sshKnownHostsEntry, assignment.sshStrictHostKeyChecking)

namespace Database

/-- The endpoint is attached to an existing Application Service. -/
def Live (database : Database) (endpoint : ServiceEndpoint) : Prop :=
  ∃ serviceType, database.serviceType = some serviceType ∧ endpoint ∈ database.liveEndpoints serviceType

/-- The one login assignment of a live endpoint's credential, with the endpoint's pin if it has one. -/
def Assigned (assignments : List CredentialAssignment) (serviceType : Nat) (endpoint : ServiceEndpoint) : Prop :=
  ∀ credential, endpoint.credential = some credential →
    (∃ assignment ∈ assignments, assignment.loginOf credential serviceType endpoint.assignedObjectId) ∧
      ∀ assignment ∈ assignments, assignment.loginOf credential serviceType endpoint.assignedObjectId →
        endpoint.pinned = true → assignment.setting = endpoint.setting

/-- What the step keeps of the rows it gives up. -/
structure Carried (before after : Database) : Prop where
  assigned : ∀ serviceType, before.serviceType = some serviceType →
    ∀ endpoint ∈ before.liveEndpoints serviceType, Assigned after.assignments serviceType endpoint
  keys : ∀ endpoint, before.Live endpoint → ∀ key ∈ before.keys, key.serviceEndpoint = endpoint.pk →
    ∃ kept ∈ after.keys, kept.user = key.user ∧ kept.applicationService = some endpoint.assignedObjectId ∧
      Text.strip kept.publicKey = Text.strip key.publicKey
  unique : (after.keys.map fun key => (key.user, key.applicationService)).Nodup

/-- Two live endpoints demand different host-key settings of one assignment. -/
def PinsConflict (database : Database) : Prop :=
  ∃ a b, database.Live a ∧ database.Live b ∧ a.credential.isSome ∧ a.pinned = true ∧ b.pinned = true ∧
    a.slot = b.slot ∧ a.setting ≠ b.setting

/-- Two keys of live endpoints demand to be one user's key on one service, and differ. -/
def KeysConflict (database : Database) : Prop :=
  ∃ a b, database.Live a ∧ database.Live b ∧ a.assignedObjectId = b.assignedObjectId ∧
    ∃ key ∈ database.keys, ∃ other ∈ database.keys, key.serviceEndpoint = a.pk ∧ other.serviceEndpoint = b.pk ∧
      key.user = other.user ∧ Text.strip key.publicKey ≠ Text.strip other.publicKey

/-! ### The login assignment -/

theorem mem_matching {assignments : List CredentialAssignment} {credential serviceType service : Nat}
    {assignment : CredentialAssignment} :
    (assignment ∈ assignments.filter fun assignment =>
        assignment.credential == credential && assignment.assignedObjectType == serviceType &&
          assignment.assignedObjectId == service && assignment.purpose == "login") ↔
      assignment ∈ assignments ∧ assignment.loginOf credential serviceType service := by
  rw [List.mem_filter, CredentialAssignment.loginOf]
  simp only [Bool.and_eq_true, beq_iff_eq, and_assoc]

/-- What `get_or_create` returns: the only login assignment of the credential and the service, after which the table
has it and the rows it had. -/
structure Got (database : Database) (credential serviceType service : Nat) (assignment : CredentialAssignment)
    (after : Database) : Prop where
  login : assignment.loginOf credential serviceType service
  only : ∀ other ∈ after.assignments, other.loginOf credential serviceType service → other = assignment
  mem : ∀ other, other ∈ after.assignments ↔ other ∈ database.assignments ∨ other = assignment
  keyed : (after.assignments.map CredentialAssignment.pk).Nodup
  keys : after.keys = database.keys

theorem getOrCreateLogin_got {database after : Database} {serviceType credential service : Nat} {enabled : Bool}
    {assignment : CredentialAssignment} (hkeyed : (database.assignments.map CredentialAssignment.pk).Nodup)
    (h : database.getOrCreateLogin serviceType credential service enabled = .ok (assignment, after)) :
    Got database credential serviceType service assignment after := by
  unfold getOrCreateLogin at h
  dsimp only at h
  split at h
  next found hfound =>
      obtain ⟨rfl, rfl⟩ := Prod.mk.inj (Except.ok.inj h)
      have hmem : ∀ other, other ∈ database.assignments ∧ other.loginOf credential serviceType service ↔
          other = found := by
        intro other
        rw [← mem_matching, hfound, List.mem_singleton]
      obtain ⟨hfoundMem, hlogin⟩ := (hmem found).mpr rfl
      refine ⟨hlogin, fun other hother hsame => (hmem other).mp ⟨hother, hsame⟩, fun other => ?_, hkeyed, rfl⟩
      exact ⟨Or.inl, fun hother => hother.elim id fun hsame => hsame ▸ hfoundMem⟩
  next hnone =>
      split at h
      · cases h
      next hfresh =>
        obtain ⟨rfl, rfl⟩ := Prod.mk.inj (Except.ok.inj h)
        refine ⟨⟨rfl, rfl, rfl, rfl⟩, fun other hother hsame => ?_, fun other => ?_, ?_, rfl⟩
        · rcases List.mem_append.mp hother with hother | hother
          · have hmatching := mem_matching.mpr ⟨hother, hsame⟩
            rw [hnone] at hmatching
            cases hmatching
          · exact List.mem_singleton.mp hother
        · rw [List.mem_append, List.mem_singleton]
        · rw [List.map_append, List.map_singleton]
          refine hkeyed.append (List.nodup_singleton _) (List.disjoint_singleton.mpr fun hmem => hfresh ?_)
          obtain ⟨other, hother, hpk⟩ := List.mem_map.mp hmem
          exact List.any_eq_true.mpr ⟨other, hother, beq_iff_eq.mpr hpk⟩
  next => cases h

/-! ### Saving the pin -/

theorem savePin_pks (database : Database) (pk : Nat) (endpoint : ServiceEndpoint) :
    (database.savePin pk endpoint).assignments.map CredentialAssignment.pk =
      database.assignments.map CredentialAssignment.pk := by
  unfold savePin
  rw [List.map_map]
  refine List.map_congr_left fun assignment _ => ?_
  rw [Function.comp]
  split
  · rfl
  · rfl

/-- A row after the pin has been saved: it has the columns of a row before, and the pin if it is the one saved. -/
theorem mem_savePin {database : Database} {pk : Nat} {endpoint : ServiceEndpoint} {assignment : CredentialAssignment}
    (h : assignment ∈ (database.savePin pk endpoint).assignments) :
    ∃ other ∈ database.assignments, assignment.pk = other.pk ∧
      (∀ credential serviceType service, assignment.loginOf credential serviceType service ↔
        other.loginOf credential serviceType service) ∧
      (other.pk = pk → assignment.setting = endpoint.setting) ∧ (other.pk ≠ pk → assignment = other) := by
  obtain ⟨other, hother, hsame⟩ := List.mem_map.mp h
  refine ⟨other, hother, ?_⟩
  by_cases hpk : other.pk = pk
  · rw [if_pos hpk] at hsame
    subst hsame
    exact ⟨rfl, fun _ _ _ => Iff.rfl, fun _ => rfl, fun hne => absurd hpk hne⟩
  · rw [if_neg hpk] at hsame
    subst hsame
    exact ⟨rfl, fun _ _ _ => Iff.rfl, fun heq => absurd heq hpk, fun _ => rfl⟩

theorem savePin_login {database : Database} {pk : Nat} {endpoint : ServiceEndpoint} {assignment : CredentialAssignment}
    {credential serviceType service : Nat} (hmem : assignment ∈ database.assignments)
    (hlogin : assignment.loginOf credential serviceType service) :
    ∃ saved ∈ (database.savePin pk endpoint).assignments, saved.loginOf credential serviceType service := by
  refine ⟨_, List.mem_map_of_mem hmem, ?_⟩
  split
  · exact hlogin
  · exact hlogin

/-! ### One endpoint -/

/-- Getting the login assignment of one endpoint keeps what has been said of another. -/
theorem Got.assigned {database after : Database} {credential serviceType service : Nat}
    {assignment : CredentialAssignment} (h : Got database credential serviceType service assignment after)
    {endpoint : ServiceEndpoint} (hassigned : Assigned database.assignments serviceType endpoint) :
    Assigned after.assignments serviceType endpoint := by
  intro other hcredential
  obtain ⟨⟨found, hfound, hlogin⟩, hpin⟩ := hassigned other hcredential
  refine ⟨⟨found, (h.mem found).mpr (.inl hfound), hlogin⟩, fun row hrow hsame hpinned => ?_⟩
  rcases (h.mem row).mp hrow with hrow | rfl
  · exact hpin row hrow hsame hpinned
  · -- The row that was got is the one there was, as a login assignment of these two is unique.
    have hlogins : found.loginOf credential serviceType service := by
      obtain ⟨hc, -, hs, -⟩ := hsame
      obtain ⟨hc', -, hs', -⟩ := h.login
      rw [← hc', ← hs', hc, hs]
      exact hlogin
    have heq : found = row := h.only found ((h.mem found).mpr (.inl hfound)) hlogins
    exact heq ▸ hpin found hfound hlogin hpinned

/-- The rows a save of the pin has written are those of the endpoint's own login assignment. -/
theorem Got.saved {database after : Database} {serviceType credential : Nat} {assignment : CredentialAssignment}
    {endpoint : ServiceEndpoint} (h : Got database credential serviceType endpoint.assignedObjectId assignment after)
    {row : CredentialAssignment} (hrow : row ∈ (after.savePin assignment.pk endpoint).assignments) :
    (row.loginOf credential serviceType endpoint.assignedObjectId ∧ row.setting = endpoint.setting) ∨
      (row ∈ after.assignments ∧ ¬row.loginOf credential serviceType endpoint.assignedObjectId) := by
  obtain ⟨other, hother, -, hlogin, hwritten, hkept⟩ := mem_savePin hrow
  by_cases hpk : other.pk = assignment.pk
  · have hmem : assignment ∈ after.assignments := (h.mem assignment).mpr (.inr rfl)
    have heq : other = assignment := List.inj_on_of_nodup_map h.keyed hother hmem hpk
    exact .inl ⟨(hlogin _ _ _).mpr (heq ▸ h.login), hwritten hpk⟩
  · rw [hkept hpk]
    exact .inr ⟨hother, fun hsame => hpk (congrArg CredentialAssignment.pk (h.only other hother hsame))⟩

/-- Two endpoints that would pin one login assignment agree on the pin. -/
def Agree (a b : ServiceEndpoint) : Prop :=
  a.credential.isSome → a.pinned = true → b.pinned = true → a.slot = b.slot → a.setting = b.setting

theorem savePin_assigned {database after : Database} {serviceType credential : Nat} {assignment : CredentialAssignment}
    {endpoint other : ServiceEndpoint}
    (h : Got database credential serviceType endpoint.assignedObjectId assignment after)
    (hcredential : endpoint.credential = some credential) (hpinned : endpoint.pinned = true)
    (hagree : Agree endpoint other) (hassigned : Assigned after.assignments serviceType other) :
    Assigned (after.savePin assignment.pk endpoint).assignments serviceType other := by
  intro credential' hcredential'
  obtain ⟨⟨found, hfound, hlogin⟩, hpin⟩ := hassigned credential' hcredential'
  refine ⟨savePin_login hfound hlogin, fun row hrow hsame hpinned' => ?_⟩
  rcases h.saved hrow with ⟨hown, hsetting⟩ | ⟨hrow, -⟩
  · have hslot : endpoint.slot = other.slot := by
      rw [ServiceEndpoint.slot, ServiceEndpoint.slot, hcredential, hcredential', ← hown.1, ← hsame.1, ← hown.2.2.1,
        ← hsame.2.2.1]
    rw [hsetting]
    exact hagree (by rw [hcredential]; rfl) hpinned hpinned' hslot
  · exact hpin row hrow hsame hpinned'

/-- What carrying one endpoint's credential over does to the assignments. -/
theorem carryCredential_ok {database after : Database} {serviceType : Nat} {endpoint : ServiceEndpoint}
    (hkeyed : (database.assignments.map CredentialAssignment.pk).Nodup)
    (h : database.carryCredential serviceType endpoint = .ok after) :
    (after.assignments.map CredentialAssignment.pk).Nodup ∧ after.keys = database.keys ∧
      Assigned after.assignments serviceType endpoint ∧
      ∀ other, Agree endpoint other → Assigned database.assignments serviceType other →
        Assigned after.assignments serviceType other := by
  unfold carryCredential at h
  cases hcredential : endpoint.credential with
  | none =>
      rw [hcredential] at h
      obtain rfl := Except.ok.inj h
      refine ⟨hkeyed, rfl, fun credential hsome => ?_, fun _ _ hassigned => hassigned⟩
      rw [hcredential] at hsome
      cases hsome
  | some credential =>
      rw [hcredential] at h
      obtain ⟨enabled, -, hcarried⟩ := Fallible.bind_ok h
      obtain ⟨⟨assignment, between⟩, hget, hafter⟩ := Fallible.bind_ok hcarried
      replace hafter := Except.ok.inj hafter
      have hgot := getOrCreateLogin_got hkeyed hget
      have hmem : assignment ∈ between.assignments := (hgot.mem assignment).mpr (.inr rfl)
      cases hpinned : endpoint.pinned with
      | false =>
          rw [hpinned, if_neg Bool.false_ne_true] at hafter
          subst hafter
          refine ⟨hgot.keyed, hgot.keys, fun credential' hsome => ?_, fun _ _ => hgot.assigned⟩
          obtain rfl := Option.some.inj (hcredential.symm.trans hsome)
          refine ⟨⟨assignment, hmem, hgot.login⟩, fun _ _ _ hpin => ?_⟩
          rw [hpinned] at hpin
          cases hpin
      | true =>
          rw [hpinned, if_pos rfl] at hafter
          subst hafter
          refine ⟨?_, hgot.keys, fun credential' hsome => ?_, fun other hagree hassigned =>
            savePin_assigned hgot hcredential hpinned hagree (hgot.assigned hassigned)⟩
          · rw [savePin_pks]
            exact hgot.keyed
          · obtain rfl := Option.some.inj (hcredential.symm.trans hsome)
            refine ⟨savePin_login hmem hgot.login, fun row hrow hlogin _ => ?_⟩
            rcases hgot.saved hrow with ⟨-, hsetting⟩ | ⟨-, hother⟩
            · exact hsetting
            · exact absurd hlogin hother

/-! ### The loop -/

/-- The invariant of the loop over the live endpoints. -/
structure Visited (before : Database) (serviceType : Nat) (visited : List ServiceEndpoint) (database : Database) :
    Prop where
  keyed : (database.assignments.map CredentialAssignment.pk).Nodup
  pks : database.keys.map SSHPublicKey.pk = before.keys.map SSHPublicKey.pk
  assigned : ∀ endpoint ∈ visited, Assigned database.assignments serviceType endpoint
  keys : ∀ key ∈ before.keys, ∃ service, { key with applicationService := service } ∈ database.keys ∧
    ∀ endpoint ∈ visited, key.serviceEndpoint = endpoint.pk → service = some endpoint.assignedObjectId

/-- The endpoints the loop goes over: no two of one primary key, and no two that disagree on a pin. -/
structure Mergeable (endpoints : List ServiceEndpoint) : Prop where
  keyed : (endpoints.map ServiceEndpoint.pk).Nodup
  agree : ∀ a ∈ endpoints, ∀ b ∈ endpoints, Agree a b

theorem moveKeys_pks (database : Database) (endpoint : ServiceEndpoint) :
    (database.moveKeys endpoint).keys.map SSHPublicKey.pk = database.keys.map SSHPublicKey.pk := by
  unfold moveKeys
  rw [List.map_map]
  refine List.map_congr_left fun key _ => ?_
  rw [Function.comp]
  split
  · rfl
  · rfl

theorem carryEndpoint_visited {before database after : Database} {serviceType : Nat} {endpoints : List ServiceEndpoint}
    (hmergeable : Mergeable endpoints) {visited : List ServiceEndpoint} (hvisited : ∀ e ∈ visited, e ∈ endpoints)
    {endpoint : ServiceEndpoint} (hendpoint : endpoint ∈ endpoints)
    (h : Visited before serviceType visited database) (hrun : carryEndpoint serviceType database endpoint = .ok after) :
    Visited before serviceType (visited ++ [endpoint]) after := by
  obtain ⟨between, hcarried, hmoved⟩ := Fallible.bind_ok hrun
  obtain rfl := Except.ok.inj hmoved
  obtain ⟨hkeyed, hkeys, hown, hothers⟩ := carryCredential_ok h.keyed hcarried
  refine ⟨hkeyed, ?_, fun other hother => ?_, fun key hkey => ?_⟩
  · rw [moveKeys_pks, hkeys, h.pks]
  · rcases List.mem_append.mp hother with hother | hother
    · exact hothers other (hmergeable.agree endpoint hendpoint other (hvisited other hother)) (h.assigned other hother)
    · rw [List.mem_singleton.mp hother]
      exact hown
  · obtain ⟨service, hmem, hservice⟩ := h.keys key hkey
    rw [← hkeys] at hmem
    have hmoved := List.mem_map_of_mem (f := fun key : SSHPublicKey =>
      if key.serviceEndpoint = endpoint.pk then { key with applicationService := some endpoint.assignedObjectId }
      else key) hmem
    by_cases hpk : key.serviceEndpoint = endpoint.pk
    · rw [if_pos hpk] at hmoved
      refine ⟨some endpoint.assignedObjectId, hmoved, fun other hother hsame => ?_⟩
      rcases List.mem_append.mp hother with hother | hother
      · -- An endpoint visited before that has this key is this endpoint.
        have heq : other = endpoint := List.inj_on_of_nodup_map hmergeable.keyed (hvisited other hother) hendpoint
          (hsame.symm.trans hpk)
        rw [heq]
      · rw [List.mem_singleton.mp hother]
    · rw [if_neg hpk] at hmoved
      refine ⟨service, hmoved, fun other hother hsame => ?_⟩
      rcases List.mem_append.mp hother with hother | hother
      · exact hservice other hother hsame
      · rw [List.mem_singleton.mp hother] at hsame
        exact absurd hsame hpk

theorem loop_visited {before after : Database} {serviceType : Nat} {endpoints : List ServiceEndpoint}
    (hkeyed : before.Keyed) (hmergeable : Mergeable endpoints)
    (hrun : endpoints.foldlM (carryEndpoint serviceType) before = .ok after) :
    Visited before serviceType endpoints after := by
  have hstart : Visited before serviceType [] before :=
    ⟨hkeyed.assignments, rfl, nofun, fun key hkey => ⟨key.applicationService, hkey, nofun⟩⟩
  refine Fallible.foldlM_ok (Visited before serviceType) (fun visited endpoint rest database next hall h hnext => ?_)
    hstart hrun
  have hmem : ∀ e ∈ visited ++ endpoint :: rest, e ∈ endpoints := fun e he => hall ▸ he
  exact carryEndpoint_visited hmergeable (fun e he => hmem e (List.mem_append_left _ he))
    (hmem endpoint (List.mem_append_right _ List.mem_cons_self)) h hnext

/-! ### The keys -/

/-- What collapsing leaves: for every key one of its user and service with the same public key, and no two of these. -/
theorem collapseKeys_ok {database after : Database} (hpks : (database.keys.map SSHPublicKey.pk).Nodup)
    (h : database.collapseKeys = .ok after) :
    after.assignments = database.assignments ∧
      (∀ key ∈ database.keys, ∃ kept ∈ after.keys, kept.user = key.user ∧
        kept.applicationService = key.applicationService ∧ Text.strip kept.publicKey = Text.strip key.publicKey) ∧
      (after.keys.map fun key => (key.user, key.applicationService)).Nodup := by
  unfold collapseKeys at h
  dsimp only at h
  split at h
  · next hnone =>
    obtain rfl := Except.ok.inj h
    replace hnone := List.isEmpty_iff.mp hnone
    have hseen := Slots.fill_holds (fun key : SSHPublicKey => (key.user, key.applicationService))
      (fun key => Text.strip key.publicKey) (database.keys.mergeSort fun a b => a.pk ≤ b.pk)
    change database.seenKeys.Holds _ _ _ at hseen
    have hperm : (database.seenKeys.taken ++ database.seenKeys.repeated).Perm database.keys := by
      have hperm := hseen.perm
      rw [hnone, List.map_nil, List.append_nil] at hperm
      exact hperm.trans (List.mergeSort_perm _ _)
    have hdistinct : ((database.seenKeys.taken ++ database.seenKeys.repeated).map SSHPublicKey.pk).Nodup :=
      (hperm.map SSHPublicKey.pk).nodup_iff.mpr hpks
    rw [List.map_append] at hdistinct
    have hdisjoint := List.disjoint_of_nodup_append hdistinct
    -- The keys that are left are those that have their slot.
    have hleft : ∀ key, (key ∈ database.keys.filter fun key =>
        !(database.seenKeys.repeated.map SSHPublicKey.pk).contains key.pk) ↔ key ∈ database.seenKeys.taken := by
      intro key
      rw [List.mem_filter, ← hperm.mem_iff, List.mem_append, Bool.not_eq_true', ← Bool.not_eq_true,
        List.contains_iff_mem]
      constructor
      · rintro ⟨htaken | hrepeated, hnot⟩
        · exact htaken
        · exact absurd (List.mem_map_of_mem hrepeated) hnot
      · exact fun htaken => ⟨.inl htaken, hdisjoint (List.mem_map_of_mem htaken)⟩
    refine ⟨rfl, fun key hkey => ?_, ?_⟩
    · obtain ⟨first, hfirst, hslot, hvalue⟩ := hseen.agreed hnone (List.mem_mergeSort.mpr hkey)
      obtain ⟨huser, hservice⟩ := Prod.mk.inj hslot
      exact ⟨first, (hleft first).mpr hfirst, huser, hservice, hvalue⟩
    · refine List.Nodup.map_on (fun a ha b hb hslot => ?_) (hpks.of_map.filter _)
      exact hseen.unique ((hleft a).mp ha) ((hleft b).mp hb) hslot
  · cases h

/-! ### The step -/

theorem liveEndpoints_mergeable {database : Database} (hkeyed : database.Keyed) {serviceType : Nat}
    (hnone : (database.pins serviceType).conflicts = []) : Mergeable (database.liveEndpoints serviceType) where
  keyed := List.Nodup.sublist (List.filter_sublist.map _) hkeyed.endpoints
  agree := by
    intro a ha b hb hcredential hpinned hpinned' hslot
    have hholds := Slots.fill_holds ServiceEndpoint.slot ServiceEndpoint.setting
      (((database.liveEndpoints serviceType).filter fun endpoint =>
        endpoint.credential.isSome && endpoint.pinned).mergeSort fun a b => a.pk ≤ b.pk)
    have hcredential' : b.credential.isSome := by
      have hsame : a.credential = b.credential := congrArg Prod.fst hslot
      rw [← hsame]
      exact hcredential
    have hmem : ∀ e ∈ database.liveEndpoints serviceType, e.credential.isSome → e.pinned = true →
        e ∈ ((database.liveEndpoints serviceType).filter fun endpoint =>
          endpoint.credential.isSome && endpoint.pinned).mergeSort fun a b => a.pk ≤ b.pk := by
      intro e he hsome hpin
      exact List.mem_mergeSort.mpr (List.mem_filter.mpr ⟨he, Bool.and_eq_true_iff.mpr ⟨hsome, hpin⟩⟩)
    exact hholds.value_eq hnone (hmem a ha hcredential hpinned) (hmem b hb hcredential' hpinned') hslot

theorem carryOver_carried {visits : List ServiceEndpoint → List ServiceEndpoint}
    (hvisits : ∀ endpoints, (visits endpoints).Perm endpoints) {before after : Database} (hkeyed : before.Keyed)
    (hrun : carryOverEndpointData visits before = .ok after) : Carried before after := by
  unfold carryOverEndpointData at hrun
  cases hserviceType : before.serviceType with
  | none =>
      rw [hserviceType] at hrun
      obtain rfl := Except.ok.inj hrun
      refine ⟨fun serviceType hsome => ?_, ?_, List.nodup_nil⟩
      · rw [hserviceType] at hsome
        cases hsome
      · rintro endpoint ⟨serviceType, hsome, -⟩
        rw [hserviceType] at hsome
        cases hsome
  | some serviceType =>
      rw [hserviceType] at hrun
      dsimp only at hrun
      split at hrun
      · cases hrun
      next hnone =>
      rw [Bool.not_eq_true', Bool.not_eq_false, List.isEmpty_iff] at hnone
      obtain ⟨looped, hloop, hcollapse⟩ := Fallible.bind_ok hrun
      have hmergeable := liveEndpoints_mergeable hkeyed hnone
      have hperm := hvisits (before.liveEndpoints serviceType)
      have hvisited := loop_visited hkeyed
        ⟨(hperm.map ServiceEndpoint.pk).nodup_iff.mpr hmergeable.keyed,
          fun a ha b hb => hmergeable.agree a (hperm.mem_iff.mp ha) b (hperm.mem_iff.mp hb)⟩ hloop
      have hpks : (looped.dropUnmapped.keys.map SSHPublicKey.pk).Nodup := by
        refine List.Nodup.sublist (List.filter_sublist.map _) ?_
        rw [hvisited.pks]
        exact hkeyed.keys
      obtain ⟨hassignments, hkept, hunique⟩ := collapseKeys_ok hpks hcollapse
      refine ⟨fun other hother endpoint hlive => ?_, ?_, hunique⟩
      · obtain rfl := Option.some.inj (hserviceType.symm.trans hother)
        rw [hassignments]
        exact hvisited.assigned endpoint (hperm.mem_iff.mpr hlive)
      · rintro endpoint ⟨other, hother, hlive⟩ key hkey hof
        obtain rfl := Option.some.inj (hserviceType.symm.trans hother)
        obtain ⟨service, hmem, hservice⟩ := hvisited.keys key hkey
        obtain rfl := hservice endpoint (hperm.mem_iff.mpr hlive) hof
        obtain ⟨kept, hmemKept, huser, happlication, hkeySame⟩ := hkept _ (List.mem_filter.mpr ⟨hmem, rfl⟩)
        exact ⟨kept, hmemKept, huser, happlication, hkeySame⟩

/-- A step that succeeds has carried everything over, and one that would have to choose between two pins or two keys
raises. -/
theorem carry_over_keeps_or_aborts (visits : List ServiceEndpoint → List ServiceEndpoint)
    (hvisits : ∀ endpoints, (visits endpoints).Perm endpoints) (before : Database) (hkeyed : before.Keyed) :
    (∀ after, carryOverEndpointData visits before = .ok after → Carried before after) ∧
      (before.PinsConflict ∨ before.KeysConflict →
        ∃ error, carryOverEndpointData visits before = .error error) := by
  refine ⟨fun after hrun => carryOver_carried hvisits hkeyed hrun, fun hconflict => ?_⟩
  cases hrun : carryOverEndpointData visits before with
  | error error => exact ⟨error, rfl⟩
  | ok after =>
      exfalso
      have hcarried := carryOver_carried hvisits hkeyed hrun
      rcases hconflict with ⟨a, b, ⟨serviceType, hserviceType, ha⟩, ⟨other, hother, hb⟩, hcredential, hpinned,
        hpinned', hslot, hdiffer⟩ | ⟨a, b, ha, hb, hservice, key, hkey, other, hother, hof, hof', huser, hdiffer⟩
      · obtain rfl := Option.some.inj (hserviceType.symm.trans hother)
        obtain ⟨credential, hsome⟩ := Option.isSome_iff_exists.mp hcredential
        obtain ⟨hcredentials, hservices⟩ := Prod.mk.inj hslot
        obtain ⟨⟨assignment, hmem, hlogin⟩, hpin⟩ := hcarried.assigned serviceType hserviceType a ha credential hsome
        obtain ⟨-, hpin'⟩ := hcarried.assigned serviceType hserviceType b hb credential (hcredentials ▸ hsome)
        refine hdiffer ((hpin assignment hmem hlogin hpinned).symm.trans (hpin' assignment hmem ?_ hpinned'))
        rw [← hservices]
        exact hlogin
      · obtain ⟨kept, hkept, hkeptUser, hkeptService, hkeptKey⟩ := hcarried.keys a ha key hkey hof
        obtain ⟨kept', hkept', hkeptUser', hkeptService', hkeptKey'⟩ := hcarried.keys b hb other hother hof'
        have heq : kept = kept' := List.inj_on_of_nodup_map hcarried.unique hkept hkept' (by
          rw [hkeptUser, hkeptUser', hkeptService, hkeptService', huser, hservice])
        rw [← hkeptKey, ← hkeptKey', heq] at hdiffer
        exact hdiffer rfl

namespace Sample

def sshEndpoint : ServiceEndpoint := ⟨1, 1, 5, "ssh", "host ssh-ed25519 AAAA", false, .dict [], some 3⟩

def webEndpoint : ServiceEndpoint := ⟨2, 1, 5, "http", "", true, .dict [], some 3⟩

def sftpEndpoint : ServiceEndpoint := ⟨3, 1, 5, "sftp", "host ssh-ed25519 AAAA", false, .dict [], some 3⟩

/-- Three endpoints of one service and credential: two with the same pin, on which a user has the same key, and one without
a pin. -/
def merging : Database where
  serviceType := some 1
  services := [5]
  endpoints := [sshEndpoint, webEndpoint, sftpEndpoint]
  assignments := []
  nextAssignment := 1
  keys := [⟨1, 9, 1, "ssh-ed25519 AAAA", none⟩, ⟨2, 9, 3, "ssh-ed25519 AAAA\n", none⟩]

/-- The one assignment and the one key they share. -/
def merged : Database :=
  { merging with
    assignments := [⟨1, 3, 1, 5, "login", true, "host ssh-ed25519 AAAA", false⟩]
    nextAssignment := 2
    keys := [⟨1, 9, 1, "ssh-ed25519 AAAA", some 5⟩] }

theorem merging_pins : (merging.pins 1).conflicts = [] := by
  have hsorted : [sshEndpoint, sftpEndpoint].mergeSort (fun a b => a.pk ≤ b.pk) = [sshEndpoint, sftpEndpoint] :=
    List.mergeSort_of_pairwise (by simp [sshEndpoint, sftpEndpoint])
  show (Slots.fill _ _ ([sshEndpoint, sftpEndpoint].mergeSort _)).conflicts = []
  rw [hsorted]
  rfl

/-- The keys once they are moved. -/
def movedKeys : List SSHPublicKey := [⟨1, 9, 1, "ssh-ed25519 AAAA", some 5⟩, ⟨2, 9, 3, "ssh-ed25519 AAAA\n", some 5⟩]

theorem merging_keys : ({ merged with keys := movedKeys } : Database).collapseKeys = .ok merged := by
  have hsorted : movedKeys.mergeSort (fun a b => a.pk ≤ b.pk) = movedKeys :=
    List.mergeSort_of_pairwise (by simp [movedKeys])
  unfold collapseKeys seenKeys
  dsimp only
  rw [hsorted]
  rfl

/-- Three endpoints in their own order. -/
theorem merging_runs {visits : List ServiceEndpoint → List ServiceEndpoint}
    (hvisits : visits (merging.liveEndpoints 1) = [sshEndpoint, webEndpoint, sftpEndpoint]) :
    carryOverEndpointData visits merging = .ok merged := by
  have hcarried : (visits (merging.liveEndpoints 1)).foldlM (carryEndpoint 1) merging =
      .ok { merged with keys := movedKeys } := by
    rw [hvisits]
    rfl
  show (if !(merging.pins 1).conflicts.isEmpty then _ else
    (visits (merging.liveEndpoints 1)).foldlM (carryEndpoint 1) merging >>= _) = _
  rw [merging_pins, hcarried]
  exact merging_keys

/-- Two endpoints of one service and credential, with different pins. -/
def conflicting : Database :=
  { merging with
    endpoints := [sshEndpoint, { sftpEndpoint with sshKnownHostsEntry := "host ssh-ed25519 BBBB" }] }

theorem conflicting_pins : conflicting.PinsConflict := by
  refine ⟨sshEndpoint, { sftpEndpoint with sshKnownHostsEntry := "host ssh-ed25519 BBBB" }, ⟨1, rfl, ?_⟩, ⟨1, rfl, ?_⟩, rfl,
    by decide, by decide, rfl, by decide⟩
  · exact List.mem_cons_self
  · exact List.mem_cons_of_mem _ List.mem_cons_self

end Sample

/-- The three endpoints share one assignment and one key, and two that differ are refused. -/
theorem carry_over_merges_or_aborts : carryOverEndpointData id Sample.merging = .ok Sample.merged ∧
    Carried Sample.merging Sample.merged ∧ ∃ error, carryOverEndpointData id Sample.conflicting = .error error :=
  ⟨Sample.merging_runs rfl, (carry_over_keeps_or_aborts id (fun _ => List.Perm.refl _) Sample.merging
    ⟨by decide, by decide, by decide⟩).1 _ (Sample.merging_runs rfl),
    (carry_over_keeps_or_aborts id (fun _ => List.Perm.refl _) Sample.conflicting
      ⟨by decide, by decide, by decide⟩).2 (.inl Sample.conflicting_pins)⟩

end Database

end NetboxOpenbao.Migration
