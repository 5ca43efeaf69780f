import Mathlib.Data.List.Induction
import NetboxOpenbao.Proof.ApplicationServices

/-!
# The order of the service endpoints

What the loop over the live endpoints leaves, as a function of the order they come in. An endpoint without a login
assignment of its credential and service creates one with its own enabled flag, and the endpoints of the same two that
come later only see it there. Everything else the loop writes does not depend on the order.
-/

namespace NetboxOpenbao.Migration

open Effect

/-! ### One row -/

/-- The row is the login assignment of these two. -/
def logins (serviceType credential service : Nat) (assignment : CredentialAssignment) : Bool :=
  assignment.credential == credential && assignment.assignedObjectType == serviceType &&
    assignment.assignedObjectId == service && assignment.purpose == "login"

/-- The endpoint sets the pin of the row. -/
def ServiceEndpoint.sets (endpoint : ServiceEndpoint) (serviceType : Nat) (assignment : CredentialAssignment) : Bool :=
  match endpoint.credential with
  | none => false
  | some credential => endpoint.pinned && logins serviceType credential endpoint.assignedObjectId assignment

def CredentialAssignment.pin (assignment : CredentialAssignment) (endpoint : ServiceEndpoint) : CredentialAssignment :=
  { assignment with
    sshKnownHostsEntry := endpoint.sshKnownHostsEntry
    sshStrictHostKeyChecking := endpoint.sshStrictHostKeyChecking }

/-- The row after some endpoints have been visited. -/
def repin (serviceType : Nat) (visited : List ServiceEndpoint) (assignment : CredentialAssignment) :
    CredentialAssignment :=
  visited.foldl (fun row endpoint => if endpoint.sets serviceType row then row.pin endpoint else row) assignment

variable {serviceType : Nat}

theorem sets_pin (assignment : CredentialAssignment) (endpoint other : ServiceEndpoint) :
    other.sets serviceType (assignment.pin endpoint) = other.sets serviceType assignment := rfl

theorem pin_pin {a b : ServiceEndpoint} (assignment : CredentialAssignment) (h : a.setting = b.setting) :
    (assignment.pin a).pin b = assignment.pin a := by
  obtain ⟨hentry, hstrict⟩ := Prod.mk.inj h
  unfold CredentialAssignment.pin
  rw [hentry, hstrict]

theorem pin_congr {a b : ServiceEndpoint} (assignment : CredentialAssignment) (h : a.setting = b.setting) :
    assignment.pin a = assignment.pin b := by
  obtain ⟨hentry, hstrict⟩ := Prod.mk.inj h
  unfold CredentialAssignment.pin
  rw [hentry, hstrict]

variable (serviceType) in
theorem repin_fields (visited : List ServiceEndpoint) (assignment : CredentialAssignment) :
    ∃ entry strict, repin serviceType visited assignment =
      { assignment with sshKnownHostsEntry := entry, sshStrictHostKeyChecking := strict } := by
  unfold repin
  induction visited generalizing assignment with
  | nil => exact ⟨assignment.sshKnownHostsEntry, assignment.sshStrictHostKeyChecking, rfl⟩
  | cons endpoint visited ih =>
      rw [List.foldl_cons]
      split
      · exact ih (assignment.pin endpoint)
      · exact ih assignment

theorem repin_pk (visited : List ServiceEndpoint) (assignment : CredentialAssignment) :
    (repin serviceType visited assignment).pk = assignment.pk := by
  obtain ⟨entry, strict, hrepin⟩ := repin_fields serviceType visited assignment
  rw [hrepin]

variable (serviceType) in
theorem logins_repin (visited : List ServiceEndpoint) (credential service : Nat) (assignment : CredentialAssignment) :
    logins serviceType credential service (repin serviceType visited assignment) =
      logins serviceType credential service assignment := by
  obtain ⟨entry, strict, hrepin⟩ := repin_fields serviceType visited assignment
  rw [hrepin]
  rfl

variable (serviceType) in
theorem sets_repin (visited : List ServiceEndpoint) (endpoint : ServiceEndpoint) (assignment : CredentialAssignment) :
    endpoint.sets serviceType (repin serviceType visited assignment) = endpoint.sets serviceType assignment := by
  obtain ⟨entry, strict, hrepin⟩ := repin_fields serviceType visited assignment
  rw [hrepin]
  rfl

theorem repin_append (visited : List ServiceEndpoint) (endpoint : ServiceEndpoint) (assignment : CredentialAssignment) :
    repin serviceType (visited ++ [endpoint]) assignment =
      if endpoint.sets serviceType assignment then (repin serviceType visited assignment).pin endpoint
      else repin serviceType visited assignment := by
  have hsets := sets_repin serviceType visited endpoint assignment
  unfold repin at hsets ⊢
  rw [List.foldl_append, List.foldl_cons, List.foldl_nil, hsets]

/-- A row that no visited endpoint sets. -/
theorem repin_eq_self {visited : List ServiceEndpoint} {assignment : CredentialAssignment}
    (h : ∀ endpoint ∈ visited, endpoint.sets serviceType assignment = false) :
    repin serviceType visited assignment = assignment := by
  induction visited with
  | nil => rfl
  | cons endpoint visited ih =>
      have hhead := h endpoint List.mem_cons_self
      have hrest := ih fun other hother => h other (List.mem_cons_of_mem endpoint hother)
      unfold repin at hrest ⊢
      rw [List.foldl_cons, hhead, if_neg Bool.false_ne_true]
      exact hrest

/-- Two endpoints that set one row have one slot, so if they agree they set the same pin. -/
theorem setting_eq {a b : ServiceEndpoint} {assignment : CredentialAssignment} (hagree : Database.Agree a b)
    (ha : a.sets serviceType assignment = true) (hb : b.sets serviceType assignment = true) :
    a.setting = b.setting := by
  unfold ServiceEndpoint.sets at ha hb
  split at ha
  · cases ha
  next credential hcredential =>
    split at hb
    · cases hb
    next credential' hcredential' =>
      simp only [logins, Bool.and_eq_true, beq_iff_eq] at ha hb
      obtain ⟨hpinned, ⟨⟨hc, -⟩, hs⟩, -⟩ := ha
      obtain ⟨hpinned', ⟨⟨hc', -⟩, hs'⟩, -⟩ := hb
      refine hagree (by rw [hcredential]; rfl) hpinned hpinned' ?_
      rw [ServiceEndpoint.slot, ServiceEndpoint.slot, hcredential, hcredential', ← hc, ← hc', ← hs, ← hs']

/-- A row with a pin keeps it when whoever sets it sets the same. -/
theorem repin_pin {visited : List ServiceEndpoint} {assignment : CredentialAssignment} {endpoint : ServiceEndpoint}
    (hsame : ∀ other ∈ visited, other.sets serviceType assignment = true → endpoint.setting = other.setting) :
    repin serviceType visited (assignment.pin endpoint) = assignment.pin endpoint := by
  induction visited with
  | nil => rfl
  | cons head visited ih =>
      have hrest := ih fun other hother => hsame other (List.mem_cons_of_mem head hother)
      unfold repin at hrest ⊢
      rw [List.foldl_cons, sets_pin]
      cases hsets : head.sets serviceType assignment with
      | false =>
          rw [if_neg Bool.false_ne_true]
          exact hrest
      | true =>
          rw [if_pos rfl, pin_pin assignment (hsame head List.mem_cons_self hsets)]
          exact hrest

/-- A row that a visited endpoint sets has that endpoint's pin. -/
theorem repin_eq_pin {visited : List ServiceEndpoint} {assignment : CredentialAssignment} {endpoint : ServiceEndpoint}
    (hsame : ∀ other ∈ visited, other.sets serviceType assignment = true → endpoint.setting = other.setting)
    (hmem : endpoint ∈ visited) (hsets : endpoint.sets serviceType assignment = true) :
    repin serviceType visited assignment = assignment.pin endpoint := by
  induction visited with
  | nil => exact absurd hmem List.not_mem_nil
  | cons head visited ih =>
      have hrest : ∀ other ∈ visited, other.sets serviceType assignment = true → endpoint.setting = other.setting :=
        fun other hother => hsame other (List.mem_cons_of_mem head hother)
      have hpinned := repin_pin hrest
      unfold repin at hpinned ih ⊢
      rw [List.foldl_cons]
      cases hhead : head.sets serviceType assignment with
      | true =>
          rw [if_pos rfl, ← pin_congr assignment (hsame head List.mem_cons_self hhead)]
          exact hpinned
      | false =>
          rw [if_neg Bool.false_ne_true]
          rcases List.mem_cons.mp hmem with rfl | hmem
          · rw [hhead] at hsets
            cases hsets
          · exact ih hrest hmem

/-- The pins do not depend on the order when no two endpoints disagree on one. -/
theorem repin_perm {visited other : List ServiceEndpoint} (hperm : visited.Perm other)
    (hagree : ∀ a ∈ visited, ∀ b ∈ visited, Database.Agree a b) (assignment : CredentialAssignment) :
    repin serviceType visited assignment = repin serviceType other assignment := by
  by_cases hany : ∃ endpoint ∈ visited, endpoint.sets serviceType assignment = true
  · obtain ⟨endpoint, hmem, hsets⟩ := hany
    have hsame : ∀ other ∈ visited, other.sets serviceType assignment = true → endpoint.setting = other.setting :=
      fun other hother hsetsOther => setting_eq (hagree endpoint hmem other hother) hsets hsetsOther
    rw [repin_eq_pin hsame hmem hsets,
      repin_eq_pin (fun other hother => hsame other (hperm.mem_iff.mpr hother)) (hperm.mem_iff.mp hmem) hsets]
  · have hnone : ∀ endpoint ∈ visited, endpoint.sets serviceType assignment = false :=
      fun endpoint hmem => Bool.eq_false_iff.mpr fun hsets => hany ⟨endpoint, hmem, hsets⟩
    rw [repin_eq_self hnone, repin_eq_self fun endpoint hmem => hnone endpoint (hperm.mem_iff.mpr hmem)]

/-! ### The rows that are created -/

/-- The login assignment an endpoint creates. -/
def ServiceEndpoint.login (endpoint : ServiceEndpoint) (serviceType credential pk : Nat) : CredentialAssignment where
  pk := pk
  credential := credential
  assignedObjectType := serviceType
  assignedObjectId := endpoint.assignedObjectId
  purpose := "login"
  enabled := endpoint.enabled.toOption.getD true
  sshKnownHostsEntry := ""
  sshStrictHostKeyChecking := true

/-- The rows created so far and, if there is no login assignment for it yet, the one of the next endpoint. -/
def place (serviceType next : Nat) (assignments created : List CredentialAssignment) (endpoint : ServiceEndpoint) :
    List CredentialAssignment :=
  match endpoint.credential with
  | none => created
  | some credential =>
      if (assignments ++ created).any (logins serviceType credential endpoint.assignedObjectId) then created
      else created ++ [endpoint.login serviceType credential (next + created.length)]

def createdBy (serviceType next : Nat) (assignments : List CredentialAssignment) (visited : List ServiceEndpoint) :
    List CredentialAssignment :=
  visited.foldl (place serviceType next assignments) []

section Created

variable {next : Nat} {assignments created : List CredentialAssignment} {visited : List ServiceEndpoint}
  {endpoint : ServiceEndpoint}

theorem logins_login {credential service other pk : Nat} :
    logins serviceType credential service (endpoint.login serviceType other pk) = true ↔
      credential = other ∧ service = endpoint.assignedObjectId := by
  unfold logins ServiceEndpoint.login
  simp only [Bool.and_eq_true, beq_iff_eq, and_true]
  exact and_congr eq_comm eq_comm

theorem createdBy_append (visited : List ServiceEndpoint) (endpoint : ServiceEndpoint) :
    createdBy serviceType next assignments (visited ++ [endpoint]) =
      place serviceType next assignments (createdBy serviceType next assignments visited) endpoint := by
  unfold createdBy
  rw [List.foldl_append, List.foldl_cons, List.foldl_nil]

variable (serviceType next assignments) in
theorem place_extends (created : List CredentialAssignment) (endpoint : ServiceEndpoint) :
    ∃ more, place serviceType next assignments created endpoint = created ++ more := by
  unfold place
  split
  · exact ⟨[], (List.append_nil created).symm⟩
  · split
    · exact ⟨[], (List.append_nil created).symm⟩
    · exact ⟨_, rfl⟩

variable (serviceType next assignments) in
theorem createdBy_any {credential : Nat} (hmem : endpoint ∈ visited) (hcredential : endpoint.credential = some credential) :
    (assignments ++ createdBy serviceType next assignments visited).any
      (logins serviceType credential endpoint.assignedObjectId) = true := by
  induction visited using List.reverseRecOn with
  | nil => exact absurd hmem List.not_mem_nil
  | append_singleton visited last ih =>
      rw [createdBy_append]
      rcases List.mem_append.mp hmem with hmem | hmem
      · obtain ⟨more, hmore⟩ := place_extends serviceType next assignments (createdBy serviceType next assignments visited) last
        rw [hmore, ← List.append_assoc, List.any_append, ih hmem, Bool.true_or]
      · obtain rfl := List.mem_singleton.mp hmem
        unfold place
        rw [hcredential]
        dsimp only
        split
        · assumption
        · refine List.any_eq_true.mpr ⟨_, List.mem_append_right _ (List.mem_append_right _ List.mem_cons_self), ?_⟩
          exact logins_login.mpr ⟨rfl, rfl⟩

/-- A created row is the one of an endpoint without a login assignment before. -/
theorem mem_createdBy {row : CredentialAssignment} (h : row ∈ createdBy serviceType next assignments visited) :
    ∃ endpoint ∈ visited, ∃ credential, endpoint.credential = some credential ∧
      assignments.any (logins serviceType credential endpoint.assignedObjectId) = false ∧
      row = endpoint.login serviceType credential row.pk := by
  induction visited using List.reverseRecOn with
  | nil => exact absurd h List.not_mem_nil
  | append_singleton visited last ih =>
      have hbefore : row ∈ createdBy serviceType next assignments visited → ∃ endpoint ∈ visited ++ [last],
          ∃ credential, endpoint.credential = some credential ∧
            assignments.any (logins serviceType credential endpoint.assignedObjectId) = false ∧
            row = endpoint.login serviceType credential row.pk := fun hrow => by
        obtain ⟨endpoint, hmem, hrest⟩ := ih hrow
        exact ⟨endpoint, List.mem_append_left _ hmem, hrest⟩
      rw [createdBy_append] at h
      unfold place at h
      split at h
      · exact hbefore h
      next credential hcredential =>
        split at h
        · exact hbefore h
        next hnone =>
          rcases List.mem_append.mp h with h | h
          · exact hbefore h
          · rw [List.any_append, Bool.or_eq_true, not_or, Bool.not_eq_true] at hnone
            obtain rfl := List.mem_singleton.mp h
            exact ⟨last, List.mem_append_right _ List.mem_cons_self, credential, hcredential, hnone.1, rfl⟩

variable (next visited) in
/-- There is at most one login assignment of two things, if there was before. -/
theorem createdBy_single {credential service : Nat}
    (h : (assignments.filter (logins serviceType credential service)).length ≤ 1) :
    ((assignments ++ createdBy serviceType next assignments visited).filter
      (logins serviceType credential service)).length ≤ 1 := by
  induction visited using List.reverseRecOn with
  | nil =>
      rw [show createdBy serviceType next assignments [] = [] from rfl, List.append_nil]
      exact h
  | append_singleton visited last ih =>
      rw [createdBy_append]
      unfold place
      split
      · exact ih
      next other hother =>
        split
        · exact ih
        next hnone =>
          rw [← List.append_assoc, List.filter_append]
          cases hsame : logins serviceType credential service (last.login serviceType other
              (next + (createdBy serviceType next assignments visited).length)) with
          | false =>
              rw [List.filter_cons, hsame, if_neg Bool.false_ne_true, List.filter_nil, List.append_nil]
              exact ih
          | true =>
              obtain ⟨rfl, rfl⟩ := logins_login.mp hsame
              have hempty : (assignments ++ createdBy serviceType next assignments visited).filter
                  (logins serviceType credential last.assignedObjectId) = [] := by
                refine List.filter_eq_nil_iff.mpr fun row hrow hlogin => hnone ?_
                exact List.any_eq_true.mpr ⟨row, hrow, hlogin⟩
              rw [hempty, List.nil_append]
              exact List.length_filter_le _ _

/-- The keys are the next ones of the sequence. -/
theorem createdBy_pks : (createdBy serviceType next assignments visited).map CredentialAssignment.pk =
    List.range' next (createdBy serviceType next assignments visited).length := by
  induction visited using List.reverseRecOn with
  | nil => rfl
  | append_singleton visited last ih =>
      rw [createdBy_append]
      unfold place
      split
      · exact ih
      · split
        · exact ih
        · rw [List.map_append, ih, List.length_append, List.map_singleton, List.length_singleton, List.range'_concat,
            Nat.one_mul]
          rfl

theorem eq_of_length_le_one {α : Type} {xs : List α} (h : xs.length ≤ 1) {a b : α} (ha : a ∈ xs) (hb : b ∈ xs) : a = b := by
  match xs with
  | [] => exact absurd ha List.not_mem_nil
  | [x] => rw [List.mem_singleton.mp ha, List.mem_singleton.mp hb]
  | x :: y :: rest => exact absurd h (by rw [List.length_cons, List.length_cons]; omega)

theorem createdBy_nodup : (createdBy serviceType next assignments visited).Nodup := by
  have hpks : ((createdBy serviceType next assignments visited).map CredentialAssignment.pk).Nodup := by
    rw [createdBy_pks]
    exact List.nodup_range'
  exact hpks.of_map

def CredentialAssignment.slot (assignment : CredentialAssignment) : Nat × Nat :=
  (assignment.credential, assignment.assignedObjectId)

theorem logins_slot {credential service : Nat} {assignment : CredentialAssignment}
    (h : logins serviceType credential service assignment = true) : assignment.slot = (credential, service) := by
  simp only [logins, Bool.and_eq_true, beq_iff_eq] at h
  rw [CredentialAssignment.slot, h.1.1.1, h.1.2]

theorem createdBy_logins {row : CredentialAssignment} (h : row ∈ createdBy serviceType next assignments visited) :
    logins serviceType row.slot.1 row.slot.2 row = true ∧
      assignments.any (logins serviceType row.slot.1 row.slot.2) = false := by
  obtain ⟨endpoint, -, credential, -, hnone, hrow⟩ := mem_createdBy h
  have hlogin : logins serviceType credential endpoint.assignedObjectId row = true := by
    rw [hrow]
    exact logins_login.mpr ⟨rfl, rfl⟩
  rw [logins_slot hlogin]
  exact ⟨hlogin, hnone⟩

theorem createdBy_slots : ((createdBy serviceType next assignments visited).map CredentialAssignment.slot).Nodup := by
  refine List.Nodup.map_on (fun a ha b hb hslot => ?_) createdBy_nodup
  obtain ⟨hlogin, hnone⟩ := createdBy_logins ha
  have hlogin' : logins serviceType a.slot.1 a.slot.2 b = true := hslot ▸ (createdBy_logins hb).1
  have hbefore : (assignments.filter (logins serviceType a.slot.1 a.slot.2)).length ≤ 1 := by
    have hempty : assignments.filter (logins serviceType a.slot.1 a.slot.2) = [] :=
      List.filter_eq_nil_iff.mpr fun row hrow hin => by
        rw [List.any_eq_true.mpr ⟨row, hrow, hin⟩] at hnone
        cases hnone
    rw [hempty]
    exact Nat.zero_le 1
  have hsingle := createdBy_single next visited hbefore
  exact eq_of_length_le_one hsingle (List.mem_filter.mpr ⟨List.mem_append_right _ ha, hlogin⟩)
    (List.mem_filter.mpr ⟨List.mem_append_right _ hb, hlogin'⟩)

/-- Which rows are created does not depend on the order, apart from what is in them. -/
theorem mem_createdBy_slots {credential service : Nat} :
    (credential, service) ∈ (createdBy serviceType next assignments visited).map CredentialAssignment.slot ↔
      ∃ endpoint ∈ visited, endpoint.credential = some credential ∧ endpoint.assignedObjectId = service ∧
        assignments.any (logins serviceType credential service) = false := by
  constructor
  · intro hmem
    obtain ⟨row, hrow, hslot⟩ := List.mem_map.mp hmem
    obtain ⟨endpoint, hendpoint, other, hother, hnone, heq⟩ := mem_createdBy hrow
    rw [heq] at hslot
    obtain ⟨rfl, rfl⟩ := Prod.mk.inj hslot
    exact ⟨endpoint, hendpoint, hother, rfl, hnone⟩
  · rintro ⟨endpoint, hendpoint, hcredential, rfl, hnone⟩
    have hany := createdBy_any serviceType next assignments hendpoint hcredential
    rw [List.any_append, hnone, Bool.false_or] at hany
    obtain ⟨row, hrow, hlogin⟩ := List.any_eq_true.mp hany
    exact List.mem_map.mpr ⟨row, hrow, logins_slot hlogin⟩

theorem createdBy_length_perm {other : List ServiceEndpoint} (hperm : visited.Perm other) :
    (createdBy serviceType next assignments visited).length =
      (createdBy serviceType next assignments other).length := by
  have hslots : ((createdBy serviceType next assignments visited).map CredentialAssignment.slot).Perm
      ((createdBy serviceType next assignments other).map CredentialAssignment.slot) := by
    refine (List.perm_ext_iff_of_nodup createdBy_slots createdBy_slots).mpr ?_
    rintro ⟨credential, service⟩
    rw [mem_createdBy_slots, mem_createdBy_slots]
    exact exists_congr fun endpoint => and_congr_left fun _ => hperm.mem_iff
  have hlength := hslots.length_eq
  rwa [List.length_map, List.length_map] at hlength

end Created

/-- An assignment apart from its primary key. -/
structure AssignmentContent where
  credential : Nat
  assignedObjectType : Nat
  assignedObjectId : Nat
  purpose : String
  enabled : Bool
  sshKnownHostsEntry : String
  sshStrictHostKeyChecking : Bool

def CredentialAssignment.content (assignment : CredentialAssignment) : AssignmentContent :=
  ⟨assignment.credential, assignment.assignedObjectType, assignment.assignedObjectId, assignment.purpose,
    assignment.enabled, assignment.sshKnownHostsEntry, assignment.sshStrictHostKeyChecking⟩

/-! ### The loop -/

namespace Database

/-- A key after some endpoints have been visited. -/
def movedKey (visited : List ServiceEndpoint) (key : SSHPublicKey) : SSHPublicKey :=
  visited.foldl (fun key endpoint =>
    if key.serviceEndpoint = endpoint.pk then { key with applicationService := some endpoint.assignedObjectId }
    else key) key

/-- The rows that there are after some endpoints have been visited, with the pins they had or were created with. -/
def rowsAfter (before : Database) (serviceType : Nat) (visited : List ServiceEndpoint) : List CredentialAssignment :=
  before.assignments ++ createdBy serviceType before.nextAssignment before.assignments visited

/-- The database after some endpoints have been visited. -/
structure Tracks (before : Database) (serviceType : Nat) (visited : List ServiceEndpoint) (database : Database) :
    Prop where
  assignments : database.assignments = (before.rowsAfter serviceType visited).map (repin serviceType visited)
  sequence : database.nextAssignment = before.nextAssignment +
    (createdBy serviceType before.nextAssignment before.assignments visited).length
  keys : database.keys = before.keys.map (movedKey visited)

/-- What does not go wrong with some endpoints, in whatever order they come. -/
structure Admits (before : Database) (serviceType : Nat) (visited : List ServiceEndpoint) : Prop where
  enabled : ∀ endpoint ∈ visited, endpoint.credential.isSome → ∃ enabled, endpoint.enabled = .ok enabled
  single : ∀ endpoint ∈ visited, ∀ credential, endpoint.credential = some credential →
    (before.assignments.filter (logins serviceType credential endpoint.assignedObjectId)).length ≤ 1
  sequence : ∀ n < (createdBy serviceType before.nextAssignment before.assignments visited).length,
    before.nextAssignment + n ∉ before.assignments.map CredentialAssignment.pk

variable {before database after : Database} {visited : List ServiceEndpoint} {endpoint : ServiceEndpoint}

theorem Admits.perm {other : List ServiceEndpoint} (h : Admits before serviceType visited) (hperm : visited.Perm other) :
    Admits before serviceType other where
  enabled endpoint hmem := h.enabled endpoint (hperm.mem_iff.mpr hmem)
  single endpoint hmem := h.single endpoint (hperm.mem_iff.mpr hmem)
  sequence n hn := h.sequence n (by rwa [createdBy_length_perm hperm])

variable (serviceType) in
/-- A longer visit creates the same rows first. -/
theorem createdBy_extends (next : Nat) (assignments : List CredentialAssignment) (visited rest : List ServiceEndpoint) :
    ∃ more, createdBy serviceType next assignments (visited ++ rest) =
      createdBy serviceType next assignments visited ++ more := by
  induction rest using List.reverseRecOn with
  | nil => exact ⟨[], by rw [List.append_nil, List.append_nil]⟩
  | append_singleton rest last ih =>
      obtain ⟨before, hbefore⟩ := ih
      obtain ⟨more, hmore⟩ := place_extends serviceType next assignments
        (createdBy serviceType next assignments (visited ++ rest)) last
      refine ⟨before ++ more, ?_⟩
      rw [← List.append_assoc, createdBy_append, hmore, hbefore, List.append_assoc]

theorem Admits.front {rest : List ServiceEndpoint} (h : Admits before serviceType (visited ++ rest)) :
    Admits before serviceType visited where
  enabled endpoint hmem := h.enabled endpoint (List.mem_append_left _ hmem)
  single endpoint hmem := h.single endpoint (List.mem_append_left _ hmem)
  sequence n hn := by
    obtain ⟨more, hmore⟩ := createdBy_extends serviceType before.nextAssignment before.assignments visited rest
    refine h.sequence n ?_
    rw [hmore, List.length_append]
    exact Nat.lt_add_right _ hn

/-- No two rows have one primary key. -/
theorem Admits.keyed (h : Admits before serviceType visited) (hkeyed : before.Keyed) :
    ((before.rowsAfter serviceType visited).map CredentialAssignment.pk).Nodup := by
  unfold rowsAfter
  rw [List.map_append, createdBy_pks]
  refine hkeyed.assignments.append List.nodup_range' fun pk hpk hnew => ?_
  obtain ⟨n, hn, rfl⟩ := List.mem_range'.mp hnew
  rw [Nat.one_mul] at hpk
  exact h.sequence n hn hpk

/-- The rows that match are those that match before the pins. -/
theorem Tracks.matching (h : Tracks before serviceType visited database) (credential service : Nat) :
    database.assignments.filter (logins serviceType credential service) =
      ((before.rowsAfter serviceType visited).filter (logins serviceType credential service)).map
        (repin serviceType visited) := by
  rw [h.assignments, List.filter_map]
  refine congrArg (List.map _) (List.filter_congr fun row _ => ?_)
  exact logins_repin serviceType visited credential service row

/-- Saving the pin of the one login assignment of an endpoint is visiting the endpoint. -/
theorem savePin_rows {rows : List CredentialAssignment} {credential pk : Nat}
    (hrows : database.assignments = rows.map (repin serviceType visited)) (hpinned : endpoint.pinned = true)
    (hcredential : endpoint.credential = some credential)
    (hpk : ∀ row ∈ rows, row.pk = pk ↔ logins serviceType credential endpoint.assignedObjectId row = true) :
    (database.savePin pk endpoint).assignments = rows.map (repin serviceType (visited ++ [endpoint])) := by
  unfold savePin
  dsimp only
  rw [hrows, List.map_map]
  refine List.map_congr_left fun row hrow => ?_
  have hsets : endpoint.sets serviceType row = logins serviceType credential endpoint.assignedObjectId row := by
    unfold ServiceEndpoint.sets
    rw [hcredential, hpinned]
    rfl
  have hrowPk : (repin serviceType visited row).pk = row.pk := repin_pk visited row
  rw [repin_append, hsets, Function.comp]
  by_cases hlogin : logins serviceType credential endpoint.assignedObjectId row = true
  · rw [if_pos (hrowPk.trans ((hpk row hrow).mpr hlogin)), if_pos hlogin]
    rfl
  · rw [if_neg fun hsame => hlogin ((hpk row hrow).mp (hrowPk.symm.trans hsame)), if_neg hlogin]

/-- An endpoint that sets no pin changes no row. -/
theorem repin_idle {rows : List CredentialAssignment} (hidle : ∀ row, endpoint.sets serviceType row = false) :
    rows.map (repin serviceType visited) = rows.map (repin serviceType (visited ++ [endpoint])) := by
  refine List.map_congr_left fun row _ => ?_
  rw [repin_append, hidle row, if_neg Bool.false_ne_true]

theorem rowsAfter_present {credential : Nat} (hcredential : endpoint.credential = some credential)
    (hany : (before.rowsAfter serviceType visited).any (logins serviceType credential endpoint.assignedObjectId) = true) :
    before.rowsAfter serviceType (visited ++ [endpoint]) = before.rowsAfter serviceType visited := by
  unfold rowsAfter at hany ⊢
  rw [createdBy_append]
  unfold place
  rw [hcredential]
  dsimp only
  rw [hany, if_pos rfl]

theorem rowsAfter_absent {credential : Nat} (hcredential : endpoint.credential = some credential)
    (hany : (before.rowsAfter serviceType visited).any
      (logins serviceType credential endpoint.assignedObjectId) = false) :
    before.rowsAfter serviceType (visited ++ [endpoint]) = before.rowsAfter serviceType visited ++
      [endpoint.login serviceType credential (before.nextAssignment +
        (createdBy serviceType before.nextAssignment before.assignments visited).length)] := by
  unfold rowsAfter at hany ⊢
  rw [createdBy_append]
  unfold place
  rw [hcredential]
  dsimp only
  rw [hany, if_neg Bool.false_ne_true, List.append_assoc]

theorem rowsAfter_length (before : Database) (serviceType : Nat) (visited : List ServiceEndpoint) :
    (before.rowsAfter serviceType visited).length = before.assignments.length +
      (createdBy serviceType before.nextAssignment before.assignments visited).length := by
  unfold rowsAfter
  exact List.length_append

theorem getOrCreateLogin_eq (database : Database) (credential service : Nat) (enabled : Bool) :
    database.getOrCreateLogin serviceType credential service enabled =
      match database.assignments.filter (logins serviceType credential service) with
      | [assignment] => .ok (assignment, database)
      | [] =>
          if (database.assignments.any fun other => other.pk == database.nextAssignment) then .error .integrityError
          else .ok (⟨database.nextAssignment, credential, serviceType, service, "login", enabled, "", true⟩,
            { database with
              assignments := database.assignments ++
                [⟨database.nextAssignment, credential, serviceType, service, "login", enabled, "", true⟩]
              nextAssignment := database.nextAssignment + 1 })
      | _ => .error .multipleObjectsReturned := rfl

theorem Tracks.get_present (h : Tracks before serviceType visited database) {credential service : Nat} {enabled : Bool}
    {row : CredentialAssignment}
    (hfound : (before.rowsAfter serviceType visited).filter (logins serviceType credential service) = [row]) :
    database.getOrCreateLogin serviceType credential service enabled =
      .ok (repin serviceType visited row, database) := by
  have hmatching := h.matching credential service
  rw [hfound] at hmatching
  rw [getOrCreateLogin_eq, hmatching]
  rfl

theorem Tracks.get_absent (h : Tracks before serviceType visited database) {credential service : Nat} {enabled : Bool}
    (hfound : (before.rowsAfter serviceType visited).filter (logins serviceType credential service) = []) :
    database.getOrCreateLogin serviceType credential service enabled =
      if (database.assignments.any fun other => other.pk == database.nextAssignment) then .error .integrityError
      else .ok (⟨database.nextAssignment, credential, serviceType, service, "login", enabled, "", true⟩,
        { database with
          assignments := database.assignments ++
            [⟨database.nextAssignment, credential, serviceType, service, "login", enabled, "", true⟩]
          nextAssignment := database.nextAssignment + 1 }) := by
  have hmatching := h.matching credential service
  rw [hfound, List.map_nil] at hmatching
  rw [getOrCreateLogin_eq, hmatching]

theorem Tracks.get_several (h : Tracks before serviceType visited database) {credential service : Nat} {enabled : Bool}
    (hfound : 1 < ((before.rowsAfter serviceType visited).filter (logins serviceType credential service)).length) :
    database.getOrCreateLogin serviceType credential service enabled = .error .multipleObjectsReturned := by
  have hmatching := congrArg List.length (h.matching credential service)
  rw [List.length_map] at hmatching
  rw [getOrCreateLogin_eq]
  split
  next hone =>
      rw [hone, List.length_singleton] at hmatching
      exact absurd hfound (Nat.not_lt.mpr (Nat.le_of_eq hmatching.symm))
  next hnone =>
      rw [hnone, List.length_nil] at hmatching
      exact absurd hfound (Nat.not_lt.mpr (hmatching ▸ Nat.zero_le 1))
  next => rfl

/-- The rows of a database whose login assignment of an endpoint is where it should be, after its pin. -/
theorem pinned_rows {rows : List CredentialAssignment} {credential : Nat} {row : CredentialAssignment}
    (hrows : database.assignments = rows.map (repin serviceType visited))
    (hcredential : endpoint.credential = some credential) (hkeyed : (rows.map CredentialAssignment.pk).Nodup)
    (hfound : rows.filter (logins serviceType credential endpoint.assignedObjectId) = [row]) :
    (if endpoint.pinned then database.savePin row.pk endpoint else database).assignments =
      rows.map (repin serviceType (visited ++ [endpoint])) := by
  have hmem : ∀ other, other ∈ rows ∧ logins serviceType credential endpoint.assignedObjectId other = true ↔
      other = row := fun other => by rw [← List.mem_filter, hfound, List.mem_singleton]
  cases hpinned : endpoint.pinned with
  | true =>
      rw [if_pos rfl]
      refine savePin_rows hrows hpinned hcredential fun other hother => ⟨fun hpk => ?_, fun hlogin => ?_⟩
      · rw [List.inj_on_of_nodup_map hkeyed hother ((hmem row).mpr rfl).1 hpk]
        exact ((hmem row).mpr rfl).2
      · rw [(hmem other).mp ⟨hother, hlogin⟩]
  | false =>
      rw [if_neg Bool.false_ne_true, hrows]
      refine repin_idle fun other => ?_
      unfold ServiceEndpoint.sets
      rw [hcredential, hpinned]
      rfl

theorem movedKey_append (visited : List ServiceEndpoint) (endpoint : ServiceEndpoint) (key : SSHPublicKey) :
    movedKey (visited ++ [endpoint]) key = if (movedKey visited key).serviceEndpoint = endpoint.pk then
      { movedKey visited key with applicationService := some endpoint.assignedObjectId } else movedKey visited key := by
  unfold movedKey
  rw [List.foldl_append, List.foldl_cons, List.foldl_nil]

theorem moveKeys_keys (hkeys : database.keys = before.keys.map (movedKey visited)) :
    (database.moveKeys endpoint).keys = before.keys.map (movedKey (visited ++ [endpoint])) := by
  unfold moveKeys
  dsimp only
  rw [hkeys, List.map_map]
  refine List.map_congr_left fun key _ => ?_
  rw [movedKey_append]
  rfl

theorem Admits.append (h : Admits before serviceType visited)
    (henabled : endpoint.credential.isSome → ∃ enabled, endpoint.enabled = .ok enabled)
    (hsingle : ∀ credential, endpoint.credential = some credential →
      (before.assignments.filter (logins serviceType credential endpoint.assignedObjectId)).length ≤ 1)
    (hsequence : ∀ n < (createdBy serviceType before.nextAssignment before.assignments (visited ++ [endpoint])).length,
      before.nextAssignment + n ∉ before.assignments.map CredentialAssignment.pk) :
    Admits before serviceType (visited ++ [endpoint]) where
  enabled other hother hsome := by
    rcases List.mem_append.mp hother with hother | hother
    · exact h.enabled other hother hsome
    · obtain rfl := List.mem_singleton.mp hother
      exact henabled hsome
  single other hother credential hcredential := by
    rcases List.mem_append.mp hother with hother | hother
    · exact h.single other hother credential hcredential
    · obtain rfl := List.mem_singleton.mp hother
      exact hsingle credential hcredential
  sequence := hsequence

theorem filter_length_le (before : Database) (visited : List ServiceEndpoint) (credential service : Nat) :
    (before.assignments.filter (logins serviceType credential service)).length ≤
      ((before.rowsAfter serviceType visited).filter (logins serviceType credential service)).length := by
  unfold rowsAfter
  rw [List.filter_append, List.length_append]
  exact Nat.le_add_right _ _

/-- What one endpoint comes to: an error that says that it is not admitted, or a database that tracks it. -/
def Comes (before : Database) (serviceType : Nat) (visited : List ServiceEndpoint) (endpoint : ServiceEndpoint)
    (result : Except MigrationError Database) : Prop :=
  (∃ error, result = .error error ∧ ¬ Admits before serviceType (visited ++ [endpoint])) ∨
    ∃ after, result = .ok after ∧ Admits before serviceType (visited ++ [endpoint]) ∧
      Tracks before serviceType (visited ++ [endpoint]) after

theorem carry_none (hadmits : Admits before serviceType visited) (h : Tracks before serviceType visited database)
    (hcredential : endpoint.credential = none) :
    Comes before serviceType visited endpoint (carryEndpoint serviceType database endpoint) := by
  have hcreated : createdBy serviceType before.nextAssignment before.assignments (visited ++ [endpoint]) =
      createdBy serviceType before.nextAssignment before.assignments visited := by
    rw [createdBy_append]
    unfold place
    rw [hcredential]
  have hidle : ∀ row, endpoint.sets serviceType row = false := fun row => by
    unfold ServiceEndpoint.sets
    rw [hcredential]
  have hrun : carryEndpoint serviceType database endpoint = .ok (database.moveKeys endpoint) := by
    unfold carryEndpoint carryCredential
    rw [hcredential]
    rfl
  refine .inr ⟨_, hrun, hadmits.append (fun hsome => ?_) (fun credential hsome => ?_) ?_, ?_, ?_, moveKeys_keys h.keys⟩
  · rw [hcredential] at hsome
    cases hsome
  · rw [hcredential] at hsome
    cases hsome
  · rw [hcreated]
    exact hadmits.sequence
  · have hrows : before.rowsAfter serviceType (visited ++ [endpoint]) = before.rowsAfter serviceType visited := by
      unfold rowsAfter
      rw [hcreated]
    rw [hrows, ← repin_idle hidle]
    exact h.assignments
  · rw [hcreated]
    exact h.sequence

/-- Pinning a row, or not, leaves the keys and the sequence as they are. -/
theorem savePin_if (database : Database) (endpoint : ServiceEndpoint) (pk : Nat) :
    (if endpoint.pinned then database.savePin pk endpoint else database).keys = database.keys ∧
      (if endpoint.pinned then database.savePin pk endpoint else database).nextAssignment =
        database.nextAssignment := by
  split
  · exact ⟨rfl, rfl⟩
  · exact ⟨rfl, rfl⟩

theorem carry_present (hkeyed : before.Keyed) (hadmits : Admits before serviceType visited)
    (h : Tracks before serviceType visited database) {credential : Nat} {enabled : Bool} {row : CredentialAssignment}
    (hcredential : endpoint.credential = some credential) (henabled : endpoint.enabled = .ok enabled)
    (hfound : (before.rowsAfter serviceType visited).filter
      (logins serviceType credential endpoint.assignedObjectId) = [row]) :
    Comes before serviceType visited endpoint (carryEndpoint serviceType database endpoint) := by
  have hrun : carryEndpoint serviceType database endpoint =
      .ok ((if endpoint.pinned then database.savePin (repin serviceType visited row).pk endpoint else database).moveKeys
        endpoint) := by
    unfold carryEndpoint carryCredential
    rw [hcredential]
    dsimp only
    rw [henabled, Fallible.ok_bind, h.get_present hfound]
    rfl
  have hany : (before.rowsAfter serviceType visited).any
      (logins serviceType credential endpoint.assignedObjectId) = true := by
    have hmem : row ∈ (before.rowsAfter serviceType visited).filter
        (logins serviceType credential endpoint.assignedObjectId) := hfound ▸ List.mem_singleton.mpr rfl
    obtain ⟨hrow, hlogin⟩ := List.mem_filter.mp hmem
    exact List.any_eq_true.mpr ⟨row, hrow, hlogin⟩
  have hrows := rowsAfter_present hcredential hany
  have hcreated : (createdBy serviceType before.nextAssignment before.assignments (visited ++ [endpoint])).length =
      (createdBy serviceType before.nextAssignment before.assignments visited).length := by
    have hlength := congrArg List.length hrows
    rw [rowsAfter_length, rowsAfter_length] at hlength
    exact Nat.add_left_cancel hlength
  obtain ⟨hkeys, hsequence⟩ := savePin_if database endpoint (repin serviceType visited row).pk
  refine .inr ⟨_, hrun, hadmits.append (fun _ => ⟨enabled, henabled⟩) (fun other hother => ?_) ?_, ?_, ?_,
    moveKeys_keys (hkeys.trans h.keys)⟩
  · obtain rfl := Option.some.inj (hcredential.symm.trans hother)
    refine Nat.le_trans (filter_length_le before visited credential endpoint.assignedObjectId) ?_
    rw [hfound]
    exact Nat.le_refl 1
  · rw [hcreated]
    exact hadmits.sequence
  · rw [hrows, repin_pk]
    exact pinned_rows h.assignments hcredential (hadmits.keyed hkeyed) hfound
  · rw [hcreated]
    exact hsequence.trans h.sequence

/-- The next key is taken when a row from before has it. -/
theorem Tracks.taken_iff (h : Tracks before serviceType visited database) :
    (database.assignments.any fun other => other.pk == database.nextAssignment) = true ↔
      before.nextAssignment + (createdBy serviceType before.nextAssignment before.assignments visited).length ∈
        before.assignments.map CredentialAssignment.pk := by
  have hpks : database.assignments.map CredentialAssignment.pk =
      (before.rowsAfter serviceType visited).map CredentialAssignment.pk := by
    rw [h.assignments, List.map_map]
    exact List.map_congr_left fun row _ => repin_pk visited row
  have hmem : (database.assignments.any fun other => other.pk == database.nextAssignment) = true ↔
      database.nextAssignment ∈ database.assignments.map CredentialAssignment.pk := by
    rw [List.any_eq_true, List.mem_map]
    exact exists_congr fun row => and_congr_right fun _ => beq_iff_eq
  rw [hmem, hpks, rowsAfter, List.map_append, List.mem_append, createdBy_pks, h.sequence]
  refine or_iff_left fun hrange => ?_
  have hless := (List.mem_range'_1.mp hrange).2
  exact Nat.lt_irrefl _ hless

/-- No visited endpoint has set the row of one that has no login assignment yet. -/
theorem repin_login {credential : Nat}
    (hnone : (before.rowsAfter serviceType visited).any
      (logins serviceType credential endpoint.assignedObjectId) = false) (pk : Nat) :
    repin serviceType visited (endpoint.login serviceType credential pk) =
      endpoint.login serviceType credential pk := by
  refine repin_eq_self fun other hother => Bool.eq_false_iff.mpr fun hsets => ?_
  unfold ServiceEndpoint.sets at hsets
  split at hsets
  · cases hsets
  next otherCredential hotherCredential =>
    obtain ⟨rfl, hservice⟩ := logins_login.mp (Bool.and_eq_true _ _ ▸ hsets).2
    have hthere := createdBy_any serviceType before.nextAssignment before.assignments hother hotherCredential
    rw [hservice] at hthere
    exact Bool.false_ne_true (hnone.symm.trans hthere)

/-- What follows in the endpoint's visit when it has created its row. -/
theorem carry_created (hkeyed : before.Keyed) (hadmits : Admits before serviceType visited)
    (h : Tracks before serviceType visited database) {credential : Nat} {enabled : Bool}
    (hcredential : endpoint.credential = some credential) (henabled : endpoint.enabled = .ok enabled)
    (hfound : (before.rowsAfter serviceType visited).filter
      (logins serviceType credential endpoint.assignedObjectId) = [])
    (hnone : (before.rowsAfter serviceType visited).any
      (logins serviceType credential endpoint.assignedObjectId) = false)
    (hcreated : (createdBy serviceType before.nextAssignment before.assignments (visited ++ [endpoint])).length =
      (createdBy serviceType before.nextAssignment before.assignments visited).length + 1)
    (hpk : before.nextAssignment + (createdBy serviceType before.nextAssignment before.assignments visited).length ∉
      before.assignments.map CredentialAssignment.pk) :
    Comes before serviceType visited endpoint (carryEndpoint serviceType database endpoint) := by
  have hrows := rowsAfter_absent hcredential hnone
  have hadmitted : Admits before serviceType (visited ++ [endpoint]) := by
    refine hadmits.append (fun _ => ⟨enabled, henabled⟩) (fun other hother => ?_) fun n hn => ?_
    · obtain rfl := Option.some.inj (hcredential.symm.trans hother)
      refine Nat.le_trans (filter_length_le before visited credential endpoint.assignedObjectId) ?_
      rw [hfound]
      exact Nat.zero_le 1
    · rw [hcreated] at hn
      rcases Nat.lt_succ_iff_lt_or_eq.mp hn with hless | rfl
      · exact hadmits.sequence n hless
      · exact hpk
  have hnew : (⟨database.nextAssignment, credential, serviceType, endpoint.assignedObjectId, "login", enabled, "",
      true⟩ : CredentialAssignment) = endpoint.login serviceType credential (before.nextAssignment +
        (createdBy serviceType before.nextAssignment before.assignments visited).length) := by
    unfold ServiceEndpoint.login
    rw [h.sequence, henabled]
    rfl
  have hself := repin_login hnone (before.nextAssignment +
    (createdBy serviceType before.nextAssignment before.assignments visited).length)
  generalize hlogin : endpoint.login serviceType credential (before.nextAssignment +
    (createdBy serviceType before.nextAssignment before.assignments visited).length) = row at hself hrows hnew
  let next : Database :=
    { database with
      assignments := database.assignments ++ [row], nextAssignment := database.nextAssignment + 1 }
  have hrun : carryEndpoint serviceType database endpoint =
      .ok ((if endpoint.pinned then next.savePin row.pk endpoint else next).moveKeys endpoint) := by
    unfold carryEndpoint carryCredential
    rw [hcredential]
    dsimp only
    rw [henabled, Fallible.ok_bind, h.get_absent hfound, if_neg fun hthere => hpk (h.taken_iff.mp hthere), hnew]
    rfl
  have hnext : next.assignments = (before.rowsAfter serviceType (visited ++ [endpoint])).map
      (repin serviceType visited) := by
    rw [hrows, List.map_append, List.map_singleton, hself, ← h.assignments]
  have hfoundNext : (before.rowsAfter serviceType (visited ++ [endpoint])).filter
      (logins serviceType credential endpoint.assignedObjectId) = [row] := by
    have hown : logins serviceType credential endpoint.assignedObjectId row = true :=
      hlogin ▸ logins_login.mpr ⟨rfl, rfl⟩
    rw [hrows, List.filter_append, hfound, List.nil_append, List.filter_cons, hown, if_pos rfl, List.filter_nil]
  obtain ⟨hkeys, hsequence⟩ := savePin_if next endpoint row.pk
  refine .inr ⟨_, hrun, hadmitted, ?_, ?_, moveKeys_keys (hkeys.trans h.keys)⟩
  · exact pinned_rows hnext hcredential (hadmitted.keyed hkeyed) hfoundNext
  · rw [hcreated, ← Nat.add_assoc, ← h.sequence]
    exact hsequence

theorem carry_absent (hkeyed : before.Keyed) (hadmits : Admits before serviceType visited)
    (h : Tracks before serviceType visited database) {credential : Nat} {enabled : Bool}
    (hcredential : endpoint.credential = some credential) (henabled : endpoint.enabled = .ok enabled)
    (hfound : (before.rowsAfter serviceType visited).filter
      (logins serviceType credential endpoint.assignedObjectId) = []) :
    Comes before serviceType visited endpoint (carryEndpoint serviceType database endpoint) := by
  have hnone : (before.rowsAfter serviceType visited).any
      (logins serviceType credential endpoint.assignedObjectId) = false := by
    refine Bool.eq_false_iff.mpr fun hany => ?_
    obtain ⟨row, hrow, hlogin⟩ := List.any_eq_true.mp hany
    exact List.filter_eq_nil_iff.mp hfound row hrow hlogin
  have hcreated : (createdBy serviceType before.nextAssignment before.assignments (visited ++ [endpoint])).length =
      (createdBy serviceType before.nextAssignment before.assignments visited).length + 1 := by
    have hlength := congrArg List.length (rowsAfter_absent hcredential hnone)
    rw [rowsAfter_length, List.length_append, rowsAfter_length, List.length_singleton, Nat.add_assoc] at hlength
    exact Nat.add_left_cancel hlength
  by_cases hpk : before.nextAssignment +
      (createdBy serviceType before.nextAssignment before.assignments visited).length ∈
        before.assignments.map CredentialAssignment.pk
  · refine .inl ⟨.integrityError, ?_, fun hnext => ?_⟩
    · unfold carryEndpoint carryCredential
      rw [hcredential]
      dsimp only
      rw [henabled, Fallible.ok_bind, h.get_absent hfound, if_pos (h.taken_iff.mpr hpk)]
      rfl
    · exact hnext.sequence _ (by rw [hcreated]; exact Nat.lt_succ_self _) hpk
  · exact carry_created hkeyed hadmits h hcredential henabled hfound hnone hcreated hpk

theorem carry_several (h : Tracks before serviceType visited database) {credential : Nat} {enabled : Bool}
    (hcredential : endpoint.credential = some credential) (henabled : endpoint.enabled = .ok enabled)
    (hfound : 1 < ((before.rowsAfter serviceType visited).filter
      (logins serviceType credential endpoint.assignedObjectId)).length) :
    Comes before serviceType visited endpoint (carryEndpoint serviceType database endpoint) := by
  refine .inl ⟨.multipleObjectsReturned, ?_, fun hnext => ?_⟩
  · unfold carryEndpoint carryCredential
    rw [hcredential]
    dsimp only
    rw [henabled, Fallible.ok_bind, h.get_several hfound]
    rfl
  · have hsingle := hnext.single endpoint (List.mem_append_right _ List.mem_cons_self) credential hcredential
    exact absurd (createdBy_single before.nextAssignment visited hsingle) (Nat.not_le.mpr hfound)

theorem carry_comes (hkeyed : before.Keyed) (hadmits : Admits before serviceType visited)
    (h : Tracks before serviceType visited database) (endpoint : ServiceEndpoint) :
    Comes before serviceType visited endpoint (carryEndpoint serviceType database endpoint) := by
  cases hcredential : endpoint.credential with
  | none => exact carry_none hadmits h hcredential
  | some credential =>
      cases henabled : endpoint.enabled with
      | error error =>
          refine .inl ⟨error, ?_, fun hnext => ?_⟩
          · unfold carryEndpoint carryCredential
            rw [hcredential]
            dsimp only
            rw [henabled]
            rfl
          · obtain ⟨enabled, hok⟩ := hnext.enabled endpoint (List.mem_append_right _ List.mem_cons_self)
              (hcredential ▸ rfl)
            rw [henabled] at hok
            cases hok
      | ok enabled =>
          cases hfound : (before.rowsAfter serviceType visited).filter
              (logins serviceType credential endpoint.assignedObjectId) with
          | nil => exact carry_absent hkeyed hadmits h hcredential henabled hfound
          | cons row rest =>
              cases rest with
              | nil => exact carry_present hkeyed hadmits h hcredential henabled hfound
              | cons other rest =>
                  refine carry_several h hcredential henabled ?_
                  rw [hfound, List.length_cons, List.length_cons]
                  exact Nat.succ_lt_succ (Nat.succ_pos _)

theorem Admits.nil (before : Database) (serviceType : Nat) : Admits before serviceType [] where
  enabled _ hmem := absurd hmem List.not_mem_nil
  single _ hmem := absurd hmem List.not_mem_nil
  sequence n hn := absurd hn (Nat.not_lt_zero n)

theorem Tracks.nil (before : Database) (serviceType : Nat) : Tracks before serviceType [] before where
  assignments := by
    rw [rowsAfter, show createdBy serviceType before.nextAssignment before.assignments [] = [] from rfl, List.append_nil]
    exact (List.map_id _).symm
  sequence := rfl
  keys := (List.map_id _).symm

theorem loop_tracks (hkeyed : before.Keyed) (h : visited.foldlM (carryEndpoint serviceType) before = .ok after) :
    Admits before serviceType visited ∧ Tracks before serviceType visited after := by
  refine Fallible.foldlM_ok (fun done database => Admits before serviceType done ∧ Tracks before serviceType done database)
    (fun done endpoint rest database next _ hdone hnext => ?_) ⟨.nil before serviceType, .nil before serviceType⟩ h
  rcases carry_comes hkeyed hdone.1 hdone.2 endpoint with ⟨error, herror, -⟩ | ⟨found, hfound, hadmits, htracks⟩
  · rw [hnext] at herror
    cases herror
  · obtain rfl := Except.ok.inj (hnext.symm.trans hfound)
    exact ⟨hadmits, htracks⟩

theorem loop_exists (hkeyed : before.Keyed) (h : Admits before serviceType visited) :
    ∃ after, visited.foldlM (carryEndpoint serviceType) before = .ok after ∧ Tracks before serviceType visited after := by
  have hstep : ∀ done endpoint rest database, visited = done ++ endpoint :: rest →
      Admits before serviceType done ∧ Tracks before serviceType done database →
      ∃ next, carryEndpoint serviceType database endpoint = .ok next ∧
        Admits before serviceType (done ++ [endpoint]) ∧ Tracks before serviceType (done ++ [endpoint]) next := by
    rintro done endpoint rest database hall ⟨hadmits, htracks⟩
    have hfront : Admits before serviceType (done ++ [endpoint]) := by
      have hsplit : visited = done ++ [endpoint] ++ rest := by rw [hall, List.append_assoc, List.singleton_append]
      exact (hsplit ▸ h).front
    rcases carry_comes hkeyed hadmits htracks endpoint with ⟨error, -, hrefused⟩ | ⟨next, hnext, hboth⟩
    · exact absurd hfront hrefused
    · exact ⟨next, hnext, hboth⟩
  obtain ⟨after, hafter, -, htracks⟩ := Fallible.foldlM_exists
    (fun done database => Admits before serviceType done ∧ Tracks before serviceType done database) hstep
    ⟨Admits.nil before serviceType, Tracks.nil before serviceType⟩
  exact ⟨after, hafter, htracks⟩

/-! ### The keys -/

theorem movedKey_fields (visited : List ServiceEndpoint) (key : SSHPublicKey) :
    ∃ service, movedKey visited key = { key with applicationService := service } := by
  induction visited using List.reverseRecOn with
  | nil => exact ⟨key.applicationService, rfl⟩
  | append_singleton visited last ih =>
      obtain ⟨service, hmoved⟩ := ih
      rw [movedKey_append, hmoved]
      split
      · exact ⟨some last.assignedObjectId, rfl⟩
      · exact ⟨service, rfl⟩

theorem movedKey_endpoint (visited : List ServiceEndpoint) (key : SSHPublicKey) :
    (movedKey visited key).serviceEndpoint = key.serviceEndpoint := by
  obtain ⟨service, hmoved⟩ := movedKey_fields visited key
  rw [hmoved]

/-- A key is on the service of its endpoint, whenever that was visited. -/
theorem movedKey_of_mem {key : SSHPublicKey} (hsame : ∀ other ∈ visited, key.serviceEndpoint = other.pk → other = endpoint)
    (hmem : endpoint ∈ visited) (hkey : key.serviceEndpoint = endpoint.pk) :
    movedKey visited key = { key with applicationService := some endpoint.assignedObjectId } := by
  induction visited using List.reverseRecOn with
  | nil => exact absurd hmem List.not_mem_nil
  | append_singleton visited last ih =>
      rw [movedKey_append, movedKey_endpoint]
      by_cases hlast : key.serviceEndpoint = last.pk
      · rw [if_pos hlast, hsame last (List.mem_append_right _ List.mem_cons_self) hlast]
        obtain ⟨service, hmoved⟩ := movedKey_fields visited key
        rw [hmoved]
      · rw [if_neg hlast]
        rcases List.mem_append.mp hmem with hmem | hmem
        · exact ih (fun other hother => hsame other (List.mem_append_left _ hother)) hmem
        · rw [← List.mem_singleton.mp hmem] at hlast
          exact absurd hkey hlast

theorem movedKey_of_none {key : SSHPublicKey} (hnone : ∀ other ∈ visited, key.serviceEndpoint ≠ other.pk) :
    movedKey visited key = key := by
  induction visited using List.reverseRecOn with
  | nil => rfl
  | append_singleton visited last ih =>
      rw [movedKey_append, movedKey_endpoint, if_neg (hnone last (List.mem_append_right _ List.mem_cons_self))]
      exact ih fun other hother => hnone other (List.mem_append_left _ hother)

theorem movedKey_perm {other : List ServiceEndpoint} (hperm : visited.Perm other)
    (hkeyed : (visited.map ServiceEndpoint.pk).Nodup) (key : SSHPublicKey) : movedKey visited key = movedKey other key := by
  by_cases hany : ∃ endpoint ∈ visited, key.serviceEndpoint = endpoint.pk
  · obtain ⟨endpoint, hmem, hkey⟩ := hany
    have hsame : ∀ found ∈ visited, key.serviceEndpoint = found.pk → found = endpoint := fun found hfound hpk =>
      List.inj_on_of_nodup_map hkeyed hfound hmem (hpk.symm.trans hkey)
    rw [movedKey_of_mem hsame hmem hkey,
      movedKey_of_mem (fun found hfound => hsame found (hperm.mem_iff.mpr hfound)) (hperm.mem_iff.mp hmem) hkey]
  · have hnone : ∀ endpoint ∈ visited, key.serviceEndpoint ≠ endpoint.pk :=
      fun endpoint hmem hpk => hany ⟨endpoint, hmem, hpk⟩
    rw [movedKey_of_none hnone, movedKey_of_none fun endpoint hmem => hnone endpoint (hperm.mem_iff.mpr hmem)]

theorem collapseKeys_congr {first second : Database} (hkeys : first.keys = second.keys)
    (h : first.dropUnmapped.collapseKeys = .ok after) :
    after.assignments = first.assignments ∧
      ∃ other, second.dropUnmapped.collapseKeys = .ok other ∧ other.assignments = second.assignments := by
  have hseen : first.dropUnmapped.seenKeys = second.dropUnmapped.seenKeys := by
    unfold seenKeys dropUnmapped
    rw [hkeys]
  unfold collapseKeys at h ⊢
  dsimp only at h ⊢
  rw [← hseen]
  split at h
  · next hnone =>
      rw [if_pos hnone]
      obtain rfl := Except.ok.inj h
      exact ⟨rfl, _, rfl, rfl⟩
  · cases h

/-! ### Two orders -/

/-- An order the database may return some rows in. -/
structure VisitOrder where
  visit : List ServiceEndpoint → List ServiceEndpoint
  perm : ∀ endpoints, (visit endpoints).Perm endpoints

/-- A run in one order, and with it the run in any other. -/
theorem loop_perm {other : List ServiceEndpoint} (hkeyed : before.Keyed) (hperm : visited.Perm other)
    (hpks : (visited.map ServiceEndpoint.pk).Nodup)
    (h : (visited.foldlM (carryEndpoint serviceType) before >>= fun database => database.dropUnmapped.collapseKeys) =
      .ok after) :
    after.assignments = (before.rowsAfter serviceType visited).map (repin serviceType visited) ∧
      ∃ found, (other.foldlM (carryEndpoint serviceType) before >>= fun database =>
          database.dropUnmapped.collapseKeys) = .ok found ∧
        found.assignments = (before.rowsAfter serviceType other).map (repin serviceType other) := by
  obtain ⟨looped, hloop, hcollapse⟩ := Fallible.bind_ok h
  obtain ⟨hadmits, htracks⟩ := loop_tracks hkeyed hloop
  obtain ⟨loopedOther, hloopOther, htracksOther⟩ := loop_exists hkeyed (hadmits.perm hperm)
  have hkeys : looped.keys = loopedOther.keys := by
    rw [htracks.keys, htracksOther.keys]
    exact List.map_congr_left fun key _ => movedKey_perm hperm hpks key
  obtain ⟨hassignments, found, hfound, hfoundAssignments⟩ := collapseKeys_congr hkeys hcollapse
  refine ⟨hassignments.trans htracks.assignments, found, ?_, hfoundAssignments.trans htracksOther.assignments⟩
  rw [hloopOther, Fallible.ok_bind]
  exact hfound

/-- What a run that succeeds leaves: the assignments as they were, when there are no Application Services, and otherwise
the rows of its order. -/
def Leaves (before : Database) (order : VisitOrder) (after : Database) : Prop :=
  match before.serviceType with
  | none => after.assignments = before.assignments
  | some serviceType =>
      after.assignments = (before.rowsAfter serviceType (order.visit (before.liveEndpoints serviceType))).map
        (repin serviceType (order.visit (before.liveEndpoints serviceType)))

theorem carryOver_ok_iff {visits : List ServiceEndpoint → List ServiceEndpoint}
    (hserviceType : before.serviceType = some serviceType) :
    carryOverEndpointData visits before = .ok after ↔ (before.pins serviceType).conflicts = [] ∧
      ((visits (before.liveEndpoints serviceType)).foldlM (carryEndpoint serviceType) before >>= fun database =>
        database.dropUnmapped.collapseKeys) = .ok after := by
  unfold carryOverEndpointData
  rw [hserviceType]
  dsimp only
  cases hconflicts : (before.pins serviceType).conflicts with
  | nil => exact ⟨fun h => ⟨rfl, h⟩, fun h => h.2⟩
  | cons conflict rest => exact ⟨nofun, nofun⟩

theorem carryOver_perm (hkeyed : before.Keyed) {first : VisitOrder} (second : VisitOrder)
    (h : carryOverEndpointData first.visit before = .ok after) : Leaves before first after ∧
      (∀ serviceType, before.serviceType = some serviceType → Mergeable (before.liveEndpoints serviceType)) ∧
      ∃ found, carryOverEndpointData second.visit before = .ok found ∧ Leaves before second found := by
  unfold Leaves
  cases hserviceType : before.serviceType with
  | none =>
      unfold carryOverEndpointData at h ⊢
      rw [hserviceType] at h ⊢
      obtain rfl := Except.ok.inj h
      exact ⟨rfl, nofun, _, rfl, rfl⟩
  | some serviceType =>
      obtain ⟨hconflicts, hloop⟩ := (carryOver_ok_iff hserviceType).mp h
      have hmergeable := liveEndpoints_mergeable hkeyed hconflicts
      have hfirst := first.perm (before.liveEndpoints serviceType)
      have hsecond := second.perm (before.liveEndpoints serviceType)
      obtain ⟨hleaves, found, hfound, hfoundLeaves⟩ := loop_perm hkeyed (hfirst.trans hsecond.symm)
        ((hfirst.map ServiceEndpoint.pk).nodup_iff.mpr hmergeable.keyed) hloop
      refine ⟨hleaves, fun other hother => ?_, found, ?_, hfoundLeaves⟩
      · exact Option.some.inj hother ▸ hmergeable
      · exact (carryOver_ok_iff hserviceType).mpr ⟨hconflicts, hfound⟩

theorem enabled_of_run {order : VisitOrder} {credential : Nat} (hkeyed : before.Keyed)
    (h : carryOverEndpointData order.visit before = .ok after) (hserviceType : before.serviceType = some serviceType)
    (hmem : endpoint ∈ before.liveEndpoints serviceType) (hcredential : endpoint.credential = some credential) :
    ∃ enabled, endpoint.enabled = .ok enabled := by
  obtain ⟨-, hrun⟩ := (carryOver_ok_iff hserviceType).mp h
  obtain ⟨looped, hloop, -⟩ := Fallible.bind_ok hrun
  obtain ⟨hadmits, -⟩ := loop_tracks hkeyed hloop
  refine hadmits.enabled endpoint ((order.perm _).mem_iff.mpr hmem) ?_
  rw [hcredential]
  rfl

/-! ### The contents -/

/-- The set of the assignments of two databases is the same. -/
def SameAssignments (first second : Database) : Prop :=
  ∀ content, (∃ assignment ∈ first.assignments, assignment.content = content) ↔
    ∃ assignment ∈ second.assignments, assignment.content = content

/-- Any two orders give the same assignments, or both abort. -/
def OrderIndependent (before : Database) : Prop :=
  ∀ first second : VisitOrder,
    (∃ a b, carryOverEndpointData first.visit before = .ok a ∧ carryOverEndpointData second.visit before = .ok b ∧
      SameAssignments a b) ∨
    ((∃ error, carryOverEndpointData first.visit before = .error error) ∧
      ∃ error, carryOverEndpointData second.visit before = .error error)

/-- The step succeeds, in some order. -/
def Migrates (before : Database) : Prop := ∃ (order : VisitOrder) (after : Database),
  carryOverEndpointData order.visit before = .ok after

/-- The live endpoints that would create one login assignment agree on its enabled flag. -/
def EnabledSettled (before : Database) : Prop :=
  ∀ serviceType, before.serviceType = some serviceType → ∀ a ∈ before.liveEndpoints serviceType,
    ∀ b ∈ before.liveEndpoints serviceType, ∀ credential, a.credential = some credential →
      b.credential = some credential → a.assignedObjectId = b.assignedObjectId →
      (∀ assignment ∈ before.assignments, ¬ assignment.loginOf credential serviceType a.assignedObjectId) →
      a.enabled = b.enabled

theorem logins_iff {credential service : Nat} {assignment : CredentialAssignment} :
    logins serviceType credential service assignment = true ↔ assignment.loginOf credential serviceType service := by
  unfold logins CredentialAssignment.loginOf
  simp only [Bool.and_eq_true, beq_iff_eq, and_assoc]

/-- The primary key of a row does not matter for its pin. -/
theorem repin_withPk (visited : List ServiceEndpoint) (assignment : CredentialAssignment) (pk : Nat) :
    repin serviceType visited { assignment with pk } = { repin serviceType visited assignment with pk } := by
  induction visited using List.reverseRecOn with
  | nil => rfl
  | append_singleton visited last ih =>
      have hsets : last.sets serviceType { assignment with pk } = last.sets serviceType assignment := rfl
      rw [repin_append, repin_append, hsets, ih]
      split
      · rfl
      · rfl

theorem rows_include {other : List ServiceEndpoint} (hperm : visited.Perm other)
    (hagree : ∀ a ∈ visited, ∀ b ∈ visited, Agree a b)
    (hsettled : ∀ a ∈ visited, ∀ b ∈ visited, ∀ credential, a.credential = some credential →
      b.credential = some credential → a.assignedObjectId = b.assignedObjectId →
      before.assignments.any (logins serviceType credential a.assignedObjectId) = false → a.enabled = b.enabled)
    {row : CredentialAssignment} (hrow : row ∈ before.rowsAfter serviceType visited) :
    ∃ found ∈ before.rowsAfter serviceType other,
      (repin serviceType other found).content = (repin serviceType visited row).content := by
  unfold rowsAfter at hrow ⊢
  rcases List.mem_append.mp hrow with hold | hnew
  · refine ⟨row, List.mem_append_left _ hold, ?_⟩
    rw [repin_perm hperm hagree row]
  · obtain ⟨endpoint, hendpoint, credential, hcredential, hnone, heq⟩ := mem_createdBy hnew
    have hslot : (credential, endpoint.assignedObjectId) ∈
        (createdBy serviceType before.nextAssignment before.assignments other).map CredentialAssignment.slot :=
      mem_createdBy_slots.mpr ⟨endpoint, hperm.mem_iff.mp hendpoint, hcredential, rfl, hnone⟩
    obtain ⟨found, hfound, hsame⟩ := List.mem_map.mp hslot
    obtain ⟨creator, hcreator, credential', hcredential', -, heq'⟩ := mem_createdBy hfound
    rw [heq'] at hsame
    obtain ⟨rfl, hservice⟩ := Prod.mk.inj hsame
    have henabled : endpoint.enabled = creator.enabled :=
      hsettled endpoint hendpoint creator (hperm.mem_iff.mpr hcreator) credential' hcredential hcredential' hservice.symm
        hnone
    have hrows : row = { found with pk := row.pk } := by
      rw [heq, heq']
      unfold ServiceEndpoint.login
      rw [henabled, show creator.assignedObjectId = endpoint.assignedObjectId from hservice]
    refine ⟨found, List.mem_append_right _ hfound, ?_⟩
    rw [repin_perm hperm hagree row, hrows, repin_withPk other found row.pk]
    rfl

theorem any_logins_false {credential service : Nat} :
    before.assignments.any (logins serviceType credential service) = false ↔
      ∀ assignment ∈ before.assignments, ¬ assignment.loginOf credential serviceType service := by
  rw [← Bool.not_eq_true, List.any_eq_true]
  constructor
  · exact fun hnone row hrow hlogin => hnone ⟨row, hrow, logins_iff.mpr hlogin⟩
  · rintro hnone ⟨row, hrow, hlogin⟩
    exact hnone row hrow (logins_iff.mp hlogin)

/-- Two orders leave the same assignments when the flags are settled. -/
theorem leaves_same {first second : VisitOrder} {a b : Database} (hsettled : before.EnabledSettled)
    (hmergeable : ∀ serviceType, before.serviceType = some serviceType → Mergeable (before.liveEndpoints serviceType))
    (ha : Leaves before first a) (hb : Leaves before second b) (content : AssignmentContent)
    (h : ∃ assignment ∈ a.assignments, assignment.content = content) :
    ∃ assignment ∈ b.assignments, assignment.content = content := by
  unfold Leaves at ha hb
  cases hserviceType : before.serviceType with
  | none =>
      rw [hserviceType] at ha hb
      dsimp only at ha hb
      rw [ha] at h
      rw [hb]
      exact h
  | some serviceType =>
      rw [hserviceType] at ha hb
      dsimp only at ha hb
      have hfirst := first.perm (before.liveEndpoints serviceType)
      have hsecond := second.perm (before.liveEndpoints serviceType)
      obtain ⟨assignment, hassignment, rfl⟩ := h
      rw [ha] at hassignment
      obtain ⟨row, hrow, rfl⟩ := List.mem_map.mp hassignment
      obtain ⟨found, hfound, hsame⟩ := rows_include (hfirst.trans hsecond.symm)
        (fun x hx y hy => (hmergeable serviceType hserviceType).agree x (hfirst.mem_iff.mp hx) y (hfirst.mem_iff.mp hy))
        (fun x hx y hy credential hxCredential hyCredential hservice hnone =>
          hsettled serviceType hserviceType x (hfirst.mem_iff.mp hx) y (hfirst.mem_iff.mp hy) credential hxCredential
            hyCredential hservice (any_logins_false.mp hnone)) hrow
      refine ⟨_, ?_, hsame⟩
      rw [hb]
      exact List.mem_map_of_mem hfound

/-- The order in which one row comes first. -/
def foremost (pk : Nat) : VisitOrder where
  visit endpoints := (endpoints.filter fun endpoint => endpoint.pk == pk) ++
    endpoints.filter fun endpoint => !(endpoint.pk == pk)
  perm endpoints := List.filter_append_perm _ endpoints

/-- The endpoint that comes first creates the row of its credential and service with its own flag. -/
theorem foremost_enabled {a : ServiceEndpoint} {credential : Nat} {enabled : Bool} {after : Database}
    (hserviceType : before.serviceType = some serviceType) (hmem : a ∈ before.liveEndpoints serviceType)
    (hkeyed : before.Keyed) (hcredential : a.credential = some credential) (henabled : a.enabled = .ok enabled)
    (hnone : ∀ assignment ∈ before.assignments, ¬ assignment.loginOf credential serviceType a.assignedObjectId)
    (hleaves : Leaves before (foremost a.pk) after) :
    (∃ assignment ∈ after.assignments, assignment.loginOf credential serviceType a.assignedObjectId) ∧
      ∀ assignment ∈ after.assignments, assignment.loginOf credential serviceType a.assignedObjectId →
        assignment.enabled = enabled := by
  unfold Leaves at hleaves
  rw [hserviceType] at hleaves
  dsimp only at hleaves
  have hpks : ((before.liveEndpoints serviceType).map ServiceEndpoint.pk).Nodup :=
    hkeyed.endpoints.sublist (List.filter_sublist.map _)
  -- The row of `a` is created before anything else.
  obtain ⟨tail, hfirst⟩ : ∃ tail, (foremost a.pk).visit (before.liveEndpoints serviceType) = [a] ++ tail := by
    have hin : a ∈ (before.liveEndpoints serviceType).filter fun endpoint => endpoint.pk == a.pk :=
      List.mem_filter.mpr ⟨hmem, beq_self_eq_true _⟩
    cases hfilter : (before.liveEndpoints serviceType).filter fun endpoint => endpoint.pk == a.pk with
    | nil =>
        rw [hfilter] at hin
        exact absurd hin List.not_mem_nil
    | cons head rest =>
        have hhead : head ∈ (before.liveEndpoints serviceType).filter fun endpoint => endpoint.pk == a.pk :=
          hfilter ▸ List.mem_cons_self
        obtain ⟨hheadMem, hheadPk⟩ := List.mem_filter.mp hhead
        obtain rfl := List.inj_on_of_nodup_map hpks hheadMem hmem (eq_of_beq hheadPk)
        refine ⟨rest ++ (before.liveEndpoints serviceType).filter fun endpoint => !(endpoint.pk == head.pk), ?_⟩
        unfold foremost
        dsimp only
        rw [hfilter]
        rfl
  generalize (foremost a.pk).visit (before.liveEndpoints serviceType) = order at hfirst hleaves
  have hcreated : a.login serviceType credential before.nextAssignment ∈
      createdBy serviceType before.nextAssignment before.assignments order := by
    obtain ⟨more, hmore⟩ := createdBy_extends serviceType before.nextAssignment before.assignments [a] tail
    have hone : createdBy serviceType before.nextAssignment before.assignments [a] =
        [a.login serviceType credential before.nextAssignment] := by
      unfold createdBy
      rw [List.foldl_cons, List.foldl_nil]
      unfold place
      rw [hcredential]
      dsimp only
      rw [List.append_nil, any_logins_false.mpr hnone, if_neg Bool.false_ne_true]
      rfl
    rw [hfirst, hmore, hone]
    exact List.mem_cons_self
  have hrow : a.login serviceType credential before.nextAssignment ∈ before.rowsAfter serviceType order :=
    List.mem_append_right _ hcreated
  constructor
  · refine ⟨repin serviceType order (a.login serviceType credential before.nextAssignment), ?_, ?_⟩
    · rw [hleaves]
      exact List.mem_map_of_mem hrow
    · rw [← logins_iff, logins_repin]
      exact logins_login.mpr ⟨rfl, rfl⟩
  · intro assignment hassignment hlogin
    rw [hleaves] at hassignment
    obtain ⟨row, hrowMem, rfl⟩ := List.mem_map.mp hassignment
    rw [← logins_iff, logins_repin] at hlogin
    obtain ⟨entry, strict, hrepin⟩ := repin_fields serviceType order row
    rw [hrepin]
    rcases List.mem_append.mp hrowMem with hold | hnew
    · exact absurd (logins_iff.mp hlogin) (hnone row hold)
    · have hslot : row.slot = (a.login serviceType credential before.nextAssignment).slot := logins_slot hlogin
      rw [List.inj_on_of_nodup_map createdBy_slots hnew hcreated hslot]
      unfold ServiceEndpoint.login
      rw [henabled]
      rfl

theorem loginOf_content {row twin : CredentialAssignment} (h : row.content = twin.content) {credential service : Nat}
    (hlogin : row.loginOf credential serviceType service) : twin.loginOf credential serviceType service := by
  obtain ⟨hcredential, htype, hservice, hpurpose⟩ := hlogin
  refine ⟨?_, ?_, ?_, ?_⟩
  · rw [← hcredential]
    exact congrArg AssignmentContent.credential h.symm
  · rw [← htype]
    exact congrArg AssignmentContent.assignedObjectType h.symm
  · rw [← hservice]
    exact congrArg AssignmentContent.assignedObjectId h.symm
  · rw [← hpurpose]
    exact congrArg AssignmentContent.purpose h.symm

/-- Two endpoints of one credential and service without a login assignment have the same flag, when no order makes a
difference. -/
theorem settled_of_independent (hkeyed : before.Keyed) (hmigrates : before.Migrates) (h : before.OrderIndependent) :
    before.EnabledSettled := by
  intro serviceType hserviceType a ha b hb credential hcredentialA hcredentialB hservice hnone
  obtain ⟨order, after, hrun⟩ := hmigrates
  obtain ⟨-, -, afterA, hrunA, hleavesA⟩ := carryOver_perm hkeyed (foremost a.pk) hrun
  obtain ⟨-, -, afterB, hrunB, hleavesB⟩ := carryOver_perm hkeyed (foremost b.pk) hrun
  obtain ⟨enabledA, henabledA⟩ := enabled_of_run hkeyed hrun hserviceType ha hcredentialA
  obtain ⟨enabledB, henabledB⟩ := enabled_of_run hkeyed hrun hserviceType hb hcredentialB
  obtain ⟨⟨row, hrow, hlogin⟩, hflagA⟩ :=
    foremost_enabled hserviceType ha hkeyed hcredentialA henabledA hnone hleavesA
  obtain ⟨-, hflagB⟩ := foremost_enabled hserviceType hb hkeyed hcredentialB henabledB (hservice ▸ hnone) hleavesB
  rcases h (foremost a.pk) (foremost b.pk) with ⟨foundA, foundB, hfoundA, hfoundB, hsame⟩ | ⟨⟨error, herror⟩, -⟩
  · obtain rfl := Except.ok.inj (hrunA.symm.trans hfoundA)
    obtain rfl := Except.ok.inj (hrunB.symm.trans hfoundB)
    -- The row that `a` created has a row of the same content in the other order, which `b` created.
    obtain ⟨twin, htwin, hcontent⟩ := (hsame row.content).mp ⟨row, hrow, rfl⟩
    have htwinLogin : twin.loginOf credential serviceType b.assignedObjectId := by
      rw [← hservice]
      exact loginOf_content hcontent.symm hlogin
    have henabled : twin.enabled = row.enabled := congrArg AssignmentContent.enabled hcontent
    rw [henabledA, henabledB, ← hflagA row hrow hlogin, ← hflagB twin htwin htwinLogin, henabled]
  · rw [hrunA] at herror
    cases herror

theorem independent_of_settled (hkeyed : before.Keyed) (h : before.EnabledSettled) : before.OrderIndependent := by
  intro first second
  cases hfirst : carryOverEndpointData first.visit before with
  | ok a =>
      obtain ⟨hleavesA, hmergeable, b, hsecond, hleavesB⟩ := carryOver_perm hkeyed second hfirst
      refine Or.inl ⟨a, b, rfl, hsecond, fun content => ⟨?_, ?_⟩⟩
      · exact leaves_same h hmergeable hleavesA hleavesB content
      · exact leaves_same h hmergeable hleavesB hleavesA content
  | error error =>
      cases hsecond : carryOverEndpointData second.visit before with
      | ok b =>
          obtain ⟨-, -, a, hfound, -⟩ := carryOver_perm hkeyed first hsecond
          rw [hfirst] at hfound
          cases hfound
      | error other => exact Or.inr ⟨⟨error, rfl⟩, other, rfl⟩

/-- The assignments that the step leaves do not depend on the order of the endpoints exactly when the endpoints that
would create one assignment agree on its enabled flag. -/
theorem order_independent_iff (before : Database) (hkeyed : before.Keyed) (hmigrates : before.Migrates) :
    before.OrderIndependent ↔ before.EnabledSettled :=
  ⟨settled_of_independent hkeyed hmigrates, independent_of_settled hkeyed⟩

theorem migrates_of_run (order : VisitOrder) (h : (carryOverEndpointData order.visit before).toOption.isSome = true) :
    before.Migrates := by
  obtain ⟨after, hafter⟩ := Option.isSome_iff_exists.mp h
  exact ⟨order, after, Fallible.ok_of_toOption hafter⟩

theorem Sample.merging_settled : Sample.merging.EnabledSettled := by
  have henabled : ∀ endpoint ∈ Sample.merging.endpoints, endpoint.enabled = .ok true := by
    intro endpoint hendpoint
    simp only [Sample.merging, List.mem_cons, List.not_mem_nil, or_false] at hendpoint
    rcases hendpoint with rfl | rfl | rfl <;> rfl
  intro serviceType _ a ha b hb _ _ _ _ _
  rw [henabled a (List.mem_of_mem_filter ha), henabled b (List.mem_of_mem_filter hb)]

/-- Three endpoints of one credential and service leave the same assignment in every order. -/
theorem merging_order_independent : Sample.merging.Keyed ∧ Sample.merging.Migrates ∧ Sample.merging.OrderIndependent := by
  have hkeyed : Sample.merging.Keyed := ⟨by decide, by decide, by decide⟩
  have hmigrates : Sample.merging.Migrates := ⟨foremost 1, Sample.merged, Sample.merging_runs rfl⟩
  exact ⟨hkeyed, hmigrates, (order_independent_iff Sample.merging hkeyed hmigrates).mpr Sample.merging_settled⟩

/-- Two endpoints of one service bind one credential, and the second is switched off. -/
def Sample.halfEnabled : Database where
  serviceType := some 1
  services := [5]
  endpoints := [⟨1, 1, 5, "http", "", true, .dict [], some 3⟩,
    ⟨2, 1, 5, "netconf", "", true, .dict [("enabled", .bool false)], some 3⟩]
  assignments := []
  nextAssignment := 1
  keys := []

/-- The first endpoint that is visited decides whether the credential's assignment is enabled. -/
theorem order_matters : ¬ ∀ before : Database, before.Keyed → before.Migrates → before.OrderIndependent := by
  intro h
  have hkeyed : Sample.halfEnabled.Keyed := ⟨by decide, by decide, by decide⟩
  have hmigrates : Sample.halfEnabled.Migrates := migrates_of_run (foremost 1) (by decide +kernel)
  have hsettled := settled_of_independent hkeyed hmigrates (h _ hkeyed hmigrates)
  have hsame : (Except.ok true : Except MigrationError Bool) = .ok false :=
    hsettled 1 rfl ⟨1, 1, 5, "http", "", true, .dict [], some 3⟩ (by simp [Sample.halfEnabled, liveEndpoints])
      ⟨2, 1, 5, "netconf", "", true, .dict [("enabled", .bool false)], some 3⟩
      (by simp [Sample.halfEnabled, liveEndpoints]) 3 rfl rfl rfl nofun
  cases hsame

end Database

end NetboxOpenbao.Migration
