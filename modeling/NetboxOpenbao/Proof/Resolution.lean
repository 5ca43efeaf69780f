import NetboxOpenbao.Resolutions

/-!
# The histories of a resolution

Which requests the parts of `resolve_automation` make, and what the histories of a part that returned say. Only the
last part reads, and it comes after a receipt has been committed.
-/

namespace NetboxOpenbao

open Effect Dialogue

/-! ### Parts that only look -/

/-- A request that looks at the inventory or asks the authority to check something. -/
def Request.plain : Request → Bool
  | .checkLifetime _ | .checkPermissions _ | .statement | .lock _ | .now | .getBackend _ _ => true
  | _ => false

def Request.isRead : Request → Prop
  | .read _ _ => True
  | _ => False

def Request.authorizes : Request → Prop
  | .authorizeDispatch _ _ => True
  | _ => False

/-- A program all of whose requests only look. -/
abbrev Looks {α : Type} (d : Talk α) : Prop := d.Avoids fun r => r.plain = false

theorem Request.not_plain_of_isRead {r : Request} (h : r.isRead) : r.plain = false := by
  cases r <;> first | rfl | exact h.elim

theorem Request.not_plain_of_authorizes {r : Request} (h : r.authorizes) : r.plain = false := by
  cases r <;> first | rfl | exact h.elim

abbrev History := List (Exchange Error Request Request.Carries)

/-- A history of such requests. -/
abbrev Looking (h : History) : Prop := ∀ x ∈ h, x.request.plain = true

theorem Looking.append {h h' : History} (hfirst : Looking h) (hsecond : Looking h') : Looking (h ++ h') := by
  intro x hx
  rcases List.mem_append.mp hx with hx | hx
  · exact hfirst x hx
  · exact hsecond x hx

theorem Looks.looking {α : Type} {d : Talk α} (hd : Looks d) {h : History}
    {result : Except Error α} (he : Ends d h result) : Looking h := by
  intro x hx
  have hplain := hd.ends he x hx
  simpa using hplain

theorem Looks.readless {α : Type} {d : Talk α} (hd : Looks d) : d.Avoids Request.isRead :=
  hd.mono fun _ => Request.not_plain_of_isRead

theorem Looks.unauthorizing {α : Type} {d : Talk α} (hd : Looks d) : d.Avoids Request.authorizes :=
  hd.mono fun _ => Request.not_plain_of_authorizes

namespace Automation

theorem send_avoids {P : Request → Prop} {r : Request} (hr : ¬ P r) : (send r).Avoids P := Avoids.request hr

theorem atomically_avoids {P : Request → Prop} {α : Type} {body : Talk α} (hbegin : ¬ P .begin) (hcommit : ¬ P .commit)
    (hrollback : ¬ P .rollback) (hbody : body.Avoids P) : (atomically body).Avoids P := by
  apply (send_avoids hbegin).bind
  intro _
  apply hbody.attempt.bind
  intro result
  cases result with
  | ok a =>
      apply (send_avoids hcommit).bind
      intro _
      exact Avoids.pure a
  | error error =>
      apply (send_avoids hrollback).attempt.bind
      intro _
      exact Avoids.raise error

theorem statement_looks : Looks statement := Avoids.request (by decide)

theorem lock_looks (rows : LockedRows) : Looks (lock rows) := Avoids.request (by simp [Request.plain])

theorem ofExcept_looks {α : Type} (result : Except Error α) : Looks (ofExcept result) := Avoids.done result

theorem raiseIf_looks (condition : Bool) (error : Error) : Looks (raiseIf condition error) := by
  unfold raiseIf
  split
  · exact Avoids.raise error
  · exact Avoids.pure ()

theorem denyUnless_looks (condition : Bool) : Looks (denyUnless condition) := raiseIf_looks _ _

theorem check_looks {request : Talk Unit} (hrequest : Looks request) : Looks (check request) := by
  apply hrequest.attempt.bind
  intro result
  cases result with
  | ok _ => exact Avoids.pure ()
  | error _ => exact Avoids.raise denied

theorem checkDispatch_looks (authority : Authority) : Looks (checkDispatch authority) := by
  have hlifetime : Looks (checkLifetime authority) := check_looks (Avoids.request (by simp [Request.plain]))
  have hpermissions : Looks (checkRpcPermissions authority) := check_looks (Avoids.request (by simp [Request.plain]))
  apply hlifetime.bind
  intro _
  apply hpermissions.bind
  intro _
  exact hlifetime

theorem actorOf_looks (authority : Authority) : Looks (actorOf authority) := by
  apply statement_looks.bind
  intro inventory
  split
  · exact Avoids.pure _
  · exact Avoids.raise denied

theorem target_looks (authority : Authority) : Looks (target authority) := by
  apply (denyUnless_looks _).bind
  intro _
  apply statement_looks.bind
  intro _
  apply (denyUnless_looks _).bind
  intro _
  apply statement_looks.bind
  intro _
  exact denyUnless_looks _

theorem checkServiceVisible_looks (authority : Authority) (assignment : CredentialAssignment) :
    Looks (checkServiceVisible authority assignment) := by
  unfold checkServiceVisible
  split
  · apply statement_looks.bind
    intro _
    exact denyUnless_looks _
  · exact Avoids.pure ()

theorem lockCandidateService_looks (assignment : CredentialAssignment) :
    Looks (lockCandidateService assignment) := by
  unfold lockCandidateService
  split
  · apply (lock_looks _).bind
    intro _
    apply (denyUnless_looks _).bind
    intro _
    exact Avoids.pure _
  · exact Avoids.pure _

theorem lockCredentialGraph_looks (credentialId : Nat) : Looks (lockCredentialGraph credentialId) := by
  apply statement_looks.bind
  intro _
  apply (ofExcept_looks _).bind
  intro _
  apply (lock_looks _).bind
  intro _
  apply (lock_looks _).bind
  intro _
  apply (lock_looks _).bind
  intro _
  apply (ofExcept_looks _).bind
  intro _
  apply (raiseIf_looks _ _).bind
  intro _
  apply (ofExcept_looks _).bind
  intro _
  apply (ofExcept_looks _).bind
  intro _
  exact Avoids.pure _

theorem revalidateService_looks (authority : Authority) (assignment : CredentialAssignment) (bound : Bool) :
    Looks (revalidateService authority assignment bound) := by
  unfold revalidateService
  split
  · apply statement_looks.bind
    intro _
    exact denyUnless_looks _
  · exact Avoids.pure ()

theorem lockStoredSchema_looks (credentialType : String) : Looks (lockStoredSchema credentialType) := by
  apply statement_looks.bind
  intro _
  apply (ofExcept_looks _).bind
  intro schema
  split
  · exact Avoids.pure ()
  · apply (lock_looks _).bind
    intro _
    exact raiseIf_looks _ _

theorem lockMetadata_looks (authority : Authority) : Looks (lockMetadata authority) := by
  apply statement_looks.bind
  intro _
  split
  · apply (lockCandidateService_looks _).bind
    intro _
    apply (lockCredentialGraph_looks _).bind
    intro _
    apply (lock_looks _).bind
    intro _
    apply (ofExcept_looks _).bind
    intro _
    apply (denyUnless_looks _).bind
    intro _
    apply (revalidateService_looks _ _ _).bind
    intro _
    apply (lockStoredSchema_looks _).bind
    intro _
    exact Avoids.pure _
  · exact Avoids.raise denied

theorem checkCredential_looks (authority : Authority) (actor : User) (credential : LockedCredential) :
    Looks (checkCredential authority actor credential) := by
  apply statement_looks.bind
  intro _
  apply (denyUnless_looks _).bind
  intro _
  apply Avoids.bind (Avoids.request (by simp [Request.plain]))
  intro _
  apply (denyUnless_looks _).bind
  intro _
  apply (denyUnless_looks _).bind
  intro _
  apply statement_looks.bind
  intro _
  exact denyUnless_looks _

theorem fields_looks (authority : Authority) (credential : Credential) : Looks (fields authority credential) := by
  apply statement_looks.bind
  intro _
  apply (ofExcept_looks _).bind
  intro _
  apply (denyUnless_looks _).bind
  intro _
  exact Avoids.pure _

theorem resolveMetadata_looks (authority : Authority) : Looks (resolveMetadata authority) := by
  apply (lockMetadata_looks authority).bind
  rintro ⟨assignment, credential⟩
  apply (actorOf_looks authority).bind
  intro actor
  apply (target_looks authority).bind
  intro _
  apply statement_looks.bind
  intro _
  apply (denyUnless_looks _).bind
  intro _
  apply (checkServiceVisible_looks authority assignment).bind
  intro _
  apply (checkCredential_looks authority actor credential).bind
  intro _
  apply (denyUnless_looks _).bind
  intro _
  apply (ofExcept_looks _).bind
  intro _
  apply (fields_looks authority credential.row).bind
  intro _
  exact Avoids.pure _

/-! ### Histories of parts that returned -/

theorem send_ok {r : Request} {h : History} {value : r.Carries} (he : Ends (send r) h (.ok value)) :
    h = [⟨r, .ok value⟩] := Ends.request he

theorem ofExcept_ok {α : Type} {result : Except Error α} {h : History} {a : α}
    (he : Ends (ofExcept result) h (.ok a)) : h = [] ∧ result = .ok a := by
  obtain ⟨hnil, hsame⟩ := Talks.done he
  cases hsame
  exact ⟨hnil, rfl⟩

theorem elim_ok {α : Type} {value : Option α} {error : Error} {a : α}
    (h : value.elim (.error error) Except.ok = .ok a) : value = some a := by
  cases value with
  | none => cases h
  | some b =>
      cases h
      rfl

theorem raiseIf_ok {condition : Bool} {error : Error} {h : History} {u : Unit}
    (he : Ends (raiseIf condition error) h (.ok u)) : h = [] ∧ condition = false := by
  unfold raiseIf at he
  split at he
  · exact he.raise_ok.elim
  · next hcondition => exact ⟨he.pure_ok.1, by simpa using hcondition⟩

theorem denyUnless_ok {condition : Bool} {h : History} {u : Unit} (he : Ends (denyUnless condition) h (.ok u)) :
    h = [] ∧ condition = true := by
  obtain ⟨hnil, hcondition⟩ := raiseIf_ok he
  exact ⟨hnil, by simpa using hcondition⟩

theorem atomically_ok {α : Type} {body : Talk α} {h : History} {a : α} (he : Ends (atomically body) h (.ok a)) :
    ∃ inside, h = [⟨.begin, .ok ()⟩] ++ inside ++ [⟨.commit, .ok ()⟩] ∧ Ends body inside (.ok a) := by
  obtain ⟨h₁, h₂, ⟨⟩, rfl, hbegin, he⟩ := he.bind_ok
  obtain ⟨h₃, h₄, result, rfl, hattempt, he⟩ := he.bind_ok
  obtain ⟨inner, hbody, hsame⟩ := hattempt.attempt
  obtain rfl := Except.ok.inj hsame
  rw [send_ok hbegin]
  cases result with
  | error error =>
      obtain ⟨h₅, h₆, undone, rfl, -, he⟩ := he.bind_ok
      exact he.raise_ok.elim
  | ok b =>
      obtain ⟨h₅, h₆, ⟨⟩, rfl, hcommit, he⟩ := he.bind_ok
      obtain ⟨rfl, rfl⟩ := he.pure_ok
      refine ⟨h₃, ?_, hbody⟩
      rw [send_ok hcommit]
      simp

theorem authorizeDispatch_ok {executor : Executor} {params : AutomationParams} {h : History} {authority : Authority}
    (he : Ends (authorizeDispatch executor params) h (.ok authority)) :
    h = [⟨.authorizeDispatch executor params, .ok authority⟩] := by
  obtain ⟨h₁, h₂, result, rfl, hattempt, he⟩ := he.bind_ok
  obtain ⟨inner, hsend, hsame⟩ := hattempt.attempt
  obtain rfl := Except.ok.inj hsame
  cases result with
  | error error => exact he.raise_ok.elim
  | ok given =>
      obtain ⟨rfl, rfl⟩ := he.pure_ok
      rw [List.append_nil]
      exact Ends.request hsend

/-- The row is the one the lock was granted on. -/
theorem lockCredentialGraph_ok {credentialId : Nat} {h : History} {credential : LockedCredential}
    (he : Ends (lockCredentialGraph credentialId) h (.ok credential)) :
    ∃ inventory : Inventory, ⟨.lock (.credential credential.pk), .ok inventory⟩ ∈ h ∧
      inventory.credentials credential.pk = some credential.row := by
  obtain ⟨h₁, h₂, _, rfl, -, he⟩ := he.bind_ok
  obtain ⟨h₃, h₄, _, rfl, -, he⟩ := he.bind_ok
  obtain ⟨h₅, h₆, _, rfl, -, he⟩ := he.bind_ok
  obtain ⟨h₇, h₈, _, rfl, -, he⟩ := he.bind_ok
  obtain ⟨h₉, h₁₀, inventory, rfl, hlock, he⟩ := he.bind_ok
  obtain ⟨h₁₁, h₁₂, row, rfl, hrow, he⟩ := he.bind_ok
  obtain ⟨h₁₃, h₁₄, _, rfl, -, he⟩ := he.bind_ok
  obtain ⟨h₁₅, h₁₆, _, rfl, -, he⟩ := he.bind_ok
  obtain ⟨h₁₇, h₁₈, _, rfl, -, he⟩ := he.bind_ok
  obtain ⟨-, rfl⟩ := he.pure_ok
  refine ⟨inventory, ?_, elim_ok (ofExcept_ok hrow).2⟩
  have hlocked : h₉ = [⟨.lock (.credential credentialId), .ok inventory⟩] := send_ok hlock
  rw [hlocked]
  simp

theorem lockMetadata_ok {authority : Authority} {h : History} {assignment : CredentialAssignment}
    {credential : LockedCredential} (he : Ends (lockMetadata authority) h (.ok (assignment, credential))) :
    ∃ inventory : Inventory, ⟨.lock (.credential credential.pk), .ok inventory⟩ ∈ h ∧
      inventory.credentials credential.pk = some credential.row := by
  obtain ⟨h₁, h₂, _, rfl, -, he⟩ := he.bind_ok
  split at he
  · obtain ⟨h₃, h₄, _, rfl, -, he⟩ := he.bind_ok
    obtain ⟨h₅, h₆, locked, rfl, hgraph, he⟩ := he.bind_ok
    obtain ⟨h₇, h₈, _, rfl, -, he⟩ := he.bind_ok
    obtain ⟨h₉, h₁₀, _, rfl, -, he⟩ := he.bind_ok
    obtain ⟨h₁₁, h₁₂, _, rfl, -, he⟩ := he.bind_ok
    obtain ⟨h₁₃, h₁₄, _, rfl, -, he⟩ := he.bind_ok
    obtain ⟨h₁₅, h₁₆, _, rfl, -, he⟩ := he.bind_ok
    obtain ⟨-, hsame⟩ := he.pure_ok
    obtain ⟨-, rfl⟩ := Prod.mk.inj hsame
    obtain ⟨inventory, hin, hrow⟩ := lockCredentialGraph_ok hgraph
    exact ⟨inventory, by simp [hin], hrow⟩
  · exact he.raise_ok.elim

theorem version_ok {authority : Authority} {c : Credential} {v : Nat} (h : version authority c = .ok v) :
    c.liveKvVersion = some v ∧ c.stagedKvVersion ≠ some v := by
  unfold version at h
  split at h
  · cases h
  · cases h
  · next live hlive =>
      split at h
      · cases h
      · next hstaged =>
          split at h
          · cases h
          · obtain rfl := Except.ok.inj h
            exact ⟨hlive, hstaged⟩

/-- The fields are requested ones, each declared by the schema a statement of this history has read. -/
def Declared (authority : Authority) (credentialType : String) (h : History) (fields : List (String × FieldSpec)) :
    Prop :=
  ∃ (inventory : Inventory) (schema : Schema), ⟨.statement, .ok inventory⟩ ∈ h ∧
    getSchema inventory.config credentialType = .ok schema ∧
    ∀ field ∈ fields, field.1 ∈ authority.reference.fields ∧ schema.vaultFields.lookup field.1 = some field.2

theorem fields_ok {authority : Authority} {c : Credential} {h : History} {result : List (String × FieldSpec)}
    (he : Ends (fields authority c) h (.ok result)) : Declared authority c.credentialType h result := by
  obtain ⟨h₁, h₂, inventory, rfl, hstatement, he⟩ := he.bind_ok
  obtain ⟨h₃, h₄, schema, rfl, hschema, he⟩ := he.bind_ok
  obtain ⟨h₅, h₆, _, rfl, -, he⟩ := he.bind_ok
  obtain ⟨-, rfl⟩ := he.pure_ok
  refine ⟨inventory, schema, ?_, (ofExcept_ok hschema).2, ?_⟩
  · have hread : h₁ = [⟨.statement, .ok inventory⟩] := send_ok hstatement
    rw [hread]
    simp
  · intro field hfield
    obtain ⟨name, hname, hspec⟩ := List.mem_filterMap.mp hfield
    obtain ⟨spec, hlookup, rfl⟩ := Option.map_eq_some_iff.mp hspec
    exact ⟨List.mem_eraseDups.mp hname, hlookup⟩

/-- What a check of the metadata has found: the row the lock was granted on is live at the version and not staged at
it, and the fields are requested and declared. -/
structure Resolved (authority : Authority) (h : History) (m : ResolvedMetadata) : Prop where
  locked : ∃ inventory : Inventory, ⟨.lock (.credential m.credential.pk), .ok inventory⟩ ∈ h ∧
    inventory.credentials m.credential.pk = some m.credential.row
  live : m.credential.row.liveKvVersion = some m.version
  unstaged : m.credential.row.stagedKvVersion ≠ some m.version
  declared : Declared authority m.credential.row.credentialType h m.fields

theorem resolveMetadata_ok {authority : Authority} {h : History} {m : ResolvedMetadata}
    (he : Ends (resolveMetadata authority) h (.ok m)) : Resolved authority h m := by
  obtain ⟨h₁, h₂, ⟨assignment, credential⟩, rfl, hlock, he⟩ := he.bind_ok
  obtain ⟨h₃, h₄, actor, rfl, -, he⟩ := he.bind_ok
  obtain ⟨h₅, h₆, _, rfl, -, he⟩ := he.bind_ok
  obtain ⟨h₇, h₈, _, rfl, -, he⟩ := he.bind_ok
  obtain ⟨h₉, h₁₀, _, rfl, -, he⟩ := he.bind_ok
  obtain ⟨h₁₁, h₁₂, _, rfl, -, he⟩ := he.bind_ok
  obtain ⟨h₁₃, h₁₄, _, rfl, -, he⟩ := he.bind_ok
  obtain ⟨h₁₅, h₁₆, _, rfl, -, he⟩ := he.bind_ok
  obtain ⟨h₁₇, h₁₈, v, rfl, hversion, he⟩ := he.bind_ok
  obtain ⟨h₁₉, h₂₀, declared, rfl, hfields, he⟩ := he.bind_ok
  obtain ⟨-, rfl⟩ := he.pure_ok
  obtain ⟨hlive, hunstaged⟩ := version_ok (ofExcept_ok hversion).2
  obtain ⟨inventory, hin, hrow⟩ := lockMetadata_ok hlock
  obtain ⟨inventory', schema, hin', hschema, hall⟩ := fields_ok hfields
  exact ⟨⟨inventory, by simp [hin], hrow⟩, hlive, hunstaged, inventory', schema, by simp [hin'], hschema, hall⟩

theorem projectFields_mem {payload : Payload} {specifications : List (String × FieldSpec)}
    {result : List (String × String)} (h : projectFields payload specifications = .ok result) :
    ∀ field ∈ result, ∃ specification, (field.1, specification) ∈ specifications := by
  induction specifications generalizing result with
  | nil =>
      cases h
      intro field hfield
      cases hfield
  | cons head rest ih =>
      obtain ⟨name, specification⟩ := head
      rw [projectFields] at h
      split at h
      · split at h
        · cases h
        · intro field hfield
          obtain ⟨s, hs⟩ := ih h field hfield
          exact ⟨s, List.mem_cons_of_mem _ hs⟩
      · next value hvalue =>
          split at h
          · cases h
          · cases hrest : projectFields payload rest with
            | error error =>
                rw [hrest] at h
                cases h
            | ok others =>
                rw [hrest] at h
                cases h
                intro field hfield
                rcases List.mem_cons.mp hfield with rfl | hold
                · exact ⟨specification, List.mem_cons_self⟩
                · obtain ⟨s, hs⟩ := ih hrest field hold
                  exact ⟨s, List.mem_cons_of_mem _ hs⟩
      · cases h

/-- The end of a block. -/
def leave {α : Type} (result : Except Error α) : Talk α :=
  match result with
  | .ok a => do
      send .commit
      return a
  | .error e => do
      let _ ← Dialogue.attempt (send .rollback)
      Dialogue.raise e

theorem leave_avoids {P : Request → Prop} {α : Type} (hcommit : ¬ P .commit) (hrollback : ¬ P .rollback)
    (result : Except Error α) : Dialogue.Avoids P (leave result) := by
  cases result with
  | ok a =>
      apply (send_avoids hcommit).bind
      intro _
      exact Avoids.pure a
  | error error =>
      apply (send_avoids hrollback).attempt.bind
      intro _
      exact Avoids.raise error

/-- A block that has come to a request other than those of the block itself. -/
theorem atomically_reaches {P : Request → Prop} {α : Type} {body : Talk α} (hbegin : ¬ P .begin)
    (hcommit : ¬ P .commit) (hrollback : ¬ P .rollback) {h : History} {d : Talk α}
    (ht : Talks (atomically body) h d) (hreaches : Reaches P h d) :
    ∃ inside after d', h = [⟨.begin, .ok ()⟩] ++ inside ++ after ∧ Talks body inside d' ∧ Reaches P inside d' ∧
      ∀ {Q : Request → Prop}, ¬ Q .commit → ¬ Q .rollback → ∀ x ∈ after, ¬ Q x.request := by
  obtain ⟨h₁, h₂, ⟨⟩, rfl, hbegins, ht, hreaches⟩ := Talks.bind_reaches (send_avoids hbegin) ht hreaches
  obtain ⟨h₃, h₄, d', rfl, hbody, hreaches, hlast⟩ :=
    Talks.attempt_reaches (leave_avoids hcommit hrollback) ht hreaches
  refine ⟨h₃, h₄, d', ?_, hbody, hreaches, ?_⟩
  · have hfirst : h₁ = [⟨.begin, .ok ()⟩] := Ends.request hbegins
    rw [hfirst]
    simp
  · intro Q hcommit hrollback
    rcases hlast with rfl | ⟨result, -, hlast⟩
    · intro x hx
      cases hx
    · exact ((leave_avoids hcommit hrollback result).talks hlast).1

theorem authorizeDispatch_readless (executor : Executor) (params : AutomationParams) :
    (authorizeDispatch executor params).Avoids Request.isRead := by
  apply (send_avoids id).attempt.bind
  intro result
  cases result with
  | ok authority => exact Avoids.pure authority
  | error error => exact Avoids.raise denied

section Digests

variable [hashing : Hashing]

theorem identityOf_looks (authority : Authority) (assignment : CredentialAssignment)
    (credential : LockedCredential) : Looks (identityOf authority assignment credential) := by
  apply statement_looks.bind
  intro _
  apply (ofExcept_looks _).bind
  intro _
  exact Avoids.pure _

theorem requireIdentity_looks (authority : Authority) (assignment : CredentialAssignment)
    (credential : LockedCredential) : Looks (requireIdentity authority assignment credential) := by
  apply (identityOf_looks authority assignment credential).bind
  intro _
  exact denyUnless_looks _

/-- The identity recomputed in this history is the one the authorization was frozen with. -/
theorem requireIdentity_ok {authority : Authority} {assignment : CredentialAssignment}
    {credential : LockedCredential} {h : History} {u : Unit}
    (he : Ends (requireIdentity authority assignment credential) h (.ok u)) :
    Ends (identityOf authority assignment credential) h (.ok authority.providerIdentity) := by
  obtain ⟨h₁, h₂, found, rfl, hidentity, he⟩ := he.bind_ok
  obtain ⟨rfl, hsame⟩ := denyUnless_ok he
  obtain rfl : found = authority.providerIdentity := by simpa using hsame
  simpa using hidentity

/-- A check of the metadata and of the identity, in this order, somewhere in the history. -/
structure Checked (authority : Authority) (h : History) (m : ResolvedMetadata) : Prop where
  found : ∃ h₀ h₁ h₂ h₃ h₄, h = h₀ ++ h₁ ++ h₂ ++ h₃ ++ h₄ ∧ Ends (resolveMetadata authority) h₁ (.ok m) ∧
    Resolved authority h₁ m ∧
    Ends (identityOf authority m.assignment m.credential) h₃ (.ok authority.providerIdentity)

theorem reserveBody_ok {authority : Authority} {h : History} {receipt : AutomationResolutionReceipt}
    (he : Ends (reserveBody authority) h (.ok receipt)) :
    ∃ looking, Looking looking ∧ h = looking ++ [⟨.createReceipt receipt, .ok ()⟩] ∧
      receipt.key = receiptKey authority := by
  obtain ⟨h₁, h₂, metadata, rfl, hmetadata, he⟩ := he.bind_ok
  obtain ⟨h₃, h₄, ⟨⟩, rfl, hdispatch, he⟩ := he.bind_ok
  obtain ⟨h₅, h₆, ⟨⟩, rfl, hidentity, he⟩ := he.bind_ok
  obtain ⟨h₇, h₈, ⟨⟩, rfl, hcreate, he⟩ := he.bind_ok
  obtain ⟨rfl, rfl⟩ := he.pure_ok
  have hlooking₁ : Looking h₁ := Looks.looking (resolveMetadata_looks authority) hmetadata
  have hlooking₃ : Looking h₃ := Looks.looking (checkDispatch_looks authority) hdispatch
  have hlooking₅ : Looking h₅ := Looks.looking (requireIdentity_looks authority _ _) hidentity
  refine ⟨h₁ ++ (h₃ ++ h₅), hlooking₁.append (hlooking₃.append hlooking₅), ?_, rfl⟩
  rw [send_ok hcreate]
  simp

theorem reserve_ok {authority : Authority} {h : History} {receipt : AutomationResolutionReceipt}
    (he : Ends (reserve authority) h (.ok receipt)) :
    ∃ looking, Looking looking ∧ receipt.key = receiptKey authority ∧
      h = [⟨.begin, .ok ()⟩] ++ (looking ++ [⟨.createReceipt receipt, .ok ()⟩]) ++ [⟨.commit, .ok ()⟩] := by
  obtain ⟨h₁, h₂, result, rfl, hattempt, he⟩ := he.bind_ok
  obtain ⟨inner, hblock, hsame⟩ := hattempt.attempt
  obtain rfl := Except.ok.inj hsame
  cases result with
  | error error => cases error <;> exact he.raise_ok.elim
  | ok given =>
      obtain ⟨rfl, rfl⟩ := he.pure_ok
      obtain ⟨inside, hinside, hbody⟩ := atomically_ok hblock
      obtain ⟨looking, hlooking, rfl, hkey⟩ := reserveBody_ok hbody
      exact ⟨looking, hlooking, hkey, by rw [List.append_nil, hinside]⟩

/-- What the part before the read has established. -/
structure ClearedBy (executor : Executor) (params : AutomationParams) (receipt : AutomationResolutionReceipt)
    (h : History) (cleared : Cleared) : Prop where
  shape : ∃ looking looking' : History, Looking looking ∧ Looking looking' ∧
    h = [⟨.authorizeDispatch executor params, .ok cleared.authority⟩] ++ looking ++
      [⟨.createLog (accessLog executor params (some cleared.authority) (some cleared.metadata.credential.row.uuid)
        (some receipt) false), .ok cleared.audit⟩] ++ looking'
  checked : Checked cleared.authority h cleared.metadata
  reserved : cleared.metadata.version = receipt.resolvedVersion
  nonce : receipt.key.dispatchNonceDigest = nonceDigest cleared.authority

theorem clear_ok {executor : Executor} {params : AutomationParams} {receipt : AutomationResolutionReceipt}
    {h : History} {cleared : Cleared} (he : Ends (clear executor params receipt) h (.ok cleared)) :
    ClearedBy executor params receipt h cleared := by
  obtain ⟨h₁, h₂, authority, rfl, hauthorize, he⟩ := he.bind_ok
  obtain ⟨h₃, h₄, metadata, rfl, hmetadata, he⟩ := he.bind_ok
  obtain ⟨h₅, h₆, ⟨⟩, rfl, hdispatch, he⟩ := he.bind_ok
  obtain ⟨h₇, h₈, ⟨⟩, rfl, hidentity, he⟩ := he.bind_ok
  obtain ⟨h₉, h₁₀, ⟨⟩, rfl, hreserved, he⟩ := he.bind_ok
  obtain ⟨h₁₁, h₁₂, audit, rfl, hlog, he⟩ := he.bind_ok
  obtain ⟨h₁₃, h₁₄, ⟨⟩, rfl, hdispatch', he⟩ := he.bind_ok
  obtain ⟨rfl, rfl⟩ := he.pure_ok
  obtain ⟨rfl, hsame⟩ := denyUnless_ok hreserved
  obtain ⟨-, hrest⟩ := Prod.mk.inj (eq_of_beq hsame)
  obtain ⟨-, hrest⟩ := Prod.mk.inj hrest
  obtain ⟨hversion, hnonce⟩ := Prod.mk.inj hrest
  have hlooking₃ : Looking h₃ := Looks.looking (resolveMetadata_looks authority) hmetadata
  have hlooking₅ : Looking h₅ := Looks.looking (checkDispatch_looks authority) hdispatch
  have hlooking₇ : Looking h₇ := Looks.looking (requireIdentity_looks authority _ _) hidentity
  have hlooking₁₃ : Looking h₁₃ := Looks.looking (checkDispatch_looks authority) hdispatch'
  constructor
  · refine ⟨h₃ ++ (h₅ ++ h₇), h₁₃, hlooking₃.append (hlooking₅.append hlooking₇), hlooking₁₃, ?_⟩
    rw [authorizeDispatch_ok hauthorize, send_ok hlog]
    simp
  · refine ⟨h₁, h₃, h₅, h₇, h₁₁ ++ h₁₃, ?_, hmetadata, resolveMetadata_ok hmetadata, requireIdentity_ok hidentity⟩
    simp
  · exact hversion
  · exact hnonce.symm

theorem refuse_avoids {P : Request → Prop} {α : Type} (hlog : ∀ log, ¬ P (.createLog log)) (executor : Executor)
    (params : AutomationParams) (authority : Option Authority) (receipt : Option AutomationResolutionReceipt) :
    (refuse executor params authority receipt : Talk α).Avoids P := by
  apply (send_avoids (hlog _)).attempt.bind
  intro _
  exact Avoids.raise denied

theorem refuse_not_ok {α : Type} {executor : Executor} {params : AutomationParams} {authority : Option Authority}
    {receipt : Option AutomationResolutionReceipt} {h : History} {a : α}
    (he : Ends (refuse executor params authority receipt) h (.ok a)) : False := by
  obtain ⟨h₁, h₂, _, rfl, -, he⟩ := he.bind_ok
  exact he.raise_ok

theorem reserve_readless (authority : Authority) : (reserve authority).Avoids Request.isRead := by
  have hbody : (reserveBody authority).Avoids Request.isRead := by
    apply (Looks.readless (resolveMetadata_looks authority)).bind
    intro metadata
    apply (Looks.readless (checkDispatch_looks authority)).bind
    intro _
    apply (Looks.readless (requireIdentity_looks authority _ _)).bind
    intro _
    apply (send_avoids id).bind
    intro _
    exact Avoids.pure _
  apply (atomically_avoids id id id hbody).attempt.bind
  intro result
  cases result with
  | ok receipt => exact Avoids.pure receipt
  | error error => cases error <;> exact Avoids.raise _

variable [library : MaterialLibrary]

omit hashing in
theorem verifyBundleIdentity_looks (credential : LockedCredential) (payload : Payload) (expected : String) :
    Looks (verifyBundleIdentity credential payload expected) := by
  have hmust : Looks (mustVerify credential expected) := by
    unfold mustVerify
    split
    · exact Avoids.pure true
    · apply statement_looks.bind
      intro _
      apply (ofExcept_looks _).bind
      intro _
      exact Avoids.pure _
  apply hmust.bind
  intro _
  exact raiseIf_looks _ _

omit hashing in
theorem readAutomationBundle_ok {credential : LockedCredential} {version ttl : Nat}
    {specifications : List (String × FieldSpec)} {expected : String} {h : History}
    {material : List (String × String)}
    (he : Ends (readAutomationBundle credential version specifications expected) h (.ok (material, ttl))) :
    ∃ (data : Value) (looking looking' : History), Looking looking ∧ Looking looking' ∧
      h = looking ++ [⟨.read ⟨credential.row.engineId, credential.row.path⟩ version, .ok data⟩] ++ looking' ∧
      ∀ field ∈ material, ∃ specification, (field.1, specification) ∈ specifications := by
  obtain ⟨h₁, h₂, ⟨⟩, rfl, hbackend, he⟩ := he.bind_ok
  obtain ⟨h₃, h₄, data, rfl, hread, he⟩ := he.bind_ok
  have hlooking₁ : Looking h₁ := by
    intro x hx
    rw [send_ok hbackend] at hx
    rw [List.mem_singleton.mp hx]
    rfl
  split at he
  · next _ payload =>
      obtain ⟨h₅, h₆, ⟨⟩, rfl, hverify, he⟩ := he.bind_ok
      obtain ⟨h₇, h₈, result, rfl, hproject, he⟩ := he.bind_ok
      obtain ⟨h₉, h₁₀, inventory, rfl, hconfig, he⟩ := he.bind_ok
      obtain ⟨rfl, hsame⟩ := he.pure_ok
      obtain ⟨rfl, -⟩ := Prod.mk.inj hsame
      obtain ⟨rfl, hfields⟩ := ofExcept_ok hproject
      have hlooking₅ : Looking h₅ := Looks.looking (verifyBundleIdentity_looks _ _ _) hverify
      have hlooking₉ : Looking h₉ := Looks.looking statement_looks hconfig
      refine ⟨.dict payload, h₁, h₅ ++ h₉, hlooking₁, hlooking₅.append hlooking₉, ?_, projectFields_mem hfields⟩
      rw [send_ok hread]
      simp
  · exact he.raise_ok.elim

/-- What the part from the read on leaves behind. -/
structure HandedOut (cleared : Cleared) (h : History) (bundle : AutomationBundle) : Prop where
  shape : ∃ (data : Value) (looking after : History), Looking looking ∧ Looking after ∧
    h = looking ++ [⟨.read ⟨cleared.metadata.credential.row.engineId, cleared.metadata.credential.row.path⟩
      cleared.metadata.version, .ok data⟩] ++ after ++
      [⟨.updateLog cleared.audit true "Automation bundle delivered.", .ok ()⟩] ∧
    ∃ final, Checked cleared.authority after final ∧ final.version = cleared.metadata.version
  version : bundle.resolvedVersion = cleared.metadata.version
  audit : bundle.accessLogId = cleared.audit
  fields : ∀ field ∈ bundle.fields, ∃ specification, (field.1, specification) ∈ cleared.metadata.fields

theorem handOut_ok {cleared : Cleared} {h : History} {bundle : AutomationBundle}
    (he : Ends (handOut cleared) h (.ok bundle)) : HandedOut cleared h bundle := by
  obtain ⟨h₁, h₂, ⟨material, ttl⟩, rfl, hread, he⟩ := he.bind_ok
  obtain ⟨h₃, h₄, final, rfl, hmetadata, he⟩ := he.bind_ok
  obtain ⟨h₅, h₆, ⟨⟩, rfl, hidentity, he⟩ := he.bind_ok
  obtain ⟨h₇, h₈, ⟨⟩, rfl, hversion, he⟩ := he.bind_ok
  obtain ⟨h₉, h₁₀, ⟨⟩, rfl, hdispatch, he⟩ := he.bind_ok
  obtain ⟨h₁₁, h₁₂, ⟨⟩, rfl, hupdate, he⟩ := he.bind_ok
  obtain ⟨rfl, rfl⟩ := he.pure_ok
  obtain ⟨rfl, hsame⟩ := denyUnless_ok hversion
  obtain ⟨data, looking, looking', hlooking, hlooking', rfl, hfields⟩ := readAutomationBundle_ok hread
  have hlooking₃ : Looking h₃ := Looks.looking (resolveMetadata_looks _) hmetadata
  have hlooking₅ : Looking h₅ := Looks.looking (requireIdentity_looks _ _ _) hidentity
  have hlooking₉ : Looking h₉ := Looks.looking (checkDispatch_looks _) hdispatch
  constructor
  · refine ⟨data, looking, looking' ++ (h₃ ++ (h₅ ++ h₉)), hlooking,
      hlooking'.append (hlooking₃.append (hlooking₅.append hlooking₉)), ?_, final, ?_, ?_⟩
    · rw [send_ok hupdate]
      simp
    · refine ⟨looking', h₃, [], h₅, h₉, ?_, hmetadata, resolveMetadata_ok hmetadata, requireIdentity_ok hidentity⟩
      simp
    · simpa using hsame
  · rfl
  · rfl
  · exact hfields

/-! ### The whole call -/

/-- A call that returned has been authorized, has reserved, and in a second transaction has cleared the delivery and
handed out the bundle. -/
structure Course (executor : Executor) (params : AutomationParams) (h : History) (bundle : AutomationBundle) where
  first : Authority
  receipt : AutomationResolutionReceipt
  cleared : Cleared
  reserving : History
  clearing : History
  handing : History
  shape : h = [⟨.authorizeDispatch executor params, .ok first⟩] ++ reserving ++
    ([⟨.begin, .ok ()⟩] ++ (clearing ++ handing) ++ [⟨.commit, .ok ()⟩])
  reserved : Ends (reserve first) reserving (.ok receipt)
  clears : Ends (clear executor params receipt) clearing (.ok cleared)
  handsOut : Ends (handOut cleared) handing (.ok bundle)

theorem resolveAutomation_ok {inAtomicBlock autocommit : Bool} {executor : Executor} {params : AutomationParams}
    {h : History} {bundle : AutomationBundle}
    (he : Ends (resolveAutomation inAtomicBlock autocommit executor params) h (.ok bundle)) :
    Nonempty (Course executor params h bundle) := by
  unfold resolveAutomation at he
  split at he
  · exact he.raise_ok.elim
  · obtain ⟨h₁, h₂, result, rfl, hattempt, he⟩ := he.bind_ok
    obtain ⟨inner, hauthorize, hsame⟩ := hattempt.attempt
    obtain rfl := Except.ok.inj hsame
    cases result with
    | error error => exact (refuse_not_ok he).elim
    | ok first =>
        obtain ⟨h₃, h₄, result, rfl, hattempt, he⟩ := he.bind_ok
        obtain ⟨inner, hreserve, hsame⟩ := hattempt.attempt
        obtain rfl := Except.ok.inj hsame
        cases result with
        | error error => exact (refuse_not_ok he).elim
        | ok receipt =>
            obtain ⟨h₅, h₆, result, rfl, hattempt, he⟩ := he.bind_ok
            obtain ⟨inner, hdeliver, hsame⟩ := hattempt.attempt
            obtain rfl := Except.ok.inj hsame
            cases result with
            | error error => exact (refuse_not_ok he).elim
            | ok given =>
                obtain ⟨rfl, rfl⟩ := he.pure_ok
                obtain ⟨inside, rfl, hbody⟩ := atomically_ok hdeliver
                obtain ⟨h₇, h₈, cleared, rfl, hclear, hhand⟩ := hbody.bind_ok
                refine ⟨⟨first, receipt, cleared, h₃, h₇, h₈, ?_, hreserve, hclear, hhand⟩⟩
                rw [authorizeDispatch_ok hauthorize]
                simp

/-- A call that has come to the read has been authorized, has reserved, and has cleared the delivery. -/
structure Approach (executor : Executor) (params : AutomationParams) (h : History) where
  first : Authority
  receipt : AutomationResolutionReceipt
  cleared : Cleared
  reserving : History
  clearing : History
  later : History
  shape : h = [⟨.authorizeDispatch executor params, .ok first⟩] ++ reserving ++ ([⟨.begin, .ok ()⟩] ++ clearing) ++
    later
  reserved : Ends (reserve first) reserving (.ok receipt)
  clears : Ends (clear executor params receipt) clearing (.ok cleared)
  settled : ∀ x ∈ later, ¬ x.request.authorizes

omit library in
theorem clear_readless (executor : Executor) (params : AutomationParams) (receipt : AutomationResolutionReceipt) :
    (clear executor params receipt).Avoids Request.isRead := by
  apply (authorizeDispatch_readless executor params).bind
  intro authority
  apply (Looks.readless (resolveMetadata_looks authority)).bind
  intro metadata
  apply (Looks.readless (checkDispatch_looks authority)).bind
  intro _
  apply (Looks.readless (requireIdentity_looks authority _ _)).bind
  intro _
  apply (Looks.readless (denyUnless_looks _)).bind
  intro _
  apply (send_avoids id).bind
  intro _
  apply (Looks.readless (checkDispatch_looks authority)).bind
  intro _
  exact Avoids.pure _

theorem handOut_unauthorizing (cleared : Cleared) : (handOut cleared).Avoids Request.authorizes := by
  have hread : ∀ credential version specifications expected,
      (readAutomationBundle credential version specifications expected).Avoids Request.authorizes := by
    intro credential version specifications expected
    apply (send_avoids id).bind
    intro _
    apply (send_avoids id).bind
    intro data
    split
    · apply (Looks.unauthorizing (verifyBundleIdentity_looks _ _ _)).bind
      intro _
      apply (Looks.unauthorizing (ofExcept_looks _)).bind
      intro _
      apply (Looks.unauthorizing statement_looks).bind
      intro _
      exact Avoids.pure _
    · exact Avoids.raise invalidPayload
  apply (hread _ _ _ _).bind
  rintro ⟨material, ttl⟩
  apply (Looks.unauthorizing (resolveMetadata_looks _)).bind
  intro final
  apply (Looks.unauthorizing (requireIdentity_looks _ _ _)).bind
  intro _
  apply (Looks.unauthorizing (denyUnless_looks _)).bind
  intro _
  apply (Looks.unauthorizing (checkDispatch_looks _)).bind
  intro _
  apply (send_avoids id).bind
  intro _
  exact Avoids.pure _

theorem clear_shape {executor : Executor} {params : AutomationParams} {receipt : AutomationResolutionReceipt}
    {h : History} {d : Talk AutomationBundle}
    (ht : Talks (clear executor params receipt >>= handOut) h d) (hreaches : Reaches Request.isRead h d) :
    ∃ clearing later cleared, h = clearing ++ later ∧ Ends (clear executor params receipt) clearing (.ok cleared) ∧
      ∀ x ∈ later, ¬ x.request.authorizes := by
  obtain ⟨clearing, later, cleared, hsplit, hclear, hhand, -⟩ :=
    Talks.bind_reaches (clear_readless executor params receipt) ht hreaches
  exact ⟨clearing, later, cleared, hsplit, hclear, ((handOut_unauthorizing cleared).talks hhand).1⟩

/-- The answer once the delivery is over. -/
def answered (executor : Executor) (params : AutomationParams) (authority : Authority)
    (receipt : AutomationResolutionReceipt) (result : Except Error AutomationBundle) : Talk AutomationBundle :=
  match result with
  | .error _ => refuse executor params (some authority) (some receipt)
  | .ok bundle => pure bundle

omit library in
theorem answered_avoids {P : Request → Prop} (hlog : ∀ log, ¬ P (.createLog log)) (executor : Executor)
    (params : AutomationParams) (authority : Authority) (receipt : AutomationResolutionReceipt)
    (result : Except Error AutomationBundle) :
    Dialogue.Avoids P (answered executor params authority receipt result) := by
  cases result with
  | error error => exact refuse_avoids hlog executor params (some authority) (some receipt)
  | ok bundle => exact Avoids.pure bundle

theorem resolveAutomation_reaches {inAtomicBlock autocommit : Bool} {executor : Executor}
    {params : AutomationParams} {h : History} {d : Talk AutomationBundle}
    (ht : Talks (resolveAutomation inAtomicBlock autocommit executor params) h d)
    (hreaches : Reaches Request.isRead h d) : Nonempty (Approach executor params h) := by
  have hrefuse : ∀ authority receipt, (refuse executor params authority receipt :
      Talk AutomationBundle).Avoids Request.isRead := refuse_avoids (fun _ => id) executor params
  unfold resolveAutomation at ht
  split at ht
  · exact ((Avoids.raise denied).not_reaches ht hreaches).elim
  · obtain ⟨h₁, h₂, result, rfl, hattempt, ht, hreaches⟩ :=
      Talks.bind_reaches (authorizeDispatch_readless executor params).attempt ht hreaches
    obtain ⟨inner, hauthorize, hsame⟩ := hattempt.attempt
    obtain rfl := Except.ok.inj hsame
    cases result with
    | error error => exact ((hrefuse none none).not_reaches ht hreaches).elim
    | ok first =>
        obtain ⟨h₃, h₄, result, rfl, hattempt, ht, hreaches⟩ :=
          Talks.bind_reaches (reserve_readless first).attempt ht hreaches
        obtain ⟨inner, hreserve, hsame⟩ := hattempt.attempt
        obtain rfl := Except.ok.inj hsame
        cases result with
        | error error => exact ((hrefuse (some first) none).not_reaches ht hreaches).elim
        | ok receipt =>
            obtain ⟨h₅, h₆, d', rfl, hdeliver, hreaches, hlast⟩ :=
              Talks.attempt_reaches (answered_avoids (fun _ => id) executor params first receipt) ht hreaches
            have hquiet : ∀ x ∈ h₆, ¬ x.request.authorizes := by
              rcases hlast with rfl | ⟨result, -, hlast⟩
              · intro x hx
                cases hx
              · exact ((answered_avoids (fun _ => id) executor params first receipt result).talks hlast).1
            obtain ⟨h₇, h₈, d'', rfl, hblock, hreaches, hended⟩ :=
              atomically_reaches id id id hdeliver hreaches
            obtain ⟨clearing, later, cleared, rfl, hclear, hsettled⟩ := clear_shape hblock hreaches
            refine ⟨⟨first, receipt, cleared, h₃, clearing, later ++ (h₈ ++ h₆), ?_, hreserve, hclear, ?_⟩⟩
            · rw [authorizeDispatch_ok hauthorize]
              simp
            · intro x hx
              rcases List.mem_append.mp hx with hx | hx
              · exact hsettled x hx
              · rcases List.mem_append.mp hx with hx | hx
                · exact hended id id x hx
                · exact hquiet x hx

end Digests

end Automation

end NetboxOpenbao
