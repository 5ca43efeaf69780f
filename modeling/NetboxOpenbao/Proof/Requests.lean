import NetboxOpenbao.Proof.Gate
import NetboxOpenbao.Proof.Steps
import NetboxOpenbao.Effect.Runs

/-!
# What a user outside a tier can do

Every surface applies the gate to the tier the committed row is on, so no request moves, or reads the material
of, a credential whose tier keeps the user out. A sequence of requests does not either: after every one of
them the tier of the row is still the one it was.
-/

namespace NetboxOpenbao

open Effect Effect.Prog

variable [library : MaterialLibrary] {user : User}

/-! ### The services -/

omit library in
/-- A synchronized change that is gated on the committed row, and confined to it behind the gate. -/
theorem synchronized_respects {α : Type} {held : Credential} {action gated : AccessAction} {request : Option Nat}
    {rest : Credential → M α} (hrest : ∀ c pk, c.pk = some pk → Confined pk (fun _ => True) (rest c)) :
    Steps (Over (Database.Respects user)) (synchronized held (some user) action request fun c => do
      enforcePolicyAccess c (some user) (some gated) request
      rest c) := by
  refine synchronized_over (synchronizedBody_respects fun c pk w hc hrow => ?_)
  exact gated_respects hrow enforcePolicyAccess_quiet (fun _ => enforcePolicyAccess_open) fun _ => hrest c pk hc

theorem rotateMaterial_respects (held : Credential) (payload : Payload) (request : Option Nat) :
    Steps (Over (Database.Respects user)) (rotateMaterial held payload (some user) request) :=
  synchronized_respects fun _ _ hc => rotated_confined hc payload (some user) request

theorem stageMaterial_respects (held : Credential) (payload : Payload) (request : Option Nat) :
    Steps (Over (Database.Respects user)) (stageMaterial held payload (some user) request) :=
  synchronized_respects fun _ _ hc => stageRest_confined hc payload (some user) request

omit library in
theorem promoteStaged_respects (held : Credential) (request : Option Nat) (verified : Bool) (note : String) :
    Steps (Over (Database.Respects user)) (promoteStaged held (some user) request verified note) :=
  synchronized_respects fun _ _ hc => promoteRest_confined hc (some user) request verified note

omit library in
theorem discardStaged_respects (held : Credential) (request : Option Nat) :
    Steps (Over (Database.Respects user)) (discardStaged held (some user) request) :=
  synchronized_respects fun _ _ hc => discardRest_confined hc (some user) request

/-- Staging, as the edit form does it after its own save, touches no other row. -/
theorem stageMaterial_confined {held : Credential} {pk : Nat} (hpk : held.pk = some pk) (payload : Payload)
    (user : Option User) (request : Option Nat) :
    Steps (Over (Database.ConfinesTo pk)) (stageMaterial held payload user request) := by
  refine synchronized_over (Confined.steps (Q := fun _ => True) ?_)
  refine (Confined.quiet (lockMaterialSubjects_quiet _ _)).bind fun locked _ => ?_
  refine (Confined.quiet (lockedRow_quiet _ _)).bind fun _ _ => ?_
  have hrefresh : Confined pk (fun c : Credential => c.pk = some pk) (refreshFromDb held) := by
    refine Confined.of_ok (query_quiet _) fun w w' c hready hrun => ?_
    obtain ⟨hfound, -⟩ := query_ok hrun
    rw [hpk] at hfound
    simp only [Option.bind_some] at hfound
    split at hfound
    · next row hrow =>
        cases hfound
        exact (hready.key pk c hrow).1
    · cases hfound
  refine hrefresh.bind fun c hc => ?_
  exact (Confined.quiet enforcePolicyAccess_quiet).bind fun _ _ => stageRest_confined hc payload user request

/-! ### Updates -/

/-- What follows the gate of an update. -/
def updateRest (credential : Credential) (edits : Edits) (payload : Option Payload) (user : Option User)
    (request : Option Nat) (conforms : Database → Credential → Except Error Unit) : M Credential :=
  match payload with
  | none | some [] => CredentialViewSet.saveEdits (edits.apply credential) conforms
  | some payload => do
    let stored ← storeCredential {
      persist := .update credential edits conforms
      credentialType := edits.credentialType.getD credential.credentialType
      payload
      cas := credential.kvVersion
      user, request
      action := .rotate
      subject := some credential
      promote := true
      targetPolicy := edits.policyId
      prelocked := false }
    return stored.1

theorem updateRest_confined {c : Credential} {pk : Nat} (hpk : c.pk = some pk) (edits : Edits)
    (payload : Option Payload) (user : Option User) (request : Option Nat)
    (conforms : Database → Credential → Except Error Unit) :
    Confined pk (fun _ => True) (updateRest c edits payload user request conforms) := by
  have hsave : Confined pk (fun _ => True) (CredentialViewSet.saveEdits (edits.apply c) conforms) := by
    refine Confined.of_steps (atomic_over (Confined.steps (Q := fun _ => True) ?_))
    refine (saveCredential_confined (by exact hpk)).bind fun saved _ => ?_
    exact (Confined.quiet (query_quiet _)).bind fun _ _ => Confined.pure trivial
  unfold updateRest
  match payload with
  | none => exact hsave
  | some [] => exact hsave
  | some (entry :: entries) =>
      have hstore : Confined pk (fun _ => True) (storeCredential {
          persist := .update c edits conforms
          credentialType := edits.credentialType.getD c.credentialType
          payload := entry :: entries
          cas := c.kvVersion
          user, request
          action := .rotate
          subject := some c
          promote := true
          targetPolicy := edits.policyId
          prelocked := false }) := storeCredential_confined rfl hpk fun _ hc => hc
      exact hstore.bind fun _ _ => Confined.pure trivial

/-- An update locks the graph of the edited instance and then gates on the committed row. -/
theorem performUpdate_respects (object : Loaded) (edits : Edits) (payload : Option Payload) (request : Option Nat)
    (conforms : Database → Credential → Except Error Unit) :
    Steps (Over (Database.Respects user))
      (CredentialViewSet.performUpdate object.credential edits payload (some user) request conforms) := by
  intro w
  unfold CredentialViewSet.performUpdate
  rw [bind_run]
  match hlock : lockMaterialSubject (some (edits.apply object.credential)) edits.policyId w with
  | (.error e, u) => exact Over.of_sameRows ((lockMaterialSubject_quiet _ _).of_error hlock).db
  | (.ok subject, u) =>
      obtain ⟨row, hrow, rfl⟩ := lockMaterialSubject_found (c := edits.apply object.credential) object.law hlock
      have hsame := ((lockMaterialSubject_quiet _ _).of_ok hlock).db
      have hurow : u.db.credentials object.pk = some row := by rw [hsame.credentials, hrow]
      have hpk : (refreshVersions (edits.apply object.credential) row).pk = some object.pk := object.law
      refine trans_of _ (Over.of_sameRows hsame) ?_
      simp only [Option.getD_some]
      exact gated_respects hurow (enforceUpdateAccess_quiet _ _ _ _)
        (fun _ => enforceUpdateAccess_open hpk hurow)
        fun _ => updateRest_confined hpk edits payload (some user) request conforms

theorem updateEach_respects (updateData : List (Nat × CredentialViewSet.BulkData)) (request : Option Nat)
    (conforms : Database → Credential → Except Error Unit) (objects : List Loaded) :
    Steps (Over (Database.Respects user))
      (CredentialViewSet.updateEach updateData user request conforms objects) := by
  induction objects with
  | nil => exact Steps.pure ()
  | cons object rest ih =>
      have hdata : Steps (Over (Database.Respects user)) (CredentialViewSet.dataOf updateData object) := by
        unfold CredentialViewSet.dataOf
        split
        · exact Steps.pure _
        · exact Steps.throw _
      refine Steps.bind hdata fun data => ?_
      exact Steps.bind (performUpdate_respects object data.edits data.payload request conforms) fun _ => ih

theorem bulkUpdate_respects (objects : List Loaded) (updateData : List (Nat × CredentialViewSet.BulkData))
    (request : Option Nat) (conforms : Database → Credential → Except Error Unit) :
    Steps (Over (Database.Respects user))
      (CredentialViewSet.bulkUpdate objects updateData user request conforms) := by
  refine materialTransaction_over (materialTransaction_over ?_)
  refine Steps.bind (quiet_over (raiseIf_quiet _ _)) fun _ => ?_
  refine Steps.bind (quiet_over (lockMaterialSubjects_quiet _ _)) fun _ => ?_
  exact atomic_over (updateEach_respects updateData request conforms objects)

/-! ### The edit form -/

omit library in
theorem aborting_over {D : Database → Database → Prop} [Tolerant D] {α : Type} {x : M α} (h : Steps (Over D) x) :
    Steps (Over D) (CredentialForm.aborting x) := by
  refine Steps.tryCatch h fun e => ?_
  split <;> exact Steps.throw _

omit library in
theorem abortingBackend_over {D : Database → Database → Prop} [Tolerant D] {α : Type} {x : M α}
    (h : Steps (Over D) x) : Steps (Over D) (CredentialForm.abortingBackend x) := by
  refine Steps.tryCatch h fun e => ?_
  split <;> exact Steps.throw _

theorem saveAuthorized_confined (form : CredentialForm) {c : Credential} {pk : Nat} (hpk : c.pk = some pk)
    (user : User) (request : Option Nat) (mayChange mayRotate : Restriction) :
    Confined pk (fun _ => True) (form.saveAuthorized c user request mayChange mayRotate) := by
  unfold CredentialForm.saveAuthorized
  match form.secretPayload with
  | none => exact (saveCredential_confined hpk).weaken
  | some [] => exact (saveCredential_confined hpk).weaken
  | some (entry :: entries) =>
      simp only
      split
      · refine (saveCredential_confined hpk).bind fun saved hsaved => ?_
        have hstage := Confined.of_steps
          (aborting_over (stageMaterial_confined hsaved (entry :: entries) (some user) request))
        exact hstage.bind fun _ _ => Confined.pure trivial
      · have hstore : Confined pk (fun _ => True) (storeCredential {
            persist := CredentialForm.persist c mayChange mayRotate
            credentialType := c.credentialType
            payload := entry :: entries
            cas := c.kvVersion
            user := some user
            request
            action := .write
            subject := some c
            promote := true
            targetPolicy := none
            prelocked := false }) := storeCredential_confined rfl hpk fun _ hc => hc
        exact (Confined.of_steps (abortingBackend_over hstore.steps)).bind fun _ _ => Confined.pure trivial

omit library in
theorem authorizeExistingEdit_quiet (c : Credential) (payload : Option Payload) (request : Option Nat)
    (mayRotate : Restriction) :
    Steps (Quiet Database.SameRows) (CredentialForm.authorizeExistingEdit c payload user request mayRotate) := by
  refine Steps.bind (Steps.tryCatch (enforceUpdateAccess_quiet _ _ _ _) fun e => ?_) fun _ => query_quiet _
  split <;> exact Steps.throw _

omit library in
theorem authorizeExistingEdit_open {c row : Credential} {pk : Nat} {payload : Option Payload}
    {request : Option Nat} {mayRotate : Restriction} {w w' : World} (hpk : c.pk = some pk)
    (hrow : w.db.credentials pk = some row)
    (h : CredentialForm.authorizeExistingEdit c payload user request mayRotate w = (.ok (), w')) :
    ¬ Barred user w.db.config row := by
  obtain ⟨_, u, hgate, -⟩ := bind_ok h
  rw [tryCatch_run] at hgate
  match hrun : enforceUpdateAccess c (some user) (some .write) request w with
  | (.ok (), v) => exact enforceUpdateAccess_open hpk hrow hrun
  | (.error e, v) =>
      rw [hrun] at hgate
      simp only at hgate
      split at hgate <;> cases hgate

theorem CredentialForm.save_respects (form : CredentialForm) (request : Option Nat)
    (mayChange mayRotate : Restriction) :
    Steps (Over (Database.Respects user)) (form.save user request mayChange mayRotate) := by
  refine materialTransaction_over fun w => ?_
  rw [bind_run]
  match hlock : lockMaterialSubject (some (form.edits.apply form.held.credential)) form.edits.policyId w with
  | (.error e, u) => exact Over.of_sameRows ((lockMaterialSubject_quiet _ _).of_error hlock).db
  | (.ok subject, u) =>
      obtain ⟨row, hrow, rfl⟩ := lockMaterialSubject_found (c := form.edits.apply form.held.credential) form.held.law hlock
      have hsame := ((lockMaterialSubject_quiet _ _).of_ok hlock).db
      have hurow : u.db.credentials form.held.pk = some row := by rw [hsame.credentials, hrow]
      have hpk : (refreshVersions (form.edits.apply form.held.credential) row).pk = some form.held.pk :=
        form.held.law
      refine trans_of _ (Over.of_sameRows hsame) ?_
      simp only [Option.getD_some]
      exact gated_respects hurow (authorizeExistingEdit_quiet _ _ _ _)
        (fun _ => authorizeExistingEdit_open hpk hurow)
        fun _ => saveAuthorized_confined form hpk user request mayChange mayRotate

theorem editPost_respects (form : CredentialForm) (request : Option Nat) (mayChange mayRotate : Restriction) :
    Steps (Over (Database.Respects user)) (editPost form user request mayChange mayRotate) := by
  refine materialTransaction_over (Steps.tryCatch (atomic_over ?_) fun e => ?_)
  · refine Steps.bind (form.save_respects request mayChange mayRotate) fun saved => ?_
    exact quiet_over (query_quiet _)
  · split
    · exact Steps.pure ()
    · exact Steps.throw e

/-! ### Reveals -/

omit library in
theorem getObjectOr404_ok {restricts : Restriction} {pk : Nat} {w w' : World} {row : Credential}
    (h : getObjectOr404 restricts pk w = (.ok row, w')) : w.db.credentials pk = some row ∧ w'.db = w.db := by
  obtain ⟨hfound, rfl⟩ := query_ok h
  refine ⟨?_, rfl⟩
  split at hfound
  · next found hrow =>
      split at hfound
      · cases hfound
        exact hrow
      · cases hfound
  · cases hfound

/-- A revealed row: it is in the database, and its tier lets the user in. -/
structure Disclosed (user : User) (db : Database) (row : Credential) : Prop where
  found : ∃ pk, db.credentials pk = some row
  admitted : ¬ Barred user db.config row

omit library in
theorem Disclosed.congr {db db' : Database} {row : Credential} (h : Disclosed user db' row)
    (hsame : db.SameRows db') : Disclosed user db row where
  found := by
    obtain ⟨pk, hrow⟩ := h.found
    exact ⟨pk, by rw [← hsame.credentials, hrow]⟩
  admitted := by
    rw [← hsame.config]
    exact h.admitted

omit library in
theorem authorize_ok {restricts : Restriction} {pk : Nat} {action : Option AccessAction} {request : Option Nat}
    {w w' : World} {row : Credential}
    (h : CredentialViewSet.authorize restricts pk user action request w = (.ok row, w')) :
    Disclosed user w.db row := by
  obtain ⟨found, u, hobject, h⟩ := bind_ok h
  obtain ⟨hrow, hdb⟩ := getObjectOr404_ok hobject
  obtain ⟨_, v, hgate, hpure⟩ := bind_ok h
  obtain ⟨rfl, -⟩ := pure_ok hpure
  have hopen := enforcePolicyAccess_open hgate
  rw [hdb] at hopen
  exact ⟨⟨pk, hrow⟩, hopen⟩

omit library in
theorem authorize_quiet (restricts : Restriction) (pk : Nat) (action : Option AccessAction) (request : Option Nat) :
    Steps (Quiet Database.SameRows) (CredentialViewSet.authorize restricts pk user action request) :=
  Steps.bind (query_quiet _) fun _ => Steps.bind enforcePolicyAccess_quiet fun _ => Steps.pure _

omit library in
theorem revealMaterial_open {c : Credential} {request : Option Nat} {reason : String} {version : Option Nat}
    {w w' : World} {out : Payload × Nat}
    (h : revealMaterial c (some user) request reason version w = (.ok out, w')) : ¬ Barred user w.db.config c := by
  obtain ⟨_, u, hgate, -⟩ := bind_ok h
  exact enforcePolicyAccess_open hgate

omit library in
theorem lockCredentialGraph_quiet (pk : Nat) : Steps (Quiet Database.SameRows) (lockCredentialGraph pk) := by
  refine Steps.bind (query_quiet _) fun selectors => ?_
  refine Steps.bind (query_quiet _) fun policy => ?_
  refine Steps.bind (query_quiet _) fun engines => ?_
  refine Steps.bind (query_quiet _) fun c => ?_
  refine Steps.bind (raiseIf_quiet _ _) fun _ => ?_
  refine Steps.bind (raiseIf_quiet _ _) fun _ => ?_
  exact Steps.bind (raiseIf_quiet _ _) fun _ => Steps.pure c

omit library in
theorem lockCredentialGraph_found {pk : Nat} {w w' : World} {row : Credential}
    (h : lockCredentialGraph pk w = (.ok row, w')) : w.db.credentials pk = some row := by
  obtain ⟨selectors, u, hselectors, h⟩ := bind_ok h
  obtain ⟨-, rfl⟩ := query_ok hselectors
  obtain ⟨policy, v, hpolicy, h⟩ := bind_ok h
  obtain ⟨-, rfl⟩ := query_ok hpolicy
  obtain ⟨engines, x, hengines, h⟩ := bind_ok h
  obtain ⟨-, rfl⟩ := query_ok hengines
  obtain ⟨c, y, hrow, h⟩ := bind_ok h
  obtain ⟨hfound, -⟩ := query_ok hrow
  obtain ⟨_, z, -, h⟩ := bind_ok h
  obtain ⟨_, z', -, h⟩ := bind_ok h
  obtain ⟨_, z'', -, h⟩ := bind_ok h
  obtain ⟨rfl, -⟩ := pure_ok h
  cases hcredential : w.db.credentials pk with
  | none =>
      have hcredential : w.ticked.ticked.ticked.db.credentials pk = none := hcredential
      rw [hcredential] at hfound
      cases hfound
  | some found =>
      have hcredential : w.ticked.ticked.ticked.db.credentials pk = some found := hcredential
      rw [hcredential] at hfound
      cases hfound
      rfl

omit library in
theorem reauthorize_quiet (reveal : AssignmentReveal) (c : Credential) (request : Option Nat) :
    Steps (Quiet Database.SameRows) (reveal.reauthorize c user request) :=
  Steps.bind (query_quiet _) fun _ => enforcePolicyAccess_quiet

omit library in
theorem readVerified_ok {reveal : AssignmentReveal} {c : Credential} {request : Option Nat} {w w' : World}
    {response : RevealResponse} (h : reveal.readVerified c user request w = (.ok (.ok response), w')) :
    response.credential = c := by
  obtain ⟨revealed, u, -, h⟩ := bind_ok h
  obtain ⟨_, v, -, h⟩ := bind_ok h
  cases hafter : reveal.connectionAfter with
  | some mismatch =>
      rw [hafter] at h
      cases h
  | none =>
      rw [hafter] at h
      cases h
      rfl

omit library in
/-- An assignment reveals the row its graph lock found, behind the gate of that row's tier. -/
theorem verified_ok {reveal : AssignmentReveal} {c : Credential} {request : Option Nat} {w w' : World}
    {response : RevealResponse} (h : reveal.verified c user request w = (.ok (.ok response), w')) :
    Disclosed user w.db response.credential := by
  obtain ⟨row, u, hlock, h⟩ := bind_ok h
  have hrow := lockCredentialGraph_found hlock
  have hlocked := ((lockCredentialGraph_quiet _).of_ok hlock).db
  obtain ⟨state, v, hstate, h⟩ := bind_ok h
  obtain ⟨-, rfl⟩ := query_ok hstate
  obtain ⟨_, x, hauthorized, h⟩ := bind_ok h
  obtain ⟨_, y, hpermitted, hgate⟩ := bind_ok hauthorized
  obtain ⟨-, rfl⟩ := query_ok hpermitted
  have hopen : ¬ Barred user u.db.config row := enforcePolicyAccess_open (w := u.ticked.ticked) hgate
  rw [hlocked.config] at hopen
  cases hmismatch : identityMismatch state row reveal.expected with
  | some mismatch =>
      rw [hmismatch] at h
      cases h
  | none =>
      rw [hmismatch] at h
      rw [readVerified_ok h]
      exact ⟨⟨_, hrow⟩, hopen⟩

omit library in
theorem AssignmentReveal.run_ok {reveal : AssignmentReveal} {request : Option Nat} {w w' : World}
    {response : RevealResponse} (h : reveal.run user request w = (.ok (.ok response), w')) :
    Disclosed user w.db response.credential := by
  obtain ⟨state, u, hstate, h⟩ := bind_ok h
  obtain ⟨-, rfl⟩ := query_ok hstate
  obtain ⟨c, v, hauthorized, h⟩ := bind_ok h
  have hsame := ((authorize_quiet _ _ _ _).of_ok hauthorized).db
  obtain ⟨x, y, hx, hbody, -⟩ := atomic_ok h
  have hdisclosed := verified_ok hbody
  rw [hx] at hdisclosed
  exact hdisclosed.congr hsame

omit library in
theorem AssignmentReveal.run_over {D : Database → Database → Prop} [Tolerant D] (reveal : AssignmentReveal)
    (request : Option Nat) : Steps (Over D) (reveal.run user request) := by
  refine Steps.bind (quiet_over (query_quiet _)) fun state => ?_
  refine Steps.bind (quiet_over (authorize_quiet _ _ _ _)) fun c => atomic_over ?_
  refine Steps.bind (quiet_over (lockCredentialGraph_quiet _)) fun row => ?_
  refine Steps.bind (quiet_over (query_quiet _)) fun state => ?_
  refine Steps.bind (quiet_over (reauthorize_quiet _ _ _)) fun _ => ?_
  split
  · exact Steps.pure _
  · refine Steps.bind (quiet_over (revealMaterial_quiet _ _ _ _ _)) fun revealed => ?_
    refine Steps.bind (quiet_over (reauthorize_quiet _ _ _)) fun _ => ?_
    split <;> exact Steps.pure _

/-! ### Requests -/

omit library in
theorem withoutMaterial_over {D : Database → Database → Prop} [Tolerant D] {α : Type} {x : M α}
    (h : Steps (Over D) x) : Steps (Over D) (withoutMaterial x) := Steps.bind h fun _ => Steps.pure _

omit library in
theorem withMaterial_over {D : Database → Database → Prop} [Tolerant D] {x : M RevealResponse}
    (h : Steps (Over D) x) : Steps (Over D) (withMaterial x) := Steps.bind h fun _ => Steps.pure _

/-- No request changes a row that is withheld from the user. -/
theorem UserRequest.run_respects (request : UserRequest) :
    Steps (Over (Database.Respects user)) (request.run user) := by
  cases request with
  | reveal restricts pk request reason version =>
      refine withMaterial_over (Steps.bind (quiet_over (authorize_quiet _ _ _ _)) fun c => ?_)
      exact Steps.bind (quiet_over (revealMaterial_quiet _ _ _ _ _)) fun _ => Steps.pure _
  | revealPage restricts pk request reason =>
      refine withMaterial_over (Steps.bind (quiet_over (query_quiet _)) fun c => ?_)
      exact Steps.bind (quiet_over (revealMaterial_quiet _ _ _ _ _)) fun _ => Steps.pure _
  | revealAssignment assignment request =>
      exact Steps.bind (assignment.run_over request) fun _ => Steps.pure _
  | rotate restricts pk request payload =>
      refine withoutMaterial_over (Steps.bind (quiet_over (authorize_quiet _ _ _ _)) fun c => ?_)
      exact Steps.bind (quiet_over (raiseIf_quiet _ _)) fun _ => rotateMaterial_respects c payload request
  | stage restricts pk request payload =>
      refine withoutMaterial_over (Steps.bind (quiet_over (authorize_quiet _ _ _ _)) fun c => ?_)
      exact Steps.bind (quiet_over (raiseIf_quiet _ _)) fun _ => stageMaterial_respects c payload request
  | promote restricts pk request verified note =>
      refine withoutMaterial_over (Steps.bind (quiet_over (authorize_quiet _ _ _ _)) fun c => ?_)
      exact promoteStaged_respects c request verified note
  | promotePage restricts pk request verified note =>
      refine withoutMaterial_over (Steps.bind (quiet_over (query_quiet _)) fun c => ?_)
      exact promoteStaged_respects c request verified note
  | discard restricts pk request =>
      refine withoutMaterial_over (Steps.bind (quiet_over (authorize_quiet _ _ _ _)) fun c => ?_)
      exact discardStaged_respects c request
  | discardPage restricts pk request =>
      refine withoutMaterial_over (Steps.bind (quiet_over (query_quiet _)) fun c => ?_)
      exact discardStaged_respects c request
  | update object edits payload request conforms =>
      exact withoutMaterial_over
        (materialTransaction_over (performUpdate_respects object edits payload request conforms))
  | bulkUpdate objects updateData request conforms =>
      exact withoutMaterial_over (bulkUpdate_respects objects updateData request conforms)
  | edit form request mayChange mayRotate =>
      exact withoutMaterial_over (editPost_respects form request mayChange mayRotate)

omit library in
theorem withoutMaterial_ok {α : Type} {x : M α} {w w' : World} {response : RevealResponse} :
    withoutMaterial x w ≠ (.ok (some response), w') := by
  intro h
  obtain ⟨a, u, -, hpure⟩ := bind_ok h
  cases hpure

/-- Material in an answer is that of a credential whose tier lets the user in. -/
theorem UserRequest.run_disclosed {request : UserRequest} {w w' : World} {response : RevealResponse}
    (h : request.run user w = (.ok (some response), w')) : Disclosed user w.db response.credential := by
  cases request with
  | reveal restricts pk request reason version =>
      obtain ⟨revealed, u, h, hpure⟩ := bind_ok h
      obtain ⟨c, v, hauthorized, h⟩ := bind_ok h
      obtain ⟨out, x, -, hpure'⟩ := bind_ok h
      cases hpure
      cases hpure'
      exact authorize_ok hauthorized
  | revealPage restricts pk request reason =>
      obtain ⟨revealed, u, h, hpure⟩ := bind_ok h
      obtain ⟨c, v, hobject, h⟩ := bind_ok h
      obtain ⟨out, x, hreveal, hpure'⟩ := bind_ok h
      cases hpure
      cases hpure'
      obtain ⟨hrow, hdb⟩ := getObjectOr404_ok hobject
      have hopen := revealMaterial_open hreveal
      rw [hdb] at hopen
      exact ⟨⟨pk, hrow⟩, hopen⟩
  | revealAssignment assignment request =>
      obtain ⟨answer, u, hrun, hpure⟩ := bind_ok h
      cases answer with
      | error mismatch => cases hpure
      | ok answered =>
          cases hpure
          exact AssignmentReveal.run_ok hrun
  | rotate => exact absurd h withoutMaterial_ok
  | stage => exact absurd h withoutMaterial_ok
  | promote => exact absurd h withoutMaterial_ok
  | promotePage => exact absurd h withoutMaterial_ok
  | discard => exact absurd h withoutMaterial_ok
  | discardPage => exact absurd h withoutMaterial_ok
  | update => exact absurd h withoutMaterial_ok
  | bulkUpdate => exact absurd h withoutMaterial_ok
  | edit => exact absurd h withoutMaterial_ok

/-! ### Sequences of requests -/

/-- Others leave the tier the credential is on, and the groups of that tier, as they are. -/
def RequestTurn.KeepsTier (pk : Nat) (s : Site) : RequestTurn → Prop
  | .mine _ _ _ => True
  | .others after _ => ∀ row', after.db.credentials pk = some row' → ∃ row, s.db.credentials pk = some row ∧
      row'.policyId = row.policyId ∧ (after.db.config.policies row.policyId).map (·.groups) =
        (s.db.config.policies row.policyId).map (·.groups)

/-- The rows are in order, and the credential, while it is there, is on the tier `tier` with these groups. -/
structure Site.OnTier (pk tier : Nat) (groups : List Nat) (s : Site) : Prop extends s.db.Addressed where
  tier : ∀ row, s.db.credentials pk = some row →
    row.policyId = tier ∧ (s.db.config.policies tier).map (·.groups) = some groups

/-- A tier with groups, and a user in none of them. -/
structure Outside (user : User) (groups : List Nat) : Prop where
  ordinary : user.isSuperuser = false
  gated : groups ≠ []
  outside : ∀ group ∈ user.groups, group ∉ groups

variable {pk tier : Nat} {groups : List Nat}

omit library in
theorem Outside.permits (h : Outside user groups) {policy : CredentialPolicy} (hgroups : policy.groups = groups) :
    permits policy user = false := by
  unfold NetboxOpenbao.permits
  rw [hgroups, Bool.or_eq_false_iff]
  constructor
  · simpa using h.gated
  · rw [List.any_eq_false]
    intro group hgroup
    simpa using h.outside group hgroup

omit library in
theorem Site.OnTier.withheld {s : Site} (h : s.OnTier pk tier groups) (houtside : Outside user groups) :
    Withheld user s.db pk := by
  intro row hrow
  obtain ⟨htier, hgroups⟩ := h.tier row hrow
  refine ⟨houtside.ordinary, fun policy hpolicy => ?_⟩
  rw [htier] at hpolicy
  rw [hpolicy] at hgroups
  exact houtside.permits (Option.some.inj hgroups)

/-- One turn keeps the credential on its tier. -/
theorem Site.OnTier.serve {s : Site} {turn : RequestTurn} (h : s.OnTier pk tier groups)
    (houtside : Outside user groups) (hkeeps : turn.KeepsTier pk s) : (s.serve user turn).OnTier pk tier groups := by
  cases turn with
  | mine request env acts =>
      have hspares : Database.Spares user s.db (s.serve user (.mine request env acts)).db :=
        request.run_respects (s.start env acts) h.toAddressed
      refine ⟨hspares.toAddressed, fun row hrow => ?_⟩
      rw [hspares.withheld pk (h.withheld houtside)] at hrow
      rw [hspares.config]
      exact h.tier row hrow
  | others after law =>
      refine ⟨law, fun row' hrow' => ?_⟩
      obtain ⟨row, hrow, hsame, hgroups⟩ := hkeeps row' hrow'
      obtain ⟨htier, hfound⟩ := h.tier row hrow
      rw [htier] at hsame hgroups
      exact ⟨hsame, hgroups.trans hfound⟩

/-- No answer carries the material of the credential, or anything else read from its place. -/
theorem Site.OnTier.answer {s : Site} {turn : RequestTurn} (h : s.OnTier pk tier groups)
    (houtside : Outside user groups) {response : RevealResponse} (hanswer : s.answer user turn = some response) :
    response.credential.pk ≠ some pk ∧
      ∀ row, s.db.credentials pk = some row → response.credential.location ≠ row.location := by
  cases turn with
  | others after law => cases hanswer
  | mine request env acts =>
      unfold Site.answer at hanswer
      simp only at hanswer
      split at hanswer
      · next answer hrun =>
          subst hanswer
          obtain ⟨⟨k, hk⟩, hadmitted⟩ := UserRequest.run_disclosed (Prod.ext hrun rfl)
          replace hk : s.db.credentials k = some response.credential := hk
          have hother : k ≠ pk := by
            rintro rfl
            exact hadmitted (h.withheld houtside _ hk)
          refine ⟨?_, fun row hrow hplace => ?_⟩
          · rw [(h.key k _ hk).1]
            exact fun hsame => hother (Option.some.inj hsame)
          · obtain ⟨hengine, hpath⟩ := Location.mk.inj hplace
            exact hother (h.place k pk _ row hk hrow hengine hpath)
      · cases hanswer

/-- A user outside the groups of a tier neither obtains the material of a credential on it nor moves the credential
to another tier, whatever the user asks for one after another, while others leave the tier and its groups alone. -/
theorem Site.withheld_throughout {s : Site} {row : Credential} {policy : CredentialPolicy} {turns : List RequestTurn}
    (hordinary : user.isSuperuser = false) (haddressed : s.db.Addressed) (hrow : s.db.credentials pk = some row)
    (hpolicy : s.db.config.policies row.policyId = some policy) (hgated : policy.groups ≠ [])
    (houtside : ∀ group ∈ user.groups, group ∉ policy.groups)
    (hothers : Runs.Along (Site.serve user) (fun s turn => turn.KeepsTier pk s) s turns) :
    Runs.Throughout (Site.serve user) (fun s' => ∀ row', s'.db.credentials pk = some row' →
      row'.policyId = row.policyId) s turns ∧
    Runs.Along (Site.serve user) (fun s' turn => ∀ response, s'.answer user turn = some response →
      response.credential.pk ≠ some pk ∧
        ∀ row', s'.db.credentials pk = some row' → response.credential.location ≠ row'.location) s turns := by
  have hout : Outside user policy.groups := ⟨hordinary, hgated, houtside⟩
  have hstart : s.OnTier pk row.policyId policy.groups := by
    refine ⟨haddressed, fun row' hrow' => ?_⟩
    obtain rfl := Option.some.inj (hrow.symm.trans hrow')
    exact ⟨rfl, by rw [hpolicy]; rfl⟩
  have hkept : Runs.Throughout (Site.serve user) (Site.OnTier pk row.policyId policy.groups) s turns :=
    Runs.throughout_of_along (fun _ _ h hkeeps => h.serve hout hkeeps) hstart hothers
  refine ⟨hkept.mono fun s' h row' hrow' => (h.tier row' hrow').1, ?_⟩
  refine Runs.along_of_throughout ?_ hkept hothers
  intro s' turn h _ response hanswer
  exact h.answer hout hanswer

/-! ### The move that reveals -/

namespace Sample

/-- The tier of the sample credential and one more, each with a group of its own. -/
def tiers : Config := { config 2 with
  policies := fun id =>
    if id = 1 then some ⟨1, [7], 300, false⟩ else if id = 2 then some ⟨1, [8], 300, false⟩ else none }

def gatedSite (row : Credential) : Site :=
  let s := site 2 row ⟨Secret.empty, none⟩
  { s with db := { s.db with config := tiers } }

omit library in
theorem gatedSite_addressed {row : Credential} (h : row.pk = some 1) : (gatedSite row).db.Addressed where
  key pk found hfound := by
    change (if pk = 1 then some row else none) = some found at hfound
    split at hfound
    · next hpk =>
        obtain rfl := Option.some.inj hfound
        exact ⟨by rw [h, hpk], hpk ▸ Nat.lt_succ_self 1⟩
    · cases hfound
  place pk pk' found found' hfound hfound' _ _ := by
    change (if pk = 1 then some row else none) = some found at hfound
    change (if pk' = 1 then some row else none) = some found' at hfound'
    by_cases hpk : pk = 1 <;> by_cases hpk' : pk' = 1
    · rw [hpk, hpk']
    · rw [if_neg hpk'] at hfound'
      cases hfound'
    · rw [if_neg hpk] at hfound
      cases hfound
    · rw [if_neg hpk] at hfound
      cases hfound

/-- In the groups of the second tier only. -/
def outsider : User := ⟨"lab", false, [8]⟩

def held : Loaded := ⟨credential "password", 1, rfl⟩

/-- A request that asks for the second tier. -/
def move : Edits := ⟨none, none, some 2, none, Metadata.empty, none, none, .none⟩

end Sample

omit library in
/-- Another user's edit, the move, and the reveal. -/
theorem Site.withheld_throughout_move :
    Runs.Throughout (@Site.serve Sample.library Sample.outsider) (fun s' => ∀ row', s'.db.credentials 1 = some row' →
      row'.policyId = 1) (Sample.gatedSite (Sample.credential "password"))
      [.others (Sample.gatedSite { Sample.credential "password" with username := "root" })
          (Sample.gatedSite_addressed rfl),
        .mine (.update Sample.held Sample.move none none fun _ _ => .ok ()) Sample.calm Sample.noActs,
        .mine (.reveal (fun _ _ => true) 1 none "" none) Sample.calm Sample.noActs] := by
  refine (@Site.withheld_throughout Sample.library Sample.outsider 1 _ (Sample.credential "password")
    ⟨1, [7], 300, false⟩
    [.others (Sample.gatedSite { Sample.credential "password" with username := "root" })
        (Sample.gatedSite_addressed rfl),
      .mine (.update Sample.held Sample.move none none fun _ _ => .ok ()) Sample.calm Sample.noActs,
      .mine (.reveal (fun _ _ => true) 1 none "" none) Sample.calm Sample.noActs]
    rfl (Sample.gatedSite_addressed rfl) rfl rfl (by decide) (by decide) ⟨?_, trivial, trivial, trivial⟩).1
  intro row' hrow'
  obtain rfl := Option.some.inj hrow'
  exact ⟨Sample.credential "password", rfl, rfl, rfl⟩

end NetboxOpenbao
