import NetboxOpenbao.Proof.Resolution
import NetboxOpenbao.Effect.Runs
import NetboxOpenbao.Operations

/-!
# One delivery per receipt

What a call has written follows from its history, and the key of a receipt is in one book at most. A call that comes
to the read has committed a receipt of its key before, so no other call of that key comes to it, in any order of the
calls and whatever fails.
-/

namespace NetboxOpenbao

open Effect Dialogue Automation

/-! ### Books -/

namespace Book

/-- What a history leaves in the book, where a `COMMIT` that raised is taken not to have been carried out. -/
def notes (b : Book) (h : History) : Book := h.foldl (fun b x => b.note false x) b

theorem notes_append (b : Book) (h h' : History) : b.notes (h ++ h') = (b.notes h).notes h' := by
  simp [notes]

theorem note_plain (b : Book) (durable : Bool) {x : Exchange Error Request Request.Carries}
    (hx : x.request.plain = true) : b.note durable x = b := by
  obtain ⟨request, answer⟩ := x
  cases request <;> first | (cases answer <;> rfl) | cases hx

theorem notes_looking (b : Book) {h : History} (hlooking : Looking h) : b.notes h = b := by
  induction h with
  | nil => rfl
  | cons x h ih =>
      have hrest : Looking h := fun y hy => hlooking y (List.mem_cons_of_mem x hy)
      have hfirst : b.note false x = b := b.note_plain false (hlooking x List.mem_cons_self)
      show (b.note false x).notes h = b
      rw [hfirst]
      exact ih hrest

theorem mem_update {rows : List AutomationRow} {receipt : AutomationResolutionReceipt} (id : Nat) (success : Bool)
    (message : String) (h : .receipt receipt ∈ rows) :
    .receipt receipt ∈ rows.map (·.update id success message) :=
  List.mem_map.mpr ⟨.receipt receipt, h, rfl⟩

/-- A committed receipt stays. -/
theorem receipt_stays {b : Book} (durable : Bool) (x : Exchange Error Request Request.Carries)
    {receipt : AutomationResolutionReceipt} (h : .receipt receipt ∈ b.committed) :
    .receipt receipt ∈ (b.note durable x).committed := by
  have hclose : ∀ d, .receipt receipt ∈ (b.close d).committed := by
    intro d
    cases d with
    | true => exact List.mem_append_left _ h
    | false => exact h
  have hinsert : ∀ row, .receipt receipt ∈ (b.insert row).committed := by
    intro row
    unfold insert
    split
    · exact h
    · exact List.mem_append_left _ h
  obtain ⟨request, answer⟩ := x
  cases request with
  | begin => cases answer <;> exact h
  | commit =>
      cases answer with
      | ok _ => exact hclose true
      | error _ => exact hclose durable
  | rollback => exact hclose false
  | createReceipt _ =>
      cases answer with
      | ok _ => exact hinsert _
      | error _ => exact h
  | createLog _ =>
      cases answer with
      | ok _ => exact hinsert _
      | error _ => exact h
  | updateLog id success message =>
      cases answer with
      | error _ => exact h
      | ok _ =>
          show .receipt receipt ∈ (b.update id success message).committed
          unfold update
          split
          · exact h
          · exact mem_update id success message h
  | _ => exact h

theorem receipt_stays_notes {b : Book} (h : History) {receipt : AutomationResolutionReceipt}
    (hin : .receipt receipt ∈ b.committed) : .receipt receipt ∈ (b.notes h).committed := by
  induction h generalizing b with
  | nil => exact hin
  | cons x h ih => exact ih (receipt_stays false x hin)

/-- The book a history tells of, in one that has carried out more commits. -/
structure Within (b b' : Book) : Prop where
  inAtomicBlock : b'.inAtomicBlock = b.inAtomicBlock
  pending : b'.pending = b.pending
  committed : ∀ row ∈ b.committed, row ∈ b'.committed

theorem Within.refl (b : Book) : b.Within b := ⟨rfl, rfl, fun _ h => h⟩

theorem Within.close {b b' : Book} (h : b.Within b') {durable durable' : Bool}
    (hdurable : durable = true → durable' = true) : (b.close durable).Within (b'.close durable') := by
  refine ⟨rfl, rfl, fun row hrow => ?_⟩
  unfold Book.close at hrow ⊢
  cases durable with
  | true =>
      rw [hdurable rfl]
      rcases List.mem_append.mp hrow with hold | hnew
      · exact List.mem_append_left _ (h.committed row hold)
      · apply List.mem_append_right
        rw [h.pending]
        exact hnew
  | false =>
      cases durable' with
      | true => exact List.mem_append_left _ (h.committed row hrow)
      | false => exact h.committed row hrow

theorem Within.insert {b b' : Book} (h : b.Within b') (row : AutomationRow) :
    (b.insert row).Within (b'.insert row) := by
  unfold Book.insert
  rw [h.inAtomicBlock]
  split
  · exact ⟨rfl, by simp [h.pending], h.committed⟩
  · refine ⟨rfl, h.pending, fun r hr => ?_⟩
    rcases List.mem_append.mp hr with hold | hnew
    · exact List.mem_append_left _ (h.committed r hold)
    · exact List.mem_append_right _ hnew

theorem Within.update {b b' : Book} (h : b.Within b') (id : Nat) (success : Bool) (message : String) :
    (b.update id success message).Within (b'.update id success message) := by
  unfold Book.update
  rw [h.inAtomicBlock]
  split
  · exact ⟨rfl, by simp [h.pending], h.committed⟩
  · refine ⟨rfl, h.pending, fun r hr => ?_⟩
    obtain ⟨row, hrow, rfl⟩ := List.mem_map.mp hr
    exact List.mem_map.mpr ⟨row, h.committed row hrow, rfl⟩

theorem Within.note {b b' : Book} (h : b.Within b') (durable : Bool)
    (x : Exchange Error Request Request.Carries) : (b.note false x).Within (b'.note durable x) := by
  obtain ⟨request, answer⟩ := x
  cases request with
  | begin =>
      cases answer with
      | ok _ => exact ⟨rfl, h.pending, h.committed⟩
      | error _ => exact h
  | commit =>
      cases answer with
      | ok _ => exact h.close id
      | error _ => exact h.close fun hfalse => by cases hfalse
  | rollback => exact h.close id
  | createReceipt receipt =>
      cases answer with
      | ok _ => exact h.insert _
      | error _ => exact h
  | createLog log =>
      cases answer with
      | ok _ => exact h.insert _
      | error _ => exact h
  | updateLog id success message =>
      cases answer with
      | ok _ => exact h.update id success message
      | error _ => exact h
  | _ => exact h

/-- A receipt of the key is in the book, committed or not. -/
def Holds (b : Book) (key : ReceiptKey) : Prop := ∃ row ∈ b.committed ++ b.pending, row.key = some key

theorem Holds.of_committed {b : Book} {receipt : AutomationResolutionReceipt} (h : .receipt receipt ∈ b.committed) :
    b.Holds receipt.key :=
  ⟨.receipt receipt, List.mem_append_left _ h, rfl⟩

theorem key_update (row : AutomationRow) (id : Nat) (success : Bool) (message : String) :
    (row.update id success message).key = row.key := by
  cases row with
  | receipt r => rfl
  | log id' l =>
      show (if id' = id then AutomationRow.log id' { l with success, message } else .log id' l).key = none
      split
      · rfl
      · rfl

theorem close_holds {b : Book} {durable : Bool} {key : ReceiptKey} (h : (b.close durable).Holds key) : b.Holds key := by
  obtain ⟨row, hrow, hkey⟩ := h
  refine ⟨row, ?_, hkey⟩
  cases durable with
  | true => simpa [close] using hrow
  | false =>
      have hold : row ∈ b.committed := by simpa [close] using hrow
      exact List.mem_append_left _ hold

theorem insert_holds {b : Book} {row : AutomationRow} {key : ReceiptKey} (h : (b.insert row).Holds key) :
    b.Holds key ∨ row.key = some key := by
  obtain ⟨r, hr, hkey⟩ := h
  have hcases : r ∈ b.committed ++ b.pending ∨ r = row := by
    unfold insert at hr
    split at hr
    · simp only [List.mem_append, List.mem_singleton] at hr ⊢
      grind
    · simp only [List.mem_append, List.mem_singleton] at hr ⊢
      grind
  rcases hcases with hold | rfl
  · exact .inl ⟨r, hold, hkey⟩
  · exact .inr hkey

theorem update_holds {b : Book} {id : Nat} {success : Bool} {message : String} {key : ReceiptKey}
    (h : (b.update id success message).Holds key) : b.Holds key := by
  obtain ⟨r, hr, hkey⟩ := h
  unfold update at hr
  split at hr
  · rcases List.mem_append.mp hr with hold | hnew
    · exact ⟨r, List.mem_append_left _ hold, hkey⟩
    · obtain ⟨row, hrow, rfl⟩ := List.mem_map.mp hnew
      exact ⟨row, List.mem_append_right _ hrow, (key_update row id success message) ▸ hkey⟩
  · rcases List.mem_append.mp hr with hold | hnew
    · obtain ⟨row, hrow, rfl⟩ := List.mem_map.mp hold
      exact ⟨row, List.mem_append_left _ hrow, (key_update row id success message) ▸ hkey⟩
    · exact ⟨r, List.mem_append_right _ hnew, hkey⟩

/-- Only an inserted receipt brings a key into the book. -/
theorem note_holds {b : Book} {durable : Bool} {x : Exchange Error Request Request.Carries} {key : ReceiptKey}
    (h : (b.note durable x).Holds key) :
    b.Holds key ∨ ∃ receipt, x = ⟨.createReceipt receipt, .ok ()⟩ ∧ receipt.key = key := by
  obtain ⟨request, answer⟩ := x
  cases request with
  | commit => cases answer <;> exact .inl (close_holds h)
  | rollback => exact .inl (close_holds h)
  | begin => cases answer <;> exact .inl h
  | createReceipt receipt =>
      cases answer with
      | error _ => exact .inl h
      | ok _ =>
          rcases insert_holds h with hold | hnew
          · exact .inl hold
          · exact .inr ⟨receipt, rfl, Option.some.inj hnew⟩
  | createLog log =>
      cases answer with
      | error _ => exact .inl h
      | ok _ =>
          rcases insert_holds h with hold | hnew
          · exact .inl hold
          · cases hnew
  | updateLog id success message =>
      cases answer with
      | error _ => exact .inl h
      | ok _ => exact .inl (update_holds h)
  | _ => exact .inl h

end Book

/-! ### The key a call is under -/

/-- The last authority a history has been given. -/
def latest (found : Option Authority) (h : History) : Option Authority :=
  h.foldl (fun found x => match x with
    | ⟨.authorizeDispatch _ _, .ok authority⟩ => some authority
    | _ => found) found

theorem latest_append (found : Option Authority) (h h' : History) :
    latest found (h ++ h') = latest (latest found h) h' := by
  simp [latest]

theorem latest_settled (found : Option Authority) {h : History} (hsettled : ∀ x ∈ h, ¬ x.request.authorizes) :
    latest found h = found := by
  induction h with
  | nil => rfl
  | cons x h ih =>
      have hrest : ∀ y ∈ h, ¬ y.request.authorizes := fun y hy => hsettled y (List.mem_cons_of_mem x hy)
      have hfirst : ¬ x.request.authorizes := hsettled x List.mem_cons_self
      obtain ⟨request, answer⟩ := x
      have hnext : latest found (⟨request, answer⟩ :: h) = latest found h := by
        cases request <;> first | rfl | exact (hfirst trivial).elim
      rw [hnext]
      exact ih hrest

theorem latest_looking (found : Option Authority) {h : History} (hlooking : Looking h) : latest found h = found := by
  apply latest_settled
  intro x hx hauthorizes
  have hplain := hlooking x hx
  rw [Request.not_plain_of_authorizes hauthorizes] at hplain
  cases hplain

/-- The authority answers for what was asked: its execution, its step and its reference. -/
def Documented : Exchange Error Request Request.Carries → Prop
  | ⟨.authorizeDispatch _ params, .ok authority⟩ => authority.executionId = params.executionId ∧
    authority.stepId = params.stepId ∧ authority.referenceName = params.referenceName
  | _ => True

section Calls

variable [hashing : Hashing]

/-- The parameters of a call and the digest of the nonce of its last authority. -/
def AutomationCall.key (call : AutomationCall) : Option ReceiptKey := (latest none call.history).map receiptKey

/-- The call has come to the backend read. -/
def AutomationCall.HasRead (call : AutomationCall) : Prop := Reaches Request.isRead call.history call.rest

def AutomationCall.Returned (call : AutomationCall) (bundle : AutomationBundle) : Prop :=
  call.rest = .done (.ok bundle)

/-- What a reservation leaves in the book. -/
theorem reserve_books {authority : Authority} {h : History} {receipt : AutomationResolutionReceipt}
    (he : Ends (reserve authority) h (.ok receipt)) : Book.blank.notes h = ⟨false, [], [.receipt receipt]⟩ := by
  obtain ⟨looking, hlooking, -, rfl⟩ := reserve_ok he
  simp only [Book.notes_append, Book.notes_looking _ hlooking]
  rfl

theorem clear_latest {executor : Executor} {params : AutomationParams} {receipt : AutomationResolutionReceipt}
    {h : History} {cleared : Cleared} (he : Ends (clear executor params receipt) h (.ok cleared))
    (found : Option Authority) : latest found h = some cleared.authority := by
  obtain ⟨looking, looking', hlooking, hlooking', rfl⟩ := (clear_ok he).shape
  simp only [latest_append, latest_looking _ hlooking, latest_looking _ hlooking']
  rfl

theorem clear_documented {executor : Executor} {params : AutomationParams} {receipt : AutomationResolutionReceipt}
    {h : History} {cleared : Cleared} (he : Ends (clear executor params receipt) h (.ok cleared))
    (hdocumented : ∀ x ∈ h, Documented x) : cleared.authority.executionId = params.executionId ∧
      cleared.authority.stepId = params.stepId ∧ cleared.authority.referenceName = params.referenceName := by
  obtain ⟨looking, looking', -, -, rfl⟩ := (clear_ok he).shape
  exact hdocumented ⟨.authorizeDispatch executor params, .ok cleared.authority⟩ (by simp)

/-- The two authorities of a call are for one key: execution, step and reference are the parameters', and the digest
of the nonce has been compared. -/
theorem receipt_key {executor : Executor} {params : AutomationParams} {first : Authority}
    {receipt : AutomationResolutionReceipt} {cleared : Cleared} {reserving clearing : History}
    (hreserve : Ends (reserve first) reserving (.ok receipt))
    (hclear : Ends (clear executor params receipt) clearing (.ok cleared))
    (hfirst : Documented ⟨.authorizeDispatch executor params, .ok first⟩)
    (hsecond : ∀ x ∈ clearing, Documented x) : receipt.key = receiptKey cleared.authority := by
  obtain ⟨looking, -, hkey, -⟩ := reserve_ok hreserve
  obtain ⟨hexecution, hstep, hreference⟩ := hfirst
  obtain ⟨hexecution', hstep', hreference'⟩ := clear_documented hclear hsecond
  have hnonce : nonceDigest first = nonceDigest cleared.authority := by
    have hsame := (clear_ok hclear).nonce
    rw [hkey] at hsame
    exact hsame
  rw [hkey]
  unfold receiptKey
  rw [hexecution, hstep, hreference, hexecution', hstep', hreference', hnonce]

variable [library : MaterialLibrary]

/-- A call is at a point of its dialogue, and its book has what its history tells of. -/
structure AutomationCall.Wellformed (call : AutomationCall) : Prop where
  talks : Talks (resolveAutomation call.inAtomicBlock call.autocommit call.executor call.params) call.history call.rest
  documented : ∀ x ∈ call.history, Documented x
  committed : ∀ row ∈ (Book.blank.notes call.history).committed, row ∈ call.book.committed
  running : call.crashed = false → (Book.blank.notes call.history).Within call.book

/-- A call that has come to the read has committed a receipt of the key it is under. -/
theorem AutomationCall.Wellformed.reserved {call : AutomationCall} (h : call.Wellformed) (hread : call.HasRead) :
    ∃ receipt, .receipt receipt ∈ call.book.committed ∧ call.key = some receipt.key := by
  obtain ⟨⟨first, receipt, cleared, reserving, clearing, later, hshape, hreserved, hclears, hsettled⟩⟩ :=
    resolveAutomation_reaches h.talks hread
  have hdocumented := h.documented
  refine ⟨receipt, h.committed _ ?_, ?_⟩
  · have hblank : Book.blank.notes [⟨.authorizeDispatch call.executor call.params, .ok first⟩] = Book.blank := rfl
    rw [hshape, List.append_assoc, List.append_assoc, Book.notes_append, Book.notes_append, hblank,
      reserve_books hreserved]
    apply Book.receipt_stays_notes
    exact List.mem_singleton_self _
  · rw [hshape] at hdocumented
    have hkey : receipt.key = receiptKey cleared.authority := by
      apply receipt_key hreserved hclears
      · exact hdocumented _ (by simp)
      · intro x hx
        exact hdocumented x (by simp [hx])
    have hlatest : latest none call.history = some cleared.authority := by
      rw [hshape]
      simp only [latest_append, clear_latest hclears, latest_settled _ hsettled]
    rw [AutomationCall.key, hlatest, hkey]
    rfl

theorem AutomationCall.Wellformed.ends {call : AutomationCall} (h : call.Wellformed) {bundle : AutomationBundle}
    (hreturned : call.Returned bundle) :
    Ends (resolveAutomation call.inAtomicBlock call.autocommit call.executor call.params) call.history
      (.ok bundle) := by
  have ht := h.talks
  rw [hreturned] at ht
  exact ht

theorem AutomationCall.Wellformed.returned_read {call : AutomationCall} (h : call.Wellformed)
    {bundle : AutomationBundle} (hreturned : call.Returned bundle) : call.HasRead := by
  obtain ⟨course⟩ := resolveAutomation_ok (h.ends hreturned)
  obtain ⟨data, looking, after, -, -, hshape, -⟩ := (handOut_ok course.handsOut).shape
  have hin : ∃ location version, ⟨.read location version, .ok data⟩ ∈ course.handing := by
    rw [hshape]
    exact ⟨_, _, List.mem_append_left _ (List.mem_append_left _ (List.mem_append_right _ List.mem_cons_self))⟩
  obtain ⟨location, version, hin⟩ := hin
  refine .inl ⟨⟨.read location version, .ok data⟩, ?_, trivial⟩
  rw [course.shape]
  simp [hin]

/-! ### What a returned bundle rests on -/

omit library in
theorem Checked.extend {authority : Authority} {h : History} {m : ResolvedMetadata}
    (hchecked : Automation.Checked authority h m) (before after : History) :
    Automation.Checked authority (before ++ h ++ after) m := by
  obtain ⟨h₀, h₁, h₂, h₃, h₄, rfl, hresolve, hresolved, hidentity⟩ := hchecked.found
  exact ⟨before ++ h₀, h₁, h₂, h₃, h₄ ++ after, by simp, hresolve, hresolved, hidentity⟩

/-- What stands behind a bundle a call has returned. `before` and `after` are its history on either side of the read. -/
structure Delivered (call : AutomationCall) (bundle : AutomationBundle) (authority : Authority)
    (receipt : AutomationResolutionReceipt) (metadata final : ResolvedMetadata) (data : Value)
    (before after : History) : Prop where
  history : call.history = before ++ [⟨.read ⟨metadata.credential.row.engineId, metadata.credential.row.path⟩
    bundle.resolvedVersion, .ok data⟩] ++ after
  authorized : latest none before = some authority ∧ authority.executionId = call.params.executionId ∧
    authority.stepId = call.params.stepId ∧ authority.referenceName = call.params.referenceName
  reserved : .receipt receipt ∈ (Book.blank.notes before).committed ∧ receipt.key = receiptKey authority ∧
    receipt.resolvedVersion = bundle.resolvedVersion
  checkedBefore : Automation.Checked authority before metadata ∧ metadata.version = bundle.resolvedVersion
  checkedAfter : Automation.Checked authority after final ∧ final.version = bundle.resolvedVersion
  audited : ∃ log rest, call.history = rest ++ [⟨.commit, .ok ()⟩] ∧ log.success = true ∧
    log.executionId = call.params.executionId ∧ log.resolvedVersion = some bundle.resolvedVersion ∧
    .log bundle.accessLogId log ∈ (Book.blank.notes rest).pending ∧
    .log bundle.accessLogId log ∈ call.book.committed
  projected : ∃ (inventory : Inventory) (schema : Schema), ⟨.statement, .ok inventory⟩ ∈ before ∧
    getSchema inventory.config metadata.credential.row.credentialType = .ok schema ∧
    ∀ field ∈ bundle.fields, field.1 ∈ authority.reference.fields ∧ (schema.vaultFields.lookup field.1).isSome = true

theorem AutomationCall.Wellformed.delivered {call : AutomationCall} (h : call.Wellformed)
    {bundle : AutomationBundle} (hreturned : call.Returned bundle) :
    ∃ authority receipt metadata final data before after,
      Delivered call bundle authority receipt metadata final data before after := by
  obtain ⟨⟨first, receipt, cleared, reserving, clearing, handing, hshape, hreserve, hclear, hhand⟩⟩ :=
    resolveAutomation_ok (h.ends hreturned)
  have hcleared := clear_ok hclear
  have hhanded := handOut_ok hhand
  obtain ⟨looking₁, looking₂, hlooking₁, hlooking₂, hclearing⟩ := hcleared.shape
  obtain ⟨data, looking₃, after, hlooking₃, hafter, hhanding, final, hfinal, hversion⟩ := hhanded.shape
  have hdocumented := h.documented
  rw [hshape] at hdocumented
  have hsecond : ∀ x ∈ clearing, Documented x := fun x hx => hdocumented x (by simp [hx])
  have hkey : receipt.key = receiptKey cleared.authority :=
    receipt_key hreserve hclear (hdocumented _ (by simp)) hsecond
  have hreserved : receipt.resolvedVersion = bundle.resolvedVersion := by
    rw [hhanded.version, hcleared.reserved]
  have hbooks : Book.blank.notes ([⟨.authorizeDispatch call.executor call.params, .ok first⟩] ++ reserving) =
      ⟨false, [], [.receipt receipt]⟩ := by
    rw [Book.notes_append]
    exact reserve_books hreserve
  let before : History := [⟨.authorizeDispatch call.executor call.params, .ok first⟩] ++ reserving ++
    [⟨.begin, .ok ()⟩] ++ clearing ++ looking₃
  let log : AutomationAccessLog := accessLog call.executor call.params (some cleared.authority)
    (some cleared.metadata.credential.row.uuid) (some receipt) false
  let delivered : AutomationAccessLog := { log with success := true, message := "Automation bundle delivered." }
  have hbefore : Book.blank.notes before = ⟨true, [.log cleared.audit log], [.receipt receipt]⟩ := by
    show Book.blank.notes ([_] ++ reserving ++ [_] ++ clearing ++ looking₃) = _
    rw [Book.notes_append, Book.notes_append, Book.notes_append, hbooks, hclearing, Book.notes_looking _ hlooking₃]
    simp only [Book.notes_append, Book.notes_looking _ hlooking₁, Book.notes_looking _ hlooking₂]
    rfl
  have hchecked : Automation.Checked cleared.authority before cleared.metadata := by
    have hextended := Checked.extend hcleared.checked ([⟨.authorizeDispatch call.executor call.params, .ok first⟩] ++
      reserving ++ [⟨.begin, .ok ()⟩]) looking₃
    exact hextended
  let read : Exchange Error Request Request.Carries :=
    ⟨.read ⟨cleared.metadata.credential.row.engineId, cleared.metadata.credential.row.path⟩ cleared.metadata.version,
      .ok data⟩
  let update : Exchange Error Request Request.Carries :=
    ⟨.updateLog cleared.audit true "Automation bundle delivered.", .ok ()⟩
  have hhistory : call.history = (before ++ [read] ++ after ++ [update]) ++ [⟨.commit, .ok ()⟩] := by
    rw [hshape, hhanding]
    simp [before, read, update]
  have hrest : Book.blank.notes (before ++ [read] ++ after ++ [update]) =
      ⟨true, [.log cleared.audit delivered], [.receipt receipt]⟩ := by
    rw [Book.notes_append, Book.notes_append, Book.notes_append, hbefore, Book.notes_looking _ hafter]
    show (⟨true, [AutomationRow.update cleared.audit true "Automation bundle delivered." (.log cleared.audit log)],
      [.receipt receipt]⟩ : Book) = _
    simp [AutomationRow.update, delivered]
  have hcommitted : .log cleared.audit delivered ∈ (Book.blank.notes call.history).committed := by
    rw [hhistory, Book.notes_append, hrest]
    exact List.mem_append_right _ List.mem_cons_self
  refine ⟨cleared.authority, receipt, cleared.metadata, final, data, before, after ++ [update] ++
    [⟨.commit, .ok ()⟩], ?_⟩
  constructor
  · rw [hhistory, hhanded.version]
    simp [read]
  · refine ⟨?_, clear_documented hclear hsecond⟩
    show latest none ([_] ++ reserving ++ [_] ++ clearing ++ looking₃) = _
    simp only [latest_append, clear_latest hclear, latest_looking _ hlooking₃]
  · rw [hbefore]
    exact ⟨List.mem_singleton_self _, hkey, hreserved⟩
  · exact ⟨hchecked, hhanded.version.symm⟩
  · refine ⟨?_, hversion.trans hhanded.version.symm⟩
    have hextended := Checked.extend hfinal [] ([update] ++ [⟨.commit, .ok ()⟩])
    simpa using hextended
  · refine ⟨delivered, before ++ [read] ++ after ++ [update], hhistory, rfl, rfl, ?_, ?_, ?_⟩
    · show some receipt.resolvedVersion = _
      rw [hreserved]
    · rw [hrest, hhanded.audit]
      exact List.mem_singleton_self _
    · rw [hhanded.audit]
      exact h.committed _ hcommitted
  · obtain ⟨h₀, h₁, h₂, h₃, h₄, hsplit, -, hresolved, -⟩ := hchecked.found
    obtain ⟨inventory, schema, hin, hschema, hfields⟩ := hresolved.declared
    refine ⟨inventory, schema, ?_, hschema, ?_⟩
    · rw [hsplit]
      simp [hin]
    · intro field hfield
      obtain ⟨specification, hspecification⟩ := hhanded.fields field hfield
      obtain ⟨hrequested, hlookup⟩ := hfields _ hspecification
      exact ⟨hrequested, by rw [hlookup]; rfl⟩

end Calls

/-! ### All calls together -/

/-- The RPC authority answers as documented in this move. -/
def ResolutionMove.Documented : ResolutionMove → Prop
  | .answer _ answers _ => ∀ executor params,
    NetboxOpenbao.Documented ⟨.authorizeDispatch executor params, answers (.authorizeDispatch executor params)⟩
  | _ => True

namespace Resolutions

/-- The key of a receipt is in one book at most, and not in one if a receipt from before has it. -/
structure Exclusive (r : Resolutions) : Prop where
  calls : ∀ (i j : Nat) (ci cj : AutomationCall) key, r.calls[i]? = some ci → r.calls[j]? = some cj → ci.book.Holds key →
    cj.book.Holds key → i = j
  earlier : ∀ (i : Nat) (call : AutomationCall) receipt, r.calls[i]? = some call → receipt ∈ r.earlier → ¬ call.book.Holds receipt.key

/-- No receipt has the key. -/
structure Unheld (r : Resolutions) (key : ReceiptKey) : Prop where
  calls : ∀ (i : Nat) (call : AutomationCall), r.calls[i]? = some call → ¬ call.book.Holds key
  earlier : ∀ receipt ∈ r.earlier, receipt.key ≠ key

theorem not_takes {key : ReceiptKey} {rows : List AutomationRow} (h : takes key rows = false) :
    ∀ row ∈ rows, row.key ≠ some key := by
  intro row hrow hkey
  have htakes : takes key rows = true := List.any_eq_true.mpr ⟨row, hrow, by simp [hkey]⟩
  rw [h] at htakes
  cases htakes

/-- An insertion goes through only where no receipt has the key. -/
theorem reply_unheld {r : Resolutions} {receipt : AutomationResolutionReceipt}
    {given : Except Error (Request.createReceipt receipt).Carries} {u : Unit}
    (h : r.reply (.createReceipt receipt) given = some (.ok u)) : r.Unheld receipt.key := by
  cases given with
  | error error => cases h
  | ok v =>
      have hreply : r.reply (.createReceipt receipt) (.ok v) =
          if r.committedKey receipt.key then some (.error receiptExists)
          else if r.openKey receipt.key then none else some (.ok ()) := rfl
      rw [hreply] at h
      split at h
      · cases h
      · next hcommitted =>
          split at h
          · cases h
          · next hopen =>
              have hcommitted : r.earlier.any (·.key == receipt.key) = false ∧
                  r.calls.any (fun call => takes receipt.key call.book.committed) = false := by
                simpa [committedKey] using hcommitted
              have hopen : r.calls.any (fun call => takes receipt.key call.book.pending) = false := by
                simpa [openKey] using hopen
              constructor
              · rintro i call hcall ⟨row, hrow, hkey⟩
                have hmem : call ∈ r.calls := List.mem_of_getElem? hcall
                rcases List.mem_append.mp hrow with hold | hnew
                · have hnone : takes receipt.key call.book.committed = false := by
                    simpa using List.any_eq_false.mp hcommitted.2 call hmem
                  exact not_takes hnone row hold hkey
                · have hnone : takes receipt.key call.book.pending = false := by
                    simpa using List.any_eq_false.mp hopen call hmem
                  exact not_takes hnone row hnew hkey
              · intro other hother hkey
                have hnone := List.any_eq_false.mp hcommitted.1 other hother
                simp [hkey] at hnone

theorem put_get {r : Resolutions} {i j : Nat} {call cj : AutomationCall}
    (h : (r.put i call).calls[j]? = some cj) : (j = i ∧ cj = call) ∨ (j ≠ i ∧ r.calls[j]? = some cj) := by
  have hset : (r.calls.set i call)[j]? = some cj := h
  rw [List.getElem?_set] at hset
  split at hset
  · next hsame =>
      split at hset
      · exact .inl ⟨hsame.symm, (Option.some.inj hset).symm⟩
      · cases hset
  · next hother => exact .inr ⟨fun hsame => hother hsame.symm, hset⟩

theorem reply_documented {r : Resolutions} {answers : (request : Request) → Except Error request.Carries}
    (hanswers : ∀ executor params,
      Documented ⟨.authorizeDispatch executor params, answers (.authorizeDispatch executor params)⟩)
    {request : Request} {given : Except Error request.Carries}
    (h : r.reply request (answers request) = some given) : Documented ⟨request, given⟩ := by
  cases request with
  | authorizeDispatch executor params =>
      have hsame : answers (.authorizeDispatch executor params) = given := by
        cases hanswer : answers (.authorizeDispatch executor params) <;>
          · rw [hanswer] at h
            exact Option.some.inj h
      rw [← hsame]
      exact hanswers executor params
  | _ => trivial

theorem start_get {r : Resolutions} {call cj : AutomationCall} {j : Nat}
    (h : (r.calls ++ [call])[j]? = some cj) : r.calls[j]? = some cj ∨ cj = call := by
  rw [List.getElem?_append] at h
  split at h
  · exact .inl h
  · have hmem : cj ∈ [call] := List.mem_of_getElem? h
    exact .inr (List.mem_singleton.mp hmem)

theorem put_retains {r : Resolutions} {index : Nat} {call call' : AutomationCall}
    (hcall : r.calls[index]? = some call)
    (hkept : ∀ receipt, .receipt receipt ∈ call.book.committed → .receipt receipt ∈ call'.book.committed) :
    ∀ (i : Nat) (ci : AutomationCall) receipt, r.calls[i]? = some ci → .receipt receipt ∈ ci.book.committed →
      ∃ ci', (r.put index call').calls[i]? = some ci' ∧ .receipt receipt ∈ ci'.book.committed := by
  intro i ci receipt hci hreceipt
  have hset : (r.put index call').calls = r.calls.set index call' := rfl
  rw [hset, List.getElem?_set]
  by_cases hsame : index = i
  · subst hsame
    obtain rfl := Option.some.inj (hcall.symm.trans hci)
    obtain ⟨hlt, -⟩ := List.getElem?_eq_some_iff.mp hcall
    rw [if_pos rfl, if_pos hlt]
    exact ⟨call', rfl, hkept receipt hreceipt⟩
  · rw [if_neg hsame]
    exact ⟨ci, hci, hreceipt⟩

variable [hashing : Hashing] [library : MaterialLibrary]

structure Sound (r : Resolutions) : Prop where
  wellformed : ∀ (i : Nat) (call : AutomationCall), r.calls[i]? = some call → call.Wellformed
  exclusive : r.Exclusive

/-- One call goes on, with no key in its book that another has. -/
theorem Sound.put {r : Resolutions} (h : r.Sound) {i : Nat} {call call' : AutomationCall}
    (hcall : r.calls[i]? = some call) (hwellformed : call'.Wellformed)
    (hkeys : ∀ key, call'.book.Holds key → call.book.Holds key ∨ r.Unheld key) : (r.put i call').Sound := by
  have hother : ∀ (j : Nat) (cj : AutomationCall) key, j ≠ i → r.calls[j]? = some cj → call'.book.Holds key → ¬ cj.book.Holds key := by
    intro j cj key hne hcj hholds hholds'
    rcases hkeys key hholds with hold | hunheld
    · exact hne (h.exclusive.calls j i cj call key hcj hcall hholds' hold)
    · exact hunheld.calls j cj hcj hholds'
  constructor
  · intro j cj hcj
    rcases put_get hcj with ⟨-, rfl⟩ | ⟨-, hold⟩
    · exact hwellformed
    · exact h.wellformed j cj hold
  · constructor
    · intro j k cj ck key hcj hck hj hk
      rcases put_get hcj with ⟨hji, rfl⟩ | ⟨hji, hold⟩
      · rcases put_get hck with ⟨hki, -⟩ | ⟨hki, hold'⟩
        · rw [hji, hki]
        · exact absurd hk (hother k ck key hki hold' hj)
      · rcases put_get hck with ⟨hki, rfl⟩ | ⟨hki, hold'⟩
        · exact absurd hj (hother j cj key hji hold hk)
        · exact h.exclusive.calls j k cj ck key hold hold' hj hk
    · intro j cj receipt hcj hreceipt
      rcases put_get hcj with ⟨-, rfl⟩ | ⟨-, hold⟩
      · intro hholds
        rcases hkeys receipt.key hholds with hold | hunheld
        · exact h.exclusive.earlier i call receipt hcall hreceipt hold
        · exact hunheld.earlier receipt hreceipt rfl
      · exact h.exclusive.earlier j cj receipt hold hreceipt

theorem Sound.start {r : Resolutions} (h : r.Sound) (inAtomicBlock autocommit : Bool) (executor : Executor)
    (params : AutomationParams) : (r.step (.start inAtomicBlock autocommit executor params)).Sound := by
  have hblank : ∀ key, ¬ Book.blank.Holds key := by
    rintro key ⟨row, hrow, -⟩
    cases hrow
  constructor
  · intro j cj hcj
    rcases start_get hcj with hold | rfl
    · exact h.wellformed j cj hold
    · exact ⟨.start _, (fun _ hx => by cases hx), (fun _ hrow => by cases hrow), fun _ => Book.Within.refl _⟩
  · constructor
    · intro j k cj ck key hcj hck hj hk
      rcases start_get hcj with hold | rfl
      · rcases start_get hck with hold' | rfl
        · exact h.exclusive.calls j k cj ck key hold hold' hj hk
        · exact absurd hk (hblank key)
      · exact absurd hj (hblank key)
    · intro j cj receipt hcj hreceipt
      rcases start_get hcj with hold | rfl
      · exact h.exclusive.earlier j cj receipt hold hreceipt
      · exact hblank receipt.key

theorem Sound.step {r : Resolutions} (h : r.Sound) (move : ResolutionMove) (hrpc : move.Documented) :
    (r.step move).Sound := by
  cases move with
  | start inAtomicBlock autocommit executor params => exact h.start inAtomicBlock autocommit executor params
  | answer index answers durable =>
      unfold Resolutions.step
      dsimp only
      split
      · exact h
      · next call hcall =>
          have hwellformed : call.Wellformed := h.wellformed index call hcall
          split
          · exact h
          · next hrunning =>
              have hrunning : call.crashed = false := by simpa using hrunning
              split
              · exact h
              · next request next hrest =>
                  split
                  · exact h
                  · next given hreply =>
                      apply h.put hcall
                      · have htalks := hwellformed.talks
                        rw [hrest] at htalks
                        have hwithin : (Book.blank.notes (call.history ++ [⟨request, given⟩])).Within
                            (call.book.note durable ⟨request, given⟩) := by
                          rw [Book.notes_append]
                          exact (hwellformed.running hrunning).note durable ⟨request, given⟩
                        refine ⟨htalks.next given, ?_, hwithin.committed, fun _ => hwithin⟩
                        intro x hx
                        rcases List.mem_append.mp hx with hold | hnew
                        · exact hwellformed.documented x hold
                        · rw [List.mem_singleton.mp hnew]
                          exact reply_documented hrpc hreply
                      · intro key hholds
                        rcases Book.note_holds hholds with hold | ⟨receipt, hsame, rfl⟩
                        · exact .inl hold
                        · cases hsame
                          exact .inr (reply_unheld hreply)
  | crash index durable =>
      unfold Resolutions.step
      dsimp only
      split
      · exact h
      · next call hcall =>
          have hwellformed : call.Wellformed := h.wellformed index call hcall
          split
          · exact h
          · next request hpending =>
              apply h.put hcall
              · refine ⟨hwellformed.talks, hwellformed.documented, ?_, fun hcrashed => by cases hcrashed⟩
                intro row hrow
                have hold : row ∈ call.book.committed := hwellformed.committed row hrow
                show row ∈ (call.book.close (durable && request == .commit)).committed
                unfold Book.close
                cases durable && request == Request.commit with
                | true => exact List.mem_append_left _ hold
                | false => exact hold
              · intro key hholds
                exact .inl (Book.close_holds hholds)

/-- At most one call of a key comes to the read, and a receipt is spent: no other call of its key comes to the read
or returns, whatever became of the call that reserved. -/
structure Spent (r : Resolutions) : Prop where
  once : ∀ (i j : Nat) (ci cj : AutomationCall) key, r.calls[i]? = some ci → r.calls[j]? = some cj →
    ci.HasRead → cj.HasRead → ci.key = some key → cj.key = some key → i = j
  spent : ∀ (i j : Nat) (ci cj : AutomationCall) receipt, r.calls[i]? = some ci → r.calls[j]? = some cj → i ≠ j →
    .receipt receipt ∈ ci.book.committed → cj.key = some receipt.key →
    ¬ cj.HasRead ∧ ∀ bundle, ¬ cj.Returned bundle
  earlier : ∀ (i : Nat) (call : AutomationCall) receipt, r.calls[i]? = some call → receipt ∈ r.earlier →
    call.key = some receipt.key → ¬ call.HasRead ∧ ∀ bundle, ¬ call.Returned bundle

theorem Sound.spent {r : Resolutions} (h : r.Sound) : r.Spent := by
  -- a call that has come to the read holds a receipt of the key it is under
  have hholds : ∀ (i : Nat) (call : AutomationCall) key, r.calls[i]? = some call → call.HasRead →
      call.key = some key → call.book.Holds key := by
    intro i call key hcall hread hkey
    obtain ⟨receipt, hcommitted, hsame⟩ := (h.wellformed i call hcall).reserved hread
    obtain rfl : receipt.key = key := Option.some.inj (hsame.symm.trans hkey)
    exact Book.Holds.of_committed hcommitted
  have hunreturned : ∀ (i : Nat) (call : AutomationCall), r.calls[i]? = some call → ¬ call.HasRead →
      ∀ bundle, ¬ call.Returned bundle :=
    fun i call hcall hunread bundle hreturned => hunread ((h.wellformed i call hcall).returned_read hreturned)
  constructor
  · intro i j ci cj key hci hcj hri hrj hki hkj
    exact h.exclusive.calls i j ci cj key hci hcj (hholds i ci key hci hri hki) (hholds j cj key hcj hrj hkj)
  · intro i j ci cj receipt hci hcj hne hcommitted hkey
    have hunread : ¬ cj.HasRead := fun hread => hne (h.exclusive.calls i j ci cj receipt.key hci hcj
      (Book.Holds.of_committed hcommitted) (hholds j cj receipt.key hcj hread hkey))
    exact ⟨hunread, hunreturned j cj hcj hunread⟩
  · intro i call receipt hcall hreceipt hkey
    have hunread : ¬ call.HasRead := fun hread =>
      h.exclusive.earlier i call receipt hcall hreceipt (hholds i call receipt.key hcall hread hkey)
    exact ⟨hunread, hunreturned i call hcall hunread⟩

/-- A committed receipt is still there after the move. -/
def Retains (r : Resolutions) (move : ResolutionMove) : Prop :=
  (r.step move).earlier = r.earlier ∧
    ∀ (i : Nat) (call : AutomationCall) receipt, r.calls[i]? = some call →
      .receipt receipt ∈ call.book.committed →
      ∃ call', (r.step move).calls[i]? = some call' ∧ .receipt receipt ∈ call'.book.committed

theorem retains (r : Resolutions) (move : ResolutionMove) : r.Retains move := by
  have hsame : ∀ (i : Nat) (call : AutomationCall) receipt, r.calls[i]? = some call →
      .receipt receipt ∈ call.book.committed →
      ∃ call', r.calls[i]? = some call' ∧ AutomationRow.receipt receipt ∈ call'.book.committed :=
    fun _ call _ hcall hreceipt => ⟨call, hcall, hreceipt⟩
  unfold Retains
  cases move with
  | start inAtomicBlock autocommit executor params =>
      refine ⟨rfl, fun i call receipt hcall hreceipt => ⟨call, ?_, hreceipt⟩⟩
      obtain ⟨hlt, -⟩ := List.getElem?_eq_some_iff.mp hcall
      show (r.calls ++ [_])[i]? = some call
      rw [List.getElem?_append_left hlt]
      exact hcall
  | answer index answers durable =>
      unfold Resolutions.step
      dsimp only
      split
      · exact ⟨rfl, hsame⟩
      · next call hcall =>
          split
          · exact ⟨rfl, hsame⟩
          · split
            · exact ⟨rfl, hsame⟩
            · split
              · exact ⟨rfl, hsame⟩
              · exact ⟨rfl, put_retains hcall fun _ hreceipt => Book.receipt_stays durable _ hreceipt⟩
  | crash index durable =>
      unfold Resolutions.step
      dsimp only
      split
      · exact ⟨rfl, hsame⟩
      · next call hcall =>
          split
          · exact ⟨rfl, hsame⟩
          · refine ⟨rfl, put_retains hcall fun receipt hreceipt => ?_⟩
            unfold Book.close
            split
            · exact List.mem_append_left _ hreceipt
            · exact hreceipt

/-- No call has been started. -/
def Initial (r : Resolutions) : Prop := r.calls = []

omit library in
theorem Initial.sound [MaterialLibrary] {r : Resolutions} (h : r.Initial) : r.Sound := by
  have hnone : ∀ i : Nat, r.calls[i]? = none := by
    intro i
    rw [show r.calls = [] from h]
    rfl
  constructor
  · intro i call hcall
    rw [hnone] at hcall
    cases hcall
  · constructor
    · intro i j ci cj key hci
      rw [hnone] at hci
      cases hci
    · intro i call receipt hcall
      rw [hnone] at hcall
      cases hcall

theorem Initial.throughout {r : Resolutions} (h : r.Initial) {moves : List ResolutionMove}
    (hrpc : Runs.Along step (fun _ move => move.Documented) r moves) : Runs.Throughout step Sound r moves :=
  Runs.throughout_of_along (P := Sound) (fun _ move hr hmove => hr.step move hmove) h.sound hrpc

/-- In every run of any number of calls, a reservation is good for one read at most, and is spent for ever. -/
theorem reservation_spent {r : Resolutions} (h : r.Initial) (moves : List ResolutionMove)
    (hrpc : Runs.Along step (fun _ move => move.Documented) r moves) :
    Runs.Throughout step Spent r moves ∧ Runs.Along step Retains r moves :=
  ⟨(h.throughout hrpc).mono fun _ hr => hr.spent, Runs.along_of_forall retains r moves⟩

/-- Every bundle that has been returned rests on a reservation, two checks and its audit row. -/
def ReturnsChecked (r : Resolutions) : Prop :=
  ∀ (i : Nat) (call : AutomationCall) bundle, r.calls[i]? = some call → call.Returned bundle →
    ∃ authority receipt metadata final data before after,
      Delivered call bundle authority receipt metadata final data before after

/-- In every run of any number of calls, whatever the statements of a call see. -/
theorem resolution_delivered {r : Resolutions} (h : r.Initial) (moves : List ResolutionMove)
    (hrpc : Runs.Along step (fun _ move => move.Documented) r moves) :
    Runs.Throughout step ReturnsChecked r moves := by
  apply (h.throughout hrpc).mono
  intro r hr i call bundle hcall hreturned
  exact (hr.wellformed i call hcall).delivered hreturned

end Resolutions

/-! ### A call and its repetition -/

namespace Sample

@[reducible] def hashing : Hashing := ⟨fun nonce => "sha256:" ++ nonce, fun _ path => path, fun _ _ _ => "fields"⟩

def serviceAccount : Credential := { credential "password" with
  kvVersion := some 3
  liveKvVersion := some 3 }

/-- One device with one credential for logging in, and an active user who may see and reveal everything. -/
def inventory : Inventory where
  config := config 2
  credentials pk := if pk = 1 then some serviceAccount else none
  assignments := [⟨1, 1, "dcim.device", 7, "login", true⟩]
  services _ := none
  activeUsers pk := if pk = 4 then some ⟨"ops", false, []⟩ else none
  assignableModels := ["dcim.device"]
  restricts _ _ _ _ := true

def params : AutomationParams := ⟨31, "lease", "step", "root-login"⟩

def authority (params : AutomationParams) : Authority where
  executionId := params.executionId
  dispatchNonce := "n1"
  stepId := params.stepId
  referenceName := params.referenceName
  initiatingActor := 4
  initiatingUsername := "ops"
  targetObjectType := "dcim.device"
  targetObjectId := 7
  reference := ⟨"dcim.device", 7, "login", some 1, "", none, ["password"]⟩
  reason := "maintenance"
  correlationId := "c1"
  intentRunId := none
  providerIdentity := ⟨"5f0c", ⟨1, "login", "dcim.device", 7⟩, "", "", "password", 1, 1, "netbox/credentials/5f0c",
    "fields"⟩

/-- Everything goes well. -/
def answers : (request : Request) → Except Error request.Carries
  | .authorizeDispatch _ params => .ok (authority params)
  | .statement | .lock _ => .ok inventory
  | .now => .ok 100
  | .createLog _ => .ok 0
  | .read _ _ => .ok (.dict [("password", .str "hunter2")])
  | .checkLifetime _ | .checkPermissions _ | .begin | .commit | .rollback | .createReceipt _ | .updateLog _ _ _
  | .getBackend _ _ => .ok ()

def desk : Resolutions := ⟨[], [], 0⟩

def executor : Executor := ⟨true, "runner"⟩

/-- One call runs to its end, then a second one of the same parameters. -/
def repeated : List ResolutionMove :=
  [.start false true executor params, .start false true executor params] ++
    List.replicate 90 (.answer 0 answers false) ++ List.replicate 60 (.answer 1 answers false)
theorem repeated_documented (move : ResolutionMove) (hmove : move ∈ repeated) : move.Documented := by
  simp only [repeated, List.mem_append, List.mem_cons, List.not_mem_nil, or_false, List.mem_replicate] at hmove
  rcases hmove with ((rfl | rfl) | ⟨-, rfl⟩) | ⟨-, rfl⟩
  · trivial
  · trivial
  · exact fun _ params => ⟨rfl, rfl, rfl⟩
  · exact fun _ params => ⟨rfl, rfl, rfl⟩

end Sample

namespace Resolutions

theorem resolution_delivered_repeated :
    ((Runs.final (@step Sample.hashing Sample.library) Sample.desk Sample.repeated).calls.map
        fun call => call.bundle.map (·.fields)) = [some [("password", "hunter2")], none] ∧
      @ReturnsChecked Sample.hashing (Runs.final (@step Sample.hashing Sample.library) Sample.desk Sample.repeated) :=
  ⟨by decide +kernel, (@resolution_delivered Sample.hashing Sample.library Sample.desk rfl Sample.repeated
    (Runs.along_of_mem Sample.repeated_documented Sample.desk)).final⟩

theorem reservation_spent_repeated :
    @Spent Sample.hashing (Runs.final (@step Sample.hashing Sample.library) Sample.desk Sample.repeated) ∧
      Runs.Along (@step Sample.hashing Sample.library) (@Retains Sample.hashing Sample.library) Sample.desk
        Sample.repeated := by
  obtain ⟨hspent, hretains⟩ := @reservation_spent Sample.hashing Sample.library Sample.desk rfl Sample.repeated
    (Runs.along_of_mem Sample.repeated_documented Sample.desk)
  exact ⟨hspent.final, hretains⟩

end Resolutions

end NetboxOpenbao
