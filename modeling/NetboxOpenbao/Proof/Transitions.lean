import NetboxOpenbao.Proof.Rows
import NetboxOpenbao.Proof.Compensation

/-!
# What an operation can do

The transitions of a credential row, operation by operation, and the one write an operation may make on
the way. `Ran` says of the body of an operation, returning or not, what it did to the servers and to its
owner's ledger, and which transition it took when it returned. Every later invariant is a case analysis on
`Commits`.
-/

namespace NetboxOpenbao

open Effect Effect.Prog

section

variable [library : MaterialLibrary]

/-- Material accepted for a credential type: what is stored, what is extracted, and the key fingerprint. -/
structure Prepared (config : Config) (credentialType : String) (payload data : Payload)
    (metadata : Metadata) (fingerprint : String) : Prop where
  material : prepareMaterial config credentialType payload = .ok (data, metadata)
  identity : deriveKeyFingerprint config credentialType data = .ok fingerprint

/-- The instance an update saves: the edits on a held instance, its version state taken from the row. -/
def updated (held : Credential) (edits : Edits) (row : Credential) : Credential :=
  edits.apply (refreshVersions (edits.apply held) row)

omit library in
theorem updated_selectors (held : Credential) (edits : Edits) (row : Credential) :
    (updated held edits row).policyId = (edits.apply held).policyId ∧
      (updated held edits row).engineId = (edits.apply held).engineId := by
  constructor
  · simp only [updated, refreshVersions, Edits.apply]
    cases edits.policyId <;> rfl
  · simp only [updated, refreshVersions, Edits.apply]
    cases edits.engineId <;> rfl

/-- The tier and the engine an update saves are there, and the engine is the requested one where there is one. -/
structure Selected (config : Config) (c : Credential) (engine : Nat) : Prop where
  policy : (config.policies c.policyId).isSome = true
  found : (config.engines c.engineId).isSome = true
  engine : c.engineId ≠ 0 → engine = c.engineId

/-- The transitions of a row: the operation, what it wrote as which version, and the row it leaves. -/
inductive Commits (config : Config) (time : Time) (row : Credential) :
    Operation → Option (WriteRequest × Nat) → Credential → Prop
  | rotate {held : Credential} {payload data : Payload} {user : Option User} {request : Option Nat}
      {metadata : Metadata} {fingerprint : String} {version : Nat}
      (h : Prepared config row.credentialType payload data metadata fingerprint) :
      Commits config time row (.rotate held payload user request)
        (some (⟨⟨row.engineId, row.path⟩, data, row.kvVersion⟩, version))
        (written (withMetadata row metadata) fingerprint version true .rotate time).1
  | stage {held : Credential} {payload data : Payload} {user : Option User} {request : Option Nat}
      {metadata : Metadata} {fingerprint : String} {version : Nat} (hstaged : row.stagedKvVersion = none)
      (h : Prepared config row.credentialType payload data metadata fingerprint) :
      Commits config time row (.stage held payload user request)
        (some (⟨⟨row.engineId, row.path⟩, data, row.kvVersion⟩, version))
        (written (withMetadata (pinned row) metadata) fingerprint version false .stage time).1
  | promote {held : Credential} {user : Option User} {request : Option Nat} {verified : Bool}
      {note : String} {staged : Nat} (hstaged : row.stagedKvVersion = some staged) :
      Commits config time row (.promote held user request verified note) none (promoted row time).1
  | discard {held : Credential} {user : Option User} {request : Option Nat} {staged : Nat}
      (hstaged : row.stagedKvVersion = some staged) :
      Commits config time row (.discard held user request) none (discarded row).1
  | edit {held : Credential} {edits : Edits} {payload : Option Payload} {user : Option User} {request : Option Nat}
      {conforms : Database → Credential → Except Error Unit} {engine : Nat}
      (hselected : Selected config (updated held edits row) engine)
      (hpayload : CredentialViewSet.carries payload = false) :
      Commits config time row (.update held edits payload user request conforms) none
        { updated held edits row with engineId := engine }
  | update {held : Credential} {edits : Edits} {payload data : Payload} {user : Option User}
      {request : Option Nat} {conforms : Database → Credential → Except Error Unit} {metadata : Metadata}
      {fingerprint : String} {version engine : Nat}
      (h : Prepared config (updated held edits row).credentialType payload data metadata fingerprint)
      (hselected : Selected config (updated held edits row) engine)
      (hpayload : CredentialViewSet.carries (some payload) = true) :
      Commits config time row (.update held edits (some payload) user request conforms)
        (some (⟨⟨engine, held.path⟩, data, row.kvVersion⟩, version))
        (written { withMetadata (updated held edits row) metadata with engineId := engine } fingerprint version
          true .rotate time).1

/-- The write an operation may ask for. -/
inductive Requests (config : Config) (row : Credential) : Operation → WriteRequest → Prop
  | rotate {held : Credential} {payload data : Payload} {user : Option User} {request : Option Nat}
      {metadata : Metadata} {fingerprint : String}
      (h : Prepared config row.credentialType payload data metadata fingerprint) :
      Requests config row (.rotate held payload user request) ⟨⟨row.engineId, row.path⟩, data, row.kvVersion⟩
  | stage {held : Credential} {payload data : Payload} {user : Option User} {request : Option Nat}
      {metadata : Metadata} {fingerprint : String} (hstaged : row.stagedKvVersion = none)
      (h : Prepared config row.credentialType payload data metadata fingerprint) :
      Requests config row (.stage held payload user request) ⟨⟨row.engineId, row.path⟩, data, row.kvVersion⟩
  | update {held : Credential} {edits : Edits} {payload data : Payload} {user : Option User}
      {request : Option Nat} {conforms : Database → Credential → Except Error Unit} {metadata : Metadata}
      {fingerprint : String} {engine : Nat}
      (h : Prepared config (updated held edits row).credentialType payload data metadata fingerprint)
      (hpayload : CredentialViewSet.carries (some payload) = true) :
      Requests config row (.update held edits (some payload) user request conforms)
        ⟨⟨engine, held.path⟩, data, row.kvVersion⟩

/-- What became of the write `P` allows, and the attempts that tell of it. -/
inductive Reached (P : WriteRequest → Prop) (config : Config) (acts : Nat → List Act)
    (attempts : List MaterialAttempt) : Option (WriteRequest × Nat) → Ext → Ext → Prop
  | idle {e e' : Ext} (hattempts : ∀ a ∈ attempts, a.version = none) (hext : Interference acts e e') :
      Reached P config acts attempts none e e'
  | wrote {e f e' : Ext} (req : WriteRequest) (hreq : P req) (a : MaterialAttempt) (cell : Cell)
      (version : Nat) (call : BackendCall) (hcall : call.Writes req.location version) (hattempts : attempts = [a])
      (hknown : a.version = none ∨ a.version = some version) (hbackend : BackendOf config a.backend)
      (hlocation : a.location = req.location) (hbefore : Interference acts e f)
      (hwrite : a.backend.writeCell (f.store req.location) req.data req.cas = .ok (version, cell))
      (hafter : Interference acts (f.accepted req.location cell call) e') :
      Reached P config acts attempts (some (req, version)) e e'

/-- What a body may do: the write it may ask for, the row it may leave, and the deletions it may hand to
its owner. -/
structure Plan where
  requests : WriteRequest → Prop
  commits : Option (WriteRequest × Nat) → Nat → Credential → Prop
  deletes : List MaterialAttempt → Prop
  deletes_nil : deletes []

/-- A discard leaves the staged version of the row to its owner. -/
def Discards (config : Config) (row : Credential) (operation : Operation) (deletions : List MaterialAttempt) :
    Prop :=
  ∀ d ∈ deletions, (∃ held user request, operation = .discard held user request) ∧
    d.version = row.stagedKvVersion ∧ d.location = ⟨row.engineId, row.path⟩ ∧ BackendOf config d.backend

/-- An operation on the credential `row` numbered `pk`. -/
def Operation.plan (operation : Operation) (config : Config) (time : Time) (pk : Nat) (row : Credential) :
    Plan where
  requests := Requests config row operation
  commits wrote pk' row' := pk' = pk ∧ Commits config time row operation wrote row'
  deletes := Discards config row operation
  deletes_nil := by simp [Discards]

/-- What the body of an operation did from world `w` with ledger `l` to world `after` with ledger `l'`. -/
structure RanFrom (plan : Plan) (returned : Bool) (w : World) (l : Ledger) (after : World) (l' : Ledger)
    (wrote : Option (WriteRequest × Nat)) : Prop where
  config : after.db.config = w.db.config
  ledger : after.ledger = some l'
  operationId : l'.operationId = l.operationId
  reached : Reached plan.requests w.db.config w.acts l'.attempts wrote w.ext after.ext
  deletes : plan.deletes l'.deletions
  commits : returned = true → ∃ pk row', plan.commits wrote pk row' ∧
    after.db.credentials = (w.db.putCredential pk row').credentials

/-- What a body does inside its owner's transaction. -/
def Ran (plan : Plan) (returned : Bool) (w after : World) : Prop :=
  w.conn.inAtomic = true → ∀ l, w.ledger = some l → l.attempts = [] → l.deletions = [] →
    ∃ l' wrote, RanFrom plan returned w l after l' wrote

end

/-! ### Stores -/

theorem Database.putCredential_congr {db db' : Database} (h : db'.credentials = db.credentials) (pk : Nat)
    (row : Credential) : (db'.putCredential pk row).credentials = (db.putCredential pk row).credentials := by
  simp only [Database.putCredential, h]

/-- A store in terms of the transition it belongs to. -/
theorem Stored.reached {P : WriteRequest → Prop} {req : WriteRequest} {got : Option Nat} {w w' : World}
    {l : Ledger} (h : Stored req got w l w') (hattempts : l.attempts = []) (hreq : P req) :
    ∃ l' wrote, w'.ledger = some l' ∧ l'.operationId = l.operationId ∧ l'.deletions = l.deletions ∧
      Reached P w.db.config w.acts l'.attempts wrote w.ext w'.ext ∧
      ∀ version, got = some version → wrote = some (req, version) := by
  have hopened : ∀ a, (l.opened a).attempts = [a] := fun a => by simp [Ledger.opened, hattempts]
  cases h with
  | untouched hgot hledger hext =>
      refine ⟨l, none, hledger, rfl, rfl, .idle (by simp [hattempts]) hext, fun version hv => ?_⟩
      rw [hgot] at hv
      cases hv
  | opened hgot a hledger hversion haudit hext =>
      refine ⟨l.opened a, none, hledger, rfl, rfl, .idle (by simp [hopened, hversion]) hext, fun version hv => ?_⟩
      rw [hgot] at hv
      cases hv
  | lost hgot a e cell version hledger hversion haudit hbackend hlocation hbefore hwrite hafter =>
      refine ⟨l.opened a, _, hledger, rfl, rfl, .wrote req hreq a cell version
        (.foreign req.location version) ⟨rfl, rfl⟩ (hopened a) (.inl hversion) hbackend hlocation hbefore hwrite
        hafter, fun version hv => ?_⟩
      rw [hgot] at hv
      cases hv
  | written a e cell version hgot hledger hversion haudit hbackend hlocation hbefore hwrite hafter =>
      refine ⟨l.opened a, _, hledger, rfl, rfl, .wrote req hreq a cell version
        (.wrote l.operationId req.location version) ⟨rfl, rfl⟩ (hopened a) (.inr hversion) hbackend hlocation
        hbefore hwrite hafter, fun version' hv => ?_⟩
      rcases hgot with hgot | hgot
      · rw [hgot] at hv
        cases hv
      · rw [hgot] at hv
        rw [Option.some.inj hv]

/-- A nested owner joins the one there is. -/
theorem materialTransaction_joined {α : Type} {body : M α} {w : World} {o : MaterialTransaction}
    (ho : w.owner = some o) : (materialTransaction body w).1 = (body w).1 ∧
      (materialTransaction body w).2.db = (body w).2.db ∧ (materialTransaction body w).2.ext = (body w).2.ext ∧
      ∀ l, (body w).2.ledger = some l → ∃ l', (materialTransaction body w).2.ledger = some l' ∧
        l'.operationId = l.operationId ∧ l'.attempts = l.attempts ∧ l'.deletions = l.deletions := by
  unfold materialTransaction
  rw [bind_run_ok (get_run w), ho]
  simp only
  rw [tryCatch_run]
  match hrun : body w with
  | (.ok a, v) => exact ⟨rfl, rfl, rfl, fun l hl => ⟨l, hl, rfl, rfl, rfl⟩⟩
  | (.error e, v) =>
      refine ⟨rfl, rfl, rfl, fun l hl => ?_⟩
      obtain ⟨o', ho', rfl⟩ := World.ledger_eq hl
      replace ho' : v.owner = some o' := ho'
      refine ⟨{ o'.ledger with failed := true }, ?_, rfl, rfl, rfl⟩
      simp [bind_run, modifyOwner_run, modify_run, throw_run, World.ledger, World.note, ho',
        MaterialTransaction.ledger]

variable [library : MaterialLibrary]

/-- A run of `store_credential`'s body under a plan. -/
inductive StoreOutcome (r : StoreRequest) (plan : Plan) (w : World) (l : Ledger) :
    Except Error (Credential × Nat) → World → Prop
  | early {after : World} (e : Error) (hquiet : Quiet Database.Extends w after) :
      StoreOutcome r plan w l (.error e) after
  | reached {out : Except Error (Credential × Nat)} {after : World} (req : WriteRequest)
      (hrequest : plan.requests req) (hconfig : after.db.config = w.db.config)
      (hstored : Stored req (storedVersion out) w l after)
      (hreturned : ∀ c' version, out = .ok (c', version) → ∃ pk, plan.commits (some (req, version)) pk c' ∧
          after.db.credentials = (w.db.putCredential pk c').credentials) :
      StoreOutcome r plan w l out after

theorem storeBody_outcome {r : StoreRequest} {plan : Plan} {base : Credential} {pk : Nat} {w : World}
    {l : Ledger} (hl : w.ledger = some l) (hpk : base.pk = some pk)
    (hbuild : ∀ {u locked : World} {subject : Option Credential}, u.db.credentials = w.db.credentials →
      lockSubject r u = (.ok subject, locked) → r.persist.build subject = base)
    (hallowed : ∀ {data metadata fingerprint c}, Prepared w.db.config r.credentialType r.payload data metadata
        fingerprint → c = { withMetadata base metadata with engineId := c.engineId } →
      (base.engineId ≠ 0 → c = withMetadata base metadata) →
      plan.requests ⟨⟨c.engineId, c.path⟩, data, r.cas⟩ ∧
        ∀ version, plan.commits (some (⟨⟨c.engineId, c.path⟩, data, r.cas⟩, version)) pk
          (written c fingerprint version r.promote r.action w.env.now).1) :
    StoreOutcome r plan w l (storeBody r w).1 (storeBody r w).2 := by
  cases storeBody_reaches r w with
  | early e hfailed hquiet =>
      rw [hfailed]
      exact .early e hquiet
  | material payload metadata fingerprint subject c u locked saved v hprepare hfingerprint hstart hlock
      hpersist hquiet hstore =>
      have hbase : r.persist.build subject = base := hbuild hstart.db.credentials hlock
      have hlocked : Quiet Database.SameRows w locked := hstart.trans ((lockSubject_quiet r).of_ok hlock)
      have hv : Quiet Database.Extends w v :=
        (hlocked.toExtends.trans ((Persist.run_quiet _ _ _).of_ok hpersist)).trans hquiet.toExtends
      obtain ⟨hc, hengine, hput⟩ := Persist.run_ok (by rw [hbase]; exact hpk) hpersist
      rw [hbase] at hc hengine
      have hcpk : c.pk = some pk := by
        rw [hc]
        exact hpk
      have hcredentials : v.db.credentials = (w.db.putCredential pk c).credentials := by
        rw [hquiet.db.credentials, hput]
        exact Database.putCredential_congr hlocked.db.credentials pk c
      have hrow : ∀ row, v.db.credentials pk = some row → row = c := by
        intro row hrow
        rw [hcredentials, Database.putCredential_self] at hrow
        exact (Option.some.inj hrow).symm
      obtain ⟨hrequest, hcommit⟩ := hallowed ⟨hprepare, hfingerprint⟩ hc hengine
      rw [hstore]
      refine .reached _ hrequest ?_
        (Stored.of_quiet hv (storeMaterial_stored r c payload fingerprint (hv.ledger.trans hl))) ?_
      · exact (storeMaterial_frame r c payload fingerprint v).db.config.trans hv.db.config
      · intro c' version hout
        obtain ⟨-, hc', hsaved⟩ := storeMaterial_ok hcpk hrow (Prod.ext hout rfl)
        refine ⟨pk, ?_, ?_⟩
        · rw [hc', hv.env]
          exact hcommit version
        · rw [hsaved, Database.putCredential_congr hcredentials, Database.putCredential_putCredential]

/-! ### Bodies -/

section

variable {plan : Plan} {returned : Bool} {u w after : World}

omit library

theorem Ran.silent (h : Quiet Database.Extends w after)
    (hcommits : returned = true → ∃ pk row', plan.commits none pk row' ∧
      after.db.credentials = (w.db.putCredential pk row').credentials) : Ran plan returned w after := by
  intro _ l hl hattempts hdeletions
  exact ⟨l, none, {
    config := h.db.config
    ledger := h.ledger.trans hl
    operationId := rfl
    reached := .idle (by simp [hattempts]) h.ext
    deletes := hdeletions ▸ plan.deletes_nil
    commits := hcommits }⟩

theorem Ran.early (h : Quiet Database.Extends w after) : Ran plan false w after :=
  Ran.silent h fun hret => by cases hret

/-- Quiet code before a body belongs to it, as long as the row is still the body's to overwrite. -/
theorem Ran.before (hquiet : Quiet Database.Extends w u)
    (hput : ∀ wrote pk row', plan.commits wrote pk row' →
      (u.db.putCredential pk row').credentials = (w.db.putCredential pk row').credentials)
    (h : Ran plan returned u after) : Ran plan returned w after := by
  intro hin l hl hattempts hdeletions
  obtain ⟨l', wrote, hran⟩ := h (hquiet.inAtomic.trans hin) l (hquiet.ledger.trans hl) hattempts hdeletions
  have hconfig : u.db.config = w.db.config := hquiet.db.config
  have hreached := hran.reached
  rw [hconfig, hquiet.acts] at hreached
  refine ⟨l', wrote, {
    config := hran.config.trans hconfig
    ledger := hran.ledger
    operationId := hran.operationId
    reached := ?_
    deletes := hran.deletes
    commits := fun hret => ?_ }⟩
  · cases hreached with
    | idle hattempts hext => exact .idle hattempts (hquiet.ext.trans hext)
    | wrote req hreq a cell version call hcall hone hknown hbackend hlocation hbefore hwrite hafter =>
        exact .wrote req hreq a cell version call hcall hone hknown hbackend hlocation (hquiet.ext.trans hbefore)
          hwrite hafter
  · obtain ⟨pk, row', hcommit, hcredentials⟩ := hran.commits hret
    exact ⟨pk, row', hcommit, hcredentials.trans (hput _ pk row' hcommit)⟩

theorem Ran.before_same (hquiet : Quiet Database.SameRows w u) (h : Ran plan returned u after) :
    Ran plan returned w after :=
  h.before hquiet.toExtends fun _ pk row' _ => Database.putCredential_congr hquiet.db.credentials pk row'

theorem Ran.bind {α β : Type} {x : M α} {f : α → M β} (hx : Steps (Quiet Database.SameRows) x)
    (h : ∀ a v, x w = (.ok a, v) → Quiet Database.SameRows w v → Ran plan (f a v).1.isOk v (f a v).2) :
    Ran plan ((x >>= f) w).1.isOk w ((x >>= f) w).2 := by
  match hrun : x w with
  | (.error e, v) =>
      rw [bind_run_error hrun]
      exact Ran.early (hx.of_error hrun).toExtends
  | (.ok a, v) =>
      rw [bind_run_ok hrun]
      exact Ran.before_same (hx.of_ok hrun) (h a v hrun (hx.of_ok hrun))

theorem Ran.map {α β : Type} {x : M α} {f : α → β} (h : Ran plan (x w).1.isOk w (x w).2) :
    Ran plan ((x >>= fun a => pure (f a)) w).1.isOk w ((x >>= fun a => pure (f a)) w).2 := by
  match hrun : x w with
  | (.error e, v) =>
      rw [hrun] at h
      rw [bind_run_error hrun]
      exact h
  | (.ok a, v) =>
      rw [hrun] at h
      rw [bind_run_ok hrun]
      exact h

end

/-- A nested store as the body of an operation, from what its own body does. -/
theorem storeCredential_ran {plan : Plan} {r : StoreRequest} {w : World}
    (h : ∀ {l}, w.conn.inAtomic = true → w.ledger = some l → StoreOutcome r plan w l (storeBody r w).1 (storeBody r w).2) :
    Ran plan (storeCredential r w).1.isOk w (storeCredential r w).2 := by
  intro hin l hl hattempts hdeletions
  obtain ⟨o, ho, rfl⟩ := World.ledger_eq hl
  obtain ⟨hresult, hdb, hext, hledger⟩ := @materialTransaction_joined _ (storeBody r) w o ho
  have houtcome := h hin hl
  change ∃ l' wrote, RanFrom plan (materialTransaction (storeBody r) w).1.isOk w o.ledger
    (materialTransaction (storeBody r) w).2 l' wrote
  rw [hresult]
  generalize hout : (storeBody r w).1 = out at houtcome
  generalize hafter : (storeBody r w).2 = after at houtcome hdb hext hledger
  cases houtcome with
  | early e hquiet =>
      obtain ⟨l', hl', hop, hatt, hdel⟩ := hledger _ (hquiet.ledger.trans hl)
      exact ⟨l', none, {
        config := by rw [hdb]; exact hquiet.db.config
        ledger := hl'
        operationId := hop
        reached := by
          rw [hext, hatt, hattempts]
          exact .idle (by simp) hquiet.ext
        deletes := by
          rw [hdel, hdeletions]
          exact plan.deletes_nil
        commits := by simp [Except.isOk, Except.toBool] }⟩
  | reached req hrequest hconfig hstored hreturned =>
      obtain ⟨l1, wrote, hl1, hop1, hdel1, hreached, hgot⟩ := hstored.reached hattempts hrequest
      obtain ⟨l', hl', hop, hatt, hdel⟩ := hledger _ hl1
      refine ⟨l', wrote, {
        config := by rw [hdb]; exact hconfig
        ledger := hl'
        operationId := hop.trans hop1
        reached := by
          rw [hext, hatt]
          exact hreached
        deletes := by
          rw [hdel, hdel1, hdeletions]
          exact plan.deletes_nil
        commits := fun hret => ?_ }⟩
      cases out with
      | error e => cases hret
      | ok stored =>
          obtain ⟨c', version⟩ := stored
          obtain ⟨pk, hcommit, hcredentials⟩ := hreturned c' version rfl
          rw [hgot version rfl, hdb]
          exact ⟨pk, c', hcommit, hcredentials⟩

theorem storeExisting_ran {plan : Plan} {pk : Nat} {base : Credential} {r : StoreRequest} {w : World}
    (hpk : base.pk = some pk)
    (hbuild : ∀ {u locked : World} {subject : Option Credential}, u.db.credentials = w.db.credentials →
      lockSubject r u = (.ok subject, locked) → r.persist.build subject = base)
    (hallowed : ∀ {data metadata fingerprint c}, Prepared w.db.config r.credentialType r.payload data metadata
        fingerprint → c = { withMetadata base metadata with engineId := c.engineId } →
      (base.engineId ≠ 0 → c = withMetadata base metadata) →
      plan.requests ⟨⟨c.engineId, c.path⟩, data, r.cas⟩ ∧
        ∀ version, plan.commits (some (⟨⟨c.engineId, c.path⟩, data, r.cas⟩, version)) pk
          (written c fingerprint version r.promote r.action w.env.now).1) :
    Ran plan (storeCredential r w).1.isOk w (storeCredential r w).2 :=
  storeCredential_ran fun _ hl => storeBody_outcome hl hpk hbuild hallowed

end NetboxOpenbao
