import NetboxOpenbao.Proof.Steps

/-!
# What was written as which version

Whatever the parties do to a server, a version that has been written stays on record, and the newest
version does not go back. A write of a KV v2 engine whose version came back is on record as that version,
and the version was new.
-/

namespace NetboxOpenbao

open Effect

/-- Every secret went on from where it was. -/
def Ext.Later (e e' : Ext) : Prop := ∀ l, (e.store l).secret.Later (e'.store l).secret

namespace Ext

theorem Later.refl (e : Ext) : e.Later e := fun _ => Secret.Later.refl _

theorem Later.trans {e f g : Ext} (h : e.Later f) (h' : f.Later g) : e.Later g :=
  fun l => (h l).trans (h' l)

/-- Only the record of calls and the pending deletes differ. -/
theorem Later.of_store {e e' : Ext} (h : e'.store = e.store) : e.Later e' := by
  intro l
  rw [h]
  exact Secret.Later.refl _

theorem later_put {e : Ext} {location : Location} {cell : Cell}
    (h : (e.store location).secret.Later cell.secret) : e.Later (e.put location cell) := by
  intro l
  by_cases hl : l = location
  · subst hl
    simpa [put] using h
  · have hsame : (e.put location cell).store l = e.store l := by simp [put, hl]
    rw [hsame]
    exact Secret.Later.refl _

end Ext

theorem Ext.later_issue (e : Ext) (d : PendingDelete) (accepted : Bool) : e.Later (e.issue d accepted) := by
  rcases e.issue_cases d accepted with h | ⟨cell, hdelete, h⟩
  · rw [h]
    exact Later.of_store rfl
  · rw [h]
    have hcell : ((e.record (.delete d.issuer (d.backend.location d.path) d.version)).store
        (d.backend.location d.path)).secret.Later cell.secret := Backend.deleteCell_later hdelete
    exact (Later.of_store rfl).trans (later_put hcell)

theorem Ext.later_act (e : Ext) (a : Act) : e.Later (e.act a) := by
  cases a with
  | write location data cas =>
      unfold act
      simp only
      cases hwrite : (e.store location).secret.write cas data with
      | none => exact Later.refl e
      | some out =>
          obtain ⟨version, secret⟩ := out
          obtain ⟨-, -, rfl⟩ := Secret.write_eq_some.mp hwrite
          have hput : e.Later (e.put location
              { e.store location with secret := (e.store location).secret.push data }) :=
            later_put (Secret.later_push _ data)
          exact hput.trans (Later.of_store rfl)
  | delete location version => exact later_put (Secret.later_delete _ _)
  | fire index accepted =>
      unfold act
      simp only
      cases e.pending[index]? with
      | none => exact Later.refl e
      | some d =>
          have herased : e.Later { e with pending := e.pending.eraseIdx index } := Later.of_store rfl
          exact herased.trans (later_issue _ d accepted)

theorem Interference.later {acts : Nat → List Act} {e e' : Ext} (h : Interference acts e e') :
    e.Later e' :=
  h.keeps (P := fun f => e.Later f) (fun f a hf => hf.trans (f.later_act a)) (Ext.Later.refl e)

theorem Issued.later {acts : Nat → List Act} {ds : List PendingDelete} {e e' : Ext}
    (h : Issued acts ds e e') : e.Later e' := by
  induction h with
  | done hearly => exact hearly.later
  | issue hearly accepted _ ih => exact hearly.later.trans ((Ext.later_issue _ _ accepted).trans ih)

/-- What an operation reached at the servers, its write included. -/
theorem Reached.later {P : WriteRequest → Prop} {config : Config} {acts : Nat → List Act}
    {attempts : List MaterialAttempt} {wrote : Option (WriteRequest × Nat)} {e e' : Ext}
    (h : Reached P config acts attempts wrote e e') : e.Later e' := by
  cases h with
  | idle hattempts hext => exact hext.later
  | wrote req hreq a cell version call hcall hone hknown hbackend hlocation hbefore hwrite hafter =>
      have haccepted := Ext.later_put (Backend.writeCell_later hwrite)
      exact hbefore.later.trans (haccepted.trans ((Ext.Later.of_store rfl).trans hafter.later))

theorem Reached.requested {P : WriteRequest → Prop} {config : Config} {acts : Nat → List Act}
    {attempts : List MaterialAttempt} {req : WriteRequest} {version : Nat} {e e' : Ext}
    (h : Reached P config acts attempts (some (req, version)) e e') : P req := by
  cases h with
  | wrote _ hreq => exact hreq

/-! ### Writes on KV v2 -/

/-- A version that came back is a new one, and what was asked to be written is on record as it. -/
theorem Reached.written {P : WriteRequest → Prop} {config : Config} {acts : Nat → List Act}
    {attempts : List MaterialAttempt} {req : WriteRequest} {version : Nat} {e e' : Ext}
    (h : Reached P config acts attempts (some (req, version)) e e') (hkv : config.Kv2 req.location.engine) :
    (e.store req.location).secret.current < version ∧
      (e'.store req.location).secret.written version = some req.data := by
  cases h with
  | wrote _ hreq a cell _ call hcall hone hknown hbackend hlocation hbefore hwrite hafter =>
      rw [← hlocation] at hkv
      have hb : a.backend.kvVersion = 2 := hbackend.kvVersion hkv
      obtain ⟨-, rfl, rfl⟩ := (Backend.writeCell_v2 hb).mp hwrite
      refine ⟨Nat.lt_succ_of_le (hbefore.later _).current, ?_⟩
      refine (hafter.later req.location).written_some ?_
      simp [Ext.accepted, Ext.put, Ext.record]

/-! ### One step, as the row and its secret see it -/

variable [library : MaterialLibrary]

/-- A credential after one operation: the rows are as before, or the operation took its transition and what
it wrote on a KV v2 engine is on record. -/
inductive Moved (time : Time) (pk : Nat) (row : Credential) (operation : Operation) (s s' : Site) : Prop
  | kept (hcredentials : s'.db.credentials = s.db.credentials)
  | committed (wrote : Option (WriteRequest × Nat)) (row' : Credential)
      (hcommits : Commits s.db.config time row operation wrote row')
      (hcredentials : s'.db.credentials = (s.db.putCredential pk row').credentials)
      (hwritten : ∀ req version, wrote = some (req, version) → s.db.config.Kv2 req.location.engine →
        (s.ext.store req.location).secret.current < version ∧
          (s'.ext.store req.location).secret.written version = some req.data)

omit library in
theorem Stepped.later {plan : Plan} {acts : Nat → List Act} {s s' : Site} (h : Stepped plan acts s s') :
    s.ext.Later s'.ext := by
  cases h with
  | kept attempts wrote mid ds hreached hissued => exact hreached.later.trans hissued.later
  | committed attempts deletions wrote mid ds pk row' hreached hissued => exact hreached.later.trans hissued.later

omit library in
/-- The write of a step is on record at its end. -/
theorem Reached.recorded {P : WriteRequest → Prop} {config : Config} {acts : Nat → List Act}
    {attempts : List MaterialAttempt} {wrote : Option (WriteRequest × Nat)} {ds : List PendingDelete}
    {e mid e' : Ext} (h : Reached P config acts attempts wrote e mid) (hissued : Issued acts ds mid e') :
    ∀ req version, wrote = some (req, version) → config.Kv2 req.location.engine →
      (e.store req.location).secret.current < version ∧
        (e'.store req.location).secret.written version = some req.data := by
  intro req version hw hkv
  subst hw
  obtain ⟨hlt, hwritten⟩ := h.written hkv
  exact ⟨hlt, (hissued.later _).written_some hwritten⟩

/-- Whatever the other parties do to the servers. -/
theorem Site.step_moved {s : Site} {c : Call} {pk : Nat} {row : Credential} (hon : c.operation.On pk)
    (hrow : s.Row pk row) : (s.step c).db.config = s.db.config ∧ s.ext.Later (s.step c).ext ∧
      Moved c.env.now pk row c.operation s (s.step c) := by
  obtain ⟨hconfig, -, hstepped⟩ := Site.step_stepped hon hrow
  refine ⟨hconfig, hstepped.later, ?_⟩
  cases hstepped with
  | kept attempts wrote mid ds hreached hissued hcredentials => exact .kept hcredentials
  | committed attempts deletions wrote mid ds pk' row' hreached hissued hcommits hcredentials =>
      obtain ⟨rfl, hcommits⟩ := hcommits
      exact .committed wrote row' hcommits hcredentials (hreached.recorded hissued)

/-- What a create that took effect made of the attributes and the payload. -/
structure Created (config : Config) (time : Time) (uuid : String) (attributes : Edits) (payload : Payload)
    (pk : Nat) (row : Credential) (version : Nat) (data : Payload) (metadata : Metadata)
    (fingerprint : String) : Prop where
  prepared : Prepared config (attributes.credentialType.getD "") payload data metadata fingerprint
  made : row = (written { withMetadata (attributes.apply (Credential.new uuid)) metadata with
    pk := some pk, engineId := row.engineId, path := row.path } fingerprint version true .write time).1
  engine : row.engineId ≠ 0

/-- A row that was not there before a create is the created one, and its material has been written. -/
theorem Site.step_created {s : Site} {c : Call} {uuid : String} {attributes : Edits} {payload : Payload}
    {user : Option User} {request : Option Nat} {conforms : Database → Credential → Except Error Unit}
    {pk : Nat} {row : Credential} (hids : s.db.config.engines 0 = none) (hnew : s.db.credentials pk = none)
    (hcreate : c.operation = .create uuid attributes payload user request conforms)
    (hcreated : (s.step c).db.credentials pk = some row) : (s.step c).db.config = s.db.config ∧
      ∃ req version metadata fingerprint attempts mid ds,
        Created s.db.config c.env.now uuid attributes payload pk row version req.data metadata fingerprint ∧
        req.location = row.location ∧
        Reached (createPlan s.db.config c.env.now uuid attributes payload).requests s.db.config c.acts attempts
          (some (req, version)) s.ext mid ∧
        Issued c.acts ds mid (s.step c).ext := by
  obtain ⟨operation, env, acts⟩ := c
  subst hcreate
  obtain ⟨hconfig, hstepped⟩ := s.create_stepped env acts uuid attributes payload user request conforms
  refine ⟨hconfig, ?_⟩
  cases hstepped with
  | kept attempts wrote mid ds hreached hissued hcredentials =>
      rw [hcredentials, hnew] at hcreated
      cases hcreated
  | committed attempts deletions wrote mid ds pk' row' hreached hissued hcommits hcredentials =>
      rw [hcredentials] at hcreated
      by_cases hsame : pk' = pk
      · subst hsame
        rw [Database.putCredential_self] at hcreated
        obtain rfl := Option.some.inj hcreated
        obtain ⟨req, version, metadata, fingerprint, rfl, hprepared, hrow, -⟩ := hcommits
        have hlocation : row'.location = req.location := by
          rw [hrow, written_promote]
          rfl
        have hpath : row'.path = req.location.path := congrArg Location.path hlocation
        have hengine : row'.engineId = req.location.engine := congrArg Location.engine hlocation
        rw [← hengine, ← hpath] at hrow
        refine ⟨req, version, metadata, fingerprint, attempts, mid, ds, ⟨hprepared, hrow, ?_⟩, hlocation.symm,
          hreached, hissued⟩
        cases hreached with
        | wrote _ _ a cell _ call hcall hone hknown hbackend hat =>
            obtain ⟨engine, hfound, -⟩ := hbackend
            intro hzero
            have hlocated : a.backend.engine = 0 :=
              (congrArg Location.engine hat).trans (hengine.symm.trans hzero)
            rw [hlocated, hids] at hfound
            cases hfound
      · rw [Database.putCredential_of_ne _ _ (Ne.symm hsame), hnew] at hcreated
        cases hcreated

end NetboxOpenbao
