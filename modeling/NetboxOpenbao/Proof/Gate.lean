import NetboxOpenbao.Proof.Compensation
import NetboxOpenbao.Proof.Rows
import NetboxOpenbao.Requests

/-!
# What a program does to the credential rows

`Over D` reads a run as a change of the database alone, whatever happens to the servers, the owner and the
connection. Two such changes matter for the gate of a tier: a program confined to one credential saves no
other row, and a program that respects a user leaves the rows withheld from the user as they are.
-/

namespace NetboxOpenbao

open Effect Effect.Prog

/-! ### Changes of the database -/

/-- A relation between databases that nothing breaks but a change of a credential row or of a setting. -/
class Tolerant (D : Database → Database → Prop) : Prop where
  same : ∀ {db db' : Database}, db'.config = db.config → db.nextId ≤ db'.nextId →
    db'.credentials = db.credentials → D db db'
  trans : ∀ {db db' db'' : Database}, D db db' → D db' db'' → D db db''

def Over (D : Database → Database → Prop) (w w' : World) : Prop := D w.db w'.db

section Over

variable {D : Database → Database → Prop} [Tolerant D]

theorem Tolerant.refl (db : Database) : D db db := Tolerant.same rfl (Nat.le_refl _) rfl

theorem Tolerant.rollback (db db' : Database) : D db (db'.rollbackTo db) :=
  Tolerant.same rfl (Nat.le_max_right _ _) rfl

instance : Std.Refl (Over D) := ⟨fun w => Tolerant.refl w.db⟩

instance : IsTrans World (Over D) := ⟨fun _ _ _ => Tolerant.trans⟩

theorem Over.of_eq {w w' : World} (h : w'.db = w.db) : Over D w w' := by
  unfold Over
  rw [h]
  exact Tolerant.refl w.db

theorem Over.of_sameRows {w w' : World} (h : w.db.SameRows w'.db) : Over D w w' :=
  Tolerant.same h.config h.nextId h.credentials

theorem quiet_over {α : Type} {x : M α} (h : Steps (Quiet Database.SameRows) x) : Steps (Over D) x :=
  h.mono fun _ _ hquiet => Over.of_sameRows hquiet.db

theorem frame_over {α : Type} {x : M α} (h : Steps (Frame Database.SameRows) x) : Steps (Over D) x :=
  h.mono fun _ _ hframe => Over.of_sameRows hframe.db

theorem modify_over {f : World → World} (h : ∀ w, (f w).db = w.db) : Steps (Over D) (modify f : M Unit) :=
  Steps.modify fun w => Over.of_eq (h w)

theorem savepoint_over {α : Type} {body : M α} (hbody : Steps (Over D) body) : Steps (Over D) (savepoint body) := by
  refine savepoint_steps (quiet_over (query_quiet _)) ?_ hbody
  intro before w h
  unfold Over
  rcases rollbackSavepoint_db before w with hdb | hdb
  · rw [hdb]
    exact h
  · rw [hdb]
    exact Tolerant.rollback _ _

theorem outermostAtomic_over {α : Type} {body : M α} (hbody : Steps (Over D) body) :
    Steps (Over D) (outermostAtomic body) := by
  intro w
  rcases outermostAtomic_leaves body w with h | ⟨result, after, r, w', hrun, h, hleaves⟩
  · rw [h]
    exact Over.of_eq rfl
  · have hafter : Over D w.ticked.begun after := by
      have hstep := hbody w.ticked.begun
      rwa [hrun] at hstep
    rw [h]
    unfold Over
    rcases hleaves.db with hdb | hdb
    · rw [hdb]
      exact hafter
    · rw [hdb]
      exact Tolerant.rollback _ _

theorem atomic_over {α : Type} {body : M α} (hbody : Steps (Over D) body) : Steps (Over D) (atomic body) := by
  refine Steps.bind Steps.get fun w => ?_
  split
  · exact savepoint_over hbody
  · refine Steps.bind (outermostAtomic_over hbody) fun left => ?_
    cases left with
    | ok a => exact Steps.pure a
    | error failure => exact Steps.throw _

theorem ownedTransaction_over {α : Type} {body : M α} (hbody : Steps (Over D) body) :
    Steps (Over D) (ownedTransaction body) := by
  have howned : Steps (Over D) (ownedBody body) := by
    refine Steps.bind (modify_over fun _ => rfl) fun _ => ?_
    refine Steps.bind hbody fun a => ?_
    refine Steps.bind (quiet_over currentMaterialTransaction_quiet) fun owner => ?_
    refine Steps.bind (quiet_over (raiseIf_quiet _ _)) fun _ => ?_
    exact Steps.bind (quiet_over (witness_quiet _)) fun _ => Steps.pure a
  refine Steps.bind Steps.get fun w => ?_
  refine Steps.bind (modify_over fun _ => rfl) fun _ => ?_
  refine Steps.bind (outermostAtomic_over howned) fun left => ?_
  refine Steps.bind Steps.get fun after => ?_
  refine Steps.bind (modify_over fun _ => rfl) fun _ => ?_
  cases left with
  | ok a => exact Steps.pure _
  | error failure => exact Steps.pure _

/-- What follows a transaction changes no row. -/
theorem settle_over {α : Type} (exit : Exit α) : Steps (Over D) (settle exit) := by
  intro w
  have hafter := settle_aftermath exit w
  exact Tolerant.same hafter.config hafter.nextId hafter.credentials

theorem materialTransaction_over {α : Type} {body : M α} (hbody : Steps (Over D) body) :
    Steps (Over D) (materialTransaction body) := by
  refine Steps.bind Steps.get fun w => ?_
  split
  · refine Steps.tryCatch hbody fun e => ?_
    refine Steps.bind (modify_over fun _ => rfl) fun _ => ?_
    exact Steps.bind (modify_over fun _ => rfl) fun _ => Steps.throw e
  · refine Steps.bind Steps.get fun w => ?_
    refine Steps.bind (quiet_over (raiseIf_quiet _ _)) fun _ => ?_
    exact Steps.bind (ownedTransaction_over hbody) settle_over

theorem synchronized_over {α : Type} {held : Credential} {user : Option User} {action : AccessAction}
    {request : Option Nat} {f : Credential → M α} (hbody : Steps (Over D) (synchronizedBody held f)) :
    Steps (Over D) (synchronized held user action request f) := by
  refine Steps.tryCatch (materialTransaction_over hbody) fun e => ?_
  exact Steps.bind (quiet_over logAccess_quiet) fun _ => Steps.throw e

end Over

/-! ### Programs confined to one credential -/

/-- The rows stand under their keys, and `pk` is one that has been given out. -/
structure Database.Ready (db : Database) (pk : Nat) : Prop extends db.Addressed where
  drawn : pk < db.nextId

/-- Only the row `pk` changes, and the constraints on the rows hold. -/
structure Database.Confines (pk : Nat) (db db' : Database) : Prop extends db'.Ready pk where
  config : db'.config = db.config
  nextId : db.nextId ≤ db'.nextId
  others : ∀ k, k ≠ pk → db'.credentials k = db.credentials k

theorem Database.Addressed.congr {db db' : Database} (h : db.Addressed) (hnext : db.nextId ≤ db'.nextId)
    (hsame : db'.credentials = db.credentials) : db'.Addressed where
  key k row hrow := by
    obtain ⟨hpk, hlt⟩ := h.key k row (hsame ▸ hrow)
    exact ⟨hpk, Nat.lt_of_lt_of_le hlt hnext⟩
  place := by
    rw [hsame]
    exact h.place

theorem Database.Ready.found {db : Database} {pk : Nat} {row : Credential} (h : db.Addressed)
    (hrow : db.credentials pk = some row) : db.Ready pk := ⟨h, (h.key pk row hrow).2⟩

/-- A change that starts from rows in order is confined to the row `pk`. -/
def Database.ConfinesTo (pk : Nat) (db db' : Database) : Prop := db.Ready pk → Database.Confines pk db db'

instance (pk : Nat) : Tolerant (Database.ConfinesTo pk) where
  same hconfig hnext hsame hready :=
    ⟨⟨hready.toAddressed.congr hnext hsame, Nat.lt_of_lt_of_le hready.drawn hnext⟩, hconfig, hnext,
      fun k _ => by rw [hsame]⟩
  trans h h' hready := by
    have hfirst := h hready
    have hsecond := h' hfirst.toReady
    exact ⟨hsecond.toReady, hsecond.config.trans hfirst.config, Nat.le_trans hfirst.nextId hsecond.nextId,
      fun k hk => (hsecond.others k hk).trans (hfirst.others k hk)⟩

/-- Saving a row that keeps its key and takes no other row's place. -/
theorem Database.Confines.put {db : Database} {pk : Nat} {row : Credential} (h : db.Ready pk)
    (hpk : row.pk = some pk) (hplace : ∀ k other, k ≠ pk → db.credentials k = some other →
      ¬ (other.engineId = row.engineId ∧ other.path = row.path)) :
    Database.Confines pk db (db.putCredential pk row) where
  drawn := h.drawn
  config := rfl
  nextId := Nat.le_refl _
  others k hk := db.putCredential_of_ne row hk
  key k saved hsaved := by
    by_cases hk : k = pk
    · subst hk
      rw [Database.putCredential_self] at hsaved
      obtain rfl := Option.some.inj hsaved
      exact ⟨hpk, h.drawn⟩
    · rw [db.putCredential_of_ne row hk] at hsaved
      exact h.key k saved hsaved
  place k k' saved saved' hk hk' hengine hpath := by
    by_cases hself : k = pk <;> by_cases hself' : k' = pk
    · rw [hself, hself']
    · subst hself
      rw [Database.putCredential_self] at hk
      obtain rfl := Option.some.inj hk
      rw [db.putCredential_of_ne row hself'] at hk'
      exact absurd ⟨hengine.symm, hpath.symm⟩ (hplace k' saved' hself' hk')
    · subst hself'
      rw [Database.putCredential_self] at hk'
      obtain rfl := Option.some.inj hk'
      rw [db.putCredential_of_ne row hself] at hk
      exact absurd ⟨hengine, hpath⟩ (hplace k saved hself hk)
    · rw [db.putCredential_of_ne row hself] at hk
      rw [db.putCredential_of_ne row hself'] at hk'
      exact h.place k k' saved saved' hk hk' hengine hpath

/-- A program that is confined to the row `pk`, and returns only values that satisfy `Q`. -/
def Confined {α : Type} (pk : Nat) (Q : α → Prop) (x : M α) : Prop :=
  ∀ w, w.db.Ready pk → Database.Confines pk w.db (x w).2.db ∧ ∀ a, (x w).1 = .ok a → Q a

namespace Confined

variable {α β : Type} {pk : Nat} {Q : α → Prop} {S : β → Prop}

theorem steps {x : M α} (h : Confined pk Q x) : Steps (Over (Database.ConfinesTo pk)) x :=
  fun w hready => (h w hready).1

theorem of_steps {x : M α} (h : Steps (Over (Database.ConfinesTo pk)) x) : Confined pk (fun _ => True) x :=
  fun w hready => ⟨h w hready, fun _ _ => trivial⟩

theorem quiet {x : M α} (h : Steps (Quiet Database.SameRows) x) : Confined pk (fun _ => True) x :=
  of_steps (quiet_over h)

/-- A program that only looks, with what it makes of the rows. -/
theorem of_ok {x : M α} (h : Steps (Quiet Database.SameRows) x)
    (hok : ∀ w w' a, w.db.Ready pk → x w = (.ok a, w') → Q a) : Confined pk Q x := by
  intro w hready
  refine ⟨quiet_over (D := Database.ConfinesTo pk) h w hready, fun a ha => ?_⟩
  exact hok w (x w).2 a hready (Prod.ext ha rfl)

theorem pure {a : α} (h : Q a) : Confined pk Q (Pure.pure a : M α) := by
  intro w hready
  refine ⟨Over.of_eq (D := Database.ConfinesTo pk) rfl hready, fun b hb => ?_⟩
  cases hb
  exact h

theorem bind {x : M α} {f : α → M β} (hx : Confined pk Q x) (hf : ∀ a, Q a → Confined pk S (f a)) :
    Confined pk S (x >>= f) := by
  intro w hready
  obtain ⟨hfirst, hvalue⟩ := hx w hready
  rw [bind_run]
  match hrun : x w with
  | (.error e, u) =>
      rw [hrun] at hfirst
      exact ⟨hfirst, fun b hb => by cases hb⟩
  | (.ok a, u) =>
      rw [hrun] at hfirst hvalue
      obtain ⟨hsecond, hvalue'⟩ := hf a (hvalue a rfl) u hfirst.toReady
      exact ⟨Tolerant.trans (D := Database.ConfinesTo pk) (fun _ => hfirst) (fun _ => hsecond) hready, hvalue'⟩

theorem weaken {x : M α} (h : Confined pk Q x) : Confined pk (fun _ => True) x :=
  fun w hready => ⟨(h w hready).1, fun _ _ => trivial⟩

end Confined

/-! ### Saving the row -/

theorem copyFields_place (held row : Credential) (fields : List MaterialField) :
    (copyFields held row fields).pk = row.pk ∧ (copyFields held row fields).engineId = row.engineId ∧
      (copyFields held row fields).path = row.path := by
  unfold copyFields
  induction fields generalizing row with
  | nil => exact ⟨rfl, rfl, rfl⟩
  | cons field fields ih =>
      obtain ⟨hpk, hengine, hpath⟩ := ih (field.copy held row)
      rw [List.foldl_cons, hpk, hengine, hpath]
      cases field <;> exact ⟨rfl, rfl, rfl⟩

/-- A statement leaves the database as it is, or as the statement says. -/
theorem statement_over {D : Database → Database → Prop} [Tolerant D] {α : Type}
    {q : Database → Except Error (α × Database)} (h : ∀ db a db', q db = .ok (a, db') → D db db') :
    Steps (Over D) (statement q) := by
  intro w
  unfold statement Over
  simp only
  split
  · exact Tolerant.refl _
  · split
    · split
      · next a db hq => exact h _ _ _ hq
      · exact Tolerant.refl _
    · split
      · next a db hq => exact h _ _ _ hq
      · exact Tolerant.refl _
    · exact Tolerant.refl _
    · exact Tolerant.refl _

theorem saving_over {D : Database → Database → Prop} [Tolerant D] {α : Type}
    {q : Database → Except Error (α × Database)} (h : ∀ db a db', q db = .ok (a, db') → D db db') :
    Steps (Over D) (saving q) :=
  Steps.tryCatch (statement_over h) fun e => Steps.bind (modify_over fun _ => rfl) fun _ => Steps.throw e

theorem saveFields_confined {held : Credential} {pk : Nat} (hpk : held.pk = some pk) (fields : List MaterialField) :
    Confined pk (fun _ => True) (saveFields held fields) := by
  refine Confined.of_steps (saving_over ?_)
  intro db u db' hq hready
  rw [hpk] at hq
  simp only at hq
  cases hrow : db.credentials pk with
  | none =>
      rw [hrow] at hq
      cases hq
  | some row =>
      rw [hrow] at hq
      cases hq
      obtain ⟨hkey, hengine, hpath⟩ := copyFields_place held row fields
      refine .put hready (hkey.trans (hready.key pk row hrow).1) ?_
      rintro k other hk hother ⟨hsame, hsame'⟩
      exact hk (hready.place k pk other row hother hrow (hsame.trans hengine) (hsame'.trans hpath))

theorem occupied_place {db : Database} {pk : Nat} {c other : Credential} (h : db.occupied (some pk) c = false)
    {k : Nat} (hlt : k < db.nextId) (hk : k ≠ pk) (hother : db.credentials k = some other) :
    ¬ (other.engineId = c.engineId ∧ other.path = c.path) := by
  rintro ⟨hengine, hpath⟩
  have htaken : db.occupied (some pk) c = true := by
    unfold Database.occupied
    refine List.any_eq_true.mpr ⟨k, List.mem_range.mpr hlt, ?_⟩
    simp [hk, hother, hengine, hpath]
  rw [h] at htaken
  cases htaken

theorem saveCredential_confined {c : Credential} {pk : Nat} (hpk : c.pk = some pk) :
    Confined pk (fun saved => saved.pk = some pk) (saveCredential c) := by
  have hdefault : Confined pk (fun d : Credential => d.pk = some pk) (query fun db => applyDefaults db c) := by
    refine Confined.of_ok (query_quiet _) fun w w' d _ hrun => ?_
    obtain ⟨hdefaults, -⟩ := query_ok hrun
    rw [(applyDefaults_ok hdefaults).1]
    exact hpk
  refine hdefault.bind fun d hd => ?_
  rw [hd]
  simp only
  intro w hready
  refine ⟨saving_over (D := Database.ConfinesTo pk) ?_ w hready, fun a ha => ?_⟩
  · intro db a db' hq hready
    split at hq
    · cases hq
    · next hfree =>
        cases hq
        have hfree : db.occupied (some pk) d = false := by simpa using hfree
        refine .put hready hd fun k other hk hother => ?_
        exact occupied_place hfree (hready.key k other hother).2 hk hother
  · obtain ⟨db, hq, -⟩ := saving_ok (Prod.ext ha rfl)
    split at hq
    · cases hq
    · cases hq
      exact hd

theorem Persist.run_confined {persist : Persist} {subject : Option Credential} {pk : Nat}
    (hpk : (persist.build subject).pk = some pk) (metadata : Metadata) :
    Confined pk (fun saved => saved.pk = some pk) (persist.run subject metadata) := by
  have hvalid : Confined pk (fun c : Credential => c.pk = some pk)
      (persist.validate (withMetadata (persist.build subject) metadata)) := by
    refine Confined.of_ok ?_ fun w w' c _ hrun => ?_
    · unfold Persist.validate
      split
      · exact fullClean_quiet _
      · exact Steps.pure _
    · rw [(Persist.validate_ok hrun).1]
      exact hpk
  refine hvalid.bind fun c hc => ?_
  refine (saveCredential_confined hc).bind fun saved hsaved => ?_
  exact (Confined.quiet (query_quiet _)).bind fun _ _ => Confined.pure hsaved

/-! ### The material part -/

theorem updateAttempt_over {D : Database → Database → Prop} [Tolerant D] (index : Nat)
    (f : MaterialAttempt → MaterialAttempt) : Steps (Over D) (updateAttempt index f) :=
  frame_over (updateAttempt_frame index f)

theorem openAttempt_over {D : Database → Database → Prop} [Tolerant D] (a : MaterialAttempt) :
    Steps (Over D) (openAttempt a) :=
  Steps.bind (quiet_over currentMaterialTransaction_quiet) fun _ =>
    Steps.bind (frame_over (modifyOwner_frame _)) fun _ => Steps.pure _

/-- A write changes the servers and the attempt, and no row. -/
theorem writeAttempt_over {D : Database → Database → Prop} [Tolerant D] (index : Nat) (b : Backend) (path : String)
    (data : Payload) (cas : Option Nat) : Steps (Over D) (writeAttempt index b path data cas) := by
  refine Steps.bind (quiet_over currentMaterialTransaction_quiet) fun owner => ?_
  refine Steps.bind ?_ fun version => Steps.bind (updateAttempt_over _ _) fun _ => Steps.pure _
  intro w
  rcases backendWrite_cases owner.operationId b path data cas w with
    ⟨e, h⟩ | ⟨cell, version, -, ⟨e, h⟩ | h⟩
  · rw [h]
    exact Over.of_eq rfl
  · rw [h]
    exact Over.of_eq rfl
  · rw [h]
    exact Over.of_eq rfl

theorem recordWrite_confined {c : Credential} {pk : Nat} (hpk : c.pk = some pk) (r : StoreRequest) (index : Nat)
    (fingerprint : String) (version : Nat) :
    Confined pk (fun _ => True) (recordWrite r index c fingerprint version) := by
  unfold recordWrite
  refine (Confined.quiet now_quiet).bind fun time _ => ?_
  have hkey : (written c fingerprint version r.promote r.action time).1.pk = some pk := by
    rw [written_pk]
    exact hpk
  generalize written c fingerprint version r.promote r.action time = out at hkey
  obtain ⟨saved, fields⟩ := out
  refine (saveFields_confined hkey fields).bind fun _ _ => ?_
  refine (Confined.quiet (deferCustomMetadata_quiet _)).bind fun _ _ => ?_
  have haudit : Confined pk (fun _ => True) (auditAttempt index saved r.user r.action r.request) :=
    Confined.of_steps (Steps.bind (quiet_over logAccess_quiet) fun _ => updateAttempt_over _ _)
  exact haudit.bind fun _ _ => Confined.pure trivial

theorem storeMaterial_confined {c : Credential} {pk : Nat} (hpk : c.pk = some pk) (r : StoreRequest)
    (payload : Payload) (fingerprint : String) :
    Confined pk (fun _ => True) (storeMaterial r c payload fingerprint) := by
  refine (Confined.quiet (query_quiet _)).bind fun backend _ => ?_
  refine (Confined.of_steps (openAttempt_over _)).bind fun index _ => ?_
  refine (Confined.of_steps (writeAttempt_over _ _ _ _ _)).bind fun version _ => ?_
  exact recordWrite_confined hpk r index fingerprint version

/-- The lock returns the subject it was given, its version state refreshed from the row. -/
theorem lockMaterialSubject_found {c : Credential} {targetPolicy : Option Nat} {subject : Option Credential}
    {w w' : World} {pk : Nat} (hpk : c.pk = some pk)
    (h : lockMaterialSubject (some c) targetPolicy w = (.ok subject, w')) :
    ∃ row, w.db.credentials pk = some row ∧ subject = some (refreshVersions c row) := by
  have hlocked := h
  unfold lockMaterialSubject at hlocked
  simp only at hlocked
  obtain ⟨locked, u, hlock, hlocked⟩ := bind_ok hlocked
  rw [hpk] at hlocked
  simp only at hlocked
  obtain ⟨fresh, v, hfresh, -⟩ := bind_ok hlocked
  obtain ⟨-, id, hid, hlookup⟩ := lockedRow_ok hfresh
  obtain rfl : pk = id := Option.some.inj hid
  rw [lockMaterialSubjects_ok hlock hpk] at hlookup
  exact ⟨fresh, hlookup, lockMaterialSubject_ok hpk hlookup h⟩

variable [library : MaterialLibrary]

/-- A store on an existing credential is confined to it. -/
theorem storeBody_confined {r : StoreRequest} {subject : Credential} {pk : Nat} (hsubject : r.subject = some subject)
    (hpk : subject.pk = some pk)
    (hbuild : ∀ c : Credential, c.pk = some pk → (r.persist.build (some c)).pk = some pk) :
    Confined pk (fun _ => True) (storeBody r) := by
  refine (Confined.quiet (query_quiet _)).bind fun config _ => ?_
  refine (Confined.quiet (resume_quiet _)).bind fun prepared _ => ?_
  refine (Confined.quiet (resume_quiet _)).bind fun fingerprint _ => ?_
  have hlock : Confined pk (fun s : Option Credential => ∃ c, s = some c ∧ c.pk = some pk) (lockSubject r) := by
    refine Confined.of_ok (lockSubject_quiet r) fun w w' s _ hrun => ?_
    unfold lockSubject at hrun
    rw [hsubject] at hrun
    split at hrun
    · obtain ⟨rfl, -⟩ := pure_ok hrun
      exact ⟨subject, rfl, hpk⟩
    · obtain ⟨row, -, rfl⟩ := lockMaterialSubject_found hpk hrun
      exact ⟨_, rfl, hpk⟩
  refine hlock.bind ?_
  rintro s ⟨c, rfl, hc⟩
  refine (Persist.run_confined (hbuild c hc) _).bind fun saved hsaved => ?_
  refine (Confined.quiet (query_quiet _)).bind fun _ _ => ?_
  refine (Confined.of_steps (frame_over (modifyOwner_frame _))).bind fun _ _ => ?_
  exact storeMaterial_confined hsaved r _ _

theorem storeCredential_confined {r : StoreRequest} {subject : Credential} {pk : Nat}
    (hsubject : r.subject = some subject) (hpk : subject.pk = some pk)
    (hbuild : ∀ c : Credential, c.pk = some pk → (r.persist.build (some c)).pk = some pk) :
    Confined pk (fun _ => True) (storeCredential r) :=
  Confined.of_steps (materialTransaction_over (storeBody_confined hsubject hpk hbuild).steps)

theorem writeMaterial_confined {c : Credential} {pk : Nat} (hpk : c.pk = some pk) (payload : Payload)
    (cas : Option Nat) (user : Option User) (request : Option Nat) (action : AccessAction) (promote : Bool) :
    Confined pk (fun _ => True) (writeMaterial c payload cas user request action promote) :=
  storeCredential_confined rfl hpk fun _ hc => hc

/-! ### What the services do behind their gates -/

theorem rotated_confined {c : Credential} {pk : Nat} (hpk : c.pk = some pk) (payload : Payload)
    (user : Option User) (request : Option Nat) :
    Confined pk (fun _ => True) (writeMaterial c payload c.kvVersion user request .rotate true) :=
  writeMaterial_confined hpk _ _ _ _ _ _

omit library in
theorem pinLiveVersion_confined {c : Credential} {pk : Nat} (hpk : c.pk = some pk) :
    Confined pk (fun pinned => pinned.pk = some pk) (pinLiveVersion c) := by
  unfold pinLiveVersion
  split
  · refine Confined.bind (Q := fun _ => True) (saveFields_confined ?_ _) fun _ _ => Confined.pure ?_
    · exact hpk
    · exact hpk
  · exact Confined.pure hpk

/-- `stage_material` behind its gate. -/
def stageRest (payload : Payload) (user : Option User) (request : Option Nat) (credential : Credential) :
    M (Credential × Nat) := do
  raiseIf credential.hasStagedVersion (.validation "status"
    "This credential already has a staged version. Promote or discard it first.")
  let credential ← pinLiveVersion credential
  writeMaterial credential payload credential.kvVersion user request .stage false

theorem stageRest_confined {c : Credential} {pk : Nat} (hpk : c.pk = some pk) (payload : Payload)
    (user : Option User) (request : Option Nat) :
    Confined pk (fun _ => True) (stageRest payload user request c) := by
  refine (Confined.quiet (raiseIf_quiet _ _)).bind fun _ _ => ?_
  exact (pinLiveVersion_confined hpk).bind fun pinned hpinned => writeMaterial_confined hpinned _ _ _ _ _ _

/-- `promote_staged` behind its gate. -/
def promoteRest (user : Option User) (request : Option Nat) (verified : Bool) (note : String)
    (credential : Credential) : M Credential := do
  raiseIf (!credential.hasStagedVersion) (.validation "status"
    "This credential has no staged version to promote.")
  let backend ← getBackend credential.engineId
  let versions ← listStaged credential backend user request
  confirmStaged credential versions user request
  let (credential, fields) := promoted credential (← now)
  saveFields credential fields
  let _ ← logAccess credential user .promote true (promotionReason verified note) "" request
  return credential

omit library in
theorem promoteRest_confined {c : Credential} {pk : Nat} (hpk : c.pk = some pk) (user : Option User)
    (request : Option Nat) (verified : Bool) (note : String) :
    Confined pk (fun _ => True) (promoteRest user request verified note c) := by
  refine (Confined.quiet (raiseIf_quiet _ _)).bind fun _ _ => ?_
  refine (Confined.quiet (query_quiet _)).bind fun backend _ => ?_
  refine (Confined.quiet (listStaged_quiet _ _ _ _)).bind fun versions _ => ?_
  refine (Confined.quiet (confirmStaged_quiet _ _ _ _)).bind fun _ _ => ?_
  refine (Confined.quiet now_quiet).bind fun time _ => ?_
  have hkey : (promoted c time).1.pk = some pk := hpk
  refine (saveFields_confined hkey _).bind fun _ _ => ?_
  exact (Confined.quiet logAccess_quiet).bind fun _ _ => Confined.pure trivial

/-- `discard_staged` behind its gate. -/
def discardRest (user : Option User) (request : Option Nat) (credential : Credential) : M Credential := do
  raiseIf (!credential.hasStagedVersion) (.validation "status"
    "This credential has no staged version to discard.")
  let staged := credential.stagedKvVersion
  let backend ← getBackend credential.engineId
  let (credential, fields) := discarded credential
  saveFields credential fields
  deferDiscard credential backend staged user request
  return credential

omit library in
theorem discardRest_confined {c : Credential} {pk : Nat} (hpk : c.pk = some pk) (user : Option User)
    (request : Option Nat) : Confined pk (fun _ => True) (discardRest user request c) := by
  refine (Confined.quiet (raiseIf_quiet _ _)).bind fun _ _ => ?_
  refine (Confined.quiet (query_quiet _)).bind fun backend _ => ?_
  have hkey : (discarded c).1.pk = some pk := hpk
  refine (saveFields_confined hkey _).bind fun _ _ => ?_
  have hdefer : Confined pk (fun _ => True)
      (deferDiscard (discarded c).1 backend c.stagedKvVersion user request) := by
    refine (Confined.quiet logAccess_quiet).bind fun _ _ => ?_
    exact Confined.of_steps (frame_over (modifyOwner_frame _))
  exact hdefer.bind fun _ _ => Confined.pure trivial

/-! ### The gate -/

/-- The gate of the tier `row` is on keeps the user out. -/
structure Barred (user : User) (config : Config) (row : Credential) : Prop where
  ordinary : user.isSuperuser = false
  group : ∀ policy, config.policies row.policyId = some policy → permits policy user = false

/-- Whatever row there is under `pk`, its tier keeps the user out. -/
def Withheld (user : User) (db : Database) (pk : Nat) : Prop :=
  ∀ row, db.credentials pk = some row → Barred user db.config row

omit library in
theorem enforcePolicyAccess_open {c : Credential} {user : User} {action : Option AccessAction}
    {request : Option Nat} {w w' : World} (h : enforcePolicyAccess c (some user) action request w = (.ok (), w')) :
    ¬ Barred user w.db.config c := by
  rintro ⟨hordinary, hgroup⟩
  unfold enforcePolicyAccess at h
  simp only [hordinary] at h
  obtain ⟨policy, u, hquery, h⟩ := bind_ok h
  obtain ⟨hpolicy, -⟩ := query_ok hquery
  have hfound : w.db.config.policies c.policyId = some policy := by
    unfold policyOf at hpolicy
    split at hpolicy
    · next found hfound =>
        cases hpolicy
        exact hfound
    · cases hpolicy
  rw [hgroup policy hfound] at h
  obtain ⟨_, v, -, h⟩ := bind_ok h
  cases h

omit library in
/-- An update passes its gate only when the committed row lets the user in. -/
theorem enforceUpdateAccess_open {c row : Credential} {pk : Nat} {user : User} {action : Option AccessAction}
    {request : Option Nat} {w w' : World} (hpk : c.pk = some pk) (hrow : w.db.credentials pk = some row)
    (h : enforceUpdateAccess c (some user) action request w = (.ok (), w')) : ¬ Barred user w.db.config row := by
  unfold enforceUpdateAccess at h
  rw [hpk] at h
  simp only at h
  obtain ⟨committed, u, hquery, h⟩ := bind_ok h
  obtain ⟨hcommitted, rfl⟩ := query_ok hquery
  obtain rfl : committed = some row := (Except.ok.inj hcommitted).symm.trans hrow
  exact enforcePolicyAccess_open (w := w.ticked) h

/-- The rows withheld from the user are as they were, and the constraints on the rows hold. -/
structure Database.Spares (user : User) (db db' : Database) : Prop extends db'.Addressed where
  config : db'.config = db.config
  nextId : db.nextId ≤ db'.nextId
  withheld : ∀ pk, Withheld user db pk → db'.credentials pk = db.credentials pk

/-- A change that starts from rows in order spares what is withheld from the user. -/
def Database.Respects (user : User) (db db' : Database) : Prop := db.Addressed → Database.Spares user db db'

omit library in
theorem Withheld.congr {user : User} {db db' : Database} {pk : Nat} (h : Withheld user db pk)
    (hconfig : db'.config = db.config) (hsame : db'.credentials pk = db.credentials pk) : Withheld user db' pk := by
  intro row hrow
  rw [hconfig]
  exact h row (hsame ▸ hrow)

instance (user : User) : Tolerant (Database.Respects user) where
  same hconfig hnext hsame haddressed := ⟨haddressed.congr hnext hsame, hconfig, hnext, fun k _ => by rw [hsame]⟩
  trans h h' haddressed := by
    have hfirst := h haddressed
    have hsecond := h' hfirst.toAddressed
    refine ⟨hsecond.toAddressed, hsecond.config.trans hfirst.config, Nat.le_trans hfirst.nextId hsecond.nextId,
      fun k hk => ?_⟩
    have hsame := hfirst.withheld k hk
    rw [hsecond.withheld k (hk.congr hfirst.config hsame), hsame]

omit library in
/-- A change of one row the user is let into spares all the others. -/
theorem Database.Confines.spares {user : User} {db db' : Database} {pk : Nat} {row : Credential}
    (h : Database.Confines pk db db') (hrow : db.credentials pk = some row) (hopen : ¬ Barred user db.config row) :
    Database.Spares user db db' := by
  refine ⟨h.toAddressed, h.config, h.nextId, fun k hk => h.others k ?_⟩
  rintro rfl
  exact hopen (hk row hrow)

omit library in
/-- A gate, and behind it a program confined to the row it looked at. -/
theorem gated_respects {α : Type} {user : User} {gate : M Unit} {rest : Unit → M α} {pk : Nat} {row : Credential}
    {w : World} (hrow : w.db.credentials pk = some row) (hquiet : Steps (Quiet Database.SameRows) gate)
    (hgate : ∀ u, gate w = (.ok (), u) → ¬ Barred user w.db.config row)
    (hrest : ∀ u, Confined pk (fun _ => True) (rest u)) :
    Over (Database.Respects user) w ((gate >>= rest) w).2 := by
  rw [bind_run]
  match hrun : gate w with
  | (.error e, u) => exact Over.of_sameRows (hquiet.of_error hrun).db
  | (.ok (), u) =>
      have hsame : w.db.SameRows u.db := (hquiet.of_ok hrun).db
      intro haddressed
      have hready : w.db.Ready pk := Database.Ready.found haddressed hrow
      have hconfines : Over (Database.ConfinesTo pk) w (rest () u).2 :=
        trans_of _ (Over.of_sameRows hsame) ((hrest ()).steps u)
      exact (hconfines hready).spares hrow (hgate u hrun)

omit library in
/-- `synchronized_material_change` runs its change on the committed row. -/
theorem synchronizedBody_respects {α : Type} {user : User} {held : Credential} {f : Credential → M α}
    (hf : ∀ c pk w, c.pk = some pk → w.db.credentials pk = some c → Over (Database.Respects user) w (f c w).2) :
    Steps (Over (Database.Respects user)) (synchronizedBody held f) := by
  refine Steps.bind (quiet_over (lockMaterialSubjects_quiet _ _)) fun locked => ?_
  refine Steps.bind (quiet_over (lockedRow_quiet _ _)) fun _ => ?_
  intro w haddressed
  rw [bind_run]
  match hrun : refreshFromDb held w with
  | (.error e, u) => exact Over.of_sameRows (D := Database.Respects user) ((query_quiet _).of_error hrun).db haddressed
  | (.ok c, u) =>
      obtain ⟨hfound, rfl⟩ := query_ok hrun
      cases hlookup : held.pk.bind w.db.credentials with
      | none =>
          rw [hlookup] at hfound
          cases hfound
      | some row =>
          rw [hlookup] at hfound
          cases hfound
          obtain ⟨pk, -, hrow⟩ := Option.bind_eq_some_iff.mp hlookup
          exact hf c pk w.ticked (haddressed.key pk c hrow).1 hrow haddressed

end NetboxOpenbao
