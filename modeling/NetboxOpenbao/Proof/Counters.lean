import NetboxOpenbao.Proof.Lifecycle

/-!
# The counter on the row and the counter on the server

Check-and-set compares the row's `kv_version` with the newest version of the path. Nobody else writing there,
the two run in step until a write the server took is rolled back in the database: the row goes back to the old
number, the server does not, compensated or not, and no later rotation or staging is accepted.
-/

namespace NetboxOpenbao

open Effect

/-! ### Nobody else writes here -/

def Act.WritesAt (l : Location) : Act → Prop
  | .write location _ _ => location = l
  | .delete _ _ | .fire _ _ => False

/-- The other parties write nothing at `l`. -/
def Unwritten (l : Location) (acts : Nat → List Act) : Prop := ∀ n, ∀ a ∈ acts n, ¬ a.WritesAt l

/-- The newest version at `l` is the same, and no write there was recorded. -/
structure Ext.StillAt (l : Location) (e e' : Ext) : Prop where
  current : (e'.store l).secret.current = (e.store l).secret.current
  calls : ∃ new, e'.calls = e.calls ++ new ∧ ∀ call ∈ new, ∀ version, ¬ call.Writes l version

namespace Ext.StillAt

variable {l : Location} {e e' e'' : Ext}

theorem refl (e : Ext) : e.StillAt l e := ⟨rfl, [], by simp, by simp⟩

theorem trans (h : e.StillAt l e') (h' : e'.StillAt l e'') : e.StillAt l e'' := by
  obtain ⟨new, hnew, hnone⟩ := h.calls
  obtain ⟨new', hnew', hnone'⟩ := h'.calls
  refine ⟨h'.current.trans h.current, new ++ new', by rw [hnew', hnew, List.append_assoc], fun call hcall => ?_⟩
  rcases List.mem_append.mp hcall with hold | hlate
  · exact hnone call hold
  · exact hnone' call hlate

theorem put {location : Location} {cell : Cell}
    (h : l = location → cell.secret.current = (e.store l).secret.current) :
    e.StillAt l (e.put location cell) := by
  refine ⟨?_, [], by simp [Ext.put], by simp⟩
  by_cases hl : l = location
  · have hcell : (e.put location cell).store l = cell := by simp [Ext.put, hl]
    rw [hcell]
    exact h hl
  · have hcell : (e.put location cell).store l = e.store l := by simp [Ext.put, hl]
    rw [hcell]

theorem remove {location : Location} {version : Nat} {cell : Cell}
    (h : l = location → cell.secret.current = (e.store l).secret.current) :
    e.StillAt l (e.remove location version cell) := by
  obtain ⟨hcurrent, hcalls⟩ := put (e := e) h
  exact ⟨hcurrent, hcalls⟩

theorem record {call : BackendCall} (h : ∀ version, ¬ call.Writes l version) : e.StillAt l (e.record call) := by
  refine ⟨rfl, [call], rfl, fun c hc => ?_⟩
  rw [List.mem_singleton.mp hc]
  exact h

theorem issue (d : PendingDelete) (accepted : Bool) : e.StillAt l (e.issue d accepted) := by
  have hasked : e.StillAt l (e.record (.delete d.issuer (d.backend.location d.path) d.version)) :=
    record fun _ => id
  rcases e.issue_cases d accepted with h | ⟨cell, hdelete, h⟩
  · rw [h]
    exact hasked
  · rw [h]
    refine hasked.trans (remove ?_)
    rintro rfl
    exact Backend.deleteCell_current hdelete

theorem act {a : Act} (h : ¬ a.WritesAt l) : e.StillAt l (e.act a) := by
  cases a with
  | write location data cas =>
      replace h : location ≠ l := h
      unfold Ext.act
      simp only
      cases (e.store location).secret.write cas data with
      | none => exact refl e
      | some out =>
          refine (put fun hl => absurd hl.symm h).trans (record ?_)
          rintro version ⟨hat, -⟩
          exact h hat
  | delete location version =>
      refine put ?_
      rintro rfl
      exact Secret.current_delete _ _
  | fire index accepted =>
      unfold Ext.act
      simp only
      cases e.pending[index]? with
      | none => exact refl e
      | some d =>
          have herased : e.StillAt l { e with pending := e.pending.eraseIdx index } :=
            ⟨rfl, [], by simp, by simp⟩
          exact herased.trans (issue d accepted)

end Ext.StillAt

theorem Interference.stillAt {l : Location} {acts : Nat → List Act} (hacts : Unwritten l acts) {e e' : Ext}
    (h : Interference acts e e') : e.StillAt l e' := by
  refine h.keeps_of_mem (P := fun f => e.StillAt l f) (fun n a ha f hf => ?_) (Ext.StillAt.refl e)
  exact hf.trans (.act (hacts n a ha))

theorem Issued.stillAt {l : Location} {acts : Nat → List Act} (hacts : Unwritten l acts)
    {ds : List PendingDelete} {e e' : Ext} (h : Issued acts ds e e') : e.StillAt l e' := by
  induction h with
  | done hearly => exact hearly.stillAt hacts
  | issue hearly accepted _ ih => exact (hearly.stillAt hacts).trans ((Ext.StillAt.issue _ accepted).trans ih)

/-- The calls `e'` has on record and `e` had not. -/
def Ext.since (e e' : Ext) : List BackendCall := e'.calls.drop e.calls.length

theorem Ext.StillAt.since {l : Location} {e e' : Ext} (h : e.StillAt l e') :
    ∀ call ∈ e.since e', ∀ version, ¬ call.Writes l version := by
  obtain ⟨new, hnew, hnone⟩ := h.calls
  rw [Ext.since, hnew, List.drop_left]
  exact hnone

/-- A write the server took is on record. -/
theorem Reached.on_record {P : WriteRequest → Prop} {config : Config} {acts : Nat → List Act}
    {attempts : List MaterialAttempt} {req : WriteRequest} {version : Nat} {ds : List PendingDelete}
    {e mid e' : Ext} (hacts : Unwritten req.location acts)
    (h : Reached P config acts attempts (some (req, version)) e mid) (hissued : Issued acts ds mid e') :
    ∃ call ∈ e.since e', call.Writes req.location version := by
  cases h with
  | wrote _ hreq a cell _ call hcall hone hknown hbackend hlocation hbefore hwrite hafter =>
      rename_i f
      refine ⟨call, ?_, hcall⟩
      obtain ⟨new, hnew, -⟩ := (hbefore.stillAt hacts).calls
      obtain ⟨late, hnew', -⟩ := ((hafter.stillAt hacts).trans (hissued.stillAt hacts)).calls
      rw [Ext.since, hnew']
      change call ∈ ((f.calls ++ [call]) ++ late).drop e.calls.length
      rw [hnew]
      simp

/-- A write the server took, and nothing else at its location. -/
theorem Reached.counted {P : WriteRequest → Prop} {config : Config} {acts : Nat → List Act}
    {attempts : List MaterialAttempt} {wrote : Option (WriteRequest × Nat)} {ds : List PendingDelete}
    {e mid e' : Ext} {l : Location} (hacts : Unwritten l acts)
    (h : Reached P config acts attempts wrote e mid) (hissued : Issued acts ds mid e') :
    (wrote = none → e.StillAt l e') ∧
      ∀ req version, wrote = some (req, version) → req.location = l → config.Kv2 l.engine →
        version = (e.store l).secret.current + 1 ∧ (e'.store l).secret.current = version ∧
          ∃ call ∈ e.since e', call.Writes l version := by
  constructor
  · rintro rfl
    cases h with
    | idle hattempts hext => exact (hext.stillAt hacts).trans (hissued.stillAt hacts)
  · rintro req version rfl rfl hkv
    have hrecorded := h.on_record hacts hissued
    cases h with
    | wrote _ hreq a cell _ call hcall hone hknown hbackend hlocation hbefore hwrite hafter =>
        rw [← hlocation] at hkv
        obtain ⟨-, rfl, rfl⟩ := (Backend.writeCell_v2 (hbackend.kvVersion hkv)).mp hwrite
        rename_i f
        have hearly := hbefore.stillAt hacts
        have hlate := (hafter.stillAt hacts).trans (hissued.stillAt hacts)
        have haccepted : ((f.accepted req.location ⟨(f.store req.location).secret.push req.data,
            (f.store req.location).value⟩ call).store req.location).secret.current =
            (f.store req.location).secret.current + 1 := by
          simp [Ext.accepted, Ext.put, Ext.record]
        exact ⟨by rw [hearly.current], by rw [hlate.current]; exact haccepted, hrecorded⟩

section

variable [library : MaterialLibrary]

/-- A material operation asks for one kind of write: at the row, on the condition that the row's version is the
newest. -/
theorem Requests.material {config : Config} {row : Credential} {operation : Operation} {req : WriteRequest}
    (h : Requests config row operation req) (hmaterial : operation.Material) :
    req.location = row.location ∧ req.cas = row.kvVersion := by
  cases h with
  | rotate _ => exact ⟨rfl, rfl⟩
  | stage _ _ => exact ⟨rfl, rfl⟩
  | update _ => exact hmaterial.elim

/-- A transition that wrote leaves its version on the row; one that did not leaves the number alone. -/
theorem Commits.kvVersion {config : Config} {time : Time} {row row' : Credential} {operation : Operation}
    {wrote : Option (WriteRequest × Nat)} (h : Commits config time row operation wrote row')
    (hmaterial : operation.Material) : (wrote = none → row'.kvVersion = row.kvVersion) ∧
      ∀ req version, wrote = some (req, version) → row'.kvVersion = some version := by
  cases h with
  | rotate _ =>
      rw [written_promote]
      refine ⟨nofun, fun req version hw => ?_⟩
      cases hw
      rfl
  | stage _ _ =>
      rw [written_stage]
      refine ⟨nofun, fun req version hw => ?_⟩
      cases hw
      rfl
  | promote _ | discard _ => exact ⟨fun _ => rfl, nofun⟩
  | edit _ => exact hmaterial.elim
  | update _ _ => exact hmaterial.elim

/-! ### Runs -/

/-- The credential numbered `pk` lives at `l`, on a KV v2 engine. -/
def Site.LivesAt (pk : Nat) (l : Location) (s : Site) : Prop :=
  ∃ row, s.Row pk row ∧ row.location = l ∧ s.db.config.Kv2 l.engine

/-- The row's version is the newest one at `l`, and a write on that condition is not refused. -/
def Site.InStep (pk : Nat) (l : Location) (s : Site) : Prop :=
  ∀ row, s.db.credentials pk = some row → row.kvVersion = some (s.ext.store l).secret.current ∧
    ∀ b : Backend, b.kvVersion = 2 → ∀ data, ∃ out, b.writeCell (s.ext.store l) data row.kvVersion = .ok out

/-- A call of a material operation during which nobody else writes at `l`. -/
def Site.Alone (pk : Nat) (l : Location) (s : Site) (c : Call) : Prop := s.Handles pk c ∧ Unwritten l c.acts

/-- The call did not have a write at `l` taken by the server and rolled back in the database. -/
def Site.KeepsWrites (l : Location) (s : Site) (c : Call) : Prop :=
  (∃ call ∈ s.ext.since (s.step c).ext, ∃ version, call.Writes l version) → ¬ s.Idles c

omit library in
theorem Site.inStep_iff {pk : Nat} {l : Location} {s : Site} {row : Credential}
    (hrow : s.db.credentials pk = some row) :
    s.InStep pk l ↔ row.kvVersion = some (s.ext.store l).secret.current := by
  constructor
  · exact fun h => (h row hrow).1
  · intro h found hfound
    obtain rfl := Option.some.inj (hrow.symm.trans hfound)
    refine ⟨h, fun b hb data => ⟨_, (Backend.writeCell_v2 hb).mpr ⟨fun n hn => ?_, rfl, rfl⟩⟩⟩
    exact Option.some.inj (hn.symm.trans h)

/-- One step: the counters stay in step exactly if no write is rolled back. -/
theorem Site.inStep_step {pk : Nat} {l : Location} {s : Site} {c : Call} (h : s.LivesAt pk l)
    (hc : s.Alone pk l c) : (s.step c).LivesAt pk l ∧
      (s.InStep pk l → ((s.step c).InStep pk l ↔ s.KeepsWrites l c)) := by
  obtain ⟨row, hrow, hat, hkv⟩ := h
  obtain ⟨hconfig, -, hstepped⟩ := Site.step_stepped hc.1.1 hrow
  cases hstepped with
  | kept attempts wrote mid ds hreached hissued hcredentials =>
      have hfound : (s.step c).db.credentials pk = some row := by
        rw [hcredentials]
        exact hrow.found
      refine ⟨⟨row, ⟨hfound, hrow.pk, hrow.engine⟩, hat, hconfig ▸ hkv⟩, fun hin => ?_⟩
      rw [Site.inStep_iff hfound]
      rw [Site.inStep_iff hrow.found] at hin
      obtain ⟨hstill, hcount⟩ := hreached.counted hc.2 hissued
      cases wrote with
      | none =>
          have hsame := hstill rfl
          refine iff_of_true (by rw [hsame.current]; exact hin) ?_
          rintro ⟨call, hcall, version, hwrites⟩
          exact absurd hwrites (hsame.since call hcall version)
      | some written =>
          obtain ⟨req, version⟩ := written
          have hreq : req.location = l := (hreached.requested.material hc.1.2).1.trans hat
          obtain ⟨hversion, hcurrent, call, hcall, hwrites⟩ := hcount req version rfl hreq hkv
          refine iff_of_false (fun h => ?_) fun h => h ⟨call, hcall, version, hwrites⟩ hcredentials
          have hboth : some (s.ext.store l).secret.current = some ((s.step c).ext.store l).secret.current :=
            hin.symm.trans h
          have := Option.some.inj hboth
          omega
  | committed attempts deletions wrote mid ds pk' row' hreached hissued hcommits hcredentials =>
      obtain ⟨rfl, hcommits⟩ := hcommits
      have hput : (s.step c).db.credentials pk' = some row' := by
        rw [hcredentials, Database.putCredential_self]
      obtain ⟨hpk, hlocation, hwhere⟩ := hcommits.material hc.1.2
      have hengine : row'.engineId = row.engineId := congrArg Location.engine hlocation
      refine ⟨⟨row', ⟨hput, hpk.trans hrow.pk, hengine ▸ hrow.engine⟩, hlocation.trans hat, hconfig ▸ hkv⟩,
        fun hin => ?_⟩
      rw [Site.inStep_iff hput]
      rw [Site.inStep_iff hrow.found] at hin
      obtain ⟨hstill, hcount⟩ := hreached.counted hc.2 hissued
      obtain ⟨hnone, hsome⟩ := hcommits.kvVersion hc.1.2
      cases wrote with
      | none =>
          have hsame := hstill rfl
          refine iff_of_true (by rw [hsame.current, hnone rfl]; exact hin) ?_
          rintro ⟨call, hcall, version, hwrites⟩
          exact absurd hwrites (hsame.since call hcall version)
      | some written =>
          obtain ⟨req, version⟩ := written
          obtain ⟨hversion, hcurrent, -⟩ := hcount req version rfl ((hwhere req version rfl).trans hat) hkv
          refine iff_of_true (by rw [hcurrent]; exact hsome req version rfl) fun _ hidles => ?_
          -- the row carries the new number, so it is not the old row
          rw [Site.Idles] at hidles
          rw [hidles, hrow.found] at hput
          have hnumber := hsome req version rfl
          rw [← Option.some.inj hput, hin] at hnumber
          have := Option.some.inj hnumber
          omega

/-- A newly created credential and any sequence of rotations, stagings, promotions and discards, each failing
at any point and compensated or not, nobody else writing its path: whenever no operation is in flight, the row's
version is the newest one at the server and the next write is not refused for it, if and only if no write the
server took was rolled back in the database. -/
theorem counters_in_step_iff_writes_kept (s : Site) (c : Call) (uuid : String) (attributes : Edits)
    (payload : Payload) (user : Option User) (request : Option Nat)
    (conforms : Database → Credential → Except Error Unit) (pk : Nat) (row : Credential) (calls : List Call)
    (hids : s.db.config.engines 0 = none) (hnew : s.db.credentials pk = none)
    (hcreate : c.operation = .create uuid attributes payload user request conforms)
    (hcreated : (s.step c).db.credentials pk = some row) (hkv : s.db.config.Kv2 row.engineId)
    (hacts : Unwritten row.location c.acts)
    (hcalls : Runs.Along Site.step (Site.Alone pk row.location) (s.step c) calls) :
    Runs.Throughout Site.step (Site.InStep pk row.location) (s.step c) calls ↔
      Runs.Along Site.step (Site.KeepsWrites row.location) (s.step c) calls := by
  obtain ⟨hconfig, req, version, metadata, fingerprint, _, _, _, hmade, hlocation, hreached, hissued⟩ :=
    Site.step_created hids hnew hcreate hcreated
  have hrow : (s.step c).Row pk row := by
    refine ⟨hcreated, ?_, hmade.engine⟩
    rw [hmade.made, written_promote]
  have hnumber : row.kvVersion = some version := by rw [hmade.made, written_promote]
  obtain ⟨-, hcurrent, -⟩ := (hreached.counted hacts hissued).2 req version rfl hlocation hkv
  have hin : (s.step c).InStep pk row.location := by
    rw [Site.inStep_iff hcreated, hcurrent]
    exact hnumber
  refine Runs.throughout_iff_along (I := Site.LivesAt pk row.location) ?_ ?_ ⟨row, hrow, rfl, hconfig ▸ hkv⟩ hin
    hcalls
  · exact fun t d ht hd => (Site.inStep_step ht hd).1
  · exact fun t d ht hd => (Site.inStep_step ht hd).2

end

namespace Sample

theorem noActs_unwritten (l : Location) : Unwritten l noActs := fun _ _ h => by cases h

/-- The server refuses the write. -/
def rotateRefused : Call := { rotateSecond with env := failing 19 .refused }

/-- The write is taken, and then the row cannot be saved. -/
def rotateUnsaved : Call := { rotateSecond with env := failing 20 .refused }

def secondLocation : Location := ⟨1, second.path⟩

end Sample

theorem counters_in_step_iff_writes_kept_refused :
    Runs.Throughout (@Site.step Sample.library) (Site.InStep 2 Sample.secondLocation)
      (@Site.step Sample.library Sample.fresh Sample.create) [Sample.rotateRefused, Sample.stageSecond] := by
  have hmade : ((@Site.step Sample.library Sample.fresh Sample.create).db.credentials 2).map Credential.location =
      some Sample.secondLocation := by
    decide +kernel
  obtain ⟨row, hcreated, hlocation⟩ := Option.map_eq_some_iff.mp hmade
  have hkv : Sample.fresh.db.config.Kv2 row.engineId := by
    rw [show row.engineId = 1 from congrArg Location.engine hlocation]
    exact Sample.config_kv2 1
  have hiff := @counters_in_step_iff_writes_kept Sample.library Sample.fresh Sample.create _ _ _ _ _ _ 2 row
    [Sample.rotateRefused, Sample.stageSecond] rfl rfl rfl hcreated hkv (Sample.noActs_unwritten _)
    ⟨⟨⟨.rotate rfl _ _ _, trivial⟩, Sample.noActs_unwritten _⟩,
      ⟨⟨.stage rfl _ _ _, trivial⟩, Sample.noActs_unwritten _⟩, trivial⟩
  rw [hlocation] at hiff
  refine hiff.mpr ⟨?_, ?_, trivial⟩
  · rintro ⟨call, hcall, version, hwrites⟩
    have hsince : (@Site.step Sample.library Sample.fresh Sample.create).ext.since
        (@Site.step Sample.library (@Site.step Sample.library Sample.fresh Sample.create)
          Sample.rotateRefused).ext = [] := by
      decide +kernel
    rw [hsince] at hcall
    cases hcall
  · intro _ hidles
    have hbefore : ((@Site.step Sample.library (@Site.step Sample.library Sample.fresh Sample.create)
        Sample.rotateRefused).db.credentials 2).map (·.kvVersion) = some (some 1) := by
      decide +kernel
    have hafter : ((@Site.step Sample.library (@Site.step Sample.library
        (@Site.step Sample.library Sample.fresh Sample.create) Sample.rotateRefused)
        Sample.stageSecond).db.credentials 2).map (·.kvVersion) = some (some 2) := by
      decide +kernel
    unfold Site.Idles at hidles
    rw [hidles, hbefore] at hafter
    cases hafter

/-- A rotation whose write is taken and whose row cannot be saved is compensated; the row keeps version 1, the
newest version is 2, and the next rotation is refused with nothing going wrong. -/
theorem rolled_back_write_blocks_rotation :
    (@Site.step Sample.library (@Site.step Sample.library Sample.fresh Sample.create) Sample.rotateUnsaved).ext.calls =
      [.wrote 0 Sample.secondLocation 1, .wrote 1 Sample.secondLocation 2,
        .delete (.recovery 1) Sample.secondLocation 2] ∧
    ((Runs.final (@Site.step Sample.library) (@Site.step Sample.library Sample.fresh Sample.create)
        [Sample.rotateUnsaved, Sample.rotateSecond]).db.credentials 2).map (·.kvVersion) = some (some 1) ∧
    ¬ Runs.Throughout (@Site.step Sample.library) (Site.InStep 2 Sample.secondLocation)
      (@Site.step Sample.library Sample.fresh Sample.create) [Sample.rotateUnsaved, Sample.rotateSecond] := by
  have hcurrent : ((Runs.final (@Site.step Sample.library) (@Site.step Sample.library Sample.fresh Sample.create)
      [Sample.rotateUnsaved, Sample.rotateSecond]).ext.store Sample.secondLocation).secret.current = 2 := by
    decide +kernel
  have hnumber : ((Runs.final (@Site.step Sample.library) (@Site.step Sample.library Sample.fresh Sample.create)
      [Sample.rotateUnsaved, Sample.rotateSecond]).db.credentials 2).map (·.kvVersion) = some (some 1) := by
    decide +kernel
  refine ⟨by decide +kernel, hnumber, fun h => ?_⟩
  obtain ⟨row, hrow, hkv⟩ := Option.map_eq_some_iff.mp hnumber
  have hin := (h.final row hrow).1
  rw [hkv, hcurrent] at hin
  cases hin

end NetboxOpenbao
