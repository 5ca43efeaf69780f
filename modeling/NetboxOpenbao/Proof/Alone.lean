import NetboxOpenbao.Proof.Counters

/-!
# A call nobody else comes near

When the other parties keep away from the place of a credential, a call leaves there what it made of it itself:
nothing, its write, its write deleted again, or the staged version deleted. This holds of both kinds of mount.
-/

namespace NetboxOpenbao

open Effect

/-! ### Keeping away -/

/-- The action is on another place. -/
def Act.Misses (l : Location) : Act → Prop
  | .write location _ _ | .delete location _ => location ≠ l
  | .fire _ _ => False

def Undisturbed (l : Location) (acts : Nat → List Act) : Prop := ∀ n, ∀ a ∈ acts n, a.Misses l

theorem Sample.noActs_undisturbed (l : Location) : Undisturbed l noActs := fun _ _ h => nomatch h

theorem Ext.put_self (e : Ext) (l : Location) (cell : Cell) : (e.put l cell).store l = cell := by
  simp [put]

theorem Ext.put_of_ne {e : Ext} {l location : Location} (h : location ≠ l) (cell : Cell) :
    (e.put location cell).store l = e.store l := by
  simp [put, Ne.symm h]

theorem Ext.remove_self (e : Ext) (l : Location) (version : Nat) (cell : Cell) :
    (e.remove l version cell).store l = cell := e.put_self l cell

theorem Act.Misses.store {l : Location} {a : Act} (h : a.Misses l) (e : Ext) : (e.act a).store l = e.store l := by
  cases a with
  | write location data cas =>
      unfold Ext.act
      simp only
      cases (e.store location).secret.write cas data with
      | none => rfl
      | some out => exact Ext.put_of_ne h _
  | delete location version => exact Ext.put_of_ne h _
  | fire index accepted => exact h.elim

theorem Act.Misses.deleted {l : Location} {a : Act} (h : a.Misses l) (e : Ext) : (e.act a).deleted = e.deleted := by
  cases a with
  | write location data cas =>
      unfold Ext.act
      simp only
      cases (e.store location).secret.write cas data <;> rfl
  | delete location version => rfl
  | fire index accepted => exact h.elim

theorem Interference.undisturbed {l : Location} {acts : Nat → List Act} (hacts : Undisturbed l acts) {e e' : Ext}
    (h : Interference acts e e') : e'.store l = e.store l :=
  h.keeps_of_mem (P := fun f => f.store l = e.store l)
    (fun n a ha f hf => ((hacts n a ha).store f).trans hf) rfl

theorem Interference.deleted {l : Location} {acts : Nat → List Act} (hacts : Undisturbed l acts) {e e' : Ext}
    (h : Interference acts e e') : e'.deleted = e.deleted :=
  h.keeps_of_mem (P := fun f => f.deleted = e.deleted)
    (fun n a ha f hf => ((hacts n a ha).deleted f).trans hf) rfl

theorem Backend.deleteCell_idem {b : Backend} {cell cell' cell'' : Cell} {version : Nat}
    (h : b.deleteCell cell version = .ok cell') (h' : b.deleteCell cell' version = .ok cell'') :
    b.deleteCell cell version = .ok cell'' := by
  by_cases hkv : b.kvVersion = 2
  · rw [deleteCell_v2 hkv] at h h' ⊢
    cases h
    cases h'
    rw [Secret.delete_delete]
  · unfold deleteCell at h h' ⊢
    cases hserves : b.serves "Deleting a secret" with
    | error e =>
        rw [hserves] at h
        cases h
    | ok u =>
        rw [hserves] at h h'
        simp only [hkv, if_false, bind, Except.bind, pure, Except.pure] at h h' ⊢
        cases h
        cases h'
        rfl

/-- The versions servers deleted for an owner up to `e'` and not yet at `e`. -/
def Ext.deletedSince (e e' : Ext) : List (Location × Nat) := e'.deleted.drop e.deleted.length

/-- Deletes of one version at `l`: none of them is carried out, or one is, and is on record. -/
theorem Issued.undisturbed {l : Location} {acts : Nat → List Act} (hacts : Undisturbed l acts) {b : Backend}
    {version : Nat} {ds : List PendingDelete} {e e' : Ext} (h : Issued acts ds e e')
    (hds : ∀ d ∈ ds, d.backend = b ∧ d.backend.location d.path = l ∧ d.version = version) :
    (e'.store l = e.store l ∧ e'.deleted = e.deleted) ∨
      b.deleteCell (e.store l) version = .ok (e'.store l) ∧
        ∃ new, e'.deleted = e.deleted ++ new ∧ (l, version) ∈ new := by
  induction h with
  | done hearly => exact .inl ⟨hearly.undisturbed hacts, hearly.deleted hacts⟩
  | @issue d ds e f e' hearly accepted _ ih =>
      obtain ⟨rfl, hat, rfl⟩ := hds d List.mem_cons_self
      have hrest := ih fun d' hd' => hds d' (List.mem_cons_of_mem d hd')
      have hf : f.store l = e.store l := hearly.undisturbed hacts
      have hfdeleted : f.deleted = e.deleted := hearly.deleted hacts
      rcases f.issue_cases d accepted with hkept | ⟨cell, hdelete, hput⟩
      · have hstore : (f.issue d accepted).store l = e.store l := by
          rw [hkept]
          exact hf
        have hdeleted : (f.issue d accepted).deleted = e.deleted := by
          rw [hkept]
          exact hfdeleted
        rw [hstore, hdeleted] at hrest
        exact hrest
      · have hstore : d.backend.deleteCell (e.store l) d.version = .ok ((f.issue d accepted).store l) := by
          rw [hput, hat, Ext.remove_self]
          rw [hat, hf] at hdelete
          exact hdelete
        have hdeleted : (f.issue d accepted).deleted = e.deleted ++ [(l, d.version)] := by
          rw [hput, hat, ← hfdeleted]
          rfl
        right
        rcases hrest with ⟨hsame, hkept⟩ | ⟨hagain, new, hnew, -⟩
        · rw [hsame, hkept]
          exact ⟨hstore, _, hdeleted, List.mem_singleton_self _⟩
        · refine ⟨Backend.deleteCell_idem hstore hagain, (l, d.version) :: new, ?_, List.mem_cons_self⟩
          rw [hnew, hdeleted, List.append_assoc]
          rfl

/-- An engine has one handle. -/
theorem BackendOf.unique {config : Config} {b b' : Backend} (h : BackendOf config b) (h' : BackendOf config b')
    (hengine : b.engine = b'.engine) : b = b' := by
  obtain ⟨engine, hfound, hb⟩ := h
  obtain ⟨engine', hfound', hb'⟩ := h'
  rw [hengine, hfound'] at hfound
  obtain rfl := Option.some.inj hfound
  rw [hb, hb', hengine]

/-! ### What a call leaves -/

/-- The write of a call of a material operation that the server took, whether the server deleted a version for it,
what the call leaves of the row, `none` for as it was, and what of the cell at its place. -/
inductive Outcome [library : MaterialLibrary] (config : Config) (time : Time) (b : Backend) (row : Credential)
    (operation : Operation) (cell : Cell) : Option WriteRequest → Bool → Option Credential → Cell → Prop
  | untouched : Outcome config time b row operation cell none false none cell
  | orphaned {req : WriteRequest} {version : Nat} {cell' : Cell} (hreq : Requests config row operation req)
      (hwrite : b.writeCell cell req.data req.cas = .ok (version, cell')) :
      Outcome config time b row operation cell (some req) false none cell'
  | compensated {req : WriteRequest} {version : Nat} {mid cell' : Cell} (hreq : Requests config row operation req)
      (hwrite : b.writeCell cell req.data req.cas = .ok (version, mid))
      (hdelete : b.deleteCell mid version = .ok cell') :
      Outcome config time b row operation cell (some req) true none cell'
  | stored {req : WriteRequest} {version : Nat} {row' : Credential} {cell' : Cell}
      (hreq : Requests config row operation req)
      (hcommits : Commits config time row operation (some (req, version)) row')
      (hwrite : b.writeCell cell req.data req.cas = .ok (version, cell')) :
      Outcome config time b row operation cell (some req) false (some row') cell'
  | repointed {row' : Credential} (hcommits : Commits config time row operation none row') :
      Outcome config time b row operation cell none false (some row') cell
  | cleaned {held : Credential} {user : Option User} {request : Option Nat} {row' : Credential} {staged : Nat}
      {cell' : Cell} (hdiscard : operation = .discard held user request)
      (hstaged : row.stagedKvVersion = some staged)
      (hcommits : Commits config time row operation none row')
      (hdelete : b.deleteCell cell staged = .ok cell') :
      Outcome config time b row operation cell none true (some row') cell'

theorem MaterialAttempt.pendingDelete_eq {issuer : Issuer} {a : MaterialAttempt} {d : PendingDelete}
    (h : a.pendingDelete issuer = some d) :
    d.backend = a.backend ∧ d.backend.location d.path = a.location ∧ a.version = some d.version := by
  obtain ⟨version, hversion, rfl⟩ := Option.map_eq_some_iff.mp h
  exact ⟨rfl, rfl, hversion⟩

/-- The one write of an operation, at a place nobody else comes near. -/
theorem Reached.alone {P : WriteRequest → Prop} {config : Config} {acts : Nat → List Act}
    {attempts : List MaterialAttempt} {wrote : Option (WriteRequest × Nat)} {e e' : Ext} {l : Location} {b : Backend}
    (hacts : Undisturbed l acts) (hb : BackendOf config b) (hengine : b.engine = l.engine)
    (hat : ∀ req, P req → req.location = l) (h : Reached P config acts attempts wrote e e') :
    (wrote = none ∧ (∀ a ∈ attempts, a.version = none) ∧ e'.store l = e.store l) ∨
      ∃ req version, wrote = some (req, version) ∧ P req ∧
        b.writeCell (e.store l) req.data req.cas = .ok (version, e'.store l) ∧
        ∀ a ∈ attempts, a.backend = b ∧ a.location = l ∧ (a.version = none ∨ a.version = some version) := by
  cases h with
  | idle hattempts hext => exact .inl ⟨rfl, hattempts, hext.undisturbed hacts⟩
  | wrote req hreq a cell version call hcall hone hknown hbackend hlocation hbefore hwrite hafter =>
      rename_i f
      obtain rfl := hat req hreq
      have hsame : a.backend = b := by
        refine hbackend.unique hb ?_
        rw [hengine, ← hlocation]
        rfl
      have hf : f.store req.location = e.store req.location := hbefore.undisturbed hacts
      have he' : e'.store req.location = cell := by
        rw [hafter.undisturbed hacts]
        exact Ext.put_self f _ _
      refine .inr ⟨req, version, rfl, hreq, ?_, ?_⟩
      · rw [he', ← hf, ← hsame]
        exact hwrite
      · intro a' ha'
        rw [hone] at ha'
        obtain rfl := List.mem_singleton.mp ha'
        exact ⟨hsame, hlocation, hknown⟩

theorem Reached.deleted {P : WriteRequest → Prop} {config : Config} {acts : Nat → List Act}
    {attempts : List MaterialAttempt} {wrote : Option (WriteRequest × Nat)} {e e' : Ext} {l : Location}
    (hacts : Undisturbed l acts) (h : Reached P config acts attempts wrote e e') : e'.deleted = e.deleted := by
  cases h with
  | idle _ hext => exact hext.deleted hacts
  | wrote _ _ _ _ _ _ _ _ _ _ _ hbefore _ hafter =>
      rw [hafter.deleted hacts]
      exact hbefore.deleted hacts

theorem Act.Misses.unwritten {l : Location} {a : Act} (h : a.Misses l) : ¬ a.WritesAt l := by
  cases a with
  | write location data cas => exact h
  | delete location version => exact id
  | fire index accepted => exact id

theorem Undisturbed.unwritten {l : Location} {acts : Nat → List Act} (h : Undisturbed l acts) :
    Unwritten l acts := fun n a ha => (h n a ha).unwritten

/-- The calls on record tell whether there was a write. -/
theorem Reached.wrote_iff {P : WriteRequest → Prop} {config : Config} {acts : Nat → List Act}
    {attempts : List MaterialAttempt} {wrote : Option (WriteRequest × Nat)} {ds : List PendingDelete}
    {e mid e' : Ext} {l : Location} (hacts : Unwritten l acts) (hat : ∀ req, P req → req.location = l)
    (h : Reached P config acts attempts wrote e mid) (hissued : Issued acts ds mid e') :
    wrote.isSome = true ↔ ∃ call ∈ e.since e', ∃ version, call.Writes l version := by
  cases hwrote : wrote with
  | none =>
      have hnone := ((h.counted hacts hissued).1 hwrote).since
      exact ⟨nofun, fun ⟨call, hcall, version, hwrites⟩ => absurd hwrites (hnone call hcall version)⟩
  | some out =>
      obtain ⟨req, version⟩ := out
      subst hwrote
      have hreq : P req := by
        cases h with
        | wrote _ hreq => exact hreq
      obtain rfl := hat req hreq
      obtain ⟨call, hcall, hwrites⟩ := h.on_record hacts hissued
      exact ⟨fun _ => ⟨call, hcall, version, hwrites⟩, fun _ => rfl⟩

section

variable [library : MaterialLibrary]

/-- A row that was left by a transition. -/
theorem Outcome.commits {config : Config} {time : Time} {b : Backend} {row row' : Credential}
    {operation : Operation} {cell cell' : Cell} {taken : Option WriteRequest} {gone : Bool}
    (h : Outcome config time b row operation cell taken gone (some row') cell') :
    ∃ wrote, Commits config time row operation wrote row' := by
  cases h with
  | stored _ hcommits | repointed hcommits | cleaned _ _ hcommits => exact ⟨_, hcommits⟩

/-- The server took a write of the call at `l`. -/
def Site.Writes (l : Location) (s : Site) (c : Call) : Prop :=
  ∃ call ∈ s.ext.since (s.step c).ext, ∃ version, call.Writes l version

/-- The server deleted a version at `l` for the call. -/
def Site.Deletes (l : Location) (s : Site) (c : Call) : Prop :=
  ∃ version, (l, version) ∈ s.ext.deletedSince (s.step c).ext

theorem Site.deletes_of_append {l : Location} {s : Site} {c : Call} {new : List (Location × Nat)} {version : Nat}
    (hnew : (s.step c).ext.deleted = s.ext.deleted ++ new) (hmem : (l, version) ∈ new) : s.Deletes l c := by
  refine ⟨version, ?_⟩
  rw [Ext.deletedSince, hnew, List.drop_left]
  exact hmem

theorem Site.not_deletes {l : Location} {s : Site} {c : Call}
    (hsame : (s.step c).ext.deleted = s.ext.deleted) : ¬ s.Deletes l c := by
  rintro ⟨version, hmem⟩
  rw [Ext.deletedSince, hsame, List.drop_length] at hmem
  cases hmem

/-- Without a delete to issue, what others do after the transaction leaves the place alone. -/
theorem Site.issued_none {l : Location} {s : Site} {c : Call} {mid : Ext} (hacts : Undisturbed l c.acts)
    (hmid : mid.deleted = s.ext.deleted) (hissued : Issued c.acts [] mid (s.step c).ext) :
    (s.step c).ext.store l = mid.store l ∧ (false = true ↔ s.Deletes l c) := by
  cases hissued with
  | done hearly =>
      have hdeleted := (hearly.deleted hacts).trans hmid
      exact ⟨hearly.undisturbed hacts, iff_of_false Bool.false_ne_true (Site.not_deletes hdeleted)⟩

/-- The deletes of one version are carried out or not. -/
theorem Site.issued_deletes {l : Location} {s : Site} {c : Call} {mid : Ext} {b : Backend} {version : Nat}
    {ds : List PendingDelete} (hacts : Undisturbed l c.acts) (hmid : mid.deleted = s.ext.deleted)
    (hissued : Issued c.acts ds mid (s.step c).ext)
    (hds : ∀ d ∈ ds, d.backend = b ∧ d.backend.location d.path = l ∧ d.version = version) :
    ((s.step c).ext.store l = mid.store l ∧ (false = true ↔ s.Deletes l c)) ∨
      (b.deleteCell (mid.store l) version = .ok ((s.step c).ext.store l) ∧ (true = true ↔ s.Deletes l c)) := by
  rcases hissued.undisturbed hacts hds with ⟨hsame, hdeleted⟩ | ⟨hdelete, new, hnew, hmem⟩
  · exact .inl ⟨hsame, iff_of_false Bool.false_ne_true (Site.not_deletes (hdeleted.trans hmid))⟩
  · rw [hmid] at hnew
    exact .inr ⟨hdelete, iff_of_true rfl (Site.deletes_of_append hnew hmem)⟩

section

variable {s : Site} {c : Call} {row : Credential} {b : Backend} {attempts : List MaterialAttempt}
  {wrote : Option (WriteRequest × Nat)} {mid : Ext} {ds : List PendingDelete}

/-- A call that was rolled back: the deletes that recovery issues are of the version it wrote. -/
theorem Site.kept_outcome (hacts : Undisturbed row.location c.acts) (hb : BackendOf s.db.config b)
    (hengine : b.engine = row.engineId)
    (hat : ∀ req, Requests s.db.config row c.operation req → req.location = row.location)
    (hreached : Reached (Requests s.db.config row c.operation) s.db.config c.acts attempts wrote s.ext mid)
    (hissued : Issued c.acts ds mid (s.step c).ext)
    (hfrom : ∀ d ∈ ds, ∃ a ∈ attempts, a.pendingDelete (.recovery s.operations) = some d) :
    ∃ gone, Outcome s.db.config c.env.now b row c.operation (s.ext.store row.location) (wrote.map Prod.fst) gone none
      ((s.step c).ext.store row.location) ∧ (gone = true ↔ s.Deletes row.location c) := by
  have hmid : mid.deleted = s.ext.deleted := hreached.deleted hacts
  rcases hreached.alone hacts hb hengine hat with ⟨rfl, hunversioned, hsame⟩ |
    ⟨req, version, rfl, hreq, hwrite, hattempts⟩
  · have hnone : ds = [] := by
      refine List.eq_nil_iff_forall_not_mem.mpr fun d hd => ?_
      obtain ⟨a, ha, hpending⟩ := hfrom d hd
      have hversion := (MaterialAttempt.pendingDelete_eq hpending).2.2
      rw [hunversioned a ha] at hversion
      cases hversion
    subst hnone
    obtain ⟨hstore, hgone⟩ := Site.issued_none hacts hmid hissued
    rw [hstore, hsame]
    exact ⟨false, .untouched, hgone⟩
  · have hds : ∀ d ∈ ds, d.backend = b ∧ d.backend.location d.path = row.location ∧ d.version = version := by
      intro d hd
      obtain ⟨a, ha, hpending⟩ := hfrom d hd
      obtain ⟨hbackend, hlocation, hversion⟩ := MaterialAttempt.pendingDelete_eq hpending
      obtain ⟨hsame, hplace, hknown⟩ := hattempts a ha
      refine ⟨hbackend.trans hsame, hlocation.trans hplace, ?_⟩
      rcases hknown with hknown | hknown
      · rw [hknown] at hversion
        cases hversion
      · exact Option.some.inj (hversion.symm.trans hknown)
    rcases Site.issued_deletes hacts hmid hissued hds with ⟨hstore, hgone⟩ | ⟨hdelete, hgone⟩
    · rw [hstore]
      exact ⟨false, .orphaned hreq hwrite, hgone⟩
    · exact ⟨true, .compensated hreq hwrite hdelete, hgone⟩

/-- A call that committed: only a discard has a delete to issue, and it wrote nothing. -/
theorem Site.committed_outcome {row' : Credential} (hacts : Undisturbed row.location c.acts)
    (hb : BackendOf s.db.config b) (hengine : b.engine = row.engineId)
    (hat : ∀ req, Requests s.db.config row c.operation req → req.location = row.location)
    (hreached : Reached (Requests s.db.config row c.operation) s.db.config c.acts attempts wrote s.ext mid)
    (hissued : Issued c.acts ds mid (s.step c).ext)
    (hcommits : Commits s.db.config c.env.now row c.operation wrote row')
    (hfrom : ∀ d ∈ ds, (∃ held user request, c.operation = .discard held user request) ∧
      d.backend = b ∧ d.backend.location d.path = row.location ∧ row.stagedKvVersion = some d.version) :
    ∃ gone, Outcome s.db.config c.env.now b row c.operation (s.ext.store row.location) (wrote.map Prod.fst) gone
      (some row') ((s.step c).ext.store row.location) ∧ (gone = true ↔ s.Deletes row.location c) := by
  have hmid : mid.deleted = s.ext.deleted := hreached.deleted hacts
  rcases hreached.alone hacts hb hengine hat with ⟨rfl, -, hsame⟩ | ⟨req, version, rfl, hreq, hwrite, -⟩
  · rw [← hsame]
    by_cases hnone : ds = []
    · subst hnone
      obtain ⟨hstore, hgone⟩ := Site.issued_none hacts hmid hissued
      rw [hstore]
      exact ⟨false, .repointed hcommits, hgone⟩
    · obtain ⟨d, hd⟩ := List.exists_mem_of_ne_nil ds hnone
      obtain ⟨⟨held, user, request, hdiscard⟩, -, -, hstaged⟩ := hfrom d hd
      have hds : ∀ d' ∈ ds, d'.backend = b ∧ d'.backend.location d'.path = row.location ∧
          d'.version = d.version := by
        intro d' hd'
        obtain ⟨-, hbackend, hplace, hstaged'⟩ := hfrom d' hd'
        exact ⟨hbackend, hplace, Option.some.inj (hstaged'.symm.trans hstaged)⟩
      rcases Site.issued_deletes hacts hmid hissued hds with ⟨hstore, hgone⟩ | ⟨hdelete, hgone⟩
      · rw [hstore]
        exact ⟨false, .repointed hcommits, hgone⟩
      · exact ⟨true, .cleaned hdiscard hstaged hcommits hdelete, hgone⟩
  · have hnone : ds = [] := by
      refine List.eq_nil_iff_forall_not_mem.mpr fun d hd => ?_
      obtain ⟨⟨held, user, request, hdiscard⟩, -⟩ := hfrom d hd
      rw [hdiscard] at hcommits
      cases hcommits
    subst hnone
    obtain ⟨hstore, hgone⟩ := Site.issued_none hacts hmid hissued
    rw [hstore]
    exact ⟨false, .stored hreq hcommits hwrite, hgone⟩

end

/-- Every call of a material operation that nobody else comes near has one of these outcomes. -/
theorem Site.call_outcome {pk : Nat} {s : Site} {c : Call} {row : Credential} {b : Backend}
    (hc : s.Handles pk c) (hrow : s.Row pk row) (hb : BackendOf s.db.config b) (hengine : b.engine = row.engineId)
    (hacts : Undisturbed row.location c.acts) :
    ∃ taken gone left, Outcome s.db.config c.env.now b row c.operation (s.ext.store row.location) taken gone left
        ((s.step c).ext.store row.location) ∧
      (taken.isSome = true ↔ s.Writes row.location c) ∧ (gone = true ↔ s.Deletes row.location c) ∧
      (left = none → s.Idles c) ∧
      ∀ row', left = some row' → (s.step c).db.credentials = (s.db.putCredential pk row').credentials := by
  obtain ⟨-, -, hstepped⟩ := Site.step_stepped hc.1 hrow
  have hat : ∀ req, Requests s.db.config row c.operation req → req.location = row.location :=
    fun req hreq => (hreq.material hc.2).1
  cases hstepped with
  | kept attempts wrote mid ds hreached hissued hcredentials hdeletes =>
      have hrecorded := hreached.wrote_iff hacts.unwritten hat hissued
      have hfrom : ∀ d ∈ ds, ∃ a ∈ attempts, a.pendingDelete (.recovery s.operations) = some d := by
        intro d hd
        rcases hdeletes with rfl | rfl
        · cases hd
        · obtain ⟨a, ha, hpending⟩ := List.mem_filterMap.mp hd
          exact ⟨a, List.mem_reverse.mp ha, hpending⟩
      obtain ⟨gone, houtcome, hgone⟩ := Site.kept_outcome hacts hb hengine hat hreached hissued hfrom
      refine ⟨_, gone, none, houtcome, ?_, hgone, fun _ => hcredentials, fun _ h => by cases h⟩
      rw [Option.isSome_map]
      exact hrecorded
  | committed attempts deletions wrote mid ds pk' row' hreached hissued hcommits hcredentials hdeletions hdeletes =>
      obtain ⟨rfl, hcommits⟩ := hcommits
      have hrecorded := hreached.wrote_iff hacts.unwritten hat hissued
      have hfrom : ∀ d ∈ ds, (∃ held user request, c.operation = .discard held user request) ∧
          d.backend = b ∧ d.backend.location d.path = row.location ∧ row.stagedKvVersion = some d.version := by
        intro d hd
        rcases hdeletes with rfl | rfl
        · cases hd
        · obtain ⟨a, ha, hpending⟩ := List.mem_filterMap.mp hd
          obtain ⟨hbackend, hlocation, hversion⟩ := MaterialAttempt.pendingDelete_eq hpending
          obtain ⟨hdiscard, hstaged, hplace, hof⟩ := hdeletions a ha
          refine ⟨hdiscard, hbackend.trans (hof.unique hb ?_), hlocation.trans hplace, hstaged.symm.trans hversion⟩
          rw [hengine]
          exact congrArg Location.engine hplace
      obtain ⟨gone, houtcome, hgone⟩ := Site.committed_outcome hacts hb hengine hat hreached hissued hcommits hfrom
      refine ⟨_, gone, some row', houtcome, ?_, hgone, (fun h => by cases h), fun found h => ?_⟩
      · rw [Option.isSome_map]
        exact hrecorded
      · obtain rfl := Option.some.inj h
        exact hcredentials

end

end NetboxOpenbao
