import NetboxOpenbao.Proof.Store
import Mathlib.Data.List.Pairwise

/-!
# The record of backend calls

Versions are handed out once: on KV v2 no two writes at a location get the same number, whoever made
them. Other parties add calls of their own, but never a write in the name of an owner.
-/

namespace NetboxOpenbao

open Effect

namespace BackendCall

/-- The call wrote version `version` at `location`. -/
def Writes (location : Location) (version : Nat) : BackendCall → Prop
  | .wrote _ l v | .foreign l v => l = location ∧ v = version
  | .delete _ _ _ => False

/-- The location and version of a write whose version came back to the owner `operation`. -/
def ownWrite (operation : Nat) : BackendCall → Option (Location × Nat)
  | .wrote op location version => if op = operation then some (location, version) else none
  | .foreign _ _ | .delete _ _ _ => none

/-- The location and version of a delete on behalf of `issuer`. -/
def deletedBy (issuer : Issuer) : BackendCall → Option (Location × Nat)
  | .delete i location version => if i = issuer then some (location, version) else none
  | .wrote _ _ _ | .foreign _ _ => none

theorem ownWrite_eq_some {operation : Nat} {call : BackendCall} {location : Location} {version : Nat} :
    call.ownWrite operation = some (location, version) ↔ call = .wrote operation location version := by
  cases call with
  | wrote op l v =>
      simp only [ownWrite]
      by_cases h : op = operation <;> simp [h]
  | foreign l v => simp [ownWrite]
  | delete i l v => simp [ownWrite]

theorem deletedBy_eq_some {issuer : Issuer} {call : BackendCall} {location : Location} {version : Nat} :
    call.deletedBy issuer = some (location, version) ↔ call = .delete issuer location version := by
  cases call with
  | wrote op l v => simp [deletedBy]
  | foreign l v => simp [deletedBy]
  | delete i l v =>
      simp only [deletedBy]
      by_cases h : i = issuer <;> simp [h]

end BackendCall

/-! ### Version numbers -/

/-- On this engine no version number has been handed out twice, and none beyond the newest version. -/
structure Ext.Numbered (engine : Nat) (e : Ext) : Prop where
  distinct : e.calls.Pairwise fun c c' => ∀ location version, location.engine = engine →
    c.Writes location version → ¬ c'.Writes location version
  bounded : ∀ c ∈ e.calls, ∀ location version, location.engine = engine → c.Writes location version →
    version ≤ (e.store location).secret.current

namespace Ext.Numbered

variable {engine : Nat} {e : Ext}

/-- Two recorded writes of one version are one call. -/
theorem unique (h : e.Numbered engine) {c c' : BackendCall} (hc : c ∈ e.calls) (hc' : c' ∈ e.calls)
    {location : Location} {version : Nat} (hengine : location.engine = engine)
    (hw : c.Writes location version) (hw' : c'.Writes location version) : c = c' := by
  by_cases heq : c = c'
  · exact heq
  · have hsymm : Std.Symm fun c c' : BackendCall => ∀ location version, location.engine = engine →
        c.Writes location version → ¬ c'.Writes location version :=
      ⟨fun a b hab location version hin hb ha => hab location version hin ha hb⟩
    exact absurd hw' (h.distinct.forall hc hc' heq location version hengine hw)

/-- Cells may change as long as no newest version goes back. -/
theorem put (h : e.Numbered engine) {location : Location} {cell : Cell}
    (hcell : (e.store location).secret.Later cell.secret) : (e.put location cell).Numbered engine where
  distinct := h.distinct
  bounded c hc l v hin hw := by
    have hle := h.bounded c hc l v hin hw
    by_cases heq : l = location
    · subst heq
      simpa [Ext.put] using Nat.le_trans hle hcell.current
    · simpa [Ext.put, heq] using hle

/-- A call that writes nothing on this engine. -/
theorem record (h : e.Numbered engine) {call : BackendCall}
    (hcall : ∀ location version, location.engine = engine → ¬ call.Writes location version) :
    (e.record call).Numbered engine where
  distinct := by
    refine List.pairwise_append.mpr ⟨h.distinct, List.pairwise_singleton _ _, ?_⟩
    intro c _ c' hc' l v hin _
    rw [List.mem_singleton.mp hc']
    exact hcall l v hin
  bounded c hc l v hin hw := by
    rcases List.mem_append.mp hc with hold | hnew
    · exact h.bounded c hold l v hin hw
    · rw [List.mem_singleton.mp hnew] at hw
      exact absurd hw (hcall l v hin)

/-- A write that takes the next number. -/
theorem accepted (h : e.Numbered engine) {location : Location} {cell : Cell} {call : BackendCall}
    (hcell : cell.secret.current = (e.store location).secret.current + 1)
    (hcall : ∀ l v, call.Writes l v → l = location ∧ v = (e.store location).secret.current + 1) :
    (e.accepted location cell call).Numbered engine where
  distinct := by
    refine List.pairwise_append.mpr ⟨h.distinct, List.pairwise_singleton _ _, ?_⟩
    intro c hc c' hc' l v hin hw hw'
    rw [List.mem_singleton.mp hc'] at hw'
    obtain ⟨rfl, rfl⟩ := hcall l v hw'
    have := h.bounded c hc l _ hin hw
    omega
  bounded c hc l v hin hw := by
    rcases List.mem_append.mp hc with hold | hnew
    · have hle := h.bounded c hold l v hin hw
      by_cases heq : l = location
      · subst heq
        simp only [Ext.accepted, Ext.put, Ext.record, if_true]
        omega
      · simpa [Ext.accepted, Ext.put, Ext.record, heq] using hle
    · rw [List.mem_singleton.mp hnew] at hw
      obtain ⟨rfl, rfl⟩ := hcall l v hw
      simp [Ext.accepted, Ext.put, Ext.record, hcell]

end Ext.Numbered

/-- A delete that was asked for is on record, and was carried out or not. -/
theorem Ext.issue_cases (e : Ext) (d : PendingDelete) (accepted : Bool) :
    e.issue d accepted = e.record (.delete d.issuer (d.backend.location d.path) d.version) ∨
      ∃ cell, d.backend.deleteCell (e.store (d.backend.location d.path)) d.version = .ok cell ∧
        e.issue d accepted = (e.record (.delete d.issuer (d.backend.location d.path) d.version)).remove
          (d.backend.location d.path) d.version cell := by
  unfold Ext.issue
  simp only
  split
  · next cell hdelete => exact .inr ⟨cell, hdelete, rfl⟩
  · exact .inl rfl

theorem Ext.Numbered.issue {engine : Nat} {e : Ext} (h : e.Numbered engine) (d : PendingDelete)
    (accepted : Bool) : (e.issue d accepted).Numbered engine := by
  have hrecorded : (e.record (.delete d.issuer (d.backend.location d.path) d.version)).Numbered engine :=
    h.record fun _ _ _ => id
  rcases e.issue_cases d accepted with hissue | ⟨cell, hdelete, hissue⟩
  · rw [hissue]
    exact hrecorded
  · rw [hissue]
    obtain ⟨hdistinct, hbounded⟩ := hrecorded.put (Backend.deleteCell_later hdelete)
    exact ⟨hdistinct, hbounded⟩

theorem Ext.issue_calls (e : Ext) (d : PendingDelete) (accepted : Bool) :
    (e.issue d accepted).calls = e.calls ++ [.delete d.issuer (d.backend.location d.path) d.version] := by
  rcases e.issue_cases d accepted with hissue | ⟨cell, -, hissue⟩ <;> rw [hissue] <;> rfl

theorem Ext.issue_pending (e : Ext) (d : PendingDelete) (accepted : Bool) :
    (e.issue d accepted).pending = e.pending := by
  rcases e.issue_cases d accepted with hissue | ⟨cell, -, hissue⟩ <;> rw [hissue] <;> rfl

theorem Ext.Numbered.act {engine : Nat} {e : Ext} (h : e.Numbered engine) (a : Act) :
    (e.act a).Numbered engine := by
  cases a with
  | write location data cas =>
      simp only [Ext.act]
      cases hwrite : (e.store location).secret.write cas data with
      | none => exact h
      | some out =>
          obtain ⟨version, secret⟩ := out
          obtain ⟨-, rfl, rfl⟩ := Secret.write_eq_some.mp hwrite
          have hpush : (Secret.push (e.store location).secret data).current =
              (e.store location).secret.current + 1 := Secret.current_push _ _
          refine h.accepted hpush ?_
          rintro l v ⟨rfl, rfl⟩
          exact ⟨rfl, rfl⟩
  | delete location version => exact h.put (Secret.later_delete _ _)
  | fire index accepted =>
      simp only [Ext.act]
      split
      · exact h
      · next d _ =>
          have hrest : ({ e with pending := e.pending.eraseIdx index } : Ext).Numbered engine :=
            ⟨h.distinct, h.bounded⟩
          exact hrest.issue d accepted

theorem Interference.numbered {engine : Nat} {acts : Nat → List Act} {e e' : Ext} (h : Interference acts e e')
    (he : e.Numbered engine) : e'.Numbered engine := h.keeps (fun _ a hnum => hnum.act a) he

/-! ### Calls of other parties -/

/-- What interference adds: calls in nobody's name, and deletes that were pending. -/
structure Ext.Disturbed (e e' : Ext) : Prop where
  pending : ∀ d ∈ e'.pending, d ∈ e.pending
  calls : ∃ new, e'.calls = e.calls ++ new ∧ (∀ op location version, .wrote op location version ∉ new) ∧
    ∀ issuer location version, BackendCall.delete issuer location version ∈ new →
      ∃ d ∈ e.pending, d.issuer = issuer

theorem Ext.Disturbed.refl (e : Ext) : e.Disturbed e :=
  ⟨fun _ hd => hd, [], by simp, fun _ _ _ => List.not_mem_nil, fun _ _ _ h => absurd h List.not_mem_nil⟩

theorem Ext.Disturbed.snoc {e f g : Ext} (h : e.Disturbed f) {call : BackendCall}
    (hcalls : g.calls = f.calls ++ [call]) (hpending : ∀ d ∈ g.pending, d ∈ f.pending)
    (hwrote : ∀ op location version, call ≠ .wrote op location version)
    (hdelete : ∀ issuer location version, call = .delete issuer location version →
      ∃ d ∈ f.pending, d.issuer = issuer) : e.Disturbed g := by
  obtain ⟨hold, new, hnew, hnone, hdeletes⟩ := h
  refine ⟨fun d hd => hold d (hpending d hd), new ++ [call], by rw [hcalls, hnew, List.append_assoc], ?_, ?_⟩
  · intro op location version hmem
    rcases List.mem_append.mp hmem with hin | hin
    · exact hnone op location version hin
    · exact hwrote op location version (List.mem_singleton.mp hin).symm
  · intro issuer location version hmem
    rcases List.mem_append.mp hmem with hin | hin
    · exact hdeletes issuer location version hin
    · obtain ⟨d, hd, hissuer⟩ := hdelete issuer location version (List.mem_singleton.mp hin).symm
      exact ⟨d, hold d hd, hissuer⟩

theorem Ext.Disturbed.act {e f : Ext} (h : e.Disturbed f) (a : Act) : e.Disturbed (f.act a) := by
  cases a with
  | write location data cas =>
      simp only [Ext.act]
      cases (f.store location).secret.write cas data with
      | none => exact h
      | some out => exact h.snoc rfl (fun _ hd => hd) (by simp) (by simp)
  | delete location version => exact ⟨h.pending, h.calls⟩
  | fire index accepted =>
      simp only [Ext.act]
      split
      · exact h
      · next d hpending =>
          have hd : d ∈ f.pending := List.mem_of_getElem? hpending
          refine h.snoc (Ext.issue_calls _ d accepted) ?_ (by simp) ?_
          · intro d' hd'
            rw [Ext.issue_pending] at hd'
            exact List.mem_of_mem_eraseIdx hd'
          · intro issuer location version heq
            cases heq
            exact ⟨d, hd, rfl⟩

theorem Interference.disturbed {acts : Nat → List Act} {e e' : Ext} (h : Interference acts e e') :
    e.Disturbed e' := h.keeps (fun _ a hdist => hdist.act a) (Ext.Disturbed.refl e)

theorem BackendCall.ownWrites_nil {calls : List BackendCall}
    (h : ∀ op location version, .wrote op location version ∉ calls) (operation : Nat) :
    calls.filterMap (ownWrite operation) = [] := by
  rw [List.filterMap_eq_nil_iff]
  intro call hcall
  cases howned : call.ownWrite operation with
  | none => rfl
  | some written =>
      obtain ⟨location, version⟩ := written
      rw [ownWrite_eq_some.mp howned] at hcall
      exact absurd hcall (h _ _ _)

/-- One accepted write between stretches of interference. -/
theorem Ext.Disturbed.around {e f g : Ext} {location : Location} {cell : Cell} {call : BackendCall}
    (hbefore : e.Disturbed f) (hafter : (f.accepted location cell call).Disturbed g)
    (hcall : ∀ issuer l v, call ≠ .delete issuer l v) :
    (∀ d ∈ g.pending, d ∈ e.pending) ∧ ∃ new, g.calls = e.calls ++ new ∧
      (∀ op, new.filterMap (BackendCall.ownWrite op) = [call].filterMap (BackendCall.ownWrite op)) ∧
      ∀ issuer l v, BackendCall.delete issuer l v ∈ new → ∃ d ∈ e.pending, d.issuer = issuer := by
  obtain ⟨hpending, new, hnew, hnone, hdelete⟩ := hbefore
  obtain ⟨hpending', new', hnew', hnone', hdelete'⟩ := hafter
  refine ⟨fun d hd => hpending d (hpending' d hd), new ++ [call] ++ new', ?_, ?_, ?_⟩
  · rw [hnew']
    simp only [Ext.accepted, Ext.record, Ext.put, hnew, List.append_assoc]
  · intro op
    rw [List.filterMap_append, List.filterMap_append, BackendCall.ownWrites_nil hnone,
      BackendCall.ownWrites_nil hnone', List.append_nil, List.nil_append]
  · intro issuer l v hmem
    rcases List.mem_append.mp hmem with hin | hlate
    · rcases List.mem_append.mp hin with hold | hthis
      · exact hdelete issuer l v hold
      · exact absurd (List.mem_singleton.mp hthis).symm (hcall issuer l v)
    · obtain ⟨d, hd, hissuer⟩ := hdelete' issuer l v hlate
      exact ⟨d, hpending d hd, hissuer⟩

/-- A write the backend of a KV v2 engine accepts takes the next number; a write elsewhere takes none of
this engine. -/
theorem Ext.Numbered.written {engine : Nat} {e : Ext} (h : e.Numbered engine) {b : Backend}
    {location : Location} (hb : location.engine = engine → b.kvVersion = 2) {data : Payload}
    {cas : Option Nat} {version : Nat} {cell : Cell}
    (hwrite : b.writeCell (e.store location) data cas = .ok (version, cell)) {call : BackendCall}
    (hcall : ∀ l v, call.Writes l v → l = location ∧ v = version) :
    (e.accepted location cell call).Numbered engine := by
  by_cases hin : location.engine = engine
  · obtain ⟨-, rfl, rfl⟩ := (Backend.writeCell_v2 (hb hin)).mp hwrite
    exact h.accepted (Secret.current_push _ _) hcall
  · refine (h.put (Backend.writeCell_later hwrite)).record fun l v hl hw => ?_
    obtain ⟨rfl, -⟩ := hcall l v hw
    exact hin hl

end NetboxOpenbao
