import NetboxOpenbao.Projection
import NetboxOpenbao.Effect.Runs
import NetboxOpenbao.Services.Persistence

/-!
# No publication after a deletion

The advisory lock makes a publisher that has seen the row and a deletion of that row exclude each other up to
the end of the publisher's transaction. A publisher that gets the lock later looks again, and finds no row.
-/

namespace NetboxOpenbao

open Effect

/-- The session has the advisory lock of the credential. -/
def Session.Holds : Session → Nat → Prop
  | .locked id, k | .selected id _, k | .published id, k => k = id
  | .deleting work, k => .lock k ∈ work
  | .idle, _ | .deferred _, _ | .reloaded _, _ | .destroying _, _ => False

/-- Every deletion comes after the lock of its credential; the newest entry comes first. -/
def WellLocked : List DeletionWork → Prop
  | [] => True
  | .lock _ :: rest => WellLocked rest
  | .delete id :: rest => .lock id ∈ rest ∧ WellLocked rest

theorem WellLocked.lock_mem {work : List DeletionWork} {id : Nat} (h : WellLocked work)
    (hid : .delete id ∈ work) : .lock id ∈ work := by
  induction work with
  | nil => cases hid
  | cons entry rest ih =>
      cases entry with
      | lock k =>
          have hrest : .delete id ∈ rest := by simpa using hid
          exact List.mem_cons_of_mem _ (ih h hrest)
      | delete k =>
          apply List.mem_cons_of_mem
          rcases List.mem_cons.mp hid with hsame | hrest
          · rw [DeletionWork.delete.inj hsame]
            exact h.1
          · exact ih h.2 hrest

/-- A rollback to a savepoint undoes the newest entries. -/
theorem WellLocked.drop {work : List DeletionWork} (h : WellLocked work) (count : Nat) :
    WellLocked (work.drop count) := by
  induction work generalizing count with
  | nil => simpa using h
  | cons entry rest ih =>
      cases count with
      | zero => exact h
      | succ n =>
          cases entry with
          | lock k => exact ih h n
          | delete k => exact ih h.2 n

/-- The committed rows agree with what the session goes by: a row selected under its lock is still there, rows to
delete are locked, and rows whose material is being destroyed are gone for good. -/
def Session.Fits (rows : Nat → Option Credential) (nextId : Nat) : Session → Prop
  | .selected id _ => (rows id).isSome = true
  | .deleting work => WellLocked work ∧ ∀ id, .delete id ∈ work → id < nextId
  | .destroying ids => ∀ id ∈ ids, rows id = none ∧ id < nextId
  | .idle | .deferred _ | .reloaded _ | .locked _ | .published _ => True

/-- The row is deleted, or what it left behind is. -/
def ProjectionEvent.Ends : ProjectionEvent → Nat → Prop
  | .deleted k, id | .destroyed k, id => k = id
  | .setMetadata _ _, _ => False

namespace Projection

/-- No publication of a credential comes after its deletion. -/
def NoLatePublication (log : List ProjectionEvent) : Prop :=
  log.Pairwise fun earlier later => ∀ id location, earlier.Ends id → later ≠ .setMetadata id location

/-- The sessions hold the locks they rely on, and a deleted row does not come back. -/
structure Sound (p : Projection) : Prop where
  held : ∀ s id, (p.sessions s).Holds id → p.locks.holder id = some s
  fits : ∀ s, (p.sessions s).Fits p.rows p.nextId
  fresh : ∀ id, (p.rows id).isSome = true → id < p.nextId
  gone : ∀ event ∈ p.log, ∀ id, event.Ends id → p.rows id = none ∧ id < p.nextId
  quiet : NoLatePublication p.log

theorem put_self (p : Projection) (s : Nat) (x : Session) : (p.put s x).sessions s = x := by simp [put]

theorem put_of_ne (p : Projection) {s t : Nat} (x : Session) (h : t ≠ s) :
    (p.put s x).sessions t = p.sessions t := by simp [put, h]

/-- Two sessions do not have one lock. -/
theorem Sound.excludes {p : Projection} (h : p.Sound) {s t id : Nat} (hs : (p.sessions s).Holds id)
    (ht : (p.sessions t).Holds id) : s = t :=
  Option.some.inj ((h.held s id hs).symm.trans (h.held t id ht))

/-- One session goes on, under a lock table that takes nothing from the others. -/
theorem Sound.moved {p : Projection} (h : p.Sound) {s : Nat} {x : Session} {locks : Locks Nat Nat}
    (hothers : ∀ t id, t ≠ s → p.locks.holder id = some t → locks.holder id = some t)
    (hself : ∀ id, x.Holds id → locks.holder id = some s) (hfits : x.Fits p.rows p.nextId) :
    ({ p with locks }.put s x).Sound := by
  have hsession : ∀ t, t ≠ s → ({ p with locks }.put s x).sessions t = p.sessions t :=
    fun t ht => put_of_ne { p with locks } x ht
  constructor
  · intro t id hholds
    by_cases ht : t = s
    · subst ht
      rw [put_self] at hholds
      exact hself id hholds
    · rw [hsession t ht] at hholds
      exact hothers t id ht (h.held t id hholds)
  · intro t
    by_cases ht : t = s
    · subst ht
      rw [put_self]
      exact hfits
    · rw [hsession t ht]
      exact h.fits t
  · exact h.fresh
  · exact h.gone
  · exact h.quiet

theorem Sound.stays {p : Projection} (h : p.Sound) {s : Nat} {x : Session}
    (hself : ∀ id, x.Holds id → p.locks.holder id = some s) (hfits : x.Fits p.rows p.nextId) :
    (p.put s x).Sound :=
  h.moved (fun _ _ _ hheld => hheld) hself hfits

theorem Sound.releases {p : Projection} (h : p.Sound) {s : Nat} {x : Session} {keeps : Nat → Bool}
    (hself : ∀ id, x.Holds id → keeps id = true ∧ p.locks.holder id = some s)
    (hfits : x.Fits p.rows p.nextId) : ((p.releasing s keeps).put s x).Sound := by
  apply h.moved (fun t id hne hheld => Locks.release_other hne hheld) _ hfits
  intro id hholds
  obtain ⟨hkeeps, hheld⟩ := hself id hholds
  rw [Locks.release_kept hkeeps]
  exact hheld

theorem Sound.leaves {p : Projection} (h : p.Sound) (s : Nat) :
    ((p.releasing s fun _ => false).put s .idle).Sound :=
  h.releases (fun _ hholds => hholds.elim) trivial

theorem Sound.locking {p : Projection} (h : p.Sound) {s id : Nat} {x : Session}
    (hself : ∀ k, x.Holds k → k = id ∨ p.locks.holder k = some s) (hfits : x.Fits p.rows p.nextId) :
    (p.locking s id x).Sound := by
  unfold Projection.locking
  cases hacquire : p.locks.acquire id s with
  | none => exact h
  | some locks =>
      apply h.moved (fun t k _ hheld => Locks.acquire_kept hacquire hheld) _ hfits
      intro k hholds
      rcases hself k hholds with rfl | hheld
      · exact Locks.acquire_self hacquire
      · exact Locks.acquire_kept hacquire hheld

/-- Something becomes visible outside: if it ends a credential, the row is gone, and it publishes no credential
whose row is gone. -/
theorem Sound.records {p : Projection} (h : p.Sound) {event : ProjectionEvent}
    (hends : ∀ id, event.Ends id → p.rows id = none ∧ id < p.nextId)
    (hlate : ∀ id location, p.rows id = none → event ≠ .setMetadata id location) :
    (p.record [event]).Sound := by
  constructor
  · exact h.held
  · exact h.fits
  · exact h.fresh
  · intro e he id hid
    rcases List.mem_append.mp he with he | he
    · exact h.gone e he id hid
    · rw [List.mem_singleton.mp he] at hid
      exact hends id hid
  · apply List.pairwise_append.mpr
    refine ⟨h.quiet, List.pairwise_singleton _ _, ?_⟩
    intro earlier hearlier later hlater id location hid
    rw [List.mem_singleton.mp hlater]
    exact hlate id location (h.gone earlier hearlier id hid).1

/-- Rows come and change, but none that is gone comes back. -/
theorem Sound.rows {p : Projection} (h : p.Sound) {rows : Nat → Option Credential} {nextId : Nat}
    (hnext : p.nextId ≤ nextId) (hkept : ∀ id, (p.rows id).isSome = true → (rows id).isSome = true)
    (hfresh : ∀ id, (rows id).isSome = true → id < nextId)
    (hgone : ∀ id, id < p.nextId → p.rows id = none → rows id = none) :
    Sound { p with rows, nextId } := by
  have hstill : ∀ id, p.rows id = none ∧ id < p.nextId → rows id = none ∧ id < nextId :=
    fun id hid => ⟨hgone id hid.2 hid.1, Nat.lt_of_lt_of_le hid.2 hnext⟩
  constructor
  · exact h.held
  · intro s
    show (p.sessions s).Fits rows nextId
    have hfits : (p.sessions s).Fits p.rows p.nextId := h.fits s
    cases hs : p.sessions s with
    | selected id row =>
        rw [hs] at hfits
        exact hkept id hfits
    | deleting work =>
        rw [hs] at hfits
        exact ⟨hfits.1, fun id hid => Nat.lt_of_lt_of_le (hfits.2 id hid) hnext⟩
    | destroying ids =>
        rw [hs] at hfits
        exact fun id hid => hstill id (hfits id hid)
    | _ => trivial
  · exact hfresh
  · exact fun event hevent id hid => hstill id (h.gone event hevent id hid)
  · exact h.quiet

theorem Sound.insert {p : Projection} (h : p.Sound) (row : Credential) :
    Sound { p with rows := fun id => if id = p.nextId then some row else p.rows id, nextId := p.nextId + 1 } := by
  apply h.rows (Nat.le_succ p.nextId)
  · intro id hid
    split
    · rfl
    · exact hid
  · intro id hid
    by_cases hnew : id = p.nextId
    · omega
    · rw [if_neg hnew] at hid
      exact Nat.lt_succ_of_lt (h.fresh id hid)
  · intro id hbelow hid
    rw [if_neg (by omega)]
    exact hid

theorem Sound.save {p : Projection} (h : p.Sound) {id : Nat} (row : Credential)
    (hrow : (p.rows id).isSome = true) :
    Sound { p with rows := fun k => if k = id then some row else p.rows k } := by
  apply h.rows (Nat.le_refl p.nextId)
  · intro k hk
    split
    · rfl
    · exact hk
  · intro k hk
    by_cases hsame : k = id
    · rw [hsame]
      exact h.fresh id hrow
    · rw [if_neg hsame] at hk
      exact h.fresh k hk
  · intro k _ hk
    have hne : k ≠ id := by
      rintro rfl
      simp [hk] at hrow
    rw [if_neg hne]
    exact hk

theorem mem_deletedIds {work : List DeletionWork} {id : Nat} : id ∈ deletedIds work ↔ .delete id ∈ work := by
  unfold deletedIds
  rw [List.mem_filterMap]
  constructor
  · rintro ⟨entry, hentry, hid⟩
    cases entry with
    | lock k => cases hid
    | delete k =>
        obtain rfl := Option.some.inj hid
        exact List.mem_reverse.mp hentry
  · intro hid
    exact ⟨.delete id, List.mem_reverse.mpr hid, rfl⟩

/-- The deletions of a transaction become visible: nobody else has selected one of the rows, for the lock of
each is with this session. -/
theorem Sound.committing {p : Projection} (h : p.Sound) {s : Nat} {work : List DeletionWork}
    (hs : p.sessions s = .deleting work) : (p.committing s work).Sound := by
  obtain ⟨hlocked, hbelow⟩ : WellLocked work ∧ ∀ id, .delete id ∈ work → id < p.nextId := by
    have hfits := h.fits s
    rw [hs] at hfits
    exact hfits
  have hlocks : ∀ id, id ∈ deletedIds work → (p.sessions s).Holds id := by
    intro id hid
    rw [hs]
    exact hlocked.lock_mem (mem_deletedIds.mp hid)
  have hrows : ∀ id, (p.committing s work).rows id = if id ∈ deletedIds work then none else p.rows id :=
    fun _ => rfl
  have hself : (p.committing s work).sessions s = .destroying (deletedIds work) := put_self _ _ _
  have hsession : ∀ t, t ≠ s → (p.committing s work).sessions t = p.sessions t :=
    fun t ht => put_of_ne _ _ ht
  have hdoomed : ∀ id, id ∈ deletedIds work → (p.committing s work).rows id = none ∧ id < p.nextId := by
    intro id hid
    rw [hrows, if_pos hid]
    exact ⟨rfl, hbelow id (mem_deletedIds.mp hid)⟩
  have hstill : ∀ id, p.rows id = none → (p.committing s work).rows id = none := by
    intro id hid
    rw [hrows]
    split
    · rfl
    · exact hid
  have hfits : ∀ t, t ≠ s → (p.sessions t).Fits (p.committing s work).rows p.nextId := by
    intro t ht
    have hbefore : (p.sessions t).Fits p.rows p.nextId := h.fits t
    cases hsessions : p.sessions t with
    | selected id row =>
        rw [hsessions] at hbefore
        have hkept : id ∉ deletedIds work := by
          intro hid
          have hholds : (p.sessions t).Holds id := by
            rw [hsessions]
            rfl
          exact ht (h.excludes hholds (hlocks id hid))
        show ((p.committing s work).rows id).isSome = true
        rw [hrows, if_neg hkept]
        exact hbefore
    | deleting w =>
        rw [hsessions] at hbefore
        exact hbefore
    | destroying ids =>
        rw [hsessions] at hbefore
        exact fun id hid => ⟨hstill id (hbefore id hid).1, (hbefore id hid).2⟩
    | _ => trivial
  constructor
  · intro t id hholds
    have ht : t ≠ s := by
      rintro rfl
      rw [hself] at hholds
      exact hholds
    rw [hsession t ht] at hholds
    exact Locks.release_other ht (h.held t id hholds)
  · intro t
    by_cases ht : t = s
    · rw [ht, hself]
      exact hdoomed
    · rw [hsession t ht]
      exact hfits t ht
  · intro id hid
    rw [hrows] at hid
    split at hid
    · cases hid
    · exact h.fresh id hid
  · intro event hevent id hid
    rcases List.mem_append.mp hevent with hold | hnew
    · exact ⟨hstill id (h.gone event hold id hid).1, (h.gone event hold id hid).2⟩
    · obtain ⟨k, hk, rfl⟩ := List.mem_map.mp hnew
      rw [← show k = id from hid]
      exact hdoomed k hk
  · have hdeletions : ∀ event ∈ (deletedIds work).map ProjectionEvent.deleted, ∀ id location,
        event ≠ .setMetadata id location := by
      intro event hevent id location hset
      obtain ⟨k, -, hk⟩ := List.mem_map.mp hevent
      rw [hset] at hk
      cases hk
    apply List.pairwise_append.mpr
    refine ⟨h.quiet, ?_, ?_⟩
    · apply List.pairwise_of_forall_mem_list
      intro earlier _ later hlater id location _
      exact hdeletions later hlater id location
    · intro earlier _ later hlater id location _
      exact hdeletions later hlater id location

theorem Sound.step {p : Projection} (h : p.Sound) (turn : Nat × ProjectionMove) : (p.step turn).Sound := by
  obtain ⟨s, move⟩ := turn
  have hfits : (p.sessions s).Fits p.rows p.nextId := h.fits s
  unfold Projection.step
  dsimp only
  split
  · exact h.insert _
  · split
    · next hrow => exact h.save _ hrow
    · exact h
  · exact h.stays (fun _ hholds => hholds.elim) trivial
  · split
    · exact h.stays (fun _ hholds => hholds.elim) trivial
    · exact h.stays (fun _ hholds => hholds.elim) trivial
  · exact h.locking (fun k hk => .inl hk) trivial
  · next id hs =>
      have hlock : p.locks.holder id = some s := h.held s id (by rw [hs]; rfl)
      -- this look at the row is the one that counts: the lock is held from here to the publication
      split
      · next row hrow =>
          apply h.stays
          · intro k hk
            rw [show k = id from hk]
            exact hlock
          · show (p.rows id).isSome = true
            rw [hrow]
            rfl
      · exact h.leaves s
  · next id row hs =>
      have hlock : p.locks.holder id = some s := h.held s id (by rw [hs]; rfl)
      rw [hs] at hfits
      have hstays : (p.put s (.published id)).Sound := by
        apply h.stays
        · intro k hk
          rw [show k = id from hk]
          exact hlock
        · trivial
      apply hstays.records
      · intro k hends
        cases hends
      · rintro k location hgone hsame
        obtain ⟨rfl, -⟩ := ProjectionEvent.setMetadata.inj hsame
        have hnone : p.rows id = none := hgone
        have hsome : (p.rows id).isSome = true := hfits
        rw [hnone] at hsome
        cases hsome
  · exact h.leaves s
  · exact h.leaves s
  · exact h.leaves s
  · apply h.stays
    · intro id hid
      cases hid
    · exact ⟨trivial, fun id hid => by cases hid⟩
  · next id work hs =>
      rw [hs] at hfits
      apply h.locking
      · intro k hk
        rcases List.mem_cons.mp hk with hsame | hold
        · exact .inl (DeletionWork.lock.inj hsame)
        · exact .inr (h.held s k (by rw [hs]; exact hold))
      · refine ⟨hfits.1, fun k hk => hfits.2 k ?_⟩
        simpa using hk
  · next id work hs =>
      rw [hs] at hfits
      split
      · next hready =>
          apply h.stays
          · intro k hk
            have hold : .lock k ∈ work := by simpa [Session.Holds] using hk
            exact h.held s k (by rw [hs]; exact hold)
          · refine ⟨⟨hready.1, hfits.1⟩, ?_⟩
            intro k hk
            rcases List.mem_cons.mp hk with hsame | hold
            · rw [DeletionWork.delete.inj hsame]
              exact h.fresh id hready.2
            · exact hfits.2 k hold
      · exact h
  · next count work hs =>
      rw [hs] at hfits
      apply h.releases
      · intro k hk
        have hrest : .lock k ∈ work.drop count := hk
        exact ⟨by simpa using hrest, h.held s k (by rw [hs]; exact List.mem_of_mem_drop hrest)⟩
      · exact ⟨hfits.1.drop count, fun k hk => hfits.2 k (List.mem_of_mem_drop hk)⟩
  · next work hs => exact h.committing hs
  · exact h.leaves s
  · next id ids hs =>
      rw [hs] at hfits
      have hstays : (p.put s (.destroying ids)).Sound :=
        h.stays (fun _ hholds => hholds.elim) fun k hk => hfits k (List.mem_cons_of_mem id hk)
      apply hstays.records _ (fun _ _ _ hsame => by cases hsame)
      intro k hk
      rw [← show id = k from hk]
      exact hfits id (List.mem_cons_self)
  · exact h.stays (fun _ hholds => hholds.elim) trivial
  · exact h

/-- Nobody is under way and nothing has become visible yet; locks may be with others. -/
structure Initial (p : Projection) : Prop where
  idle : ∀ s, p.sessions s = .idle
  fresh : ∀ id, (p.rows id).isSome = true → id < p.nextId
  log : p.log = []

theorem Initial.sound {p : Projection} (h : p.Initial) : p.Sound := by
  constructor
  · intro s id hholds
    rw [h.idle s] at hholds
    exact hholds.elim
  · intro s
    rw [h.idle s]
    trivial
  · exact h.fresh
  · intro event hevent
    rw [h.log] at hevent
    cases hevent
  · show NoLatePublication p.log
    rw [h.log]
    exact List.Pairwise.nil

/-- In no order of their steps do publishers publish a credential whose deletion has been committed. -/
theorem deleted_credential_unpublished {p : Projection} (h : p.Initial) (turns : List (Nat × ProjectionMove)) :
    Runs.Throughout Projection.step (fun p => NoLatePublication p.log) p turns := by
  have hsound : Runs.Throughout Projection.step Sound p turns :=
    Runs.throughout_of_step (P := Sound) (fun _ turn hp => hp.step turn) h.sound turns
  exact hsound.mono fun _ hp => hp.quiet

/-- One credential, and no lock taken. -/
def sample : Projection where
  rows id := if id = 0 then some { Credential.new "5f0c" with path := "netbox/credentials/5f0c" } else none
  nextId := 1
  locks := Locks.free
  sessions _ := .idle
  log := []

theorem sample_initial : sample.Initial where
  idle _ := rfl
  fresh id hid := by
    by_cases hzero : id = 0
    · rw [hzero]
      decide
    · simp [sample, hzero] at hid
  log := rfl

/-- Two publishers have read the row when the deletion begins. The first publishes while the deletion waits for the
lock, the second waits for the deletion. -/
def crossing : List (Nat × ProjectionMove) :=
  [(1, .deferCustomMetadata 0), (2, .deferCustomMetadata 0), (1, .reloadSource), (2, .reloadSource), (3, .begin),
    (1, .lockCustomMetadataProjection), (3, .serializeMaterialDelete 0), (1, .selectCredential), (1, .setMetadata),
    (1, .leaveAtomic), (3, .serializeMaterialDelete 0), (3, .delete 0), (2, .lockCustomMetadataProjection),
    (3, .commit), (2, .lockCustomMetadataProjection), (3, .deleteMaterial), (2, .selectCredential)]

theorem deleted_credential_unpublished_crossing :
    (Runs.final step sample crossing).log = [.setMetadata 0 ⟨0, "netbox/credentials/5f0c"⟩, .deleted 0, .destroyed 0] ∧
    NoLatePublication (Runs.final step sample crossing).log :=
  ⟨by decide, (deleted_credential_unpublished sample_initial crossing).final⟩

end Projection

end NetboxOpenbao
