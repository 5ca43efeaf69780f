import NetboxOpenbao.Deletion
import NetboxOpenbao.Effect.Runs

/-!
# What becomes of the material of deleted rows

The callback that destroys material hangs on the default connection, wherever the row was deleted. For rows of the
default database its transaction is the one that decides. For rows of another it is not, and a callback registered
outside any transaction of the default connection is not deferred at all.
-/

namespace NetboxOpenbao

open Effect

namespace Connections

/-- Material is destroyed only for deletions that have been committed. -/
def Kept (c : Connections) : Prop := ∀ d ∈ c.destroyed, d ∈ c.committed

/-- What the connection of `alias` holds in an open transaction: deletions of its own that are not committed yet,
and on the default connection the callbacks, those for its own rows along with their deletions. -/
structure Pending (nextNumber : Nat) (committed : List Deletion) («alias» : Alias) (work hooks : List Deletion) :
    Prop where
  own : ∀ d ∈ work, d.alias = «alias»
  below : ∀ d ∈ work, d.number < nextNumber
  undecided : ∀ d ∈ work, d ∉ committed
  hooked : ∀ d ∈ hooks, «alias» = defaultDbAlias ∧ (d.alias = defaultDbAlias → d ∈ work)

structure Consistent (c : Connections) : Prop where
  pending : ∀ «alias» t, c.transactions «alias» = some t → t.All (Pending c.nextNumber c.committed «alias»)
  below : ∀ d ∈ c.committed, d.number < c.nextNumber

theorem put_self (c : Connections) («alias» : Alias) (x : Option (Nesting Deletion Deletion)) :
    (c.put «alias» x).transactions «alias» = x := by simp [put]

theorem put_of_ne (c : Connections) {a «alias» : Alias} (x : Option (Nesting Deletion Deletion)) (h : a ≠ «alias») :
    (c.put «alias» x).transactions a = c.transactions a := by simp [put, h]

theorem Pending.empty (nextNumber : Nat) (committed : List Deletion) («alias» : Alias) :
    Pending nextNumber committed «alias» [] [] where
  own _ hd := nomatch hd
  below _ hd := nomatch hd
  undecided _ hd := nomatch hd
  hooked _ hd := nomatch hd

theorem Consistent.put {c : Connections} (h : c.Consistent) {«alias» : Alias}
    {x : Option (Nesting Deletion Deletion)} (hx : ∀ t, x = some t → t.All (Pending c.nextNumber c.committed «alias»)) :
    (c.put «alias» x).Consistent := by
  constructor
  · intro a t ht
    by_cases ha : a = «alias»
    · subst ha
      rw [put_self] at ht
      exact hx t ht
    · rw [put_of_ne c x ha] at ht
      exact h.pending a t ht
  · exact h.below

/-- A transaction of `alias` is committed, which concerns no other connection. -/
theorem Consistent.commits {c : Connections} (h : c.Consistent) {«alias» : Alias} {t : Nesting Deletion Deletion}
    (ht : c.transactions «alias» = some t) {durable : List Deletion} (hdurable : ∀ d ∈ durable, d ∈ t.work)
    (destroyed : List Deletion) :
    Consistent { c.put «alias» none with committed := c.committed ++ durable, destroyed } := by
  have hnow : Pending c.nextNumber c.committed «alias» t.work t.hooks := (h.pending «alias» t ht).now
  constructor
  · intro a t' ht'
    have hne : a ≠ «alias» := by
      rintro rfl
      rw [show _ = none from put_self c a none] at ht'
      cases ht'
    rw [show _ = c.transactions a from put_of_ne c none hne] at ht'
    apply (h.pending a t' ht').mono
    intro work hooks hpending
    refine ⟨hpending.own, hpending.below, ?_, hpending.hooked⟩
    intro d hd hin
    rcases List.mem_append.mp hin with hold | hnew
    · exact hpending.undecided d hd hold
    · exact hne ((hpending.own d hd).symm.trans (hnow.own d (hdurable d hnew)))
  · intro d hd
    rcases List.mem_append.mp hd with hold | hnew
    · exact h.below d hold
    · exact hnow.below d (hdurable d hnew)

theorem Consistent.commit {c : Connections} (h : c.Consistent) {«alias» : Alias} {t : Nesting Deletion Deletion}
    (ht : c.transactions «alias» = some t) (outcome : CommitOutcome) : (c.commit «alias» t outcome).Consistent := by
  have hgone : (c.put «alias» none).Consistent := h.put fun _ hx => by cases hx
  have hdurable : ∀ d ∈ (if t.aborted then [] else t.work), d ∈ t.work := by
    intro d hd
    split at hd
    · cases hd
    · exact hd
  unfold Connections.commit
  dsimp only
  split
  · exact hgone
  · cases outcome with
    | committed => exact h.commits ht hdurable (c.destroyed ++ t.hooks)
    | refused => exact hgone
    | lost => exact h.commits ht hdurable c.destroyed

theorem mem_numbered {«alias» : Alias} {number : Nat} {pks : List Nat} {d : Deletion}
    (h : d ∈ numbered «alias» number pks) :
    d.alias = «alias» ∧ number ≤ d.number ∧ d.number < number + pks.length := by
  induction pks generalizing number with
  | nil => cases h
  | cons pk pks ih =>
      rcases List.mem_cons.mp h with rfl | hrest
      · simp
      · obtain ⟨halias, hlow, hhigh⟩ := ih hrest
        refine ⟨halias, by omega, ?_⟩
        simp only [List.length_cons]
        omega

theorem Consistent.deleteBatch {c : Connections} (h : c.Consistent) («alias» : Alias) (pks : List Nat) :
    (c.deleteBatch «alias» pks).Consistent := by
  unfold Connections.deleteBatch
  cases ht : c.transactions «alias» with
  | none => exact h
  | some t =>
      dsimp only
      split
      · exact h
      · let c' : Connections := { c with nextNumber := c.nextNumber + pks.length }
        have hlater : ∀ a work hooks, Pending c.nextNumber c.committed a work hooks →
            Pending c'.nextNumber c'.committed a work hooks := by
          intro a work hooks hpending
          refine ⟨hpending.own, ?_, hpending.undecided, hpending.hooked⟩
          exact fun d hd => Nat.lt_of_lt_of_le (hpending.below d hd) (Nat.le_add_right _ _)
        have hc' : c'.Consistent :=
          ⟨fun a t' ht' => (h.pending a t' ht').mono (hlater a),
            fun d hd => Nat.lt_of_lt_of_le (h.below d hd) (Nat.le_add_right _ _)⟩
        apply hc'.put
        intro t' ht'
        obtain rfl := Option.some.inj ht'
        have hall : t.All (Pending c'.nextNumber c'.committed «alias») := (h.pending «alias» t ht).mono (hlater «alias»)
        apply hall.works
        constructor
        · intro d hd
          rcases List.mem_append.mp hd with hold | hnew
          · exact hall.now.own d hold
          · exact (mem_numbered hnew).1
        · intro d hd
          rcases List.mem_append.mp hd with hold | hnew
          · exact hall.now.below d hold
          · exact (mem_numbered hnew).2.2
        · intro d hd hin
          rcases List.mem_append.mp hd with hold | hnew
          · exact hall.now.undecided d hold hin
          · have hbelow : d.number < c.nextNumber := h.below d hin
            have habove : c.nextNumber ≤ d.number := (mem_numbered hnew).2.1
            omega
        · intro d hd
          refine ⟨(hall.now.hooked d hd).1, fun hd' => ?_⟩
          exact List.mem_append_left _ ((hall.now.hooked d hd).2 hd')

theorem Consistent.destroy {c : Connections} (h : c.Consistent) (d : Deletion) : (c.destroy d).Consistent :=
  ⟨h.pending, h.below⟩

theorem Consistent.destroyMaterialOnDelete {c : Connections} (h : c.Consistent) {d : Deletion}
    {t : Nesting Deletion Deletion} (ht : c.transactions d.alias = some t) (hd : d ∈ t.work) :
    (c.destroyMaterialOnDelete d).Consistent := by
  unfold Connections.destroyMaterialOnDelete
  cases hdefault : c.transactions defaultDbAlias with
  | none => exact h.destroy d
  | some t' =>
      dsimp only
      apply h.put
      intro t'' ht''
      obtain rfl := Option.some.inj ht''
      have hall : t'.All (Pending c.nextNumber c.committed defaultDbAlias) := h.pending defaultDbAlias t' hdefault
      apply hall.hooked
      refine ⟨hall.now.own, hall.now.below, hall.now.undecided, ?_⟩
      intro e he
      rcases List.mem_append.mp he with hold | hnew
      · exact hall.now.hooked e hold
      · obtain rfl := List.mem_singleton.mp hnew
        refine ⟨rfl, fun halias => ?_⟩
        rw [halias, hdefault] at ht
        rw [Option.some.inj ht]
        exact hd

theorem step_postDelete (c : Connections) (d : Deletion) : c.step (.postDelete d) =
    (c.transactions d.alias).elim c fun t => if d ∈ t.work then c.destroyMaterialOnDelete d else c := by
  unfold Connections.step
  dsimp only
  cases c.transactions d.alias with
  | none => rfl
  | some t => rfl

theorem Consistent.step {c : Connections} (h : c.Consistent) (move : DeletionMove) : (c.step move).Consistent := by
  cases move with
  | enterAtomic «alias» savepoint =>
      apply h.put
      intro t ht
      obtain rfl := Option.some.inj ht
      cases hopen : c.transactions «alias» with
      | none => exact Nesting.All.begun (Pending.empty _ _ «alias»)
      | some t => exact (h.pending «alias» t hopen).enter savepoint
  | leaveAtomic «alias» failed outcome =>
      show (c.leaveAtomic «alias» failed outcome).Consistent
      unfold Connections.leaveAtomic
      cases hopen : c.transactions «alias» with
      | none => exact h
      | some t =>
          dsimp only
          split
          · apply h.put
            intro t' ht'
            obtain rfl := Option.some.inj ht'
            exact (h.pending «alias» t hopen).leave failed
          · split
            · exact h.put fun _ hx => by cases hx
            · exact h.commit hopen outcome
  | abort «alias» =>
      apply h.put
      intro t' ht'
      obtain ⟨t, ht, rfl⟩ := Option.map_eq_some_iff.mp ht'
      exact (h.pending «alias» t ht).abort
  | lose «alias» =>
      apply h.put
      intro t' ht'
      obtain ⟨t, ht, rfl⟩ := Option.map_eq_some_iff.mp ht'
      exact (h.pending «alias» t ht).lose
  | deleteBatch «alias» pks => exact h.deleteBatch «alias» pks
  | postDelete d =>
      rw [step_postDelete]
      cases ht : c.transactions d.alias with
      | none => exact h
      | some t =>
          rw [Option.elim_some]
          split
          · next hd => exact h.destroyMaterialOnDelete ht hd
          · exact h

/-- A callback is registered on the transaction it is to wait for, or at least on one that ends later. On the way
in: the default connection is inside an atomic block. On the way out of its transaction: rows of other connections
are committed by now, and rows of its own are committed with it unless the transaction is aborted. -/
def Timely (c : Connections) : DeletionMove → Prop
  | .postDelete d => (∃ t, c.transactions d.alias = some t ∧ d ∈ t.work) →
    (c.transactions defaultDbAlias).isSome = true
  | .leaveAtomic «alias» failed outcome => ∀ t, c.transactions «alias» = some t → t.blocks = [] →
    failed = false → t.needsRollback = false → t.broken = false → outcome = .committed →
    ∀ d ∈ t.hooks, if d.alias = defaultDbAlias then t.aborted = false else d ∈ c.committed
  | _ => True

theorem Kept.grows {c c' : Connections} (h : c.Kept) (hdestroyed : c'.destroyed = c.destroyed)
    (hcommitted : ∀ d ∈ c.committed, d ∈ c'.committed) : c'.Kept := by
  intro d hd
  rw [hdestroyed] at hd
  exact hcommitted d (h d hd)

/-- A callback that runs at once destroys material of a deletion that is still open. -/
theorem Consistent.postDelete_iff {c : Connections} (h : c.Consistent) (hkept : c.Kept) (d : Deletion) :
    (c.step (.postDelete d)).Kept ↔ c.Timely (.postDelete d) := by
  rw [step_postDelete]
  cases ht : c.transactions d.alias with
  | none =>
      refine iff_of_true hkept ?_
      rintro ⟨t, ht', -⟩
      rw [ht] at ht'
      cases ht'
  | some t =>
      by_cases hd : d ∈ t.work
      · have hopen : d ∉ c.committed := (h.pending d.alias t ht).now.undecided d hd
        rw [Option.elim_some, if_pos hd]
        unfold Connections.destroyMaterialOnDelete
        cases hdefault : c.transactions defaultDbAlias with
        | none =>
            refine iff_of_false ?_ ?_
            · intro hafter
              exact hopen (hafter d (List.mem_append_right _ List.mem_cons_self))
            · intro htimely
              have hsome := htimely ⟨t, ht, hd⟩
              rw [hdefault] at hsome
              cases hsome
        | some t' =>
            refine iff_of_true (hkept.grows rfl fun _ hin => hin) fun _ => ?_
            rw [hdefault]
            rfl
      · rw [Option.elim_some, if_neg hd]
        refine iff_of_true hkept ?_
        rintro ⟨t', ht', hd'⟩
        obtain rfl := Option.some.inj (ht.symm.trans ht')
        exact absurd hd' hd

/-- What the callbacks of a committed transaction destroy. -/
theorem Consistent.commit_iff {c : Connections} (h : c.Consistent) (hkept : c.Kept) {«alias» : Alias}
    {t : Nesting Deletion Deletion} (ht : c.transactions «alias» = some t) (outcome : CommitOutcome) :
    (c.commit «alias» t outcome).Kept ↔ (t.broken = false → outcome = .committed →
      ∀ d ∈ t.hooks, if d.alias = defaultDbAlias then t.aborted = false else d ∈ c.committed) := by
  have hnow : Pending c.nextNumber c.committed «alias» t.work t.hooks := (h.pending «alias» t ht).now
  unfold Connections.commit
  dsimp only
  split
  · next hbroken =>
      refine iff_of_true (hkept.grows rfl fun _ hin => hin) fun hfine => ?_
      rw [hbroken] at hfine
      cases hfine
  · next hbroken =>
      cases outcome with
      | refused => exact iff_of_true (hkept.grows rfl fun _ hin => hin) fun _ hout => by cases hout
      | lost =>
          refine iff_of_true (hkept.grows rfl fun _ hin => ?_) fun _ hout => by cases hout
          exact List.mem_append_left _ hin
      | committed =>
          have hone : ∀ d ∈ t.hooks, (d ∈ c.committed ++ (if t.aborted then [] else t.work)) ↔
              if d.alias = defaultDbAlias then t.aborted = false else d ∈ c.committed := by
            intro d hd
            obtain ⟨halias, hown⟩ := hnow.hooked d hd
            by_cases hdefault : d.alias = defaultDbAlias
            · rw [if_pos hdefault]
              have hwork : d ∈ t.work := hown hdefault
              have hopen : d ∉ c.committed := hnow.undecided d hwork
              cases haborted : t.aborted with
              | true => simp [hopen]
              | false => simp [hwork]
            · rw [if_neg hdefault]
              have hforeign : d ∉ t.work := fun hin => hdefault ((hnow.own d hin).trans halias)
              cases haborted : t.aborted with
              | true => simp
              | false => simp [hforeign]
          constructor
          · intro hafter _ _ d hd
            exact (hone d hd).mp (hafter d (List.mem_append_right _ hd))
          · intro htimely d hd
            rcases List.mem_append.mp hd with hold | hnew
            · exact List.mem_append_left _ (hkept d hold)
            · exact (hone d hnew).mpr (htimely (by simpa using hbroken) rfl d hnew)

theorem Consistent.leaveAtomic_iff {c : Connections} (h : c.Consistent) (hkept : c.Kept) («alias» : Alias)
    (failed : Bool) (outcome : CommitOutcome) :
    (c.leaveAtomic «alias» failed outcome).Kept ↔ c.Timely (.leaveAtomic «alias» failed outcome) := by
  unfold Connections.leaveAtomic
  cases ht : c.transactions «alias» with
  | none =>
      refine iff_of_true hkept fun t ht' => ?_
      rw [ht] at ht'
      cases ht'
  | some t =>
      have htimely : c.Timely (.leaveAtomic «alias» failed outcome) ↔ (t.blocks = [] → failed = false →
          t.needsRollback = false → t.broken = false → outcome = .committed →
          ∀ d ∈ t.hooks, if d.alias = defaultDbAlias then t.aborted = false else d ∈ c.committed) := by
        constructor
        · intro hall
          exact hall t ht
        · intro hone t' ht'
          obtain rfl := Option.some.inj (ht.symm.trans ht')
          exact hone
      rw [htimely]
      dsimp only
      cases hblocks : t.blocks with
      | cons block rest =>
          exact iff_of_true (hkept.grows rfl fun _ hin => hin) fun hnil => nomatch hnil
      | nil =>
          dsimp only
          split
          · next hrollback =>
              refine iff_of_true (hkept.grows rfl fun _ hin => hin) fun _ hfailed hneeds => ?_
              rw [hfailed, hneeds] at hrollback
              cases hrollback
          · next hcommits =>
              rw [h.commit_iff hkept ht outcome]
              obtain ⟨hfailed, hneeds⟩ : failed = false ∧ t.needsRollback = false := by simpa using hcommits
              exact ⟨fun hall _ _ _ => hall, fun hall => hall rfl hfailed hneeds⟩

theorem Consistent.kept_step {c : Connections} (h : c.Consistent) (hkept : c.Kept) (move : DeletionMove) :
    (c.step move).Kept ↔ c.Timely move := by
  cases move with
  | enterAtomic «alias» savepoint => exact iff_of_true (hkept.grows rfl fun _ hin => hin) trivial
  | leaveAtomic «alias» failed outcome => exact h.leaveAtomic_iff hkept «alias» failed outcome
  | abort «alias» => exact iff_of_true (hkept.grows rfl fun _ hin => hin) trivial
  | lose «alias» => exact iff_of_true (hkept.grows rfl fun _ hin => hin) trivial
  | deleteBatch «alias» pks =>
      have hsame : (c.deleteBatch «alias» pks).destroyed = c.destroyed ∧
          (c.deleteBatch «alias» pks).committed = c.committed := by
        unfold Connections.deleteBatch
        split
        · exact ⟨rfl, rfl⟩
        · split
          · exact ⟨rfl, rfl⟩
          · exact ⟨rfl, rfl⟩
      refine iff_of_true (hkept.grows hsame.1 fun d hd => ?_) trivial
      show d ∈ (c.deleteBatch «alias» pks).committed
      rw [hsame.2]
      exact hd
  | postDelete d => exact h.postDelete_iff hkept d

/-- No transaction is open, and what was destroyed before had been deleted. -/
structure Closed (c : Connections) : Prop where
  idle : ∀ «alias», c.transactions «alias» = none
  below : ∀ d ∈ c.committed, d.number < c.nextNumber
  kept : c.Kept

theorem Closed.consistent {c : Connections} (h : c.Closed) : c.Consistent where
  pending «alias» t ht := by
    rw [h.idle «alias»] at ht
    cases ht
  below := h.below

/-- In a run of deletions on any connections, material is destroyed only for committed deletions exactly if every
callback is registered, and run, in time. -/
theorem destroyed_after_commit_iff {c : Connections} (h : c.Closed) (moves : List DeletionMove) :
    Runs.Throughout Connections.step Kept c moves ↔ Runs.Along Connections.step Timely c moves := by
  have hevery : Runs.Along Connections.step (fun _ _ => True) c moves :=
    Runs.along_of_forall (fun _ _ => trivial) c moves
  exact Runs.throughout_iff_along (I := Consistent) (fun _ move hI _ => hI.step move)
    (fun _ move hI _ hP => hI.kept_step hP move) h.consistent h.kept hevery

/-- A process that has done nothing yet. -/
def sample : Connections := ⟨fun _ => none, 0, [], []⟩

theorem sample_closed : sample.Closed := ⟨fun _ => rfl, (fun _ hd => nomatch hd), fun _ hd => nomatch hd⟩

/-- A bulk deletion of two credentials on the default connection, then a third one in a savepoint that is rolled
back. -/
def bulk : List DeletionMove :=
  [.enterAtomic "default" true, .deleteBatch "default" [4, 9], .postDelete ⟨"default", 4, 0⟩,
    .postDelete ⟨"default", 9, 1⟩, .enterAtomic "default" true, .deleteBatch "default" [5],
    .postDelete ⟨"default", 5, 2⟩, .leaveAtomic "default" true .committed, .leaveAtomic "default" false .committed]

theorem destroyed_after_commit_iff_bulk :
    (Runs.final step sample bulk).destroyed = [⟨"default", 4, 0⟩, ⟨"default", 9, 1⟩] ∧
      Runs.Throughout step Kept sample bulk := by
  refine ⟨by decide, (destroyed_after_commit_iff sample_closed bulk).mpr ?_⟩
  refine ⟨trivial, trivial, fun _ => by decide, fun _ => by decide, trivial, trivial, fun _ => by decide, ?_, ?_,
    trivial⟩
  · intro t ht hblocks
    obtain rfl := Option.some.inj ht
    cases hblocks
  · intro t ht _ _ _ _ _ d hd
    obtain rfl := Option.some.inj ht
    revert d
    decide

/-- A deletion on another connection: its transaction is rolled back, and the material is gone. -/
def elsewhere : List DeletionMove :=
  [.enterAtomic "replica" false, .deleteBatch "replica" [7], .postDelete ⟨"replica", 7, 0⟩,
    .leaveAtomic "replica" true .committed]

theorem destroyed_before_rollback :
    (Runs.final step sample elsewhere).committed = [] ∧
      (Runs.final step sample elsewhere).destroyed = [⟨"replica", 7, 0⟩] ∧
      ¬ Runs.Throughout step Kept sample elsewhere := by
  refine ⟨by decide, by decide, fun h => ?_⟩
  have hkept : Kept (Runs.final step sample elsewhere) := h.final
  exact absurd (hkept ⟨"replica", 7, 0⟩ (by decide)) (by decide)

end Connections

end NetboxOpenbao
