import NetboxOpenbao.AuthMaterial
import NetboxOpenbao.Coding.Delimited
import NetboxOpenbao.Effect.Runs

/-!
# Saves of one row from stale instances

Between the lock and the write of a save nobody else can change the row, so that a save counts up the revision that is
committed and leaves the columns it submits nothing for as they are committed. What is set on an instance is submitted
unless it is what the instance has been loaded with.
-/

namespace NetboxOpenbao

open Effect Runs

/-! ### What one save does -/

namespace MaterialInstance

variable {material : MaterialInstance} {updateFields : Option (List MaterialColumn)} {locked : EngineAuthMaterial}

/-- What is not set is as it was loaded. -/
def Tracked (material : MaterialInstance) : Prop :=
  ∀ c, material.marks c ≠ .set → material.columns c = material.loadedAuthValues c

theorem tracked_fromDb (row : EngineAuthMaterial) : (fromDb row).Tracked := fun _ _ => rfl

theorem tracked_saved (row : EngineAuthMaterial) (depth : Nat) : (material.saved updateFields row depth).Tracked :=
  fun _ _ => rfl

theorem tracked_assign (h : material.Tracked) (c : MaterialColumn) (value : c.Value) :
    (material.assign c value).Tracked := by
  intro d hd
  by_cases hsame : d = c
  · subst hsame
    simp [assign] at hd
  · have hmark : material.marks d ≠ .set := by simpa [assign, hsame] using hd
    simpa [assign, hsame] using h d hmark

theorem tracked_committed (h : material.Tracked) : material.committed.Tracked := by
  intro c hc
  refine h c fun hset => hc ?_
  simp [committed, hset]

theorem tracked_rolledBack (h : material.Tracked) (depth : Nat) : (material.rolledBack depth).Tracked := by
  intro c hc
  refine h c fun hset => hc ?_
  simp [rolledBack, hset]

/-- What a save does not ask for it does not submit. -/
theorem submittedFields_of_not_asks (h : material.Tracked) {c : MaterialColumn}
    (hasks : material.asks updateFields c = false) : material.submittedFields updateFields c = false := by
  cases updateFields with
  | some names => exact hasks
  | none =>
      have hmark : material.marks c = .read := by simpa [asks] using hasks
      have hsame := h c (by rw [hmark]; nofun)
      simp [submittedFields, hsame]

/-- What is set on the instance takes effect in a save over `visible`: it is not what the instance was loaded with, or
the row has it already. -/
def TakesEffect (material : MaterialInstance) (visible : EngineAuthMaterial) : Prop :=
  ∀ c, material.marks c ≠ .read →
    material.columns c ≠ material.loadedAuthValues c ∨ visible.columns c = material.columns c

theorem merge_untouched (h : material.Tracked) {c : MaterialColumn} (hnone : material.sets updateFields c = none) :
    (material.merge (material.submittedFields updateFields) locked).columns c = locked.columns c := by
  have hasks : material.asks updateFields c = false := by
    cases hasks : material.asks updateFields c with
    | false => rfl
    | true => simp [sets, hasks] at hnone
  simp [merge, submittedFields_of_not_asks h hasks]

theorem merge_overlay (h : material.Tracked) (htakes : updateFields = none → material.TakesEffect locked) :
    (material.merge (material.submittedFields updateFields) locked).columns =
      overlay locked.columns (material.sets updateFields) := by
  funext c
  cases hasks : material.asks updateFields c with
  | false =>
      have hnone : material.sets updateFields c = none := by simp [sets, hasks]
      rw [merge_untouched h hnone, overlay_none hnone]
  | true =>
      have hsome : material.sets updateFields c = some (material.columns c) := by simp [sets, hasks]
      rw [overlay_some hsome]
      cases updateFields with
      | some names =>
          have hnamed : names.contains c = true := hasks
          simp only [merge, submittedFields, hnamed, if_true]
      | none =>
          have hmark : material.marks c ≠ .read := by simpa [asks] using hasks
          rcases htakes rfl c hmark with hchanged | hpresent
          · simp [merge, submittedFields, hchanged]
          · simp only [merge]
            split
            · rfl
            · exact hpresent

end MaterialInstance

/-! ### Sessions -/

variable {σ ν : Type}

/-- The columns a save is not to set are as below it, and the revision is the next one. -/
def SavedMaterial.Advances (below : EngineAuthMaterial) (save : SavedMaterial) : Prop :=
  save.row.revision = below.revision + 1 ∧ ∀ c, save.sets c = none → save.row.columns c = below.columns c

/-- A save has the row locked, or the transaction has written it. -/
def MaterialSession.Engaged (session : MaterialSession ν) : Prop :=
  session.pending ≠ [] ∨ ∃ saving locked, session.saving = some saving ∧ saving.locked = some locked

/-- A session over the committed row `row`. -/
structure MaterialSession.Sound (row : EngineAuthMaterial) (session : MaterialSession ν) : Prop where
  tracked : ∀ name, (session.instances name).Tracked
  submitted : ∀ saving, session.saving = some saving →
    saving.submitted = (session.instances saving.name).submittedFields saving.updateFields
  locked : ∀ saving locked, session.saving = some saving → saving.locked = some locked →
    locked = top SavedMaterial.row row session.pending
  stacked : Stacked SavedMaterial.row SavedMaterial.Advances row session.pending

namespace MaterialSession

variable {session : MaterialSession ν} {row row' : EngineAuthMaterial}

theorem pending_of_not_engaged (h : ¬ session.Engaged) : session.pending = [] := by
  cases hpending : session.pending with
  | nil => rfl
  | cons save rest => exact absurd (.inl (by rw [hpending]; nofun)) h

/-- Outside a save it is the transaction that has written the row. -/
theorem Engaged.pending (h : session.Engaged) (hidle : session.saving = none) : session.pending ≠ [] := by
  rcases h with hpending | ⟨saving, locked, hsaving, -⟩
  · exact hpending
  · rw [hidle] at hsaving
    cases hsaving

/-- A session that is not engaged is as sound over any row. -/
theorem Sound.of_not_engaged (h : session.Sound row) (hfree : ¬ session.Engaged) : session.Sound row' where
  tracked := h.tracked
  submitted := h.submitted
  locked saving locked hsaving hlocked := absurd (.inr ⟨saving, locked, hsaving, hlocked⟩) hfree
  stacked := by
    rw [pending_of_not_engaged hfree]
    trivial

end MaterialSession

/-! ### The system -/

namespace MaterialSystem

variable {system : MaterialSystem σ ν} {s : σ}

/-- Every session is sound, and only the one that has the lock is engaged. -/
structure Sound (system : MaterialSystem σ ν) : Prop where
  sessions : ∀ s, (system.sessions s).Sound system.row
  held : ∀ s, (system.sessions s).Engaged → system.holder = some s

/-- While a session is engaged no other is. -/
theorem Sound.free_of_engaged (h : system.Sound) (hengaged : (system.sessions s).Engaged) {t : σ} (hne : t ≠ s) :
    ¬ (system.sessions t).Engaged := by
  intro hother
  exact hne (Option.some.inj ((h.held t hother).symm.trans (h.held s hengaged)))

variable [DecidableEq σ]

/-- One session changes, and the committed row does not. -/
theorem Sound.setSession (h : system.Sound) {session : MaterialSession ν} (hsound : session.Sound system.row)
    (hheld : session.Engaged → system.holder = some s) : (system.setSession s session).Sound where
  sessions t := by
    by_cases hsame : t = s
    · subst hsame
      simpa [MaterialSystem.setSession] using hsound
    · simpa [MaterialSystem.setSession, hsame] using h.sessions t
  held t hengaged := by
    by_cases hsame : t = s
    · subst hsame
      exact hheld (by simpa [MaterialSystem.setSession] using hengaged)
    · exact h.held t (by simpa [MaterialSystem.setSession, hsame] using hengaged)

/-- A session that is not engaged gives the lock up. -/
theorem Sound.release (h : system.Sound) (hfree : ¬ (system.sessions s).Engaged) : (system.release s).Sound where
  sessions := h.sessions
  held t hengaged := by
    have hholder := h.held t hengaged
    have hne : system.holder ≠ some s := by
      intro hsame
      obtain rfl : t = s := Option.some.inj (hholder.symm.trans hsame)
      exact hfree hengaged
    simpa [MaterialSystem.release, hne] using hholder

/-- The committed row may change when nobody but `s` is engaged and `s` gives everything up. -/
theorem Sound.setRow (h : system.Sound) (hengaged : (system.sessions s).Engaged) {row : EngineAuthMaterial}
    {session : MaterialSession ν} (hsound : session.Sound row) (hfree : ¬ session.Engaged)
    (log : List (Sets MaterialColumn MaterialColumn.Value)) (contents : List EngineAuthMaterial) :
    ({ system with row, log, contents }.setSession s session).Sound where
  sessions t := by
    by_cases hsame : t = s
    · subst hsame
      simpa [MaterialSystem.setSession] using hsound
    · simpa [MaterialSystem.setSession, hsame] using (h.sessions t).of_not_engaged (h.free_of_engaged hengaged hsame)
  held t hnow := by
    by_cases hsame : t = s
    · subst hsame
      exact absurd (by simpa [MaterialSystem.setSession] using hnow) hfree
    · exact absurd (by simpa [MaterialSystem.setSession, hsame] using hnow) (h.free_of_engaged hengaged hsame)

end MaterialSystem

/-! ### Steps of a session -/

namespace MaterialSession

variable {session : MaterialSession ν} {row : EngineAuthMaterial} {saving : Saving ν}

/-- A call of `save` begins. -/
theorem Sound.begin_save (h : session.Sound row) (name : ν) (updateFields : Option (List MaterialColumn)) :
    { session with
      saving := some ⟨name, updateFields, (session.instances name).submittedFields updateFields, none⟩ }.Sound row where
  tracked := h.tracked
  submitted saving hsaving := by
    cases hsaving
    rfl
  locked saving locked hsaving hlocked := by
    cases hsaving
    cases hlocked
  stacked := h.stacked

theorem Sound.commit (h : session.Sound row) (hidle : session.saving = none) {row' : EngineAuthMaterial} :
    { session with
      instances := fun name => (session.instances name).committed, pending := [] }.Sound row' where
  tracked name := MaterialInstance.tracked_committed (h.tracked name)
  submitted saving hsaving := by
    rw [hidle] at hsaving
    cases hsaving
  locked saving _ hsaving := by
    rw [hidle] at hsaving
    cases hsaving
  stacked := trivial

theorem Sound.rollback (h : session.Sound row) (hidle : session.saving = none) (depth : Nat) :
    { session with
      instances := fun name => (session.instances name).rolledBack depth
      pending := session.pending.drop (session.pending.length - depth) }.Sound row where
  tracked name := MaterialInstance.tracked_rolledBack (h.tracked name) depth
  submitted saving hsaving := by
    rw [hidle] at hsaving
    cases hsaving
  locked saving _ hsaving := by
    rw [hidle] at hsaving
    cases hsaving
  stacked := h.stacked.drop _

/-- The save has locked the row. -/
theorem Sound.lock (h : session.Sound row) (hsaving : session.saving = some saving) :
    { session with
      saving := some { saving with locked := some (top SavedMaterial.row row session.pending) } }.Sound row where
  tracked := h.tracked
  submitted other hother := by
    cases hother
    exact h.submitted saving hsaving
  locked other locked hother hlocked := by
    cases hother
    cases hlocked
    rfl
  stacked := h.stacked

theorem Sound.fail (h : session.Sound row) : { session with saving := none }.Sound row where
  tracked := h.tracked
  submitted saving hsaving := by cases hsaving
  locked saving _ hsaving := by cases hsaving
  stacked := h.stacked

variable [DecidableEq ν]

/-- Between two saves an instance may be read or set. -/
theorem Sound.set_instance (h : session.Sound row) (hidle : session.saving = none) {material : MaterialInstance}
    (hmaterial : material.Tracked) (name : ν) :
    { session with instances := Function.update session.instances name material }.Sound row where
  tracked other := by
    by_cases hsame : other = name
    · subst hsame
      simpa using hmaterial
    · simpa [hsame] using h.tracked other
  submitted saving hsaving := by
    rw [hidle] at hsaving
    cases hsaving
  locked saving _ hsaving := by
    rw [hidle] at hsaving
    cases hsaving
  stacked := h.stacked

/-- The save has written the row it has locked. -/
theorem Sound.write (h : session.Sound row) (hsaving : session.saving = some saving) {locked : EngineAuthMaterial}
    (hlocked : saving.locked = some locked) (depth : Nat) :
    { instances := Function.update session.instances saving.name
        ((session.instances saving.name).saved saving.updateFields
          ((session.instances saving.name).merge saving.submitted locked) depth)
      saving := none
      pending := ⟨(session.instances saving.name).merge saving.submitted locked,
          (session.instances saving.name).sets saving.updateFields⟩ :: session.pending :
        MaterialSession ν }.Sound row where
  tracked other := by
    by_cases hsame : other = saving.name
    · subst hsame
      simpa using MaterialInstance.tracked_saved _ _
    · simpa [hsame] using h.tracked other
  submitted other hother := by cases hother
  locked other _ hother := by cases hother
  stacked := by
    refine ⟨?_, h.stacked⟩
    rw [← h.locked saving locked hsaving hlocked, h.submitted saving hsaving]
    exact ⟨rfl, fun c hnone => MaterialInstance.merge_untouched (h.tracked saving.name) hnone⟩

end MaterialSession

/-! ### Steps of the system -/

namespace MaterialSystem

variable {system : MaterialSystem σ ν}

theorem engaged_of_pending {s : σ} {save : SavedMaterial} {rest : List SavedMaterial}
    (hpending : (system.sessions s).pending = save :: rest) : (system.sessions s).Engaged :=
  .inl (by rw [hpending]; nofun)

variable [DecidableEq σ] [DecidableEq ν]

theorem idle_sound (h : system.Sound) {s : σ} (hidle : (system.sessions s).saving = none) (event : MaterialEvent ν) :
    (system.idle s event).Sound := by
  cases event with
  | load name =>
      refine h.setSession ((h.sessions s).set_instance hidle (MaterialInstance.tracked_fromDb _) name) ?_
      intro hengaged
      exact h.held s (.inl (hengaged.pending hidle))
  | assign name c value =>
      refine h.setSession ((h.sessions s).set_instance hidle
        (MaterialInstance.tracked_assign ((h.sessions s).tracked name) c value) name) ?_
      intro hengaged
      exact h.held s (.inl (hengaged.pending hidle))
  | save name updateFields =>
      refine h.setSession ((h.sessions s).begin_save name updateFields) ?_
      rintro (hnow | ⟨saving, locked, hsaving, hlocked⟩)
      · exact h.held s (.inl hnow)
      · cases hsaving
        cases hlocked
  | selectForUpdate => exact h
  | write => exact h
  | fail => exact h
  | commit =>
      unfold idle
      dsimp only
      split
      · exact h
      · next newest earlier hnewest =>
          have hfree : ¬ ({ system.sessions s with
              instances := fun name => ((system.sessions s).instances name).committed
              pending := [] } : MaterialSession ν).Engaged := fun hengaged => hengaged.pending hidle rfl
          refine Sound.release (h.setRow (engaged_of_pending hnewest) ((h.sessions s).commit hidle) hfree _ _) ?_
          simpa [setSession] using hfree
  | rollback depth =>
      unfold idle
      dsimp only
      have hafter := h.setSession ((h.sessions s).rollback hidle depth) (s := s) fun hengaged => by
        refine h.held s (.inl fun hnil => hengaged.pending hidle ?_)
        simp [hnil]
      split
      · next hempty =>
          refine hafter.release fun hengaged => hengaged.pending ?_ ?_
          · simpa [setSession] using hidle
          · simpa [setSession] using hempty
      · exact hafter

theorem inSave_sound (h : system.Sound) {s : σ} {saving : Saving ν}
    (hsaving : (system.sessions s).saving = some saving) (event : MaterialEvent ν) :
    (system.inSave s saving event).Sound := by
  unfold inSave
  dsimp only
  split
  · split
    · next hopen =>
        have hheld : ({ system with holder := some s } : MaterialSystem σ ν).Sound :=
          { sessions := h.sessions
            held := fun t hengaged => by
              have hholder := h.held t hengaged
              rcases hopen with hfree | hown
              · rw [hfree] at hholder
                cases hholder
              · rw [hown] at hholder
                exact hholder }
        exact hheld.setSession ((h.sessions s).lock hsaving) fun _ => rfl
    · exact h
  · next locked hlocked =>
      refine h.setSession ((h.sessions s).write hsaving hlocked _) fun _ => ?_
      exact h.held s (.inr ⟨saving, locked, hsaving, hlocked⟩)
  · have hafter := h.setSession (h.sessions s).fail (s := s) fun hengaged => by
      refine h.held s ?_
      rcases hengaged with hpending | ⟨other, -, hother, -⟩
      · exact .inl hpending
      · cases hother
    split
    · next hempty =>
        refine hafter.release ?_
        rintro (hpending | ⟨other, -, hother, -⟩)
        · exact hpending (by simpa [setSession] using hempty)
        · simp [setSession] at hother
    · exact hafter
  · exact h

theorem step_sound (h : system.Sound) (action : σ × MaterialEvent ν) : (system.step action).Sound := by
  unfold step
  split
  · next hidle => exact idle_sound h hidle action.2
  · next saving hsaving => exact inSave_sound h hsaving action.2

/-! ### What is committed -/

/-- A step leaves what is committed, or it commits the saves of a transaction. -/
theorem step_committed (system : MaterialSystem σ ν) (action : σ × MaterialEvent ν) :
    ((system.step action).row = system.row ∧ (system.step action).log = system.log ∧
        (system.step action).contents = system.contents) ∨
      ∃ newest earlier, (system.sessions action.1).pending = newest :: earlier ∧
        (system.step action).row = newest.row ∧
        (system.step action).log = system.log ++ (newest :: earlier).reverse.map SavedMaterial.sets ∧
        (system.step action).contents = system.contents ++ [newest.row] := by
  obtain ⟨s, event⟩ := action
  unfold step
  split
  · cases event with
    | commit =>
        unfold idle
        dsimp only
        split
        · exact .inl ⟨rfl, rfl, rfl⟩
        · next newest earlier hpending => exact .inr ⟨newest, earlier, hpending, rfl, rfl, rfl⟩
    | rollback depth =>
        unfold idle
        dsimp only
        split <;> exact .inl ⟨rfl, rfl, rfl⟩
    | load name => exact .inl ⟨rfl, rfl, rfl⟩
    | assign name c value => exact .inl ⟨rfl, rfl, rfl⟩
    | save name updateFields => exact .inl ⟨rfl, rfl, rfl⟩
    | selectForUpdate => exact .inl ⟨rfl, rfl, rfl⟩
    | write => exact .inl ⟨rfl, rfl, rfl⟩
    | fail => exact .inl ⟨rfl, rfl, rfl⟩
  · refine .inl ?_
    unfold inSave
    dsimp only
    split
    · split <;> exact ⟨rfl, rfl, rfl⟩
    · exact ⟨rfl, rfl, rfl⟩
    · split <;> exact ⟨rfl, rfl, rfl⟩
    · exact ⟨rfl, rfl, rfl⟩

/-- A step leaves what is committed, or it commits saves: they count the revision up, each by one, and a column that
none of them sets stays as it is committed. -/
def Advances (system : MaterialSystem σ ν) (action : σ × MaterialEvent ν) : Prop :=
  ((system.step action).row = system.row ∧ (system.step action).log = system.log ∧
      (system.step action).contents = system.contents) ∨
    ∃ saves, saves ≠ [] ∧ (system.step action).log = system.log ++ saves ∧
      (system.step action).contents = system.contents ++ [(system.step action).row] ∧
      (system.step action).row.revision = system.row.revision + saves.length ∧
      ∀ c, (∀ sets ∈ saves, sets c = none) → (system.step action).row.columns c = system.row.columns c

theorem advances_of_sound (h : system.Sound) (action : σ × MaterialEvent ν) : system.Advances action := by
  rcases step_committed system action with hsame | ⟨newest, earlier, hpending, hrow, hlog, hcontents⟩
  · exact .inl hsame
  · have hstacked := (h.sessions action.1).stacked
    rw [hpending] at hstacked
    have htop : top SavedMaterial.row system.row (newest :: earlier) = newest.row := rfl
    have hcount := Stacked.count EngineAuthMaterial.revision (hstacked.mono fun _ _ hstep => hstep.1)
    have hleft : ∀ c, (∀ save ∈ newest :: earlier, save.sets c = none) → newest.row.columns c = system.row.columns c :=
      fun c hnone => Stacked.untouched (hstacked.mono fun _ _ hstep => hstep.2) hnone
    refine .inr ⟨_, ?_, hlog, ?_, ?_, ?_⟩
    · simp
    · rw [hcontents, hrow]
    · rw [hrow, List.length_map, List.length_reverse, ← hcount, htop]
    · intro c hnone
      rw [hrow]
      refine hleft c fun save hsave => hnone _ ?_
      exact List.mem_map_of_mem (List.mem_reverse.mpr hsave)

/-- The committed contents have the revisions of their order. -/
structure Ordered (system : MaterialSystem σ ν) : Prop where
  increasing : system.contents.Pairwise fun earlier later => earlier.revision < later.revision
  last : ∀ content ∈ system.contents, content.revision ≤ system.row.revision

theorem step_ordered (h : system.Ordered) {action : σ × MaterialEvent ν} (hadvances : system.Advances action) :
    (system.step action).Ordered := by
  rcases hadvances with ⟨hrow, -, hcontents⟩ | ⟨saves, hsome, -, hcontents, hrevision, -⟩
  · exact ⟨hcontents ▸ h.increasing, by rw [hcontents, hrow]; exact h.last⟩
  · have hpositive : 0 < saves.length := List.length_pos_iff.mpr hsome
    have hbefore : ∀ content ∈ system.contents, content.revision < (system.step action).row.revision := by
      intro content hcontent
      have hle := h.last content hcontent
      omega
    constructor
    · rw [hcontents, List.pairwise_append]
      refine ⟨h.increasing, List.pairwise_singleton _ _, fun content hcontent newest hnewest => ?_⟩
      rw [List.mem_singleton.mp hnewest]
      exact hbefore content hcontent
    · intro content hcontent
      rw [hcontents] at hcontent
      rcases List.mem_append.mp hcontent with hold | hnew
      · exact Nat.le_of_lt (hbefore content hold)
      · obtain rfl := List.mem_singleton.mp hnew
        exact Nat.le_refl _

/-! ### The last writer of a column -/

/-- What is set on the instance of the save that writes now takes effect. -/
def TakesEffect (system : MaterialSystem σ ν) (action : σ × MaterialEvent ν) : Prop :=
  ∀ saving, action.2 = .write → (system.sessions action.1).saving = some saving → saving.updateFields = none →
    ((system.sessions action.1).instances saving.name).TakesEffect (system.visible action.1)

def Lays (below : EngineAuthMaterial) (save : SavedMaterial) : Prop :=
  save.row.columns = overlay below.columns save.sets

end MaterialSystem

namespace MaterialSystem

variable [DecidableEq σ] {system : MaterialSystem σ ν} {first : MaterialColumns}

/-- The committed columns, and those of the open transactions, are what the saves were to set. -/
structure Kept (first : MaterialColumns) (system : MaterialSystem σ ν) : Prop where
  row : system.row.columns = overlays first system.log
  stacked : ∀ s, Stacked SavedMaterial.row Lays system.row (system.sessions s).pending

theorem Kept.setSession (h : Kept first system) (s : σ) (session : MaterialSession ν)
    (hstacked : Stacked SavedMaterial.row Lays system.row session.pending) :
    Kept first (system.setSession s session) where
  row := h.row
  stacked t := by
    by_cases hsame : t = s
    · subst hsame
      simpa [MaterialSystem.setSession] using hstacked
    · simpa [MaterialSystem.setSession, hsame] using h.stacked t

theorem Kept.release (h : Kept first system) (s : σ) : Kept first (system.release s) := ⟨h.row, h.stacked⟩

theorem Kept.commit (hsound : system.Sound) (h : Kept first system) {s : σ} {newest : SavedMaterial}
    {earlier : List SavedMaterial} (hpending : (system.sessions s).pending = newest :: earlier)
    {session : MaterialSession ν} (hnone : session.pending = []) (contents : List EngineAuthMaterial) :
    Kept first ({ system with
      row := newest.row
      log := system.log ++ (newest :: earlier).reverse.map SavedMaterial.sets
      contents }.setSession s session) where
  row := by
    have hstacked := h.stacked s
    rw [hpending] at hstacked
    have hlaid := Stacked.overlays EngineAuthMaterial.columns SavedMaterial.sets hstacked
    rw [top_cons, h.row] at hlaid
    exact hlaid.trans (overlays_append _ _ _).symm
  stacked t := by
    by_cases hsame : t = s
    · subst hsame
      simp [MaterialSystem.setSession, hnone, Stacked]
    · have hfree := hsound.free_of_engaged (engaged_of_pending hpending) hsame
      simp [MaterialSystem.setSession, hsame, MaterialSession.pending_of_not_engaged hfree, Stacked]

variable [DecidableEq ν]

theorem step_kept (hsound : system.Sound) (h : Kept first system) {action : σ × MaterialEvent ν}
    (htakes : system.TakesEffect action) : Kept first (system.step action) := by
  obtain ⟨s, event⟩ := action
  unfold step
  split
  · cases event with
    | load name => exact h.setSession s _ (h.stacked s)
    | assign name c value => exact h.setSession s _ (h.stacked s)
    | save name updateFields => exact h.setSession s _ (h.stacked s)
    | selectForUpdate => exact h
    | write => exact h
    | fail => exact h
    | commit =>
        unfold idle
        dsimp only
        split
        · exact h
        · next newest earlier hpending => exact (Kept.commit hsound h hpending rfl _).release s
    | rollback depth =>
        unfold idle
        dsimp only
        have hafter := h.setSession s { system.sessions s with
          instances := fun name => ((system.sessions s).instances name).rolledBack depth
          pending := (system.sessions s).pending.drop ((system.sessions s).pending.length - depth) }
          ((h.stacked s).drop _)
        split
        · exact hafter.release s
        · exact hafter
  · next saving hsaving =>
      unfold inSave
      dsimp only
      split
      · split
        · have hlocked : Kept first { system with holder := some s } := ⟨h.row, h.stacked⟩
          exact hlocked.setSession s _ (h.stacked s)
        · exact h
      · next locked hlocked =>
          refine h.setSession s _ ⟨?_, h.stacked s⟩
          have hvisible := (hsound.sessions s).locked saving locked hsaving hlocked
          rw [← hvisible, (hsound.sessions s).submitted saving hsaving]
          refine MaterialInstance.merge_overlay ((hsound.sessions s).tracked saving.name) fun hnone => ?_
          rw [hvisible]
          exact htakes saving rfl hsaving hnone
      · have hafter := h.setSession s { system.sessions s with saving := none } (h.stacked s)
        split
        · exact hafter.release s
        · exact hafter
      · exact h

/-- Every column has the value of the last committed save that was to set it. -/
def LastWriter (first : MaterialColumns) (system : MaterialSystem σ ν) : Prop :=
  (∀ before sets after c value, system.log = before ++ sets :: after → sets c = some value →
      (∀ later ∈ after, later c = none) → system.row.columns c = value) ∧
    ∀ c, (∀ sets ∈ system.log, sets c = none) → system.row.columns c = first c

omit [DecidableEq σ] [DecidableEq ν] in
theorem Kept.lastWriter (h : Kept first system) : LastWriter first system := by
  constructor
  · intro before sets after c value hlog hset hafter
    rw [h.row, hlog]
    exact overlays_last hset hafter
  · intro c hnone
    rw [h.row]
    exact overlays_untouched hnone

/-- No save is under way and no transaction open. The instances may have been loaded at any earlier time. -/
structure Begun (system : MaterialSystem σ ν) : Prop where
  log : system.log = []
  contents : system.contents = [system.row]
  saving : ∀ s, (system.sessions s).saving = none
  pending : ∀ s, (system.sessions s).pending = []
  unset : ∀ s name c, ((system.sessions s).instances name).marks c = .read
  loaded : ∀ s name, ((system.sessions s).instances name).columns =
    ((system.sessions s).instances name).loadedAuthValues

omit [DecidableEq σ] [DecidableEq ν] in
theorem Begun.sound (h : system.Begun) : system.Sound where
  sessions s :=
    { tracked := fun name c _ => congrFun (h.loaded s name) c
      submitted := fun saving hsaving => by
        rw [h.saving s] at hsaving
        cases hsaving
      locked := fun saving _ hsaving => by
        rw [h.saving s] at hsaving
        cases hsaving
      stacked := by
        rw [h.pending s]
        trivial }
  held s hengaged := absurd (h.pending s) (hengaged.pending (h.saving s))

omit [DecidableEq σ] [DecidableEq ν] in
theorem Begun.ordered (h : system.Begun) : system.Ordered where
  increasing := by
    rw [h.contents]
    exact List.pairwise_singleton _ _
  last content hcontent := by
    rw [h.contents] at hcontent
    obtain rfl := List.mem_singleton.mp hcontent
    exact Nat.le_refl _

omit [DecidableEq σ] [DecidableEq ν] in
theorem Begun.kept (h : system.Begun) : Kept system.row.columns system where
  row := by rw [h.log, overlays_nil]
  stacked s := by
    rw [h.pending s]
    trivial

end MaterialSystem

theorem cacheIdentity_revision {pk : Nat} {content other : EngineAuthMaterial}
    (h : content.cacheIdentity pk = other.cacheIdentity pk) : content.revision = other.revision := by
  unfold EngineAuthMaterial.cacheIdentity at h
  have hrepr : content.revision.repr = other.revision.repr := (String.append_right_inj _).mp h
  have hdigits := congrArg String.toList hrepr
  rw [Nat.toList_repr, Nat.toList_repr] at hdigits
  exact Coding.toDigits_inj hdigits

/-- Whatever the order of the steps, a committed save counts the revision up and leaves what it was not to set, and no
two committed contents have one cache identity. The last writer of every column is kept in every run in which what the
writers set takes effect. -/
theorem material_saves_keep_last_writer [DecidableEq σ] [DecidableEq ν] (system : MaterialSystem σ ν)
    (hbegun : system.Begun) (pk : Nat) (actions : List (σ × MaterialEvent ν)) :
    Along MaterialSystem.step MaterialSystem.Advances system actions ∧
      Throughout MaterialSystem.step
        (fun later => later.contents.Pairwise fun content other => content.cacheIdentity pk ≠ other.cacheIdentity pk)
        system actions ∧
      (Along MaterialSystem.step MaterialSystem.TakesEffect system actions →
        Throughout MaterialSystem.step (MaterialSystem.LastWriter system.row.columns) system actions) := by
  have hsound : Throughout MaterialSystem.step MaterialSystem.Sound system actions :=
    throughout_of_step (P := MaterialSystem.Sound) (fun _ action h => MaterialSystem.step_sound h action)
      hbegun.sound actions
  have hordered : Throughout MaterialSystem.step (fun later => later.Sound ∧ later.Ordered) system actions :=
    throughout_of_step (P := fun later : MaterialSystem σ ν => later.Sound ∧ later.Ordered) (fun _ action h =>
      ⟨MaterialSystem.step_sound h.1 action,
        MaterialSystem.step_ordered h.2 (MaterialSystem.advances_of_sound h.1 action)⟩)
      ⟨hbegun.sound, hbegun.ordered⟩ actions
  refine ⟨?_, ?_, fun htakes => ?_⟩
  · exact along_of_throughout (C := fun _ _ => True) (fun _ action h _ => MaterialSystem.advances_of_sound h action)
      hsound (along_of_forall (fun _ _ => trivial) _ _)
  · refine hordered.mono fun later h => h.2.increasing.imp fun hlt hsame => ?_
    have hrevision := cacheIdentity_revision hsame
    omega
  · have hkept : Throughout MaterialSystem.step
        (fun later => later.Sound ∧ MaterialSystem.Kept system.row.columns later) system actions :=
      throughout_of_along (P := fun later : MaterialSystem σ ν => later.Sound ∧ MaterialSystem.Kept system.row.columns later)
        (fun _ action h hstep => ⟨MaterialSystem.step_sound h.1 action, MaterialSystem.step_kept h.1 h.2 hstep⟩)
        ⟨hbegun.sound, hbegun.kept⟩ htakes
    exact hkept.mono fun _ h => h.2.lastWriter

namespace Sample

/-- A row whose token is blank. -/
def blankMaterial : EngineAuthMaterial where
  columns
    | .engine => some 1
    | .policy => none
    | .cluster => none
    | .ciphertext .roleId => "v1:r"
    | .ciphertext _ => ""
  revision := 1

/-- Two sessions, each with an instance of the row it has just loaded. -/
def twoWriters : MaterialSystem Bool Unit where
  row := blankMaterial
  holder := none
  sessions _ := { instances := fun _ => .fromDb blankMaterial, saving := none, pending := [] }
  log := []
  contents := [blankMaterial]

theorem twoWriters_begun : twoWriters.Begun where
  log := rfl
  contents := rfl
  saving _ := rfl
  pending _ := rfl
  unset _ _ _ := rfl
  loaded _ _ := rfl

/-- One session sets or clears a field of its instance and saves it in a transaction of its own. -/
def savedBy (session : Bool) (change : MaterialEvent Unit) : List (Bool × MaterialEvent Unit) :=
  [change, .save () none, .selectForUpdate, .write, .commit].map fun event => (session, event)

/-- Two stale instances, one with a new role and one with a new token. -/
def independentSaves : List (Bool × MaterialEvent Unit) :=
  savedBy true (.setSecret () .roleId "role" "s") ++ savedBy false (.setSecret () .token "token" "t")

/-- A stale instance whose token is blank is cleared after another session has set the token. -/
def staleClear : List (Bool × MaterialEvent Unit) :=
  savedBy true (.setSecret () .token "token" "t") ++ savedBy false (.clearSecret () .token)

theorem independentSaves_takeEffect :
    Along MaterialSystem.step MaterialSystem.TakesEffect twoWriters independentSaves := by
  have hother : ∀ (system : MaterialSystem Bool Unit) (session : Bool) (event : MaterialEvent Unit),
      event ≠ .write → system.TakesEffect (session, event) := by
    intro system session event hne saving hwrite
    exact absurd hwrite hne
  refine ⟨hother _ _ _ nofun, hother _ _ _ nofun, hother _ _ _ nofun, ?_, hother _ _ _ nofun, hother _ _ _ nofun,
    hother _ _ _ nofun, hother _ _ _ nofun, ?_, hother _ _ _ nofun, trivial⟩
  · rintro saving - hsaving - c hmark
    cases Option.some.inj hsaving
    cases c with
    | ciphertext field =>
        cases field with
        | roleId => exact .inl (by decide +kernel)
        | _ => exact absurd rfl hmark
    | _ => exact absurd rfl hmark
  · rintro saving - hsaving - c hmark
    cases Option.some.inj hsaving
    cases c with
    | ciphertext field =>
        cases field with
        | token => exact .inl (by decide +kernel)
        | _ => exact absurd rfl hmark
    | _ => exact absurd rfl hmark

end Sample

theorem material_saves_keep_last_writer_independent :
    Along MaterialSystem.step MaterialSystem.Advances Sample.twoWriters Sample.independentSaves ∧
      Throughout MaterialSystem.step (MaterialSystem.LastWriter Sample.blankMaterial.columns) Sample.twoWriters
        Sample.independentSaves := by
  have hall := material_saves_keep_last_writer Sample.twoWriters Sample.twoWriters_begun 7 Sample.independentSaves
  exact ⟨hall.1, hall.2.2 Sample.independentSaves_takeEffect⟩

/-- After a stale instance whose token was blank is cleared and saved, the token another session had set is there
still. -/
theorem stale_clear_lost :
    ¬ ∀ (system : MaterialSystem Bool Unit) (actions : List (Bool × MaterialEvent Unit)), system.Begun →
        Throughout MaterialSystem.step (MaterialSystem.LastWriter system.row.columns) system actions := by
  intro hall
  have hlast := (hall Sample.twoWriters Sample.staleClear Sample.twoWriters_begun).final
  obtain ⟨first, last, hlog, hset⟩ : ∃ first last,
      (final MaterialSystem.step Sample.twoWriters Sample.staleClear).log = [first] ++ last :: [] ∧
        last (.ciphertext .token) = some "" := ⟨_, _, rfl, by decide +kernel⟩
  have hclear := hlast.1 [first] last [] (.ciphertext .token) "" hlog hset nofun
  have htoken : (final MaterialSystem.step Sample.twoWriters Sample.staleClear).row.columns (.ciphertext .token) =
      "v1:t" := by decide +kernel
  rw [htoken] at hclear
  exact absurd hclear (by decide)

end NetboxOpenbao
