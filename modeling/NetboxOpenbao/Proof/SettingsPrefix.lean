import NetboxOpenbao.Effect.Fallible
import NetboxOpenbao.Effect.Runs
import NetboxOpenbao.SettingsPrefix

/-!
# Writes under the prefix lock are serial

`_lock_for_prefix_write` leaves its caller with the lock of the committed settings row or, while there is none, with the
advisory lock that every first insertion needs. So at most one transaction at a time writes anything the prefix is
about, and what its checks saw is still so when it commits, deletions of credentials aside. The committed tables
therefore change as if the operations were executed one at a time, each passing its check on its own.
-/

namespace NetboxOpenbao

open Effect

/-! ### The operations, executed one at a time -/

/-- What an operation has checked when it writes. -/
def PrefixEffect.Admits : PrefixEffect → PrefixTables → Prop
  | .insert row, tables =>
      tables.settings = none ∧ malformedPathPrefix row.pathPrefix = false ∧
        ∀ credential ∈ tables.credentials, credential.path = stampedPath row.pathPrefix credential.uuid
  | .setPrefix pk pathPrefix, tables =>
      malformedPathPrefix pathPrefix = false ∧ ∃ row, tables.settings = some row ∧ row.pk = pk ∧
        (pathPrefix = row.pathPrefix ∨ tables.credentials = [])
  | .deleteSettings _, tables => tables.settings = none ∨ tables.credentials = []
  | .createCredential credential, tables =>
      ∃ pathPrefix, malformedPathPrefix pathPrefix = false ∧
        credential.path = stampedPath pathPrefix credential.uuid ∧
        ∀ row, tables.settings = some row → row.pathPrefix = pathPrefix
  | .deleteCredential _, _ => True

namespace PrefixTables

/-- The settings row has a sound prefix, and every credential is stamped under it. While there is no row every
credential is stamped under some sound prefix. -/
structure Coherent (tables : PrefixTables) : Prop where
  sound : ∀ row, tables.settings = some row → malformedPathPrefix row.pathPrefix = false
  under : ∀ row, tables.settings = some row →
    ∀ credential ∈ tables.credentials, credential.path = stampedPath row.pathPrefix credential.uuid
  stamped : ∀ credential ∈ tables.credentials,
    ∃ pathPrefix, malformedPathPrefix pathPrefix = false ∧ credential.path = stampedPath pathPrefix credential.uuid

/-- The same settings row, and no more credentials. -/
structure Shrinks (tables tables' : PrefixTables) : Prop where
  settings : tables'.settings = tables.settings
  credentials : tables'.credentials ⊆ tables.credentials

theorem Shrinks.refl (tables : PrefixTables) : tables.Shrinks tables := ⟨rfl, fun _ h => h⟩

theorem Shrinks.empty {tables tables' : PrefixTables} (h : tables.Shrinks tables') (hempty : tables.credentials = []) :
    tables'.credentials = [] := by
  apply List.eq_nil_iff_forall_not_mem.mpr
  intro credential hcredential
  have hbefore : credential ∈ tables.credentials := h.credentials hcredential
  simp [hempty] at hbefore

theorem Shrinks.apply {tables tables' : PrefixTables} (effect : PrefixEffect) (h : tables.Shrinks tables') :
    (effect.apply tables).Shrinks (effect.apply tables') := by
  cases effect with
  | insert row => exact ⟨rfl, h.credentials⟩
  | setPrefix pk pathPrefix =>
      refine ⟨?_, h.credentials⟩
      show tables'.settings.map _ = tables.settings.map _
      rw [h.settings]
  | deleteSettings pk =>
      refine ⟨?_, h.credentials⟩
      show tables'.settings.filter _ = tables.settings.filter _
      rw [h.settings]
  | createCredential credential =>
      refine ⟨h.settings, ?_⟩
      intro c hc
      rcases List.mem_append.mp hc with hold | hnew
      · exact List.mem_append_left _ (h.credentials hold)
      · exact List.mem_append_right _ hnew
  | deleteCredential uuid =>
      refine ⟨h.settings, ?_⟩
      intro c hc
      obtain ⟨hold, hkept⟩ := List.mem_filter.mp hc
      exact List.mem_filter.mpr ⟨h.credentials hold, hkept⟩

/-- Deleting credentials makes no operation inadmissible. -/
theorem Shrinks.admits {tables tables' : PrefixTables} {effect : PrefixEffect} (h : tables.Shrinks tables')
    (hadmits : effect.Admits tables) : effect.Admits tables' := by
  cases effect with
  | insert row =>
      obtain ⟨hnone, hsound, hunder⟩ := hadmits
      exact ⟨h.settings.trans hnone, hsound, fun c hc => hunder c (h.credentials hc)⟩
  | setPrefix pk pathPrefix =>
      obtain ⟨hsound, row, hrow, hpk, hsame | hempty⟩ := hadmits
      · exact ⟨hsound, row, h.settings.trans hrow, hpk, .inl hsame⟩
      · exact ⟨hsound, row, h.settings.trans hrow, hpk, .inr (h.empty hempty)⟩
  | deleteSettings pk =>
      rcases hadmits with hnone | hempty
      · exact .inl (h.settings.trans hnone)
      · exact .inr (h.empty hempty)
  | createCredential credential =>
      obtain ⟨pathPrefix, hsound, hpath, hrow⟩ := hadmits
      exact ⟨pathPrefix, hsound, hpath, fun row hrow' => hrow row (h.settings.symm.trans hrow')⟩
  | deleteCredential uuid => trivial

/-- An operation executed on its own keeps every credential under the prefix. -/
theorem Coherent.apply {tables : PrefixTables} {effect : PrefixEffect} (h : tables.Coherent)
    (hadmits : effect.Admits tables) : (effect.apply tables).Coherent := by
  cases effect with
  | insert row =>
      obtain ⟨-, hsound, hunder⟩ := hadmits
      refine ⟨?_, ?_, h.stamped⟩
      · intro r hr
        rw [← Option.some.inj hr]
        exact hsound
      · intro r hr
        rw [← Option.some.inj hr]
        exact hunder
  | setPrefix pk pathPrefix =>
      obtain ⟨hsound, row, hrow, rfl, hsame⟩ := hadmits
      have hset : (PrefixEffect.apply (.setPrefix row.pk pathPrefix) tables).settings = some { row with pathPrefix } := by
        simp [PrefixEffect.apply, hrow]
      refine ⟨?_, ?_, h.stamped⟩
      · intro r hr
        rw [hset] at hr
        rw [← Option.some.inj hr]
        exact hsound
      · intro r hr c hc
        rw [hset] at hr
        rw [← Option.some.inj hr]
        rcases hsame with rfl | hempty
        · exact h.under row hrow c hc
        · rw [show (PrefixEffect.apply (.setPrefix row.pk pathPrefix) tables).credentials = [] from hempty] at hc
          cases hc
  | deleteSettings pk =>
      have hbefore : ∀ r, (PrefixEffect.apply (.deleteSettings pk) tables).settings = some r →
          tables.settings = some r := by
        intro r hr
        exact (Option.filter_eq_some_iff.mp hr).1
      exact ⟨fun r hr => h.sound r (hbefore r hr), fun r hr => h.under r (hbefore r hr), h.stamped⟩
  | createCredential credential =>
      obtain ⟨pathPrefix, hsound, hpath, hrow⟩ := hadmits
      refine ⟨h.sound, ?_, ?_⟩
      · intro r hr c hc
        rcases List.mem_append.mp hc with hold | hnew
        · exact h.under r hr c hold
        · rw [List.mem_singleton.mp hnew, hpath, hrow r hr]
      · intro c hc
        rcases List.mem_append.mp hc with hold | hnew
        · exact h.stamped c hold
        · rw [List.mem_singleton.mp hnew]
          exact ⟨pathPrefix, hsound, hpath⟩
  | deleteCredential uuid =>
      have hbefore : ∀ c, c ∈ (PrefixEffect.apply (.deleteCredential uuid) tables).credentials →
          c ∈ tables.credentials := fun c hc => (List.mem_filter.mp hc).1
      exact ⟨h.sound, fun r hr c hc => h.under r hr c (hbefore c hc), fun c hc => h.stamped c (hbefore c hc)⟩

end PrefixTables

abbrev PrefixTables.Serially : PrefixTables → List PrefixEffect → PrefixTables → Prop :=
  Effect.Serially PrefixEffect.apply PrefixEffect.Admits

/-- The prefix is still the one of before, or every credential there is is among those created since. -/
def PrefixTables.Own (before : String) (done : List PrefixEffect) (tables : PrefixTables) : Prop :=
  tables.settings.map (·.pathPrefix) = some before ∨
    ∀ credential ∈ tables.credentials, .createCredential credential ∈ done

theorem PrefixTables.Own.step {before : String} {done : List PrefixEffect} {tables : PrefixTables}
    {effect : PrefixEffect} (h : tables.Own before done) (hadmits : effect.Admits tables) :
    (effect.apply tables).Own before (done ++ [effect]) := by
  have hearlier : (∀ c ∈ tables.credentials, .createCredential c ∈ done) →
      ∀ c ∈ tables.credentials, .createCredential c ∈ done ++ [effect] :=
    fun hown c hc => List.mem_append_left _ (hown c hc)
  have hnone : tables.settings = none → ∀ c ∈ tables.credentials, .createCredential c ∈ done := by
    -- there was a row to begin with, so it has been deleted since
    intro hnone
    rcases h with hsame | hown
    · rw [hnone] at hsame
      cases hsame
    · exact hown
  have hempty : tables.credentials = [] → ∀ c ∈ tables.credentials, .createCredential c ∈ done ++ [effect] := by
    intro hempty c hc
    rw [hempty] at hc
    cases hc
  cases effect with
  | insert row => exact .inr (hearlier (hnone hadmits.1))
  | setPrefix pk pathPrefix =>
      obtain ⟨-, row, hrow, rfl, hsame | hdeleted⟩ := hadmits
      · rcases h with hbefore | hown
        · left
          rw [← hbefore]
          simp [PrefixEffect.apply, hrow, hsame]
        · exact .inr (hearlier hown)
      · exact .inr (hempty hdeleted)
  | deleteSettings pk =>
      rcases hadmits with hgone | hdeleted
      · exact .inr (hearlier (hnone hgone))
      · exact .inr (hempty hdeleted)
  | createCredential credential =>
      rcases h with hsame | hown
      · exact .inl hsame
      · refine .inr fun c hc => ?_
        rcases List.mem_append.mp hc with hold | hnew
        · exact hearlier hown c hold
        · rw [List.mem_singleton.mp hnew]
          exact List.mem_append_right _ (List.mem_singleton.mpr rfl)
  | deleteCredential uuid =>
      rcases h with hsame | hown
      · exact .inl hsame
      · exact .inr fun c hc => hearlier hown c (List.mem_filter.mp hc).1

/-- Once a transaction has changed or deleted the settings row, it sees no credential but its own. -/
theorem PrefixTables.Serially.own {tables tables' : PrefixTables} {effects : List PrefixEffect}
    (h : tables.Serially effects tables') {row : OpenBaoSettings} (hrow : tables.settings = some row) :
    tables'.Own row.pathPrefix effects := by
  have hbegin : tables.Own row.pathPrefix [] := by
    left
    rw [hrow]
    rfl
  exact Effect.Serially.history (P := fun done now => now.Own row.pathPrefix done)
    (fun _ _ _ hown hadmits => hown.step hadmits) h [] hbegin

/-! ### The locks -/

/-- The lock `_lock_for_prefix_write` comes back with: that of the committed row, or the advisory lock. -/
def PrefixTables.key (tables : PrefixTables) : PrefixLock :=
  match tables.settings with
  | some row => .row row.pk
  | none => .advisory

/-- The locks under which an effect is made, where `current` is the one for what is committed. -/
def PrefixEffect.Needs (current : PrefixLock) : PrefixEffect → PrefixLock → Prop
  | .insert _, key => key = current ∨ key = .advisory
  | .setPrefix _ _, key | .deleteSettings _, key | .createCredential _, key => key = current
  | .deleteCredential _, _ => False

/-- Nothing but deletions of credentials. -/
def OnlyDeletes (work : Work PrefixLock PrefixEffect) : Prop :=
  ∀ effect, .write effect ∈ work → ∃ uuid, effect = .deleteCredential uuid

theorem PrefixEffect.needs_current {effect : PrefixEffect} (current : PrefixLock)
    (h : ¬ ∃ uuid, effect = .deleteCredential uuid) : effect.Needs current current := by
  cases effect with
  | insert row => exact .inl rfl
  | deleteCredential uuid => exact absurd ⟨uuid, rfl⟩ h
  | _ => rfl

/-- A transaction that does more than delete credentials has the lock. -/
theorem key_of_writes {work : Work PrefixLock PrefixEffect} {current : PrefixLock}
    (hcovered : Work.Covered (PrefixEffect.Needs current) work) (h : ¬ OnlyDeletes work) :
    .lock current ∈ work := by
  by_cases hother : ∃ effect, .write effect ∈ work ∧ ¬ ∃ uuid, effect = .deleteCredential uuid
  · obtain ⟨effect, heffect, hother⟩ := hother
    exact hcovered.lock_mem heffect (PrefixEffect.needs_current _ hother)
  · exact absurd (fun effect heffect => Classical.byContradiction fun hnot => hother ⟨effect, heffect, hnot⟩) h

theorem OnlyDeletes.shrinks {work : Work PrefixLock PrefixEffect} (h : OnlyDeletes work) (tables : PrefixTables) :
    tables.Shrinks (Work.view PrefixEffect.apply tables work) := by
  induction work with
  | nil => exact .refl tables
  | cons deed rest ih =>
      have hrest := ih fun effect heffect => h effect (List.mem_cons_of_mem deed heffect)
      cases deed with
      | lock key => exact hrest
      | write effect =>
          obtain ⟨uuid, rfl⟩ := h effect List.mem_cons_self
          exact ⟨hrest.settings, fun c hc => hrest.credentials (List.mem_filter.mp hc).1⟩

theorem OnlyDeletes.accepted {work : Work PrefixLock PrefixEffect} (h : OnlyDeletes work) (tables : PrefixTables) :
    Work.Accepted PrefixEffect.apply PrefixEffect.Admits tables work := by
  induction work with
  | nil => trivial
  | cons deed rest ih =>
      have hrest := ih fun effect heffect => h effect (List.mem_cons_of_mem deed heffect)
      cases deed with
      | lock key => exact hrest
      | write effect =>
          obtain ⟨uuid, rfl⟩ := h effect List.mem_cons_self
          exact ⟨trivial, hrest⟩

/-- Without an insertion the row stays, changes its prefix or goes. -/
theorem settings_of_view {work : Work PrefixLock PrefixEffect} {tables : PrefixTables}
    (hinsert : ∀ row, .write (.insert row) ∉ work) {row : OpenBaoSettings}
    (hrow : (Work.view PrefixEffect.apply tables work).settings = some row) :
    ∃ before, tables.settings = some before ∧ before.pk = row.pk := by
  induction work generalizing row with
  | nil => exact ⟨row, hrow, rfl⟩
  | cons deed rest ih =>
      have hrest := @ih fun r hr => hinsert r (List.mem_cons_of_mem deed hr)
      cases deed with
      | lock key => exact hrest hrow
      | write effect =>
          cases effect with
          | insert r => exact absurd List.mem_cons_self (hinsert r)
          | setPrefix pk pathPrefix =>
              obtain ⟨r, hr, hset⟩ := Option.map_eq_some_iff.mp hrow
              obtain ⟨before, hbefore, hpk⟩ := hrest hr
              refine ⟨before, hbefore, hpk.trans ?_⟩
              rw [← hset]
              split <;> rfl
          | deleteSettings pk => exact hrest (Option.filter_eq_some_iff.mp hrow).1
          | createCredential credential => exact hrest hrow
          | deleteCredential uuid => exact hrest hrow

/-- A row that is seen is the committed one, or the session has inserted it. -/
theorem key_of_view {work : Work PrefixLock PrefixEffect} {tables : PrefixTables}
    (hcovered : Work.Covered (PrefixEffect.Needs tables.key) work) {row : OpenBaoSettings}
    (hrow : (Work.view PrefixEffect.apply tables work).settings = some row)
    (hlock : .lock (.row row.pk) ∈ work) : .lock tables.key ∈ work := by
  by_cases hinsert : ∃ r, .write (.insert r) ∈ work
  · obtain ⟨r, hr⟩ := hinsert
    exact hcovered.lock_mem hr (.inl rfl)
  · obtain ⟨before, hbefore, hpk⟩ := settings_of_view (fun r hr => hinsert ⟨r, hr⟩) hrow
    have hkey : tables.key = .row row.pk := by
      rw [PrefixTables.key, hbefore, ← hpk]
    rw [hkey]
    exact hlock

/-- A row that is not seen is not committed, or the session has deleted it. -/
theorem key_of_absent {work : Work PrefixLock PrefixEffect} {tables : PrefixTables}
    (hcovered : Work.Covered (PrefixEffect.Needs tables.key) work)
    (hnone : (Work.view PrefixEffect.apply tables work).settings = none)
    (hlock : .lock .advisory ∈ work) : .lock tables.key ∈ work := by
  by_cases hdeletes : OnlyDeletes work
  · have hgone : tables.settings = none := (hdeletes.shrinks tables).settings.symm.trans hnone
    have hkey : tables.key = .advisory := by
      rw [PrefixTables.key, hgone]
    rw [hkey]
    exact hlock
  · exact key_of_writes hcovered hdeletes

/-- Whenever the transaction has the lock of a row, it has the lock that its writes are made under. -/
def RowsUnder (current : PrefixLock) (work : Work PrefixLock PrefixEffect) : Prop :=
  ∀ earlier, earlier <:+ work → ∀ pk, .lock (.row pk) ∈ earlier → .lock current ∈ earlier

theorem RowsUnder.nil (current : PrefixLock) : RowsUnder current [] :=
  fun _ hearlier _ hpk => absurd (hearlier.subset hpk) List.not_mem_nil

theorem RowsUnder.cons {current : PrefixLock} {work : Work PrefixLock PrefixEffect}
    {deed : Deed PrefixLock PrefixEffect} (h : RowsUnder current work)
    (hrow : ∀ pk, deed = .lock (.row pk) → .lock current ∈ deed :: work) : RowsUnder current (deed :: work) := by
  intro earlier hearlier pk hpk
  rcases List.suffix_cons_iff.mp hearlier with rfl | hbefore
  · rcases List.mem_cons.mp hpk with hnew | hold
    · exact hrow pk hnew.symm
    · exact List.mem_cons_of_mem _ (h work List.suffix_rfl pk hold)
  · exact h earlier hbefore pk hpk

theorem RowsUnder.drop {current : PrefixLock} {work : Work PrefixLock PrefixEffect} (h : RowsUnder current work)
    (n : Nat) : RowsUnder current (work.drop n) :=
  fun earlier hearlier => h earlier (hearlier.trans (List.drop_suffix n work))

/-! ### What holds of a session -/

def PrefixStatement.Admits (seen : PrefixTables) (work : Work PrefixLock PrefixEffect) : PrefixStatement → Prop
  | .insert pathPrefix =>
      .lock .advisory ∈ work ∧ ∀ pk, (PrefixEffect.insert ⟨pk, pathPrefix⟩).Admits seen
  | .update pk (some pathPrefix) => (PrefixEffect.setPrefix pk pathPrefix).Admits seen
  | .update _ none => True
  | .delete pk => (PrefixEffect.deleteSettings pk).Admits seen
  | .insertCredential credential => (PrefixEffect.createCredential credential).Admits seen

def PrefixOperation.Valid (operation : PrefixOperation) : Prop := operation.validate = .ok ()

/-- What a phase goes by. With the advisory lock the only row there can be is the one a `SELECT` has picked. -/
def PrefixPhase.Fits (seen : PrefixTables) (current : PrefixLock) (work : Work PrefixLock PrefixEffect) :
    PrefixPhase → Prop
  | .ready => True
  | .selecting operation second candidate =>
      operation.Valid ∧ (second = true →
        .lock .advisory ∈ work ∧ ∀ row, seen.settings = some row → candidate = some row.pk)
  | .advising operation => operation.Valid
  | .advised operation => operation.Valid ∧ .lock .advisory ∈ work
  | .locked operation row =>
      operation.Valid ∧ .lock current ∈ work ∧ seen.settings = row ∧ (row = none → .lock .advisory ∈ work)
  | .checked statement => .lock current ∈ work ∧ statement.Admits seen work

theorem validatePathPrefix_ok {pathPrefix : String} :
    validatePathPrefix pathPrefix = .ok () ↔ malformedPathPrefix pathPrefix = false := by
  unfold validatePathPrefix
  cases malformedPathPrefix pathPrefix <;> simp

theorem pathForPrefix_ok {uuid pathPrefix path : String} (h : pathForPrefix uuid pathPrefix = .ok path) :
    malformedPathPrefix pathPrefix = false ∧ path = stampedPath pathPrefix uuid := by
  obtain ⟨⟨⟩, hvalid, hpath⟩ := Fallible.bind_ok h
  exact ⟨validatePathPrefix_ok.mp hvalid, (Except.ok.inj hpath).symm⟩

/-- Errors that are not the unique constraint's. -/
def Expected (error : Error) : Prop := error ≠ singletonKeyTaken

theorem validatePathPrefix_error {pathPrefix : String} {error : Error}
    (h : validatePathPrefix pathPrefix = .error error) : Expected error := by
  unfold validatePathPrefix at h
  split at h
  · rw [← Except.error.inj h]
    exact Error.noConfusion
  · cases h

theorem pathForPrefix_error {uuid pathPrefix : String} {error : Error}
    (h : pathForPrefix uuid pathPrefix = .error error) : Expected error := by
  rcases Fallible.bind_error h with hvalid | ⟨-, -, hpath⟩
  · exact validatePathPrefix_error hvalid
  · cases hpath

theorem mismatched_ok {pathPrefix : String} {credentials : List StampedCredential}
    (h : mismatched pathPrefix credentials = .ok false) :
    ∀ credential ∈ credentials, credential.path = stampedPath pathPrefix credential.uuid := by
  induction credentials with
  | nil => exact fun _ hc => absurd hc List.not_mem_nil
  | cons credential rest ih =>
      obtain ⟨path, hpath, h⟩ := Fallible.bind_ok h
      split at h
      · cases h
      · next hsame =>
          have hfirst : credential.path = stampedPath pathPrefix credential.uuid := by
            rw [← (pathForPrefix_ok hpath).2]
            simpa using hsame
          exact List.forall_mem_cons.mpr ⟨hfirst, ih h⟩

theorem mismatched_error {pathPrefix : String} {credentials : List StampedCredential} {error : Error}
    (h : mismatched pathPrefix credentials = .error error) : Expected error := by
  induction credentials with
  | nil => cases h
  | cons credential rest ih =>
      rcases Fallible.bind_error h with hpath | ⟨path, -, h⟩
      · exact pathForPrefix_error hpath
      · split at h
        · cases h
        · exact ih h

theorem validatePrefixChange_none {tables : PrefixTables} {pathPrefix : String}
    (h : validatePrefixChange tables pathPrefix none = .ok ()) :
    ∀ credential ∈ tables.credentials, credential.path = stampedPath pathPrefix credential.uuid := by
  obtain ⟨found, hfound, h⟩ := Fallible.bind_ok h
  cases found with
  | false => exact mismatched_ok hfound
  | true => cases h

theorem validatePrefixChange_some {tables : PrefixTables} {pathPrefix previous : String}
    (h : validatePrefixChange tables pathPrefix (some previous) = .ok ()) :
    pathPrefix = previous ∨ tables.credentials = [] := by
  unfold validatePrefixChange at h
  dsimp only at h
  split at h
  · assumption
  · cases h

theorem validatePrefixChange_error {tables : PrefixTables} {pathPrefix : String} {previous : Option String}
    {error : Error} (h : validatePrefixChange tables pathPrefix previous = .error error) : Expected error := by
  cases previous with
  | none =>
      rcases Fallible.bind_error h with hfound | ⟨found, -, h⟩
      · exact mismatched_error hfound
      · cases found with
        | false => cases h
        | true =>
            rw [← Except.error.inj h]
            exact Error.noConfusion
  | some previous =>
      unfold validatePrefixChange at h
      dsimp only at h
      split at h
      · cases h
      · rw [← Except.error.inj h]
        exact Error.noConfusion

theorem ensureDeletable_ok {tables : PrefixTables} {pathPrefix : String}
    (h : ensureDeletable tables pathPrefix = .ok ()) : tables.credentials = [] := by
  unfold ensureDeletable at h
  split at h
  · assumption
  · cases h

theorem ensureDeletable_error {tables : PrefixTables} {pathPrefix : String} {error : Error}
    (h : ensureDeletable tables pathPrefix = .error error) : Expected error := by
  unfold ensureDeletable at h
  split at h
  · cases h
  · rw [← Except.error.inj h]
    exact Error.noConfusion

namespace PrefixOperation

/-- An operation that passes its check may write, on the tables it has checked. -/
theorem check_ok {operation : PrefixOperation} {seen : PrefixTables} {work : Work PrefixLock PrefixEffect}
    {statement : PrefixStatement} (hvalid : operation.Valid) (hadvised : seen.settings = none → .lock .advisory ∈ work)
    (h : operation.check seen seen.settings = .ok statement) : statement.Admits seen work := by
  generalize hrow : seen.settings = row at h
  cases operation with
  | saveNew pathPrefix =>
      cases row with
      | some row => cases h
      | none =>
          obtain ⟨⟨⟩, hchange, h⟩ := Fallible.bind_ok h
          obtain rfl := Except.ok.inj h
          have hsound : malformedPathPrefix pathPrefix = false := validatePathPrefix_ok.mp hvalid
          exact ⟨hadvised hrow, fun _ => ⟨hrow, hsound, validatePrefixChange_none hchange⟩⟩
  | save stored updatesPrefix =>
      cases row with
      | none => cases h
      | some locked =>
          have hsound : malformedPathPrefix stored.pathPrefix = false := validatePathPrefix_ok.mp hvalid
          unfold check at h
          dsimp only at h
          split at h
          · cases h
          · next hpk =>
              split at h
              · obtain ⟨⟨⟩, hchange, h⟩ := Fallible.bind_ok h
                obtain rfl := Except.ok.inj h
                exact ⟨hsound, locked, hrow, Classical.not_not.mp hpk, validatePrefixChange_some hchange⟩
              · obtain rfl := Except.ok.inj h
                trivial
  | delete stored queryset =>
      cases queryset with
      | true =>
          obtain ⟨⟨⟩, hdeletable, h⟩ := Fallible.bind_ok h
          obtain rfl := Except.ok.inj h
          exact .inr (ensureDeletable_ok hdeletable)
      | false =>
          cases row with
          | none =>
              obtain rfl := Except.ok.inj h
              exact .inl hrow
          | some locked =>
              obtain ⟨⟨⟩, hdeletable, h⟩ := Fallible.bind_ok h
              obtain rfl := Except.ok.inj h
              exact .inr (ensureDeletable_ok hdeletable)
  | createCredential uuid configured =>
      obtain ⟨path, hpath, h⟩ := Fallible.bind_ok h
      obtain rfl := Except.ok.inj h
      obtain ⟨hsound, rfl⟩ := pathForPrefix_ok hpath
      refine ⟨_, hsound, rfl, fun locked hlocked => ?_⟩
      rw [← hrow, hlocked]
      rfl

theorem check_error {operation : PrefixOperation} {seen : PrefixTables} {row : Option OpenBaoSettings} {error : Error}
    (h : operation.check seen row = .error error) : Expected error := by
  cases operation with
  | saveNew pathPrefix =>
      cases row with
      | some row =>
          rw [← Except.error.inj h]
          exact Error.noConfusion
      | none =>
          rcases Fallible.bind_error h with hchange | ⟨-, -, h⟩
          · exact validatePrefixChange_error hchange
          · cases h
  | save stored updatesPrefix =>
      cases row with
      | none =>
          rw [← Except.error.inj h]
          exact Error.noConfusion
      | some locked =>
          unfold check at h
          dsimp only at h
          split at h
          · rw [← Except.error.inj h]
            exact Error.noConfusion
          · split at h
            · rcases Fallible.bind_error h with hchange | ⟨-, -, h⟩
              · exact validatePrefixChange_error hchange
              · cases h
            · cases h
  | delete stored queryset =>
      have hensure : ∀ pathPrefix, (do ensureDeletable seen pathPrefix; return .delete stored.pk) =
          (Except.error error : Except Error PrefixStatement) → Expected error := by
        intro pathPrefix h
        rcases Fallible.bind_error h with hdeletable | ⟨-, -, h⟩
        · exact ensureDeletable_error hdeletable
        · cases h
      cases queryset with
      | true => exact hensure _ h
      | false =>
          cases row with
          | none => cases h
          | some locked => exact hensure _ h
  | createCredential uuid configured =>
      rcases Fallible.bind_error h with hpath | ⟨path, -, h⟩
      · exact pathForPrefix_error hpath
      · cases h

end PrefixOperation

theorem PrefixStatement.Admits.mono {seen seen' : PrefixTables} {work : Work PrefixLock PrefixEffect}
    {statement : PrefixStatement} (hshrinks : seen.Shrinks seen') (h : statement.Admits seen work) :
    statement.Admits seen' work := by
  cases statement with
  | insert pathPrefix => exact ⟨h.1, fun pk => hshrinks.admits (h.2 pk)⟩
  | update pk pathPrefix =>
      cases pathPrefix with
      | none => trivial
      | some pathPrefix => exact @PrefixTables.Shrinks.admits seen seen' (.setPrefix pk pathPrefix) hshrinks h
  | delete pk => exact @PrefixTables.Shrinks.admits seen seen' (.deleteSettings pk) hshrinks h
  | insertCredential credential =>
      exact @PrefixTables.Shrinks.admits seen seen' (.createCredential credential) hshrinks h

theorem PrefixPhase.Fits.mono {seen seen' : PrefixTables} {current : PrefixLock}
    {work : Work PrefixLock PrefixEffect} {phase : PrefixPhase} (hshrinks : seen.Shrinks seen')
    (h : phase.Fits seen current work) : phase.Fits seen' current work := by
  cases phase with
  | selecting operation again candidate =>
      refine ⟨h.1, fun hagain => ?_⟩
      obtain ⟨hlock, hcandidate⟩ := h.2 hagain
      exact ⟨hlock, fun row hrow => hcandidate row (hshrinks.settings.symm.trans hrow)⟩
  | locked operation row =>
      obtain ⟨hvalid, hlock, hrow, hadvised⟩ := h
      exact ⟨hvalid, hlock, hshrinks.settings.trans hrow, hadvised⟩
  | checked statement => exact ⟨h.1, h.2.mono hshrinks⟩
  | _ => exact h

namespace PrefixWrites

variable {σ : Type} [DecidableEq σ]

/-- Sessions hold the locks they rely on, and the writes of each would pass their checks on what is committed now. -/
structure Sound (p : PrefixWrites σ) : Prop where
  held : ∀ s key, .lock key ∈ (p.sessions s).work → p.locks.holder key = some s
  covered : ∀ s, Work.Covered (PrefixEffect.Needs p.committed.key) (p.sessions s).work
  rows : ∀ s, RowsUnder p.committed.key (p.sessions s).work
  accepted : ∀ s, Work.Accepted PrefixEffect.apply PrefixEffect.Admits p.committed (p.sessions s).work
  fits : ∀ s, (p.sessions s).phase.Fits (p.view s) p.committed.key (p.sessions s).work
  quiet : ∀ refusal ∈ p.refusals, Expected refusal.2

theorem put_self (p : PrefixWrites σ) (s : σ) (x : PrefixSession) : (p.put s x).sessions s = x := by simp [put]

theorem put_of_ne (p : PrefixWrites σ) {s t : σ} (x : PrefixSession) (h : t ≠ s) :
    (p.put s x).sessions t = p.sessions t := by simp [put, h]

omit [DecidableEq σ] in
theorem start_sound (committed : PrefixTables) (nextPk : Nat) : (start committed nextPk : PrefixWrites σ).Sound where
  held _ _ h := absurd h List.not_mem_nil
  covered _ := trivial
  rows _ := .nil _
  accepted _ := trivial
  fits _ := trivial
  quiet _ h := absurd h List.not_mem_nil

/-- One session goes on, under a lock table that takes nothing from the others. -/
theorem Sound.moved {p : PrefixWrites σ} (h : p.Sound) {s : σ} {x : PrefixSession} {locks : Locks PrefixLock σ}
    (hothers : ∀ t key, t ≠ s → p.locks.holder key = some t → locks.holder key = some t)
    (hself : ∀ key, .lock key ∈ x.work → locks.holder key = some s)
    (hcovered : Work.Covered (PrefixEffect.Needs p.committed.key) x.work)
    (hrows : RowsUnder p.committed.key x.work)
    (haccepted : Work.Accepted PrefixEffect.apply PrefixEffect.Admits p.committed x.work)
    (hfits : x.phase.Fits (Work.view PrefixEffect.apply p.committed x.work) p.committed.key x.work) :
    ({ p with locks }.put s x).Sound := by
  have hsession : ∀ t, t ≠ s → ({ p with locks }.put s x).sessions t = p.sessions t :=
    fun t ht => put_of_ne { p with locks } x ht
  constructor
  · intro t key hkey
    by_cases ht : t = s
    · subst ht
      rw [put_self] at hkey
      exact hself key hkey
    · rw [hsession t ht] at hkey
      exact hothers t key ht (h.held t key hkey)
  · intro t
    by_cases ht : t = s
    · rw [ht, put_self]
      exact hcovered
    · rw [hsession t ht]
      exact h.covered t
  · intro t
    by_cases ht : t = s
    · rw [ht, put_self]
      exact hrows
    · rw [hsession t ht]
      exact h.rows t
  · intro t
    by_cases ht : t = s
    · rw [ht, put_self]
      exact haccepted
    · rw [hsession t ht]
      exact h.accepted t
  · intro t
    unfold view
    by_cases ht : t = s
    · rw [ht, put_self]
      exact hfits
    · rw [hsession t ht]
      exact h.fits t
  · exact h.quiet

/-- A session goes on without a change to its work. -/
theorem Sound.turns {p : PrefixWrites σ} (h : p.Sound) {s : σ} {phase : PrefixPhase} {mark : Nat}
    (hfits : phase.Fits (p.view s) p.committed.key (p.sessions s).work) :
    (p.put s { p.sessions s with phase, mark }).Sound :=
  h.moved (fun _ _ _ hheld => hheld) (h.held s) (h.covered s) (h.rows s) (h.accepted s) hfits

omit [DecidableEq σ] in
theorem Sound.refused {p : PrefixWrites σ} (h : p.Sound) {s : σ} {error : Error} (herror : Expected error) :
    Sound { p with refusals := p.refusals ++ [(s, error)] } := by
  refine ⟨h.held, h.covered, h.rows, h.accepted, h.fits, ?_⟩
  intro refusal hrefusal
  rcases List.mem_append.mp hrefusal with hold | hnew
  · exact h.quiet refusal hold
  · rw [List.mem_singleton.mp hnew]
    exact herror

theorem Sound.unwinding {p : PrefixWrites σ} (h : p.Sound) (s : σ) (count : Nat) : (p.unwinding s count).Sound := by
  apply h.moved
  · exact fun t key hne hheld => Locks.release_other hne hheld
  · intro key hkey
    have hkept : (p.locks.release s fun key => ((p.sessions s).work.drop count).contains (.lock key)).holder key =
        p.locks.holder key := Locks.release_kept (List.elem_eq_true_of_mem hkey)
    exact hkept.trans (h.held s key (List.mem_of_mem_drop hkey))
  · exact (h.covered s).drop count
  · exact (h.rows s).drop count
  · exact (h.accepted s).drop count
  · trivial

theorem Sound.refusing {p : PrefixWrites σ} (h : p.Sound) (s : σ) {error : Error} (herror : Expected error) :
    (p.refusing s error).Sound :=
  (h.refused herror).unwinding s _

theorem Sound.locking {p : PrefixWrites σ} (h : p.Sound) {s : σ} {key : PrefixLock} {phase : PrefixPhase}
    (hrow : ∀ pk, key = .row pk → .lock p.committed.key ∈ Deed.lock key :: (p.sessions s).work)
    (hfits : phase.Fits (p.view s) p.committed.key (.lock key :: (p.sessions s).work)) :
    (p.locking s key phase).Sound := by
  unfold PrefixWrites.locking
  cases hacquire : p.locks.acquire key s with
  | none => exact h
  | some locks =>
      apply h.moved
      · exact fun t k _ hheld => Locks.acquire_kept hacquire hheld
      · intro k hk
        rcases List.mem_cons.mp hk with hsame | hold
        · rw [Deed.lock.inj hsame]
          exact Locks.acquire_self hacquire
        · exact Locks.acquire_kept hacquire (h.held s k hold)
      · exact h.covered s
      · exact (h.rows s).cons fun pk hpk => hrow pk (Deed.lock.inj hpk)
      · exact h.accepted s
      · exact hfits

theorem Sound.writing {p : PrefixWrites σ} (h : p.Sound) {s : σ} {effect : PrefixEffect}
    (hneeds : ∀ key, effect.Needs p.committed.key key → .lock key ∈ (p.sessions s).work)
    (hadmits : effect.Admits (p.view s)) : (p.writing s effect).Sound := by
  apply h.moved (fun _ _ _ hheld => hheld)
  · intro key hkey
    exact h.held s key (by simpa using hkey)
  · exact ⟨hneeds, h.covered s⟩
  · exact (h.rows s).cons fun pk hpk => by cases hpk
  · exact ⟨hadmits, h.accepted s⟩
  · trivial

omit [DecidableEq σ] in
/-- What a transaction commits is what its operations would have done, one after another, on what is committed now. -/
theorem Sound.serial {p : PrefixWrites σ} (h : p.Sound) (s : σ) :
    p.committed.Serially (p.sessions s).work.writes (p.view s) := (h.accepted s).serially

omit [DecidableEq σ] in
/-- Only one transaction has the lock that writes are made under. -/
theorem Sound.alone {p : PrefixWrites σ} (h : p.Sound) {s t : σ} {key : PrefixLock}
    (hs : .lock key ∈ (p.sessions s).work) (ht : .lock key ∈ (p.sessions t).work) : s = t :=
  Option.some.inj ((h.held s key hs).symm.trans (h.held t key ht))

omit [DecidableEq σ] in
/-- A transaction without the lock fits whatever the one that has it commits. -/
theorem Sound.fits_other {p : PrefixWrites σ} (h : p.Sound) {s t : σ}
    (hwrites : ¬ OnlyDeletes (p.sessions s).work) (hne : t ≠ s) (hdeletes : OnlyDeletes (p.sessions t).work) :
    (p.sessions t).phase.Fits (Work.view PrefixEffect.apply (p.view s) (p.sessions t).work) (p.view s).key
      (p.sessions t).work := by
  have hlock : .lock p.committed.key ∉ (p.sessions t).work := fun ht => hne (h.alone ht (key_of_writes (h.covered s) hwrites))
  have hfits := h.fits t
  cases hphase : (p.sessions t).phase with
  | locked operation row =>
      rw [hphase] at hfits
      exact absurd hfits.2.1 hlock
  | checked statement =>
      rw [hphase] at hfits
      exact absurd hfits.1 hlock
  | selecting operation again candidate =>
      rw [hphase] at hfits
      refine ⟨hfits.1, fun hagain => ?_⟩
      obtain ⟨hadvisory, hcandidate⟩ := hfits.2 hagain
      refine ⟨hadvisory, fun row hrow => ?_⟩
      -- an insertion needs the advisory lock, which this session has
      have hinsert : ∀ r, .write (.insert r) ∉ (p.sessions s).work := fun r hr =>
        hne (h.alone hadvisory ((h.covered s).lock_mem hr (.inr rfl)))
      obtain ⟨before, hbefore, hpk⟩ :=
        settings_of_view hinsert ((hdeletes.shrinks (p.view s)).settings.symm.trans hrow)
      rw [← hpk]
      exact hcandidate before ((hdeletes.shrinks p.committed).settings.trans hbefore)
  | _ =>
      rw [hphase] at hfits
      exact hfits

theorem Sound.committing {p : PrefixWrites σ} (h : p.Sound) (s : σ) : (p.committing s).Sound := by
  have hsession : ∀ t, t ≠ s → (p.committing s).sessions t = p.sessions t := fun t ht => put_of_ne _ _ ht
  have hself : (p.committing s).sessions s = ⟨[], .ready, 0⟩ := put_self _ _ _
  have hkept : ∀ t key, t ≠ s → .lock key ∈ (p.sessions t).work →
      (p.committing s).locks.holder key = some t :=
    fun t key ht hkey => Locks.release_other ht (h.held t key hkey)
  have hothers : ∀ t, t ≠ s →
      Work.Covered (PrefixEffect.Needs (p.view s).key) (p.sessions t).work ∧
        RowsUnder (p.view s).key (p.sessions t).work ∧
        Work.Accepted PrefixEffect.apply PrefixEffect.Admits (p.view s) (p.sessions t).work ∧
        (p.sessions t).phase.Fits (Work.view PrefixEffect.apply (p.view s) (p.sessions t).work) (p.view s).key
          (p.sessions t).work := by
    intro t ht
    by_cases hwrites : OnlyDeletes (p.sessions s).work
    · have hshrinks : p.committed.Shrinks (p.view s) := hwrites.shrinks p.committed
      have hkey : (p.view s).key = p.committed.key := by
        unfold PrefixTables.key
        rw [hshrinks.settings]
      rw [hkey]
      refine ⟨h.covered t, h.rows t, ?_, ?_⟩
      · exact (h.accepted t).mono (R := PrefixTables.Shrinks) (fun effect _ _ => PrefixTables.Shrinks.apply effect)
          (fun _ _ _ => PrefixTables.Shrinks.admits) hshrinks
      · exact (h.fits t).mono (Work.view_related (R := PrefixTables.Shrinks)
          (fun effect _ _ => PrefixTables.Shrinks.apply effect) _ hshrinks)
    · have hdeletes : OnlyDeletes (p.sessions t).work := by
        apply Classical.byContradiction
        intro hother
        exact ht (h.alone (key_of_writes (h.covered t) hother) (key_of_writes (h.covered s) hwrites))
      refine ⟨(h.covered t).congr ?_, ?_, hdeletes.accepted _, h.fits_other hwrites ht hdeletes⟩
      · intro effect heffect key hneeds
        obtain ⟨uuid, rfl⟩ := hdeletes effect heffect
        cases hneeds
      · -- whoever has locked a row has the lock that this session writes under
        intro earlier hearlier pk hpk
        have hlock : .lock p.committed.key ∈ (p.sessions t).work := hearlier.subset (h.rows t earlier hearlier pk hpk)
        exact absurd (h.alone hlock (key_of_writes (h.covered s) hwrites)) ht
  constructor
  · intro t key hkey
    by_cases ht : t = s
    · rw [ht, hself] at hkey
      cases hkey
    · rw [hsession t ht] at hkey
      exact hkept t key ht hkey
  · intro t
    by_cases ht : t = s
    · rw [ht, hself]
      trivial
    · rw [hsession t ht]
      exact (hothers t ht).1
  · intro t
    by_cases ht : t = s
    · rw [ht, hself]
      exact .nil _
    · rw [hsession t ht]
      exact (hothers t ht).2.1
  · intro t
    by_cases ht : t = s
    · rw [ht, hself]
      trivial
    · rw [hsession t ht]
      exact (hothers t ht).2.2.1
  · intro t
    by_cases ht : t = s
    · rw [ht, hself]
      trivial
    · unfold view
      rw [hsession t ht]
      exact (hothers t ht).2.2.2
  · exact h.quiet

theorem Sound.starting {p : PrefixWrites σ} (h : p.Sound) (s : σ) (operation : PrefixOperation) :
    (p.starting s operation).Sound := by
  unfold PrefixWrites.starting
  cases hvalid : operation.validate with
  | error error =>
      apply h.refused
      cases operation with
      | saveNew pathPrefix => exact validatePathPrefix_error hvalid
      | save stored updatesPrefix => exact validatePathPrefix_error hvalid
      | delete stored queryset => cases hvalid
      | createCredential uuid configured => cases hvalid
  | ok done => exact h.turns ⟨hvalid, fun hagain => absurd hagain Bool.false_ne_true⟩

/-- `_lock_for_write` finds no row: the first one says so, and after the second the advisory lock is the lock. -/
theorem Sound.absent {p : PrefixWrites σ} (h : p.Sound) {s : σ} {operation : PrefixOperation} {again : Bool}
    {candidate : Option Nat} (hphase : (p.sessions s).phase = .selecting operation again candidate)
    (hnone : again = true → (p.view s).settings = none) : (p.absent s operation again).Sound := by
  have hfits := h.fits s
  rw [hphase] at hfits
  apply h.turns
  cases again with
  | false => exact hfits.1
  | true =>
      have hadvisory : .lock .advisory ∈ (p.sessions s).work := (hfits.2 rfl).1
      exact ⟨hfits.1, key_of_absent (h.covered s) (hnone rfl) hadvisory, hnone rfl, fun _ => hadvisory⟩

theorem Sound.selecting {p : PrefixWrites σ} (h : p.Sound) {s : σ} {operation : PrefixOperation} {again : Bool}
    {candidate : Option Nat} (hphase : (p.sessions s).phase = .selecting operation again candidate) :
    (p.selecting s operation again candidate).Sound := by
  have hfits := h.fits s
  rw [hphase] at hfits
  cases candidate with
  | none =>
      apply h.absent hphase
      intro hagain
      cases hsettings : (p.view s).settings with
      | none => rfl
      | some row => cases (hfits.2 hagain).2 row hsettings
  | some pk =>
      unfold PrefixWrites.selecting
      dsimp only
      split
      · exact h
      · next hnone => exact h.absent hphase fun _ => hnone
      · next row hacquire hrow =>
          split
          · next hpk =>
              have hlock : .lock (.row row.pk) ∈ Deed.lock (.row pk) :: (p.sessions s).work := by
                rw [hpk]
                exact List.mem_cons_self
              have hkey : .lock p.committed.key ∈ Deed.lock (.row pk) :: (p.sessions s).work :=
                @key_of_view (.lock (.row pk) :: (p.sessions s).work) _ (h.covered s) _ hrow hlock
              exact h.locking (fun _ _ => hkey)
                ⟨hfits.1, hkey, hrow, fun hnone => absurd hnone (Option.some_ne_none row)⟩
          · next hpk =>
              apply h.absent hphase
              intro hagain
              exact absurd (Option.some.inj ((hfits.2 hagain).2 row hrow)).symm hpk

/-- The insertion meets no other row. -/
theorem Sound.inserting {p : PrefixWrites σ} (h : p.Sound) {s : σ} {pathPrefix : String}
    (hphase : (p.sessions s).phase = .checked (.insert pathPrefix)) : (p.inserting s pathPrefix).Sound := by
  have hfits := h.fits s
  rw [hphase] at hfits
  obtain ⟨hlock, hadvisory, hadmits⟩ := hfits
  unfold PrefixWrites.inserting
  split
  · exact h
  · next row hrow =>
      rw [(hadmits 0).1] at hrow
      cases hrow
  · next locks hacquire hnone =>
      have hlocked : (p.locking s .singletonKey .ready).Sound := h.locking (fun _ hrow => by cases hrow) trivial
      have hwork : ((p.locking s .singletonKey .ready).sessions s).work =
          .lock .singletonKey :: (p.sessions s).work := by
        unfold PrefixWrites.locking
        rw [hacquire]
        exact congrArg PrefixSession.work (put_self _ _ _)
      have hcommitted : (p.locking s .singletonKey .ready).committed = p.committed := by
        unfold PrefixWrites.locking
        rw [hacquire]
        rfl
      have hwritten : ((p.locking s .singletonKey .ready).writing s (.insert ⟨p.nextPk, pathPrefix⟩)).Sound := by
        apply hlocked.writing
        · rw [hcommitted, hwork]
          rintro key (rfl | rfl)
          · exact List.mem_cons_of_mem _ hlock
          · exact List.mem_cons_of_mem _ hadvisory
        · unfold view
          rw [hcommitted, hwork]
          exact hadmits p.nextPk
      exact ⟨hwritten.held, hwritten.covered, hwritten.rows, hwritten.accepted, hwritten.fits, hwritten.quiet⟩

theorem Sound.executing {p : PrefixWrites σ} (h : p.Sound) {s : σ} {statement : PrefixStatement}
    (hphase : (p.sessions s).phase = .checked statement) : (p.executing s statement).Sound := by
  have hfits := h.fits s
  rw [hphase] at hfits
  obtain ⟨hlock, hadmits⟩ := hfits
  have hneeds : ∀ key, key = p.committed.key → .lock key ∈ (p.sessions s).work := by
    rintro key rfl
    exact hlock
  cases statement with
  | insert pathPrefix => exact h.inserting hphase
  | update pk pathPrefix =>
      cases pathPrefix with
      | none => exact h.turns trivial
      | some pathPrefix => exact h.writing hneeds hadmits
  | delete pk => exact h.writing hneeds hadmits
  | insertCredential credential => exact h.writing hneeds hadmits

theorem Sound.proceeding {p : PrefixWrites σ} (h : p.Sound) (s : σ) :
    (p.proceeding s (p.sessions s).phase).Sound := by
  have hfits := h.fits s
  cases hphase : (p.sessions s).phase with
  | ready => exact h
  | selecting operation again candidate => exact h.selecting hphase
  | advising operation =>
      rw [hphase] at hfits
      exact h.locking (fun _ hrow => by cases hrow) ⟨hfits, List.mem_cons_self⟩
  | advised operation =>
      rw [hphase] at hfits
      apply h.turns
      refine ⟨hfits.1, fun _ => ⟨hfits.2, fun row hrow => ?_⟩⟩
      rw [hrow]
      rfl
  | locked operation row =>
      rw [hphase] at hfits
      obtain ⟨hvalid, hlock, rfl, hadvised⟩ := hfits
      unfold PrefixWrites.proceeding
      dsimp only
      cases hcheck : operation.check (p.view s) (p.view s).settings with
      | error error => exact h.refusing s (PrefixOperation.check_error hcheck)
      | ok statement => exact h.turns ⟨hlock, PrefixOperation.check_ok hvalid hadvised hcheck⟩
  | checked statement => exact h.executing hphase

theorem Sound.step {p : PrefixWrites σ} (h : p.Sound) (turn : σ × PrefixMove) : (p.step turn).Sound := by
  obtain ⟨s, move⟩ := turn
  unfold PrefixWrites.step
  dsimp only
  split
  · exact h.starting s _
  · exact h.proceeding s
  · exact h.writing (fun _ hneeds => hneeds.elim) trivial
  · exact h.unwinding s _
  · exact h.committing s
  · exact h

/-! ### Runs -/

/-- What a move commits, the oldest write first. -/
def committedBy (p : PrefixWrites σ) : σ × PrefixMove → List PrefixEffect
  | (s, .commit) => if (p.sessions s).phase = .ready then (p.sessions s).work.writes else []
  | _ => []

/-- Past `_lock_for_prefix_write`, in this operation or in an earlier one of the transaction. A save that leaves
`path_prefix` alone writes nothing here, but only `_lock_for_prefix_write` takes the lock of a row. -/
def Past (p : PrefixWrites σ) (s : σ) : Prop :=
  (∃ operation row, (p.sessions s).phase = .locked operation row) ∨
    (∃ statement, (p.sessions s).phase = .checked statement) ∨ ¬ OnlyDeletes (p.sessions s).work ∨
      ∃ pk, .lock (.row pk) ∈ (p.sessions s).work

omit [DecidableEq σ] in
theorem Sound.past {p : PrefixWrites σ} (h : p.Sound) {s : σ} (hpast : p.Past s) :
    .lock p.committed.key ∈ (p.sessions s).work := by
  have hfits := h.fits s
  rcases hpast with ⟨operation, row, hphase⟩ | ⟨statement, hphase⟩ | hwrites | ⟨pk, hrow⟩
  · rw [hphase] at hfits
    exact hfits.2.1
  · rw [hphase] at hfits
    exact hfits.1
  · exact key_of_writes (h.covered s) hwrites
  · exact h.rows s _ List.suffix_rfl pk hrow

theorem locking_committed (p : PrefixWrites σ) (s : σ) (key : PrefixLock) (phase : PrefixPhase) :
    (p.locking s key phase).committed = p.committed := by
  unfold locking
  split <;> rfl

theorem proceeding_committed (p : PrefixWrites σ) (s : σ) (phase : PrefixPhase) :
    (p.proceeding s phase).committed = p.committed := by
  cases phase with
  | selecting operation again candidate =>
      cases candidate with
      | none => rfl
      | some pk =>
          show (p.selecting s operation again (some pk)).committed = p.committed
          unfold selecting
          dsimp only
          split
          · rfl
          · rfl
          · split
            · exact locking_committed p s _ _
            · rfl
  | advising operation => exact locking_committed p s _ _
  | locked operation row =>
      unfold proceeding
      dsimp only
      split <;> rfl
  | checked statement =>
      cases statement with
      | insert pathPrefix =>
          show (p.inserting s pathPrefix).committed = p.committed
          unfold inserting
          split
          · rfl
          · rfl
          · exact locking_committed p s _ _
      | update pk pathPrefix => cases pathPrefix <;> rfl
      | _ => rfl
  | _ => rfl

/-- Only a commit changes what is committed. -/
theorem Sound.serial_step {p : PrefixWrites σ} (h : p.Sound) (turn : σ × PrefixMove) :
    p.committed.Serially (p.committedBy turn) (p.step turn).committed := by
  obtain ⟨s, move⟩ := turn
  have hstays : (p.step (s, move)).committed = p.committed → p.committedBy (s, move) = [] →
      p.committed.Serially (p.committedBy (s, move)) (p.step (s, move)).committed := by
    intro hsame hnothing
    rw [hsame, hnothing]
    exact .nil _
  cases move with
  | start operation =>
      apply hstays _ rfl
      unfold PrefixWrites.step
      dsimp only
      split
      · unfold PrefixWrites.starting
        split <;> rfl
      all_goals first | rfl | contradiction
  | proceed => exact hstays (proceeding_committed p s _) rfl
  | deleteCredential uuid =>
      apply hstays _ rfl
      unfold PrefixWrites.step
      dsimp only
      split <;> first | rfl | contradiction
  | rollbackTo count => exact hstays rfl rfl
  | commit =>
      by_cases hready : (p.sessions s).phase = .ready
      · have hstep : p.step (s, .commit) = p.committing s := by
          unfold PrefixWrites.step
          dsimp only
          rw [hready]
        rw [hstep, committedBy, if_pos hready]
        exact h.serial s
      · apply hstays
        · unfold PrefixWrites.step
          dsimp only
          split <;> first | rfl | contradiction
        · rw [committedBy, if_neg hready]

end PrefixWrites

open PrefixWrites

variable {σ : Type} [DecidableEq σ]

/-- However the transactions interleave, what is committed changes as by operations executed one at a time. -/
theorem prefix_writes_serial (committed : PrefixTables) (nextPk : Nat) (run : List (σ × PrefixMove)) :
    Runs.Along step (fun p turn => p.committed.Serially (p.committedBy turn) (p.step turn).committed)
        (PrefixWrites.start committed nextPk) run ∧
      Runs.Throughout step (fun p => (∀ s t, p.Past s → p.Past t → s = t) ∧
        ∀ refusal ∈ p.refusals, refusal.2 ≠ singletonKeyTaken) (PrefixWrites.start committed nextPk) run := by
  have hsound : Runs.Throughout step Sound (PrefixWrites.start committed nextPk : PrefixWrites σ) run :=
    Runs.throughout_of_step (fun _ turn h => h.step turn) (start_sound committed nextPk) run
  constructor
  · exact Runs.along_of_throughout (C := fun _ _ => True) (fun p turn h _ => h.serial_step turn) hsound
      (Runs.along_of_forall (fun _ _ => trivial) _ _)
  · exact hsound.mono fun p h => ⟨fun s t hs ht => h.alone (h.past hs) (h.past ht), h.quiet⟩

/-- Every credential is stamped under the prefix in force, and none outlives a change of it. -/
theorem credentials_under_settings {committed : PrefixTables} (hcoherent : committed.Coherent) (nextPk : Nat)
    (run : List (σ × PrefixMove)) :
    Runs.Throughout step (fun p => p.committed.Coherent ∧ ∀ s, (p.view s).Coherent)
        (PrefixWrites.start committed nextPk) run ∧
      Runs.Along step (fun p turn => ∀ row, p.committed.settings = some row →
        (p.step turn).committed.settings.map (·.pathPrefix) = some row.pathPrefix ∨
          ∀ credential ∈ (p.step turn).committed.credentials, .createCredential credential ∈ p.committedBy turn)
        (PrefixWrites.start committed nextPk) run := by
  have hserial : ∀ (tables tables' : PrefixTables) (effects : List PrefixEffect),
      tables.Serially effects tables' → tables.Coherent → tables'.Coherent :=
    fun _ _ _ h => h.invariant fun _ _ h hadmits => h.apply hadmits
  have hkept : Runs.Throughout step (fun p : PrefixWrites σ => p.Sound ∧ p.committed.Coherent)
      (PrefixWrites.start committed nextPk) run := by
    apply Runs.throughout_of_step
    · exact fun p turn h => ⟨h.1.step turn, hserial _ _ _ (h.1.serial_step turn) h.2⟩
    · exact ⟨start_sound committed nextPk, hcoherent⟩
  constructor
  · exact hkept.mono fun p h => ⟨h.2, fun s => hserial _ _ _ (h.1.serial s) h.2⟩
  · apply Runs.along_of_throughout (C := fun _ _ => True) _ hkept (Runs.along_of_forall (fun _ _ => trivial) _ _)
    exact fun p turn h _ row hrow => (h.1.serial_step turn).own hrow

/-- A deployment without a settings row, and a credential stamped while there was none. -/
def Sample.unsettled : PrefixTables := ⟨none, [⟨"u1", "netbox/credentials/u1"⟩]⟩

theorem Sample.unsettled_coherent : Sample.unsettled.Coherent where
  sound row hrow := by cases hrow
  under row hrow := by cases hrow
  stamped credential hcredential := by
    rw [List.mem_singleton.mp hcredential]
    exact ⟨"netbox", by decide +kernel, by decide +kernel⟩

/-- The row is created while another session, which has found none, waits to create a credential. -/
def Sample.settling : List (Nat × PrefixMove) :=
  [(0, .start (.saveNew "netbox")), (1, .start (.createCredential "u2" "other")), (0, .proceed), (1, .proceed),
    (0, .proceed), (1, .proceed), (0, .proceed), (0, .proceed), (0, .proceed), (0, .proceed), (1, .proceed), (0, .commit),
    (1, .proceed), (1, .proceed), (1, .proceed), (1, .proceed), (1, .proceed), (1, .commit)]

/-- Then one transaction deletes both credentials, changes the prefix and creates a credential under the new one. -/
def Sample.moving : List (Nat × PrefixMove) :=
  [(1, .deleteCredential "u1"), (1, .deleteCredential "u2"), (1, .start (.save ⟨7, "vault"⟩ true)), (1, .proceed),
    (1, .proceed), (1, .proceed), (1, .start (.createCredential "u3" "other")), (1, .proceed), (1, .proceed),
    (1, .proceed), (1, .commit)]

theorem credentials_under_settings_moved :
    (Runs.final step (PrefixWrites.start Sample.unsettled 7) Sample.settling).committed =
        ⟨some ⟨7, "netbox"⟩, [⟨"u1", "netbox/credentials/u1"⟩, ⟨"u2", "netbox/credentials/u2"⟩]⟩ ∧
      (Runs.final step (PrefixWrites.start Sample.unsettled 7) (Sample.settling ++ Sample.moving)).committed =
        ⟨some ⟨7, "vault"⟩, [⟨"u3", "vault/credentials/u3"⟩]⟩ ∧
      Runs.Throughout step (fun p : PrefixWrites Nat => p.committed.Coherent ∧ ∀ s, (p.view s).Coherent)
        (PrefixWrites.start Sample.unsettled 7) (Sample.settling ++ Sample.moving) ∧
      Runs.Along step (fun p turn => ∀ row, p.committed.settings = some row →
        (p.step turn).committed.settings.map (·.pathPrefix) = some row.pathPrefix ∨
          ∀ credential ∈ (p.step turn).committed.credentials, .createCredential credential ∈ p.committedBy turn)
        (PrefixWrites.start Sample.unsettled 7) (Sample.settling ++ Sample.moving) := by
  refine ⟨by decide +kernel, by decide +kernel, ?_⟩
  exact credentials_under_settings Sample.unsettled_coherent 7 (Sample.settling ++ Sample.moving)

end NetboxOpenbao
