import Mathlib.Tactic.ByContra
import NetboxOpenbao.Operations
import NetboxOpenbao.Proof.Importers.Copies

/-!
# Importing onto two engines

A run recognises what it has imported by engine, and the table keeps its markers unique over all engines. So what one
run has imported no run onto another engine imports again.
-/

namespace NetboxOpenbao.Importers

open Effect

section Engines

variable [MaterialLibrary] {config : Config} {slugify : String → String} {options : ImportOptions}

/-! ### A run that maps no roles -/

omit [MaterialLibrary] in
theorem choosePolicy_unmapped (hunmapped : options.mapRoles = false) (attempt : Attempt) (loop : Loop) :
    choosePolicy slugify options attempt loop =
      .ok ⟨options.fallbackPolicy, loop.estate.tables, loop.policyCache, loop.result.policiesNeedingSetup⟩ := by
  unfold choosePolicy asksPolicy policyFor
  rw [hunmapped]
  cases attempt.policyFault with
  | none => rfl
  | some exception => rfl

/-- A row of the table has the source's marker. -/
def Taken (tables : Tables) (source : SourceSecret) : Prop :=
  ∃ row ∈ tables.credentials, row.importSource = sourceMarker source.pk

/-- What holds after the attempts that are done: the rows there were, and one more for each import. -/
structure Imported (config : Config) (start : Estate) (sources : List SourceSecret) (loop : Loop) : Prop where
  contentTypes : loop.estate.tables.contentTypes = start.tables.contentTypes
  already : ∀ marker ∈ loop.alreadyImported, ∃ row ∈ loop.estate.tables.credentials, row.importSource = marker
  rows : ∃ added, loop.estate.tables.credentials = start.tables.credentials ++ added ∧
    added.length = loop.result.imported ∧
    ∀ row ∈ added, ∃ source ∈ sources, row.importSource = sourceMarker source.pk ∧ ¬Taken start.tables source ∧
      importable config start.tables.contentTypes source = true

theorem importOne_copied {loop : Loop} {attempt : Attempt} (hcopying : options.dryRun = false)
    (hunmapped : options.mapRoles = false)
    (h : loop.alreadyImported.contains (sourceMarker attempt.source.pk) = false) :
    importOne config slugify options loop attempt =
      .ok (copyOne config options attempt loop
        ⟨options.fallbackPolicy, loop.estate.tables, loop.policyCache, loop.result.policiesNeedingSetup⟩) := by
  unfold importOne
  rw [h, hcopying, choosePolicy_unmapped hunmapped]
  rfl

variable (config options) in
/-- A copy adds a row and counts it, or does neither. -/
theorem copyOne_cases (attempt : Attempt) (loop : Loop) (hnone : attempt.fault = .none) :
    let chosen : ChosenPolicy :=
      ⟨options.fallbackPolicy, loop.estate.tables, loop.policyCache, loop.result.policiesNeedingSetup⟩
    let next := copyOne config options attempt loop chosen
    ((copySecret config options options.fallbackPolicy attempt loop.estate).1 = none ∧
      (∃ row, Stored config options options.fallbackPolicy attempt loop.estate next.estate row) ∧
        next.result.imported = loop.result.imported + 1 ∧
        next.alreadyImported = sourceMarker attempt.source.pk :: loop.alreadyImported) ∨
      ((copySecret config options options.fallbackPolicy attempt loop.estate).1 ≠ none ∧
        Undone config options attempt loop.estate next.estate ∧ next.result.imported = loop.result.imported ∧
          next.alreadyImported = loop.alreadyImported) := by
  dsimp only
  have hended := copySecret_ended config options options.fallbackPolicy attempt loop.estate
  unfold copyOne
  dsimp only
  generalize copySecret config options options.fallbackPolicy attempt loop.estate = result at hended ⊢
  obtain ⟨raised, left⟩ := result
  cases raised with
  | none =>
      rcases hended with ⟨exception, hraised, -⟩ | ⟨row, hstored, -⟩
      · cases hraised
      · exact .inl ⟨rfl, ⟨row, hstored⟩, rfl, rfl⟩
  | some exception =>
      rcases hended with ⟨_, -, hundone⟩ | ⟨row, -, hnone' | ⟨_, hcommit⟩⟩
      · exact .inr ⟨nofun, hundone, rfl, rfl⟩
      · cases hnone'
      · rw [hnone] at hcommit
        cases hcommit

omit [MaterialLibrary] in
theorem not_taken_of_free {estate : Estate} {attempt : Attempt} {engine : Nat}
    (hfree : (estate.tables.credentials.map Credential.key).any (attempt.key config engine).clashes = false) :
    ¬Taken estate.tables attempt.source := by
  rintro ⟨row, hrow, hmarker⟩
  have hclash := List.any_eq_false.mp hfree row.key (List.mem_map_of_mem hrow)
  refine hclash ?_
  rw [Key.clashes, Bool.or_eq_true]
  right
  rw [Bool.and_eq_true, bne_iff_ne]
  exact ⟨sourceMarker_ne _, beq_iff_eq.mpr hmarker⟩

theorem importOne_imported {start : Estate} {sources : List SourceSecret} {loop next : Loop} {attempt : Attempt}
    (hcopying : options.dryRun = false) (hunmapped : options.mapRoles = false) (hnone : attempt.fault = .none)
    (h : Imported config start sources loop) (hnext : importOne config slugify options loop attempt = .ok next) :
    Imported config start (sources ++ [attempt.source]) next := by
  obtain ⟨added, hrows, hcount, hadded⟩ := h.rows
  have hearlier : ∀ row ∈ added, ∃ source ∈ sources ++ [attempt.source],
      row.importSource = sourceMarker source.pk ∧ ¬Taken start.tables source ∧
        importable config start.tables.contentTypes source = true := by
    intro row hrow
    obtain ⟨source, hsource, hrest⟩ := hadded row hrow
    exact ⟨source, List.mem_append_left _ hsource, hrest⟩
  cases hskip : loop.alreadyImported.contains (sourceMarker attempt.source.pk) with
  | true =>
      rw [importOne_skipped hskip] at hnext
      obtain rfl := Except.ok.inj hnext
      exact ⟨h.contentTypes, h.already, added, hrows, hcount, hearlier⟩
  | false =>
      rw [importOne_copied hcopying hunmapped hskip] at hnext
      obtain rfl := Except.ok.inj hnext
      rcases copyOne_cases config options attempt loop hnone with
        ⟨-, ⟨row, hstored⟩, himported, halready⟩ | ⟨-, hundone, himported, halready⟩
      · have hmarker : row.importSource = sourceMarker attempt.source.pk := congrArg Key.importSource hstored.key
        refine ⟨hstored.framed.contentTypes.trans h.contentTypes, ?_, added ++ [row], ?_, ?_, ?_⟩
        · rw [halready, hstored.credentials]
          rintro marker hmem
          rcases List.mem_cons.mp hmem with rfl | hmem
          · exact ⟨row, List.mem_append_right _ (List.mem_singleton_self _), hmarker⟩
          · obtain ⟨other, hother, hsame⟩ := h.already marker hmem
            exact ⟨other, List.mem_append_left _ hother, hsame⟩
        · rw [hstored.credentials, hrows, List.append_assoc]
        · rw [List.length_append, hcount, himported]
          rfl
        · intro other hother
          rcases List.mem_append.mp hother with hother | hother
          · exact hearlier other hother
          · rw [List.mem_singleton.mp hother]
            refine ⟨attempt.source, List.mem_append_right _ (List.mem_singleton_self _), hmarker, ?_, ?_⟩
            · rintro ⟨first, hfirst, hsame⟩
              refine not_taken_of_free hstored.free ⟨first, ?_, hsame⟩
              rw [hrows]
              exact List.mem_append_left _ hfirst
            · rw [← h.contentTypes]
              exact hstored.importable
      · refine ⟨hundone.framed.contentTypes.trans h.contentTypes, ?_, added, ?_, ?_, hearlier⟩
        · rw [halready, hundone.credentials]
          exact h.already
        · rw [hundone.credentials, hrows]
        · rw [himported, hcount]

variable (config slugify) in
/-- What a run that copies on one policy has done with the sources it is through with. -/
theorem importSecrets_imported (hcopying : options.dryRun = false) (hunmapped : options.mapRoles = false)
    {attempts : List Attempt} (hfaults : ∀ attempt ∈ attempts, attempt.fault = .none) (estate : Estate) :
    Imported config estate (attempts.map Attempt.source)
      (importSecrets config slugify options attempts estate).2 := by
  refine (importLoop_returns (P := fun done loop => Imported config estate (done.map Attempt.source) loop)
    (fun done attempt rest loop hall h => ?_) ?_).2
  · have hmem : attempt ∈ attempts := hall ▸ List.mem_append_right _ List.mem_cons_self
    have hreturns : ∃ next, importOne config slugify options loop attempt = .ok next := by
      cases hskip : loop.alreadyImported.contains (sourceMarker attempt.source.pk) with
      | true => exact ⟨_, importOne_skipped hskip⟩
      | false => exact ⟨_, importOne_copied hcopying hunmapped hskip⟩
    obtain ⟨next, hnext⟩ := hreturns
    refine ⟨next, hnext, ?_⟩
    rw [List.map_append]
    exact importOne_imported hcopying hunmapped (hfaults attempt hmem) h hnext
  · refine ⟨rfl, fun marker hmarker => ?_, [], (List.append_nil _).symm, rfl, nofun⟩
    obtain ⟨row, hrow, hsame⟩ := List.mem_map.mp hmarker
    exact ⟨row, (List.mem_filter.mp hrow).1, hsame⟩

/-! ### A run that nothing stands in the way of -/

/-- The identifiers the run draws are new, and the backend takes a write at each of their paths. -/
structure Fresh (config : Config) (engine : Backend) (attempts : List Attempt) (estate : Estate) : Prop where
  distinct : (attempts.map Attempt.uuid).Nodup
  uuids : ∀ attempt ∈ attempts, ∀ row ∈ estate.tables.credentials, row.uuid ≠ attempt.uuid
  paths : ∀ row ∈ estate.tables.credentials, row.path ≠ "" ∧ ∀ attempt ∈ attempts, row.path ≠ attempt.path config
  taken : ∀ attempt ∈ attempts, ∀ payload, ∃ written,
    engine.writeCell (estate.store (engine.location (attempt.path config))) payload (some 0) = .ok written

omit [MaterialLibrary] in
theorem Fresh.clear {engine : Backend} {attempt : Attempt} {rest : List Attempt} {estate : Estate}
    (h : Fresh config engine (attempt :: rest) estate) (hfree : ¬Taken estate.tables attempt.source) :
    Clear config engine attempt estate := by
  have hclashes : ∀ path, (∀ row ∈ estate.tables.credentials, row.path ≠ path) →
      (estate.tables.credentials.map Credential.key).any
        (Key.clashes ⟨attempt.uuid, engine.engine, path, sourceMarker attempt.source.pk⟩) = false := by
    intro path hpath
    rw [List.any_eq_false]
    intro key hkey hclash
    obtain ⟨row, hrow, rfl⟩ := List.mem_map.mp hkey
    rw [Key.clashes, Bool.or_eq_true, Bool.or_eq_true, Bool.and_eq_true, Bool.and_eq_true] at hclash
    rcases hclash with (huuid | ⟨-, hsame⟩) | ⟨-, hmarker⟩
    · exact h.uuids attempt List.mem_cons_self row hrow (beq_iff_eq.mp huuid)
    · exact hpath row hrow (beq_iff_eq.mp hsame)
    · exact hfree ⟨row, hrow, beq_iff_eq.mp hmarker⟩
  exact ⟨hclashes "" fun row hrow => (h.paths row hrow).1,
    hclashes _ fun row hrow => (h.paths row hrow).2 attempt List.mem_cons_self, h.taken attempt List.mem_cons_self⟩

omit [MaterialLibrary] in
/-- A copy that adds no row but its own keeps the rest fresh. -/
theorem Fresh.rest {engine : Backend} {attempt : Attempt} {rest : List Attempt} {estate left : Estate}
    (h : Fresh config engine (attempt :: rest) estate)
    (hframed : Framed (engine.location (attempt.path config)) estate left)
    (hrows : ∀ row ∈ left.tables.credentials,
      row ∈ estate.tables.credentials ∨ row.key = attempt.key config engine.engine) :
    Fresh config engine rest left := by
  obtain ⟨hhead, htail⟩ := List.nodup_cons.mp h.distinct
  have hdiffer : ∀ other ∈ rest, attempt.uuid ≠ other.uuid := by
    intro other hother hsame
    exact hhead (hsame ▸ List.mem_map_of_mem hother)
  refine ⟨htail, fun other hother row hrow => ?_, fun row hrow => ?_, fun other hother payload => ?_⟩
  · rcases hrows row hrow with hrow | hkey
    · exact h.uuids other (List.mem_cons_of_mem _ hother) row hrow
    · have huuid : row.uuid = attempt.uuid := congrArg Key.uuid hkey
      rw [huuid]
      exact hdiffer other hother
  · rcases hrows row hrow with hrow | hkey
    · obtain ⟨hblank, hpaths⟩ := h.paths row hrow
      exact ⟨hblank, fun other hother => hpaths other (List.mem_cons_of_mem _ hother)⟩
    · have hpath : row.path = attempt.path config := congrArg Key.path hkey
      rw [hpath]
      exact ⟨path_ne_empty config attempt, fun other hother => path_ne (hdiffer other hother)⟩
  · have hplace : engine.location (other.path config) ≠ engine.location (attempt.path config) := by
      intro hsame
      exact path_ne (hdiffer other hother) (congrArg Location.path hsame).symm
    rw [hframed.elsewhere _ hplace]
    exact h.taken other (List.mem_cons_of_mem _ hother) payload

/-- The invariant of a run nothing stands in the way of: what could be imported is there. -/
structure Settled (config : Config) (engine : Backend) (start : Estate) (attempts done : List Attempt) (loop : Loop) :
    Prop where
  fresh : ∀ rest, attempts = done ++ rest → Fresh config engine rest loop.estate
  contentTypes : loop.estate.tables.contentTypes = start.tables.contentTypes
  already : ∀ marker ∈ loop.alreadyImported, ∃ row ∈ loop.estate.tables.credentials, row.importSource = marker
  settled : ∀ attempt ∈ done, importable config start.tables.contentTypes attempt.source = true →
    Taken loop.estate.tables attempt.source

theorem importOne_settled {start : Estate} {attempts done rest : List Attempt} {attempt : Attempt} {loop : Loop}
    (hcopying : options.dryRun = false) (hunmapped : options.mapRoles = false)
    (hpolicy : options.fallbackPolicy.engine = options.engine.engine) (hnone : attempt.fault = .none)
    (hall : attempts = done ++ attempt :: rest) (h : Settled config options.engine start attempts done loop) :
    ∃ next, importOne config slugify options loop attempt = .ok next ∧
      Settled config options.engine start attempts (done ++ [attempt]) next := by
  have hrest : ∀ others, attempts = (done ++ [attempt]) ++ others → others = rest := by
    intro others hothers
    rw [hall, List.append_assoc, List.singleton_append] at hothers
    exact (List.cons.inj (List.append_cancel_left hothers)).2.symm
  cases hskip : loop.alreadyImported.contains (sourceMarker attempt.source.pk) with
  | true =>
      refine ⟨_, importOne_skipped hskip, fun others hothers => ?_, h.contentTypes, h.already, fun other hother hcan => ?_⟩
      · obtain rfl := hrest others hothers
        exact (h.fresh _ hall).rest (Framed.refl _ _) fun row hrow => .inl hrow
      · rcases List.mem_append.mp hother with hother | hother
        · exact h.settled other hother hcan
        · rw [List.mem_singleton.mp hother]
          exact h.already _ (List.contains_iff_mem.mp hskip)
  | false =>
      refine ⟨_, importOne_copied hcopying hunmapped hskip, ?_⟩
      rcases copyOne_cases config options attempt loop hnone with
        ⟨-, ⟨row, hstored⟩, -, halready⟩ | ⟨hraised, hundone, -, halready⟩
      · have hmarker : row.importSource = sourceMarker attempt.source.pk := congrArg Key.importSource hstored.key
        refine ⟨fun others hothers => ?_, hstored.framed.contentTypes.trans h.contentTypes, ?_, fun other hother hcan => ?_⟩
        · obtain rfl := hrest others hothers
          refine (h.fresh _ hall).rest hstored.framed fun found hfound => ?_
          rw [hstored.credentials] at hfound
          rcases List.mem_append.mp hfound with hfound | hfound
          · exact .inl hfound
          · rw [List.mem_singleton.mp hfound]
            exact .inr hstored.key
        · rw [halready, hstored.credentials]
          rintro marker hmem
          rcases List.mem_cons.mp hmem with rfl | hmem
          · exact ⟨row, List.mem_append_right _ (List.mem_singleton_self _), hmarker⟩
          · obtain ⟨found, hfound, hsame⟩ := h.already marker hmem
            exact ⟨found, List.mem_append_left _ hfound, hsame⟩
        · rw [Taken, hstored.credentials]
          rcases List.mem_append.mp hother with hother | hother
          · obtain ⟨found, hfound, hsame⟩ := h.settled other hother hcan
            exact ⟨found, List.mem_append_left _ hfound, hsame⟩
          · rw [List.mem_singleton.mp hother]
            exact ⟨row, List.mem_append_right _ (List.mem_singleton_self _), hmarker⟩
      · refine ⟨fun others hothers => ?_, hundone.framed.contentTypes.trans h.contentTypes, ?_, fun other hother hcan => ?_⟩
        · obtain rfl := hrest others hothers
          refine (h.fresh _ hall).rest hundone.framed fun found hfound => ?_
          rw [hundone.credentials] at hfound
          exact .inl hfound
        · rw [halready, hundone.credentials]
          exact h.already
        · rw [Taken, hundone.credentials]
          rcases List.mem_append.mp hother with hother | hother
          · exact h.settled other hother hcan
          · rw [List.mem_singleton.mp hother] at hcan ⊢
            -- A source that can be imported and has no row yet would have been copied.
            by_contra hfree
            refine hraised (copySecret_copies hnone ?_ hpolicy ((h.fresh _ hall).clear hfree))
            rw [h.contentTypes]
            exact hcan

variable (slugify) in
theorem importSecrets_settled (hcopying : options.dryRun = false) (hunmapped : options.mapRoles = false)
    (hpolicy : options.fallbackPolicy.engine = options.engine.engine) {attempts : List Attempt}
    (hfaults : ∀ attempt ∈ attempts, attempt.fault = .none) {estate : Estate}
    (hfresh : Fresh config options.engine attempts estate) :
    Settled config options.engine estate attempts attempts (importSecrets config slugify options attempts estate).2 := by
  refine (importLoop_returns (P := Settled config options.engine estate attempts)
    (fun done attempt rest loop hall h => ?_) ?_).2
  · exact importOne_settled hcopying hunmapped hpolicy
      (hfaults attempt (hall ▸ List.mem_append_right _ List.mem_cons_self)) hall h
  · refine ⟨fun rest hrest => (hrest.trans (List.nil_append rest)) ▸ hfresh, rfl, fun marker hmarker => ?_, nofun⟩
    obtain ⟨row, hrow, hsame⟩ := List.mem_map.mp hmarker
    exact ⟨row, (List.mem_filter.mp hrow).1, hsame⟩

/-- The second run imports nothing, so it imports as much as the first exactly when that had nothing to import. -/
theorem second_import_matches_iff (config : Config) (slugify : String → String) (first second : ImportOptions)
    (hfirst : first.dryRun = false ∧ first.mapRoles = false) (hsecond : second.dryRun = false ∧ second.mapRoles = false)
    (hpolicy : first.fallbackPolicy.engine = first.engine.engine) (attempts again : List Attempt)
    (hsources : again.map Attempt.source = attempts.map Attempt.source)
    (hfaults : ∀ attempt ∈ attempts, attempt.fault = .none) (hfaults' : ∀ attempt ∈ again, attempt.fault = .none)
    (estate : Estate) (hfresh : Fresh config first.engine attempts estate) :
    let once := (importSecrets config slugify first attempts estate).2
    let twice := (importSecrets config slugify second again once.estate).2
    twice.result.imported = 0 ∧
      (twice.result.imported = once.result.imported ↔ ∀ source ∈ attempts.map Attempt.source,
        Taken estate.tables source ∨ importable config estate.tables.contentTypes source = false) := by
  dsimp only
  have hsettled := importSecrets_settled slugify hfirst.1 hfirst.2 hpolicy hfaults hfresh
  have honce := importSecrets_imported config slugify hfirst.1 hfirst.2 hfaults estate
  generalize (importSecrets config slugify first attempts estate).2 = once at hsettled honce ⊢
  have htwice := importSecrets_imported config slugify hsecond.1 hsecond.2 hfaults' once.estate
  generalize (importSecrets config slugify second again once.estate).2 = twice at htwice ⊢
  obtain ⟨added, hrows, hcount, hadded⟩ := honce.rows
  obtain ⟨later, -, hlaterCount, hlater⟩ := htwice.rows
  have hnothing : twice.result.imported = 0 := by
    rw [← hlaterCount, List.length_eq_zero_iff, List.eq_nil_iff_forall_not_mem]
    intro row hrow
    obtain ⟨source, hsource, -, hfree, hcan⟩ := hlater row hrow
    rw [hsources] at hsource
    obtain ⟨attempt, hattempt, rfl⟩ := List.mem_map.mp hsource
    rw [honce.contentTypes] at hcan
    exact hfree (hsettled.settled attempt hattempt hcan)
  refine ⟨hnothing, ?_⟩
  rw [hnothing, ← hcount]
  constructor
  · intro hempty source hsource
    cases hcan : importable config estate.tables.contentTypes source with
    | false => exact .inr rfl
    | true =>
        obtain ⟨attempt, hattempt, rfl⟩ := List.mem_map.mp hsource
        obtain ⟨row, hrow, hmarker⟩ := hsettled.settled attempt hattempt hcan
        rw [hrows, List.length_eq_zero_iff.mp hempty.symm, List.append_nil] at hrow
        exact .inl ⟨row, hrow, hmarker⟩
  · intro hall
    symm
    rw [List.length_eq_zero_iff, List.eq_nil_iff_forall_not_mem]
    intro row hrow
    obtain ⟨source, hsource, -, hfree, hcan⟩ := hadded row hrow
    rcases hall source hsource with htaken | hcannot
    · exact hfree htaken
    · rw [hcan] at hcannot
      cases hcannot

end Engines

/-! ### One password onto two engines -/

namespace Sample

theorem fresh (uuid : String) : Fresh (NetboxOpenbao.Sample.config 2) (onto 1 false).engine [attempt uuid] empty := by
  refine ⟨List.pairwise_singleton _ _, ?_, ?_, fun _ _ payload => ?_⟩
  · exact fun _ _ row hrow => nomatch hrow
  · exact fun row hrow => nomatch hrow
  · exact ⟨(1, ⟨Secret.empty.push payload, none⟩),
      (Backend.writeCell_v2 rfl).mpr ⟨fun n hn => (Option.some.inj hn).symm, rfl, rfl⟩⟩

end Sample

/-- The password is on the first engine and not on the second. -/
theorem one_password_reaches_one_engine :
    let once := (@importSecrets NetboxOpenbao.Sample.library (NetboxOpenbao.Sample.config 2) id (Sample.onto 1 false)
      [Sample.attempt "5f0c"] Sample.empty).2
    let twice := (@importSecrets NetboxOpenbao.Sample.library (NetboxOpenbao.Sample.config 2) id (Sample.onto 2 false)
      [Sample.attempt "71aa"] once.estate).2
    once.result.imported = 1 ∧ twice.result.imported = 0 ∧ twice.result.failed = 1 := by
  decide +kernel

theorem second_import_of_one_password :
    let once := (@importSecrets NetboxOpenbao.Sample.library (NetboxOpenbao.Sample.config 2) id (Sample.onto 1 false)
      [Sample.attempt "5f0c"] Sample.empty).2
    let twice := (@importSecrets NetboxOpenbao.Sample.library (NetboxOpenbao.Sample.config 2) id (Sample.onto 2 false)
      [Sample.attempt "71aa"] once.estate).2
    twice.result.imported = 0 ∧
      (twice.result.imported = once.result.imported ↔ ∀ source ∈ [Sample.login],
        Taken Sample.empty.tables source ∨
          @importable NetboxOpenbao.Sample.library (NetboxOpenbao.Sample.config 2) [] source = false) :=
  @second_import_matches_iff NetboxOpenbao.Sample.library (NetboxOpenbao.Sample.config 2) id (Sample.onto 1 false)
    (Sample.onto 2 false) ⟨rfl, rfl⟩ ⟨rfl, rfl⟩ rfl [Sample.attempt "5f0c"] [Sample.attempt "71aa"] rfl
    (fun _ h => by rw [List.mem_singleton.mp h]; rfl) (fun _ h => by rw [List.mem_singleton.mp h]; rfl) Sample.empty
    (Sample.fresh "5f0c")

end NetboxOpenbao.Importers
