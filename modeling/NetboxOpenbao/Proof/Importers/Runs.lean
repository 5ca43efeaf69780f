import NetboxOpenbao.Effect.Claims
import NetboxOpenbao.Effect.Runs
import NetboxOpenbao.Importers.Runs
import NetboxOpenbao.Operations
import NetboxOpenbao.Proof.Importers.Copies

/-!
# Imports at the same time

The rows of the table and of the open transactions are claims on the unique constraints, and the places where a run may
have put material are claims too, which outlive the transaction until the recovery is done. Neither kind ever clashes,
so a marker is on one row, and no run writes or deletes where another one's row is.
-/

namespace NetboxOpenbao.Importers

open Effect

/-! ### Claims -/

/-- The unique constraints, of a key and one it is held against. -/
def Clash (other key : Key) : Prop := key.clashes other = true

theorem clash_iff {c d : Key} :
    Clash c d ↔ (c.uuid = d.uuid ∨ (c.engine = d.engine ∧ c.path = d.path)) ∨
      (d.importSource ≠ "" ∧ c.importSource = d.importSource) := by
  rw [Clash, Key.clashes, Bool.or_eq_true, Bool.or_eq_true, Bool.and_eq_true, Bool.and_eq_true, beq_iff_eq, beq_iff_eq,
    beq_iff_eq, beq_iff_eq, bne_iff_ne]

theorem Clash.symm {c d : Key} (h : Clash c d) : Clash d c := by
  rw [clash_iff] at h ⊢
  rcases h with (huuid | ⟨hengine, hpath⟩) | ⟨hmarked, hmarker⟩
  · exact .inl (.inl huuid.symm)
  · exact .inl (.inr ⟨hengine.symm, hpath.symm⟩)
  · exact .inr ⟨hmarker ▸ hmarked, hmarker.symm⟩

/-- Where the material of a row is. -/
def Credential.place (row : Credential) : Location := ⟨row.engine, row.path⟩

theorem clash_of_place {row other : Credential} (h : row.place = other.place) : Clash row.key other.key :=
  clash_iff.mpr (.inl (.inr ⟨congrArg Location.engine h, congrArg Location.path h⟩))

/-- Where the run may have put material that belongs to no committed row. -/
def Run.place (run : Run) : Option Location :=
  match run.phase with
  | .inserted _ row _ | .written _ row _ | .rolledBack _ row _ _ _ => some (run.options.engine.location row.path)
  | _ => none

def Run.claim (run : Run) : Option Key := run.uncommitted.map Credential.key

/-- The entries of the unique indexes. -/
def System.keys (system : System) : Claims Nat Key :=
  .ofList (system.estate.tables.credentials.map Credential.key) system.runs Run.claim

def System.places (system : System) : Claims Nat Location :=
  .ofList (system.estate.tables.credentials.map Credential.place) system.runs Run.place

/-! ### One run -/

/-- The source the run is at. -/
def Run.current (run : Run) : Option Attempt :=
  match run.phase with
  | .chosen attempt _ | .cleaned attempt _ | .inserted attempt _ _ | .written attempt _ _
  | .rolledBack attempt _ _ _ _ => some attempt
  | _ => none

/-- The values of the instance are those of the source it is made for. -/
def Run.Shaped (config : Config) (run : Run) : Prop :=
  match run.phase with
  | .cleaned attempt prepared =>
      prepared.credential.key = ⟨attempt.uuid, run.options.engine.engine, "", sourceMarker attempt.source.pk⟩
  | .inserted attempt row _ | .written attempt row _ | .rolledBack attempt row _ _ _ =>
      row.key = attempt.key config run.options.engine.engine
  | _ => True

/-- What an act of a run does to the rows and to the material. -/
inductive Acted (config : Config) (others : List Credential) (run : Run) (estate : Estate) (next : Run)
    (left : Estate) : Prop
  /-- Nothing is claimed, before or after. -/
  | idle (unclaimed : run.place = none) (claims : next.claim = none) (places : next.place = none)
      (credentials : left.tables.credentials = estate.tables.credentials) (store : left.store = estate.store)
  | inserted (attempt : Attempt) (row : Credential) (payload : Payload) (current : run.current = some attempt)
      (key : row.key = attempt.key config run.options.engine.engine)
      (free : occupied estate.tables.credentials row = false) (alone : occupied others row = false)
      (phase : next.phase = .inserted attempt row payload) (options : next.options = run.options)
      (credentials : left.tables.credentials = estate.tables.credentials) (store : left.store = estate.store)
  /-- The run goes on with the claims it has, or without the row or the place. -/
  | kept (claims : next.claim = run.claim ∨ next.claim = none) (places : next.place = run.place ∨ next.place = none)
      (credentials : left.tables.credentials = estate.tables.credentials)
      (store : ∀ location, run.place ≠ some location → left.store location = estate.store location)
  | committed (row stored : Credential) (claims : run.claim = some row.key) (places : run.place = some row.place)
      (key : stored.key = row.key) (unclaimed : next.claim = none) (placed : next.place = none)
      (credentials : left.tables.credentials = estate.tables.credentials ++ [stored])
      (store : left.store = estate.store)

section Acts

variable [MaterialLibrary] {config : Config} {slugify : String → String} {run : Run} {others : List Credential}
  {estate : Estate}

omit [MaterialLibrary] in
theorem put_store (location : Location) (cell : Cell) {other : Location} (h : some location ≠ some other) :
    (estate.put location cell).store other = estate.store other := by
  rw [Estate.put]
  dsimp only
  rw [if_neg fun hsame => h (congrArg some hsame.symm)]

omit [MaterialLibrary] in
theorem recovered_store (options : ImportOptions) (location : Location) (version : Nat) (removed : Bool)
    {other : Location} (h : some location ≠ some other) :
    (recovered options estate location version removed).store other = estate.store other :=
  ((Framed.refl location estate).recovered options version removed).1.elsewhere other fun hsame =>
    h (congrArg some hsame.symm)

omit [MaterialLibrary] in
theorem Run.unheld {run : Run} (h : run.phase = .next) : run.claim = none ∧ run.place = none := by
  rw [Run.claim, Run.uncommitted, Run.place, h]
  exact ⟨rfl, rfl⟩

theorem select_acted (hphase : run.phase = .next) :
    Acted config others run estate (run.select slugify estate).1 (run.select slugify estate).2 := by
  obtain ⟨-, hplace⟩ := Run.unheld hphase
  unfold Run.select
  split
  · exact .idle hplace rfl rfl rfl rfl
  · dsimp only
    split
    · exact .idle hplace (Run.unheld hphase).1 (Run.unheld hphase).2 rfl rfl
    · split
      · exact .idle hplace (Run.unheld hphase).1 (Run.unheld hphase).2 rfl rfl
      · split
        · exact .idle hplace rfl rfl rfl rfl
        next hchosen =>
          refine .idle hplace rfl rfl ?_ rfl
          obtain ⟨policies, nextPolicy, htables⟩ := choosePolicy_tables hchosen
          rw [htables]
          rfl

theorem clean_acted {attempt : Attempt} {policy : CredentialPolicy} (hphase : run.phase = .chosen attempt policy) :
    Acted config others run estate (run.clean config attempt policy estate).1
      (run.clean config attempt policy estate).2 := by
  have hplace : run.place = none := by
    rw [Run.place, hphase]
  unfold Run.clean
  split
  · exact .idle hplace rfl rfl rfl rfl
  · split
    · exact .idle hplace rfl rfl rfl rfl
    · exact .idle hplace rfl rfl rfl rfl

omit [MaterialLibrary] in
theorem insert_acted {attempt : Attempt} {prepared : Prepared} (hphase : run.phase = .cleaned attempt prepared)
    (hshaped : run.Shaped config) :
    Acted config others run estate (run.insert config attempt prepared others estate).1
      (run.insert config attempt prepared others estate).2 := by
  have hplace : run.place = none := by
    rw [Run.place, hphase]
  rw [Run.Shaped, hphase] at hshaped
  have hkey := insertedRow_key config estate.tables.nextCredential hshaped
  unfold Run.insert
  dsimp only
  cases hfree : occupied estate.tables.credentials
      (insertedRow config estate.tables.nextCredential prepared.credential) with
  | true => exact .idle hplace rfl rfl rfl rfl
  | false =>
      rw [if_neg Bool.false_ne_true]
      cases halone : occupied others (insertedRow config estate.tables.nextCredential prepared.credential) with
      | true =>
          rw [if_pos rfl]
          refine .kept (.inl rfl) (.inl rfl) rfl fun _ _ => rfl
      | false =>
          rw [if_neg Bool.false_ne_true]
          have hcurrent : run.current = some attempt := by
            rw [Run.current, hphase]
          exact .inserted attempt _ prepared.payload hcurrent hkey hfree halone rfl rfl rfl rfl

omit [MaterialLibrary] in
theorem write_acted {attempt : Attempt} {row : Credential} {payload : Payload}
    (hphase : run.phase = .inserted attempt row payload) :
    Acted config others run estate (run.write attempt row payload estate).1
      (run.write attempt row payload estate).2 := by
  have hplace : run.place = some (run.options.engine.location row.path) := by
    rw [Run.place, hphase]
  have hclaim : run.claim = some row.key := by
    rw [Run.claim, Run.uncommitted, hphase]
    rfl
  unfold Run.write
  dsimp only
  split
  · exact .kept (.inr rfl) (.inr rfl) rfl fun _ _ => rfl
  · next reached exception _ _ =>
      cases reached with
      | true => exact .kept (.inr rfl) (.inr rfl) rfl fun other hother => put_store _ _ (hplace ▸ hother)
      | false => exact .kept (.inr rfl) (.inr rfl) rfl fun _ _ => rfl
  · exact .kept (.inl hclaim.symm) (.inl hplace.symm) rfl fun other hother => put_store _ _ (hplace ▸ hother)

theorem finish_acted {attempt : Attempt} {row : Credential} {version : Nat}
    (hphase : run.phase = .written attempt row version) (hshaped : run.Shaped config) :
    Acted config others run estate (run.finish attempt row version estate).1
      (run.finish attempt row version estate).2 := by
  have hplace : run.place = some (run.options.engine.location row.path) := by
    rw [Run.place, hphase]
  have hclaim : run.claim = some row.key := by
    rw [Run.claim, Run.uncommitted, hphase]
    rfl
  have hown : run.place = some row.place := by
    rw [Run.Shaped, hphase] at hshaped
    have hengine : row.engine = run.options.engine.engine := congrArg Key.engine hshaped
    rw [hplace, Credential.place, hengine]
    rfl
  unfold Run.finish
  dsimp only
  split
  · exact .kept (.inr rfl) (.inl hplace.symm) rfl fun _ _ => rfl
  · split
    · exact .kept (.inr rfl) (.inl hplace.symm) rfl fun _ _ => rfl
    · next applied exception _ =>
        cases applied with
        | true => exact .committed row { row with kvVersion := some version } hclaim hown rfl rfl rfl rfl rfl
        | false => exact .kept (.inr rfl) (.inr rfl) rfl fun _ _ => rfl
    · exact .committed row { row with kvVersion := some version } hclaim hown rfl rfl rfl rfl rfl

omit [MaterialLibrary] in
theorem recover_acted {attempt : Attempt} {row : Credential} {version : Nat} {removed : Bool} {exception : String}
    (hphase : run.phase = .rolledBack attempt row version removed exception) :
    Acted config others run estate (run.recover attempt row version removed exception estate).1
      (run.recover attempt row version removed exception estate).2 := by
  have hplace : run.place = some (run.options.engine.location row.path) := by
    rw [Run.place, hphase]
  have htables := ((Framed.refl (run.options.engine.location row.path) estate).recovered run.options version removed).2
  refine .kept (.inr rfl) (.inr rfl) (congrArg Tables.credentials htables) fun other hother => ?_
  exact recovered_store _ _ _ _ (hplace ▸ hother)

theorem act_acted (hshaped : run.Shaped config) :
    Acted config others run estate (run.act config slugify others estate).1
      (run.act config slugify others estate).2 := by
  unfold Run.act
  split
  next hphase => exact select_acted hphase
  next hphase => exact clean_acted hphase
  next hphase => exact insert_acted hphase hshaped
  next hphase => exact write_acted hphase
  next hphase => exact finish_acted hphase hshaped
  next hphase => exact recover_acted hphase
  all_goals exact .kept (.inl rfl) (.inl rfl) rfl fun _ _ => rfl

/-! ### How far a run has come -/

theorem act_shaped (hshaped : run.Shaped config) : (run.act config slugify others estate).1.Shaped config := by
  unfold Run.act
  split
  next hphase =>
    unfold Run.select
    split
    · trivial
    · dsimp only
      have hnext : ∀ result remaining, ({ run with result, remaining } : Run).Shaped config := by
        intro result remaining
        rw [Run.Shaped]
        dsimp only
        rw [hphase]
        trivial
      split
      · exact hnext _ _
      · split
        · exact hnext _ _
        · split
          · trivial
          · trivial
  next hphase =>
    unfold Run.clean
    split
    · trivial
    · split
      · trivial
      · next hprepared => exact (prepareCopy_ok hprepared).2.2.2
  next attempt prepared hphase =>
    have hcleaned := hshaped
    rw [Run.Shaped, hphase] at hcleaned
    unfold Run.insert
    dsimp only
    split
    · trivial
    · split
      · exact hshaped
      · exact insertedRow_key config estate.tables.nextCredential hcleaned
  next attempt row payload hphase =>
    rw [Run.Shaped, hphase] at hshaped
    unfold Run.write
    dsimp only
    split
    · trivial
    · trivial
    · exact hshaped
  next attempt row version hphase =>
    rw [Run.Shaped, hphase] at hshaped
    unfold Run.finish
    dsimp only
    split
    · exact hshaped
    · split
      · exact hshaped
      · trivial
      · trivial
  next => trivial
  all_goals exact hshaped

variable (config slugify) in
theorem act_arguments (run : Run) (others : List Credential) (estate : Estate) :
    (run.act config slugify others estate).1.options = run.options ∧
      (run.act config slugify others estate).1.attempts = run.attempts := by
  unfold Run.act
  split
  · unfold Run.select
    split
    · exact ⟨rfl, rfl⟩
    · dsimp only
      split
      · exact ⟨rfl, rfl⟩
      · split
        · exact ⟨rfl, rfl⟩
        · split
          · exact ⟨rfl, rfl⟩
          · exact ⟨rfl, rfl⟩
  · unfold Run.clean
    split
    · exact ⟨rfl, rfl⟩
    · split
      · exact ⟨rfl, rfl⟩
      · exact ⟨rfl, rfl⟩
  · unfold Run.insert
    dsimp only
    split
    · exact ⟨rfl, rfl⟩
    · split
      · exact ⟨rfl, rfl⟩
      · exact ⟨rfl, rfl⟩
  · unfold Run.write
    dsimp only
    split
    · exact ⟨rfl, rfl⟩
    · exact ⟨rfl, rfl⟩
    · exact ⟨rfl, rfl⟩
  · unfold Run.finish
    dsimp only
    split
    · exact ⟨rfl, rfl⟩
    · split
      · exact ⟨rfl, rfl⟩
      · exact ⟨rfl, rfl⟩
      · exact ⟨rfl, rfl⟩
  · exact ⟨rfl, rfl⟩
  all_goals exact ⟨rfl, rfl⟩

end Acts

/-- The sources the run has not done with. -/
def Run.pending (run : Run) : List Attempt := run.current.toList ++ run.remaining

/-- The run has not been left early. -/
def Run.Going (run : Run) : Prop :=
  match run.phase with
  | .raised _ | .killed => False
  | _ => True

/-- What a run knows is committed, and it knows every source it has done with and that has not failed. -/
structure Run.Tracked (tables : Tables) (run : Run) : Prop where
  known : ∀ marker ∈ run.alreadyImported, ∃ row ∈ tables.credentials,
    row.engine = run.options.engine.engine ∧ row.importSource = marker
  mine : ∀ attempt ∈ run.pending, attempt ∈ run.attempts
  done : run.Going → run.result.failed = 0 → run.options.dryRun = false → ∀ attempt ∈ run.attempts,
    sourceMarker attempt.source.pk ∈ run.alreadyImported ∨ attempt ∈ run.pending
  ended : run.phase = .returned → run.remaining = []

section Tracked

variable {run : Run} {tables : Tables}

theorem Run.Tracked.mono {later : Tables} (h : run.Tracked tables)
    (hgrown : ∀ row ∈ tables.credentials, row ∈ later.credentials) : run.Tracked later where
  known marker hmarker := by
    obtain ⟨row, hrow, hvalues⟩ := h.known marker hmarker
    exact ⟨row, hgrown row hrow, hvalues⟩
  mine := h.mine
  done := h.done
  ended := h.ended

/-- Going on with the same source. -/
theorem Run.Tracked.goesOn {phase : Phase} (h : run.Tracked tables) (hgoing : run.Going)
    (hcurrent : ({ run with phase } : Run).current = run.current) (hphase : phase ≠ .returned) :
    ({ run with phase } : Run).Tracked tables where
  known := h.known
  mine attempt hattempt := by
    rw [Run.pending, hcurrent] at hattempt
    exact h.mine attempt hattempt
  done _ hfailed hdry attempt hattempt := by
    rw [Run.pending, hcurrent]
    exact h.done hgoing hfailed hdry attempt hattempt
  ended hreturned := absurd hreturned hphase

theorem Run.Tracked.fails (h : run.Tracked tables) (attempt : Attempt) (exception : String) :
    (run.fails attempt exception).Tracked tables where
  known := h.known
  mine other hother := h.mine other (List.mem_append_right _ hother)
  done _ hfailed := absurd hfailed (Nat.succ_ne_zero _)
  ended := nofun

theorem Run.Tracked.imports [MaterialLibrary] {attempt : Attempt} {row : Credential} (h : run.Tracked tables)
    (hgoing : run.Going) (hcurrent : run.current = some attempt) (hrow : row ∈ tables.credentials)
    (hengine : row.engine = run.options.engine.engine) (hmarker : row.importSource = sourceMarker attempt.source.pk) :
    (run.imports attempt).Tracked tables where
  known marker hknown := by
    rcases List.mem_cons.mp hknown with hsame | hold
    · exact ⟨row, hrow, hengine, hmarker.trans hsame.symm⟩
    · exact h.known marker hold
  mine other hother := h.mine other (List.mem_append_right _ hother)
  done _ hfailed hdry other hother := by
    rcases h.done hgoing hfailed hdry other hother with hknown | hpending
    · exact .inl (List.mem_cons_of_mem _ hknown)
    · rw [Run.pending, hcurrent] at hpending
      rcases List.mem_cons.mp hpending with hsame | hrest
      · rw [hsame]
        exact .inl List.mem_cons_self
      · exact .inr hrest
  ended := nofun

/-- Going on to the next source. -/
theorem Run.Tracked.selects {attempt : Attempt} {rest : List Attempt} {result : ImportResult} (h : run.Tracked tables)
    (hphase : run.phase = .next) (hremaining : run.remaining = attempt :: rest)
    (hfailed : result.failed = run.result.failed)
    (hknown : run.options.dryRun = false → sourceMarker attempt.source.pk ∈ run.alreadyImported) :
    ({ run with remaining := rest, result } : Run).Tracked tables := by
  have hgoing : run.Going := by
    rw [Run.Going, hphase]
    trivial
  have hpending : run.pending = attempt :: rest := by
    rw [Run.pending, Run.current, hphase, hremaining]
    rfl
  have hrest : ({ run with remaining := rest, result } : Run).pending = rest := by
    rw [Run.pending, Run.current]
    dsimp only
    rw [hphase]
    rfl
  refine ⟨h.known, fun other hother => ?_, fun _ hnone hdry other hother => ?_, fun hreturned => ?_⟩
  · rw [hrest] at hother
    exact h.mine other (hpending ▸ List.mem_cons_of_mem _ hother)
  · rw [hrest]
    rcases h.done hgoing (hfailed ▸ hnone) hdry other hother with hsome | hsome
    · exact .inl hsome
    · rw [hpending] at hsome
      rcases List.mem_cons.mp hsome with hsame | hlater
      · rw [hsame]
        exact .inl (hknown hdry)
      · exact .inr hlater
  · rw [hphase] at hreturned
    cases hreturned

end Tracked

section Acts

variable [MaterialLibrary] {config : Config} {slugify : String → String} {run : Run} {others : List Credential}
  {estate : Estate}

theorem select_tracked {tables : Tables} (h : run.Tracked tables) (hphase : run.phase = .next) :
    (run.select slugify estate).1.Tracked tables := by
  have hgoing : run.Going := by
    rw [Run.Going, hphase]
    trivial
  have hnone : run.current = none := by
    rw [Run.current, hphase]
  unfold Run.select
  split
  next hremaining =>
    refine ⟨h.known, fun other hother => ?_, fun _ hfailed hdry other hother => ?_, fun _ => hremaining⟩
    · exact h.mine other (List.mem_append_right _ hother)
    · rcases h.done hgoing hfailed hdry other hother with hknown | hpending
      · exact .inl hknown
      · rw [Run.pending, hnone, hremaining] at hpending
        cases hpending
  next attempt rest hremaining =>
    dsimp only
    split
    next hknown => exact h.selects hphase hremaining rfl fun _ => List.contains_iff_mem.mp hknown
    next hknown =>
      split
      next hdry =>
        refine h.selects hphase hremaining rfl fun hcopying => ?_
        rw [hdry] at hcopying
        cases hcopying
      next =>
        have hpending : run.pending = attempt :: rest := by
          rw [Run.pending, hnone, hremaining]
          rfl
        split
        · refine ⟨h.known, fun other hother => ?_, fun hgone => hgone.elim, nofun⟩
          exact h.mine other (hpending ▸ List.mem_cons_of_mem _ hother)
        · refine ⟨h.known, fun other hother => ?_, fun _ hfailed hdry other hother => ?_, nofun⟩
          · exact h.mine other (hpending ▸ hother)
          · have hdone := h.done hgoing hfailed hdry other hother
            rw [hpending] at hdone
            exact hdone

/-- An act keeps track, where what it commits is among the rows. -/
theorem act_tracked {tables : Tables} (h : run.Tracked tables) (hshaped : run.Shaped config)
    (hcommitted : ∀ row ∈ (run.act config slugify others estate).2.tables.credentials, row ∈ tables.credentials) :
    (run.act config slugify others estate).1.Tracked tables := by
  have hgoing : ∀ {phase}, run.phase = phase → (match phase with | .raised _ | .killed => False | _ => True) →
      run.Going := by
    rintro phase rfl hphase
    exact hphase
  unfold Run.act at hcommitted ⊢
  split
  next hphase => exact select_tracked h hphase
  next hphase =>
    have hcurrent : ∀ attempt policy, run.phase = .chosen attempt policy → run.current = some attempt := by
      intro attempt policy hchosen
      rw [Run.current, hchosen]
    unfold Run.clean
    split
    · exact h.fails _ _
    · split
      · exact h.fails _ _
      · exact h.goesOn (hgoing hphase trivial) (hcurrent _ _ hphase).symm nofun
  next attempt prepared hphase =>
    have hcurrent : run.current = some attempt := by
      rw [Run.current, hphase]
    unfold Run.insert
    dsimp only
    split
    · exact h.fails _ _
    · split
      · exact h
      · exact h.goesOn (hgoing hphase trivial) hcurrent.symm nofun
  next attempt row payload hphase =>
    have hcurrent : run.current = some attempt := by
      rw [Run.current, hphase]
    unfold Run.write
    dsimp only
    split
    · exact h.fails _ _
    · exact h.fails _ _
    · exact h.goesOn (hgoing hphase trivial) hcurrent.symm nofun
  next attempt row version hphase =>
    have hcurrent : run.current = some attempt := by
      rw [Run.current, hphase]
    rw [hphase] at hcommitted
    rw [Run.Shaped, hphase] at hshaped
    dsimp only at hcommitted
    unfold Run.finish at hcommitted ⊢
    dsimp only at hcommitted ⊢
    split
    · exact h.goesOn (hgoing hphase trivial) hcurrent.symm nofun
    next hassignable =>
      rw [if_neg hassignable] at hcommitted
      split
      · exact h.goesOn (hgoing hphase trivial) hcurrent.symm nofun
      · exact h.fails _ _
      next hnone hnever =>
        have hstored : { row with kvVersion := some version } ∈ tables.credentials := by
          apply hcommitted
          split
          · next hfault => exact absurd hfault (hnone _ _)
          · next hfault => exact absurd hfault (hnever _ _)
          · exact List.mem_append_right _ (List.mem_singleton_self _)
        exact h.imports (hgoing hphase trivial) hcurrent hstored (congrArg Key.engine hshaped)
          (congrArg Key.importSource hshaped)
  next => exact h.fails _ _
  all_goals exact h

end Acts

/-! ### The system -/

/-- What the unique constraints allow, and how far every run has come. -/
structure System.Sound (config : Config) (system : System) : Prop where
  keys : system.keys.Exclusive Clash
  places : system.places.Exclusive Eq
  shaped : ∀ run ∈ system.runs, run.Shaped config
  tracked : ∀ run ∈ system.runs, run.Tracked system.estate.tables
  draws : (system.runs.map Run.attempts).Pairwise fun attempts others =>
    ∀ a ∈ attempts, ∀ b ∈ others, a.uuid ≠ b.uuid

/-- The draws of a run that starts are not those of another one. -/
def System.Fresh (system : System) : Event → Prop
  | .start _ attempts => ∀ run ∈ system.runs, ∀ a ∈ run.attempts, ∀ b ∈ attempts, a.uuid ≠ b.uuid
  | _ => True

/-- The rows satisfy the unique constraints. -/
def Unique (tables : Tables) : Prop := (tables.credentials.map Credential.key).Pairwise fun c d => ¬Clash c d

section Systems

variable {config : Config} {system : System}

/-- Two runs have no draw in common. -/
theorem System.Sound.draws_ne (h : system.Sound config) {i j : Nat} {run other : Run} (hrun : system.runs[i]? = some run)
    (hother : system.runs[j]? = some other) (hij : j ≠ i) {a b : Attempt} (ha : a ∈ run.attempts)
    (hb : b ∈ other.attempts) : b.uuid ≠ a.uuid := by
  obtain ⟨hi, rfl⟩ := List.getElem?_eq_some_iff.mp hrun
  obtain ⟨hj, rfl⟩ := List.getElem?_eq_some_iff.mp hother
  have hpairs := List.pairwise_map.mp h.draws
  rcases Nat.lt_or_gt_of_ne hij with hlt | hlt
  · exact List.pairwise_iff_getElem.mp hpairs j i hj hi hlt b hb a ha
  · exact fun hsame => List.pairwise_iff_getElem.mp hpairs i j hi hj hlt a ha b hb hsame.symm

/-- A place a run holds is the path of its current source. -/
theorem Run.place_path {run : Run} (hshaped : run.Shaped config) {place : Location} (hplace : run.place = some place) :
    ∃ attempt, run.current = some attempt ∧ place.path = attempt.path config := by
  rw [Run.Shaped] at hshaped
  rw [Run.place] at hplace
  rw [Run.current]
  split at hplace
  next attempt row payload hphase =>
    rw [hphase] at hshaped ⊢
    obtain rfl := Option.some.inj hplace
    exact ⟨attempt, rfl, congrArg Key.path hshaped⟩
  next attempt row version hphase =>
    rw [hphase] at hshaped ⊢
    obtain rfl := Option.some.inj hplace
    exact ⟨attempt, rfl, congrArg Key.path hshaped⟩
  next attempt row version removed exception hphase =>
    rw [hphase] at hshaped ⊢
    obtain rfl := Option.some.inj hplace
    exact ⟨attempt, rfl, congrArg Key.path hshaped⟩
  next => cases hplace

theorem Run.current_mem {run : Run} {tables : Tables} (h : run.Tracked tables) {attempt : Attempt}
    (hcurrent : run.current = some attempt) : attempt ∈ run.attempts := by
  refine h.mine attempt (List.mem_append_left _ ?_)
  rw [hcurrent]
  exact List.mem_singleton_self _

section Acts

variable {i : Nat} {run next : Run} {left : Estate}

/-- A place no other run holds and no row has. -/
theorem System.Sound.place_free (h : system.Sound config) (hrun : system.runs[i]? = some run) {attempt : Attempt}
    (hcurrent : run.current = some attempt) {row : Credential}
    (hkey : row.key = attempt.key config run.options.engine.engine)
    (hfree : occupied system.estate.tables.credentials row = false) :
    system.places.Free Eq i (run.options.engine.location row.path) := by
  have hmine := Run.current_mem (h.tracked run (List.mem_of_getElem? hrun)) hcurrent
  constructor
  · intro place hplace hsame
    obtain ⟨other, hother, rfl⟩ := List.mem_map.mp hplace
    have hclash := List.any_eq_false.mp hfree other hother
    apply hclash
    have hengine : row.engine = run.options.engine.engine := congrArg Key.engine hkey
    have hpath : other.path = row.path := congrArg Location.path hsame
    have hothers : other.engine = run.options.engine.engine := congrArg Location.engine hsame
    rw [hengine, hothers, hpath, beq_self_eq_true, beq_self_eq_true, Bool.and_self, Bool.or_true, Bool.true_or]
  · intro j place hj hplace hsame
    cases hother : system.runs[j]? with
    | none =>
        rw [System.places, Claims.ofList] at hplace
        dsimp only at hplace
        rw [hother] at hplace
        cases hplace
    | some other =>
        rw [System.places, Claims.ofList_held hother] at hplace
        have hmem := List.mem_of_getElem? hother
        obtain ⟨theirs, htheirs, hpath⟩ := Run.place_path (h.shaped other hmem) hplace
        have huuid := h.draws_ne hrun hother hj hmine (Run.current_mem (h.tracked other hmem) htheirs)
        have hrowPath : row.path = attempt.path config := congrArg Key.path hkey
        have hpaths : theirs.path config = attempt.path config := by
          rw [← hpath, hsame, ← hrowPath]
          rfl
        exact path_ne huuid hpaths

/-- The claims on the unique constraints, after an act. -/
theorem System.keys_move (hrun : system.runs[i]? = some run)
    (hacted : Acted config (system.runs.filterMap Run.uncommitted) run system.estate next left) :
    system.keys.Move Clash i (left.tables.credentials.map Credential.key) next.claim := by
  have hheld : system.keys.held i = run.claim := Claims.ofList_held hrun
  cases hacted with
  | idle unclaimed claims places credentials store =>
      rw [claims, credentials]
      exact .drop
  | inserted attempt row payload current key free alone phase options credentials store =>
      have hclaim : next.claim = some row.key := by
        rw [Run.claim, Run.uncommitted, phase]
        rfl
      rw [hclaim, credentials]
      refine .take row.key ⟨fun other hother hclash => ?_, fun j other _ hother hclash => ?_⟩
      · rw [occupied_eq] at free
        exact List.any_eq_false.mp free other hother hclash
      · rw [occupied_eq] at alone
        refine List.any_eq_false.mp alone other ?_ hclash
        cases hj : system.runs[j]? with
        | none =>
            rw [System.keys, Claims.ofList] at hother
            dsimp only at hother
            rw [hj] at hother
            cases hother
        | some theirs =>
            rw [System.keys, Claims.ofList_held hj] at hother
            obtain ⟨held, hheld, rfl⟩ := Option.map_eq_some_iff.mp hother
            exact List.mem_map_of_mem (List.mem_filterMap.mpr ⟨theirs, List.mem_of_getElem? hj, hheld⟩)
  | kept claims places credentials store =>
      rw [credentials]
      rcases claims with hclaim | hclaim
      · rw [hclaim, ← hheld]
        exact .stay
      · rw [hclaim]
        exact .drop
  | committed row stored claims places key unclaimed placed credentials store =>
      rw [unclaimed, credentials, List.map_append, List.map_singleton, key]
      exact .commit row.key (hheld.trans claims)

/-- The places, after an act. -/
theorem System.Sound.places_move (h : system.Sound config) (hrun : system.runs[i]? = some run)
    (hacted : Acted config (system.runs.filterMap Run.uncommitted) run system.estate next left) :
    system.places.Move Eq i (left.tables.credentials.map Credential.place) next.place := by
  have hheld : system.places.held i = run.place := Claims.ofList_held hrun
  cases hacted with
  | idle unclaimed claims places credentials store =>
      rw [places, credentials]
      exact .drop
  | inserted attempt row payload current key free alone phase options credentials store =>
      have hplace : next.place = some (run.options.engine.location row.path) := by
        rw [Run.place, phase, ← options]
      rw [hplace, credentials]
      exact .take _ (h.place_free hrun current key free)
  | kept claims places credentials store =>
      rw [credentials]
      rcases places with hplace | hplace
      · rw [hplace, ← hheld]
        exact .stay
      · rw [hplace]
        exact .drop
  | committed row stored claims places key unclaimed placed credentials store =>
      have hsame : stored.place = row.place := by
        rw [Credential.place, Credential.place]
        rw [show stored.engine = row.engine from congrArg Key.engine key,
          show stored.path = row.path from congrArg Key.path key]
      rw [placed, credentials, List.map_append, List.map_singleton, hsame]
      exact .commit row.place (hheld.trans places)

/-- An act leaves every committed row, and what is at its place. -/
theorem System.Sound.act_keeps (h : system.Sound config) (hrun : system.runs[i]? = some run)
    (hacted : Acted config (system.runs.filterMap Run.uncommitted) run system.estate next left) {row : Credential}
    (hrow : row ∈ system.estate.tables.credentials) :
    row ∈ left.tables.credentials ∧ left.store row.place = system.estate.store row.place := by
  have hplace : run.place ≠ some row.place := by
    intro hsame
    have hheld : system.places.held i = some row.place := (Claims.ofList_held hrun).trans hsame
    exact (h.places.held i row.place hheld).committed row.place (List.mem_map_of_mem hrow) rfl
  cases hacted with
  | idle unclaimed claims places credentials store =>
      rw [credentials, store]
      exact ⟨hrow, rfl⟩
  | inserted attempt row' payload current key free alone phase options credentials store =>
      rw [credentials, store]
      exact ⟨hrow, rfl⟩
  | kept claims places credentials store =>
      rw [credentials]
      exact ⟨hrow, store row.place hplace⟩
  | committed row' stored claims places key unclaimed placed credentials store =>
      rw [credentials, store]
      exact ⟨List.mem_append_left _ hrow, rfl⟩

end Acts

variable [MaterialLibrary] {slugify : String → String}

omit [MaterialLibrary] in
theorem set_attempts {runs : List Run} {i : Nat} {run next : Run} (hrun : runs[i]? = some run)
    (hsame : next.attempts = run.attempts) : (runs.set i next).map Run.attempts = runs.map Run.attempts := by
  obtain ⟨hi, rfl⟩ := List.getElem?_eq_some_iff.mp hrun
  have hlength : i < (runs.map Run.attempts).length := by
    rw [List.length_map]
    exact hi
  have hat : runs[i].attempts = (runs.map Run.attempts)[i] := (List.getElem_map _).symm
  rw [List.map_set, hsame, hat, List.set_getElem_self hlength]

/-- The invariant of the system. -/
theorem System.Sound.step (h : system.Sound config) (event : Event) (hfresh : system.Fresh event) :
    (system.step config slugify event).Sound config := by
  cases event with
  | start options attempts =>
      refine ⟨?_, ?_, fun run hrun => ?_, fun run hrun => ?_, ?_⟩
      · rw [System.keys, System.step, Claims.ofList_append rfl]
        exact h.keys
      · rw [System.places, System.step, Claims.ofList_append rfl]
        exact h.places
      · rcases List.mem_append.mp hrun with hold | hnew
        · exact h.shaped run hold
        · rw [List.mem_singleton.mp hnew]
          trivial
      · rcases List.mem_append.mp hrun with hold | hnew
        · exact h.tracked run hold
        · rw [List.mem_singleton.mp hnew]
          refine ⟨fun marker hmarker => ?_, fun _ hattempt => hattempt, fun _ _ _ _ hattempt => .inr hattempt, nofun⟩
          obtain ⟨row, hrow, hsource⟩ := List.mem_map.mp hmarker
          obtain ⟨hstored, hthere⟩ := List.mem_filter.mp hrow
          exact ⟨row, hstored, beq_iff_eq.mp (Bool.and_eq_true_iff.mp hthere).1, hsource⟩
      · rw [System.step]
        dsimp only
        rw [List.map_append]
        refine List.pairwise_append.mpr ⟨h.draws, List.pairwise_singleton _ _, fun theirs htheirs mine hmine => ?_⟩
        obtain ⟨run, hrun, rfl⟩ := List.mem_map.mp htheirs
        rw [List.mem_singleton.mp hmine]
        exact hfresh run hrun
  | act i =>
      rw [System.step]
      cases hrun : system.runs[i]? with
      | none => exact h
      | some run =>
          have hmem := List.mem_of_getElem? hrun
          have hacted : Acted config (system.runs.filterMap Run.uncommitted) run system.estate
              (run.act config slugify (system.runs.filterMap Run.uncommitted) system.estate).1
              (run.act config slugify (system.runs.filterMap Run.uncommitted) system.estate).2 :=
            act_acted (h.shaped run hmem)
          obtain ⟨hoptions, hattempts⟩ := act_arguments config slugify run
            (system.runs.filterMap Run.uncommitted) system.estate
          have hgrown : ∀ row ∈ system.estate.tables.credentials, row ∈
              (run.act config slugify (system.runs.filterMap Run.uncommitted) system.estate).2.tables.credentials :=
            fun row hrow => (h.act_keeps hrun hacted hrow).1
          refine ⟨?_, ?_, fun other hother => ?_, fun other hother => ?_, ?_⟩
          · rw [System.keys]
            dsimp only
            rw [Claims.ofList_set hrun]
            exact h.keys.move (fun _ _ => Clash.symm) (System.keys_move hrun hacted)
          · rw [System.places]
            dsimp only
            rw [Claims.ofList_set hrun]
            exact h.places.move (fun _ _ => Eq.symm) (h.places_move hrun hacted)
          · rcases List.mem_or_eq_of_mem_set hother with hold | hnew
            · exact h.shaped other hold
            · rw [hnew]
              exact act_shaped (h.shaped run hmem)
          · rcases List.mem_or_eq_of_mem_set hother with hold | hnew
            · exact (h.tracked other hold).mono hgrown
            · rw [hnew]
              exact act_tracked ((h.tracked run hmem).mono hgrown) (h.shaped run hmem) fun _ hrow => hrow
          · dsimp only
            rw [set_attempts hrun hattempts]
            exact h.draws
  | kill i =>
      rw [System.step]
      cases hrun : system.runs[i]? with
      | none => exact h
      | some run =>
          have hmem := List.mem_of_getElem? hrun
          refine ⟨?_, ?_, fun other hother => ?_, fun other hother => ?_, ?_⟩
          · rw [System.keys]
            dsimp only
            rw [Claims.ofList_set hrun]
            exact h.keys.drop
          · rw [System.places]
            dsimp only
            rw [Claims.ofList_set hrun]
            exact h.places.drop
          · rcases List.mem_or_eq_of_mem_set hother with hold | hnew
            · exact h.shaped other hold
            · rw [hnew]
              trivial
          · rcases List.mem_or_eq_of_mem_set hother with hold | hnew
            · exact h.tracked other hold
            · have htracked := h.tracked run hmem
              rw [hnew]
              refine ⟨htracked.known, fun attempt hattempt => ?_, fun hgone => hgone.elim, nofun⟩
              exact htracked.mine attempt (List.mem_append_right _ hattempt)
          · have hsame : ({ run with phase := .killed } : Run).attempts = run.attempts := rfl
            dsimp only
            rw [set_attempts hrun hsame]
            exact h.draws

/-- The rows of the first state are in the second, and what is at their places is what it was. -/
def System.Kept (system later : System) : Prop :=
  ∀ row ∈ system.estate.tables.credentials, row ∈ later.estate.tables.credentials ∧
    later.estate.store row.place = system.estate.store row.place

omit [MaterialLibrary] in
theorem System.Kept.trans {later last : System} (h : system.Kept later) (h' : later.Kept last) : system.Kept last := by
  intro row hrow
  obtain ⟨hlater, hcell⟩ := h row hrow
  obtain ⟨hlast, hcell'⟩ := h' row hlater
  exact ⟨hlast, hcell'.trans hcell⟩

theorem System.Sound.step_kept (h : system.Sound config) (event : Event) :
    system.Kept (system.step config slugify event) := by
  intro row hrow
  cases event with
  | start options attempts => exact ⟨hrow, rfl⟩
  | act i =>
      rw [System.step]
      cases hrun : system.runs[i]? with
      | none => exact ⟨hrow, rfl⟩
      | some run => exact h.act_keeps hrun (act_acted (h.shaped run (List.mem_of_getElem? hrun))) hrow
  | kill i =>
      rw [System.step]
      cases system.runs[i]? with
      | none => exact ⟨hrow, rfl⟩
      | some run => exact ⟨hrow, rfl⟩

/-- No run of the system deletes or overwrites what an earlier one has imported. -/
theorem System.Sound.run_kept (events : List Event) :
    ∀ system : System, system.Sound config → Runs.Along (System.step config slugify) System.Fresh system events →
      system.Kept (Runs.final (System.step config slugify) system events) := by
  induction events with
  | nil => exact fun _ _ _ _ hrow => ⟨hrow, rfl⟩
  | cons event events ih =>
      intro system h hfresh
      exact (h.step_kept event).trans (ih _ (h.step event hfresh.1) hfresh.2)

omit [MaterialLibrary] in
/-- A database whose rows satisfy the constraints, before any run. -/
theorem System.sound_of_unique {estate : Estate} (hunique : Unique estate.tables) :
    (System.mk estate []).Sound config := by
  have hplaces : (estate.tables.credentials.map Credential.place).Pairwise fun place other => ¬place = other := by
    refine List.pairwise_map.mpr ?_
    refine List.Pairwise.imp (fun {row other} (hclash : ¬Clash row.key other.key) hplace => ?_)
      (List.pairwise_map.mp hunique)
    exact hclash (clash_of_place hplace)
  refine ⟨Claims.ofList_nil hunique, Claims.ofList_nil hplaces, fun run hrun => ?_, fun run hrun => ?_, ?_⟩
  · cases hrun
  · cases hrun
  · exact List.Pairwise.nil

/-! ### The rows of a source -/

/-- The rows of the table that carry the source's marker. -/
def copiesOf (tables : Tables) (source : SourceSecret) : List Credential :=
  tables.credentials.filter fun row => row.importSource == sourceMarker source.pk

omit [MaterialLibrary] in
theorem System.Sound.copies_le_one (h : system.Sound config) (source : SourceSecret) :
    (copiesOf system.estate.tables source).length ≤ 1 := by
  have hpairs : (copiesOf system.estate.tables source).Pairwise fun row other => ¬Clash row.key other.key :=
    (List.pairwise_map.mp h.keys.committed).filter _
  have hmarked : ∀ row ∈ copiesOf system.estate.tables source, row.importSource = sourceMarker source.pk :=
    fun row hrow => beq_iff_eq.mp (List.mem_filter.mp hrow).2
  generalize copiesOf system.estate.tables source = copies at hpairs hmarked
  match copies with
  | [] => exact Nat.zero_le _
  | [_] => exact Nat.le_refl _
  | row :: other :: rest =>
      exfalso
      apply (List.pairwise_cons.mp hpairs).1 other List.mem_cons_self
      have hrow := hmarked row List.mem_cons_self
      have hother := hmarked other (List.mem_cons_of_mem _ List.mem_cons_self)
      have hnonempty : other.importSource ≠ "" := by
        rw [hother]
        exact sourceMarker_ne source.pk
      exact clash_iff.mpr (.inr ⟨hnonempty, hrow.trans hother.symm⟩)

omit [MaterialLibrary] in
/-- A copying run that has returned, with no source failed, has its row for each of them. -/
theorem System.Sound.copies_of_returned (h : system.Sound config) {run : Run} (hrun : run ∈ system.runs)
    (hreturned : run.phase = .returned) (hfailed : run.result.failed = 0) (hcopying : run.options.dryRun = false)
    {attempt : Attempt} (hattempt : attempt ∈ run.attempts) :
    ∃ row, copiesOf system.estate.tables attempt.source = [row] ∧ row.engine = run.options.engine.engine := by
  have htracked := h.tracked run hrun
  have hgoing : run.Going := by
    rw [Run.Going, hreturned]
    trivial
  have hnothing : run.pending = [] := by
    rw [Run.pending, Run.current, hreturned, htracked.ended hreturned]
    rfl
  have hmarker : sourceMarker attempt.source.pk ∈ run.alreadyImported := by
    rcases htracked.done hgoing hfailed hcopying attempt hattempt with hknown | hpending
    · exact hknown
    · rw [hnothing] at hpending
      cases hpending
  obtain ⟨row, hrow, hengine, hsource⟩ := htracked.known _ hmarker
  have hcopy : row ∈ copiesOf system.estate.tables attempt.source :=
    List.mem_filter.mpr ⟨hrow, beq_iff_eq.mpr hsource⟩
  obtain ⟨only, honly⟩ : ∃ only, copiesOf system.estate.tables attempt.source = [only] := by
    refine List.length_eq_one_iff.mp (Nat.le_antisymm (h.copies_le_one attempt.source) ?_)
    exact List.length_pos_of_mem hcopy
  rw [honly] at hcopy
  exact ⟨only, honly, List.mem_singleton.mp hcopy ▸ hengine⟩

end Systems

/-- Runs at any time, with any failures, and ended anywhere: a source has at most one row, exactly one once a copying run
over it has returned without a failure, and what is imported stays as it is. -/
theorem imports_copy_once [MaterialLibrary] (config : Config) (slugify : String → String) (estate : Estate)
    (hunique : Unique estate.tables) (events : List Event)
    (hdraws : Runs.Along (System.step config slugify) System.Fresh ⟨estate, []⟩ events) :
    let system := Runs.final (System.step config slugify) ⟨estate, []⟩ events
    (∀ source, (copiesOf system.estate.tables source).length ≤ 1) ∧
      (∀ run ∈ system.runs, run.phase = .returned → run.result.failed = 0 → run.options.dryRun = false →
        ∀ attempt ∈ run.attempts, ∃ row, copiesOf system.estate.tables attempt.source = [row] ∧
          row.engine = run.options.engine.engine) ∧
      ∀ earlier later, events = earlier ++ later →
        (Runs.final (System.step config slugify) ⟨estate, []⟩ earlier).Kept system := by
  have hstart : (System.mk estate []).Sound config := System.sound_of_unique hunique
  have hsound : ∀ events, Runs.Along (System.step config slugify) System.Fresh ⟨estate, []⟩ events →
      (Runs.final (System.step config slugify) ⟨estate, []⟩ events).Sound config := fun events hdraws =>
    (Runs.throughout_of_along (P := System.Sound config) (fun _ event h hfresh => h.step event hfresh) hstart
      hdraws).final
  refine ⟨(hsound events hdraws).copies_le_one, fun run hrun hreturned hfailed hcopying attempt hattempt => ?_, ?_⟩
  · exact (hsound events hdraws).copies_of_returned hrun hreturned hfailed hcopying hattempt
  · rintro earlier later rfl
    obtain ⟨hearlier, hlater⟩ := Runs.along_append.mp hdraws
    rw [Runs.final_append]
    exact System.Sound.run_kept later _ (hsound earlier hearlier) hlater

/-- A dry run of one password returns without a failure, and nothing has been imported. -/
theorem dry_run_copies_nothing :
    let system := Runs.final (@System.step NetboxOpenbao.Sample.library (NetboxOpenbao.Sample.config 2) id)
      ⟨Sample.empty, []⟩
      [.start { Sample.onto 1 false with dryRun := true } [Sample.attempt "5f0c"], .act 0, .act 0]
    ∃ run, system.runs = [run] ∧ run.phase = .returned ∧ run.result.failed = 0 ∧
      copiesOf system.estate.tables Sample.login = [] :=
  ⟨_, rfl, rfl, rfl, rfl⟩

namespace Sample

/-- Two runs over one password at the same time, whose inserts meet, and a third once both are over. -/
def meeting : List Event :=
  [.start (onto 1 false) [attempt "5f0c"], .start (onto 1 false) [attempt "71aa"], .act 0, .act 1, .act 0, .act 1, .act 0,
    .act 1, .act 0, .act 0, .act 1, .act 0, .act 1, .start (onto 1 false) [attempt "9c3e"], .act 2, .act 2]

def meet (events : List Event) : System :=
  Runs.final (@System.step NetboxOpenbao.Sample.library (NetboxOpenbao.Sample.config 2) id) ⟨empty, []⟩ events

theorem fresh_of_all {system : System} {options : ImportOptions} {attempts : List Attempt}
    (hall : (system.runs.all fun run => run.attempts.all fun a => attempts.all fun b => a.uuid != b.uuid) = true) :
    system.Fresh (.start options attempts) := by
  intro run hrun a ha b hb
  have hruns := List.all_eq_true.mp hall run hrun
  exact bne_iff_ne.mp (List.all_eq_true.mp (List.all_eq_true.mp hruns a ha) b hb)

end Sample

/-- The second run finds the marker taken and counts a failure, and the third skips its source. -/
theorem one_password_copied_once :
    (∀ source, (copiesOf (Sample.meet Sample.meeting).estate.tables source).length ≤ 1) ∧
      (∀ run ∈ (Sample.meet Sample.meeting).runs, run.phase = .returned → run.result.failed = 0 →
        run.options.dryRun = false → ∀ attempt ∈ run.attempts, ∃ row,
          copiesOf (Sample.meet Sample.meeting).estate.tables attempt.source = [row] ∧
            row.engine = run.options.engine.engine) ∧
      (∀ earlier later, Sample.meeting = earlier ++ later →
        (Sample.meet earlier).Kept (Sample.meet Sample.meeting)) ∧
      (copiesOf (Sample.meet Sample.meeting).estate.tables Sample.login).map Credential.kvVersion = [some 1] ∧
      (Sample.meet Sample.meeting).runs.map (fun run => (run.result.imported, run.result.skipped, run.result.failed)) =
        [(1, 0, 0), (0, 0, 1), (0, 1, 0)] ∧
      (Sample.meet Sample.meeting).runs.map Run.phase = [.returned, .returned, .returned] := by
  obtain ⟨hone, hreturned, hkept⟩ := @imports_copy_once NetboxOpenbao.Sample.library (NetboxOpenbao.Sample.config 2) id
    Sample.empty List.Pairwise.nil Sample.meeting
    ⟨Sample.fresh_of_all rfl, Sample.fresh_of_all rfl, trivial, trivial, trivial, trivial, trivial, trivial, trivial,
      trivial, trivial, trivial, trivial, Sample.fresh_of_all rfl, trivial, trivial, trivial⟩
  exact ⟨hone, hreturned, hkept, rfl, rfl, rfl⟩

end NetboxOpenbao.Importers
