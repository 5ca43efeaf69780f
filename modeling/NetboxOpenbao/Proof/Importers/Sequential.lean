import NetboxOpenbao.Effect.Runs
import NetboxOpenbao.Importers.Runs

/-!
# A run alone

The acts of a run that nothing comes between are `import_secrets`.
-/

namespace NetboxOpenbao.Importers

open Effect

section Alone

variable [MaterialLibrary] {config : Config} {slugify : String → String}

/-- The act of a run whose transaction is the only one open. -/
def actAlone (config : Config) (slugify : String → String) (state : Run × Estate) : Run × Estate :=
  state.1.act config slugify state.1.uncommitted.toList state.2

/-- Some acts of the run lead from the first state to the second. -/
inductive Leads (config : Config) (slugify : String → String) : Run × Estate → Run × Estate → Prop
  | refl (state : Run × Estate) : Leads config slugify state state
  | act {state last : Run × Estate} (rest : Leads config slugify (actAlone config slugify state) last) :
      Leads config slugify state last

theorem Leads.trans {a b c : Run × Estate} (h : Leads config slugify a b) (h' : Leads config slugify b c) :
    Leads config slugify a c := by
  induction h with
  | refl state => exact h'
  | act rest ih => exact .act (ih h')

/-- One act, whose result is known. -/
theorem Leads.next {state next last : Run × Estate} (hact : actAlone config slugify state = next)
    (h : Leads config slugify next last) : Leads config slugify state last := by
  subst hact
  exact .act h

theorem Leads.final {run : Run} {estate : Estate} {last : Run × Estate} (h : Leads config slugify (run, estate) last) :
    ∃ n, Runs.final (System.step config slugify) ⟨estate, [run]⟩ (List.replicate n (.act 0)) = ⟨last.2, [last.1]⟩ := by
  generalize hstate : (run, estate) = state at h
  induction h generalizing run estate with
  | refl state =>
      subst hstate
      exact ⟨0, rfl⟩
  | act rest ih =>
      subst hstate
      obtain ⟨n, hn⟩ := ih rfl
      refine ⟨n + 1, ?_⟩
      have hothers : [run].filterMap Run.uncommitted = run.uncommitted.toList := by
        rw [List.filterMap_cons]
        cases run.uncommitted with
        | none => rfl
        | some row => rfl
      have hstep : System.step config slugify ⟨estate, [run]⟩ (.act 0) =
          ⟨(actAlone config slugify (run, estate)).2, [(actAlone config slugify (run, estate)).1]⟩ := by
        change System.mk (run.act config slugify ([run].filterMap Run.uncommitted) estate).2
          [(run.act config slugify ([run].filterMap Run.uncommitted) estate).1] = _
        rw [hothers]
        rfl
      rw [List.replicate_succ, Runs.final_cons, hstep]
      exact hn

/-! ### One source -/

/-- How the block of a source ends. -/
def Run.ends (run : Run) (attempt : Attempt) (result : Option String × Estate) : Run × Estate :=
  match result with
  | (some exception, left) => (run.fails attempt exception, left)
  | (none, left) => (run.imports attempt, left)

theorem written_leads {run : Run} {estate : Estate} {attempt : Attempt} {row : Credential} {version : Nat}
    (hphase : run.phase = .written attempt row version) :
    Leads config slugify (run, estate) (run.ends attempt
      (finishCopy run.options attempt estate (run.options.engine.location row.path) row version)) := by
  have hact : actAlone config slugify (run, estate) = run.finish attempt row version estate := by
    rw [actAlone, Run.act]
    dsimp only
    rw [hphase]
  have hrecovers : ∀ removed exception,
      Leads config slugify ({ run with phase := .rolledBack attempt row version removed exception }, estate)
        (run.fails attempt exception,
          recovered run.options estate (run.options.engine.location row.path) version removed) :=
    fun removed exception => .next rfl (.refl _)
  refine .next hact ?_
  unfold Run.finish finishCopy
  dsimp only
  cases assignable estate.tables (sourceAssignment attempt.source (row.pk.getD 0) estate.tables.nextAssignment) with
  | false => exact hrecovers true "IntegrityError"
  | true =>
      cases attempt.fault with
      | after removed exception => exact hrecovers removed exception
      | commit applied exception => exact .refl _
      | none => exact .refl _
      | before exception => exact .refl _
      | write reached exception => exact .refl _

theorem inserted_leads {run : Run} {estate : Estate} {attempt : Attempt} {row : Credential} {payload : Payload}
    (hphase : run.phase = .inserted attempt row payload) :
    Leads config slugify (run, estate) (run.ends attempt (writeCopy run.options attempt estate row payload)) := by
  have hact : actAlone config slugify (run, estate) = run.write attempt row payload estate := by
    rw [actAlone, Run.act]
    dsimp only
    rw [hphase]
  refine .next hact ?_
  unfold Run.write writeCopy
  dsimp only
  cases run.options.engine.writeCell (estate.store (run.options.engine.location row.path)) payload (some 0) with
  | error error => exact .refl _
  | ok written =>
      obtain ⟨version, cell⟩ := written
      cases attempt.fault with
      | write reached exception => exact .refl _
      | none => exact written_leads rfl
      | before exception => exact written_leads rfl
      | after removed exception => exact written_leads rfl
      | commit applied exception => exact written_leads rfl

/-- The acts of a run on one source are its block. -/
theorem chosen_leads {run : Run} {estate : Estate} {attempt : Attempt} {policy : CredentialPolicy}
    (hphase : run.phase = .chosen attempt policy) :
    Leads config slugify (run, estate) (run.ends attempt (copySecret config run.options policy attempt estate)) := by
  have hact : actAlone config slugify (run, estate) = run.clean config attempt policy estate := by
    rw [actAlone, Run.act]
    dsimp only
    rw [hphase]
  refine .next hact ?_
  have hcleaned : ∀ prepared, Leads config slugify ({ run with phase := .cleaned attempt prepared }, estate)
      (run.ends attempt
        (let row := insertedRow config estate.tables.nextCredential prepared.credential
         let drawn := { estate with
           tables := { estate.tables with nextCredential := estate.tables.nextCredential + 1 } }
         if occupied estate.tables.credentials row then (some "IntegrityError", drawn)
         else writeCopy run.options attempt drawn row prepared.payload)) := by
    intro prepared
    refine .next rfl ?_
    change Leads config slugify (Run.insert config { run with phase := .cleaned attempt prepared } attempt prepared []
      estate) _
    unfold Run.insert
    dsimp only
    cases occupied estate.tables.credentials
        (insertedRow config estate.tables.nextCredential prepared.credential) with
    | true => exact .refl _
    | false => exact inserted_leads rfl
  unfold Run.clean copySecret
  cases hfault : attempt.fault with
  | before exception => exact .refl _
  | none =>
      dsimp only
      cases prepareCopy config estate.tables policy run.options.engine.engine attempt.source attempt.uuid with
      | error exception => exact .refl _
      | ok prepared => exact hcleaned prepared
  | write reached exception =>
      dsimp only
      cases prepareCopy config estate.tables policy run.options.engine.engine attempt.source attempt.uuid with
      | error exception => exact .refl _
      | ok prepared => exact hcleaned prepared
  | after removed exception =>
      dsimp only
      cases prepareCopy config estate.tables policy run.options.engine.engine attempt.source attempt.uuid with
      | error exception => exact .refl _
      | ok prepared => exact hcleaned prepared
  | commit applied exception =>
      dsimp only
      cases prepareCopy config estate.tables policy run.options.engine.engine attempt.source attempt.uuid with
      | error exception => exact .refl _
      | ok prepared => exact hcleaned prepared

/-! ### The loop -/

/-- The end of a loop, in the run whose loop it was. -/
def Ends (config : Config) (slugify : String → String) (state : Run × Estate) (result : Option String × Loop) : Prop :=
  ∃ last : Run, Leads config slugify state (last, result.2.estate) ∧ last.result = result.2.result ∧
    last.phase = match result.1 with
      | none => .returned
      | some exception => .raised exception

theorem Ends.of_leads {state next : Run × Estate} {result : Option String × Loop}
    (h : Leads config slugify state next) (h' : Ends config slugify next result) : Ends config slugify state result := by
  obtain ⟨last, hleads, hlast⟩ := h'
  exact ⟨last, h.trans hleads, hlast⟩

/-- The run after its policy is chosen goes on to what the body of the loop leaves. -/
theorem chosen_ends (run : Run) (rest : List Attempt) (attempt : Attempt) (estate : Estate) (chosen : ChosenPolicy) :
    ∃ next left, Leads config slugify
        ({ run with
            remaining := rest
            result := { run.result with policiesNeedingSetup := chosen.needingSetup }
            policyCache := chosen.cache
            phase := .chosen attempt chosen.policy }, { estate with tables := chosen.tables }) (next, left) ∧
      next.loop left = copyOne config run.options attempt (run.loop estate) chosen ∧ next.phase = .next ∧
        next.remaining = rest ∧ next.options = run.options := by
  cases hblock : copySecret config run.options chosen.policy attempt { estate with tables := chosen.tables } with
  | mk raised left =>
      have hsame : copySecret config run.options chosen.policy attempt
          { (run.loop estate).estate with tables := chosen.tables } = (raised, left) := hblock
      refine ⟨_, _, chosen_leads rfl, ?_⟩
      dsimp only
      rw [hblock]
      unfold copyOne
      dsimp only
      rw [hsame]
      cases raised with
      | some exception => exact ⟨rfl, rfl, rfl, rfl⟩
      | none => exact ⟨rfl, rfl, rfl, rfl⟩

variable (config slugify) in
theorem loop_ends (rest : List Attempt) :
    ∀ (run : Run) (estate : Estate), run.phase = .next → run.remaining = rest →
      Ends config slugify (run, estate) (importLoop config slugify run.options rest (run.loop estate)) := by
  induction rest with
  | nil =>
      intro run estate hphase hremaining
      have hact : actAlone config slugify (run, estate) = ({ run with phase := .returned }, estate) := by
        rw [actAlone, Run.act]
        dsimp only
        rw [hphase]
        dsimp only
        rw [Run.select, hremaining]
      exact ⟨_, .next hact (.refl _), rfl, rfl⟩
  | cons attempt rest ih =>
      intro run estate hphase hremaining
      have hact : actAlone config slugify (run, estate) = run.select slugify estate := by
        rw [actAlone, Run.act]
        dsimp only
        rw [hphase]
      rw [Run.select, hremaining] at hact
      dsimp only at hact
      rw [importLoop, importOne]
      cases hknown : (run.loop estate).alreadyImported.contains (sourceMarker attempt.source.pk) with
      | true =>
          have hskipped : run.alreadyImported.contains (sourceMarker attempt.source.pk) = true := hknown
          rw [hskipped, if_pos rfl] at hact
          rw [if_pos rfl]
          exact .of_leads (.next hact (.refl _)) (ih _ estate hphase rfl)
      | false =>
          have hnew : run.alreadyImported.contains (sourceMarker attempt.source.pk) = false := hknown
          rw [hnew, if_neg Bool.false_ne_true] at hact
          rw [if_neg Bool.false_ne_true]
          cases hdry : run.options.dryRun with
          | true =>
              rw [hdry, if_pos rfl] at hact
              rw [if_pos rfl]
              exact .of_leads (.next hact (.refl _)) (ih _ estate hphase rfl)
          | false =>
              rw [hdry, if_neg Bool.false_ne_true] at hact
              rw [if_neg Bool.false_ne_true]
              cases hchoose : choosePolicy slugify run.options attempt (run.loop estate) with
              | error exception =>
                  have hraises : choosePolicy slugify run.options attempt
                      (Run.loop { run with remaining := rest } estate) = .error exception := hchoose
                  rw [hraises] at hact
                  exact ⟨_, .next hact (.refl _), rfl, rfl⟩
              | ok chosen =>
                  have hchosen : choosePolicy slugify run.options attempt
                      (Run.loop { run with remaining := rest } estate) = .ok chosen := hchoose
                  rw [hchosen] at hact
                  obtain ⟨next, left, hleads, hloop, hnext, hrest, hoptions⟩ :=
                    chosen_ends run rest attempt estate chosen
                  have hlater := ih next left hnext hrest
                  rw [hloop, hoptions] at hlater
                  exact .of_leads (.next hact hleads) hlater

end Alone

/-- A run that nothing comes between ends as `import_secrets` does. -/
theorem run_alone_is_import [MaterialLibrary] (config : Config) (slugify : String → String) (options : ImportOptions)
    (attempts : List Attempt) (estate : Estate) :
    ∃ n run, Runs.final (System.step config slugify) ⟨estate, []⟩
        (.start options attempts :: List.replicate n (.act 0)) =
          ⟨(importSecrets config slugify options attempts estate).2.estate, [run]⟩ ∧
      run.result = (importSecrets config slugify options attempts estate).2.result ∧
      run.phase = match (importSecrets config slugify options attempts estate).1 with
        | none => .returned
        | some exception => .raised exception := by
  obtain ⟨last, hleads, hresult, hphase⟩ := loop_ends config slugify attempts
    (Run.start options attempts estate.tables) estate rfl rfl
  obtain ⟨n, hn⟩ := hleads.final
  exact ⟨n, last, hn, hresult, hphase⟩

end NetboxOpenbao.Importers
