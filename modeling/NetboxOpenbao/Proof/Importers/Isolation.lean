import Mathlib.Tactic.ByContra
import NetboxOpenbao.Operations
import NetboxOpenbao.Proof.Importers.Copies

/-!
# One source and the others

The block of a copy catches what goes wrong in it, and `_policy_for` runs before the block. A failure of the block is
counted and changes nothing for the others; a policy that cannot be created ends the run. So what isolates the sources
of a list is that their roles' names can all be policies, in any selection of them.
-/

namespace NetboxOpenbao.Importers

open Effect

/-! ### The statement -/

/-- What is left of the attempts and of their details when some sources that failed, and have left no row, are
dropped. -/
inductive Without : List Attempt → List Detail → List Attempt → List Detail → Prop
  | nil : Without [] [] [] []
  | keep {attempts others : List Attempt} {details left : List Detail} (attempt : Attempt) (detail : Detail)
      (rest : Without attempts details others left) :
      Without (attempt :: attempts) (detail :: details) (attempt :: others) (detail :: left)
  | drop {attempts others : List Attempt} {details left : List Detail} (attempt : Attempt) (detail : Detail)
      (failed : detail.outcome = .failed) (undone : ∀ exception, attempt.fault ≠ .commit true exception)
      (rest : Without attempts details others left) :
      Without (attempt :: attempts) (detail :: details) others left

section Statement

variable [MaterialLibrary] (config : Config) (slugify : String → String) (options : ImportOptions)

/-- The run returns, has a detail for every source, counts the failed ones, and treats every source as it would without
those that failed. -/
structure Isolated (estate : Estate) (attempts : List Attempt) : Prop where
  returns : (importSecrets config slugify options attempts estate).1 = none
  processed : (importSecrets config slugify options attempts estate).2.result.details.map Detail.pk =
    attempts.map fun attempt => attempt.source.pk
  counted : (importSecrets config slugify options attempts estate).2.result.failed =
    ((importSecrets config slugify options attempts estate).2.result.details.filter (·.outcome = .failed)).length
  apart : ∀ others details,
    Without attempts (importSecrets config slugify options attempts estate).2.result.details others details →
      (importSecrets config slugify options others estate).1 = none ∧
        (importSecrets config slugify options others estate).2.result.details = details

omit [MaterialLibrary] in
/-- The role of the source is looked up: it has one, and the source is not on the engine yet. -/
def LooksUp (tables : Tables) (attempt : Attempt) : Prop :=
  sourceMarker attempt.source.pk ∉ markersOn options.engine.engine tables ∧ attempt.source.roleName ≠ ""

/-- A policy of the source's role exists. -/
def HasPolicy (tables : Tables) (source : SourceSecret) : Prop :=
  ∃ policy ∈ tables.policies, policy.slug = roleSlug slugify source.roleName

/-- The policy of the source's role exists or can be created: its name is no policy's, and no other role of the list that
has no policy has that name under another slug. -/
def CanCreate (tables : Tables) (attempts : List Attempt) (attempt : Attempt) : Prop :=
  HasPolicy slugify tables attempt.source ∨
    (∀ policy ∈ tables.policies, policy.name ≠ sliced attempt.source.roleName 100) ∧
      ∀ other ∈ attempts, LooksUp options tables other → ¬HasPolicy slugify tables other.source →
        sliced other.source.roleName 100 = sliced attempt.source.roleName 100 →
          roleSlug slugify other.source.roleName = roleSlug slugify attempt.source.roleName

/-- Roles are not mapped, or nothing stands in the way of the policies the list's roles need. -/
def RolesApart (tables : Tables) (attempts : List Attempt) : Prop :=
  options.dryRun = false → options.mapRoles = true → ∀ attempt ∈ attempts, LooksUp options tables attempt →
    attempt.policyFault = none ∧ CanCreate slugify options tables attempts attempt

/-- The two lists have the same sources and draws, and the database answers the same under `_policy_for`; what goes wrong
in the blocks may differ. -/
def SameSources (attempts faulted : List Attempt) : Prop :=
  faulted.map (fun attempt => (attempt.source, attempt.uuid, attempt.policyFault)) =
    attempts.map fun attempt => (attempt.source, attempt.uuid, attempt.policyFault)

end Statement

/-! ### The policy of a source -/

section Policies

variable {slugify : String → String} {options : ImportOptions} {initial : Tables}

theorem getOrCreatePolicy_found {engine : Nat} {roleName : String} {tables : Tables} {policy : CredentialPolicy}
    (hfound : tables.policies.find? (fun policy => policy.slug == roleSlug slugify roleName) = some policy) :
    getOrCreatePolicy slugify engine roleName tables = .ok (policy, false, tables) := by
  unfold getOrCreatePolicy
  dsimp only
  rw [hfound]

theorem getOrCreatePolicy_new {engine : Nat} {roleName : String} {tables : Tables}
    (hnone : tables.policies.find? (fun policy => policy.slug == roleSlug slugify roleName) = none) :
    getOrCreatePolicy slugify engine roleName tables =
      if tables.policies.any fun other => other.name == sliced roleName 100 then .error "IntegrityError"
      else .ok (rolePolicy slugify engine roleName tables.nextPolicy, true,
        { tables with
          policies := tables.policies ++ [rolePolicy slugify engine roleName tables.nextPolicy]
          nextPolicy := tables.nextPolicy + 1 }) := by
  unfold getOrCreatePolicy
  dsimp only
  rw [hnone]
  rfl

theorem policyFor_asked {source : SourceSecret} {engine : Nat} {fallback : CredentialPolicy} {tables : Tables}
    {cache : List (String × CredentialPolicy)} {needingSetup : List String} (hrole : source.roleName ≠ "")
    (hcache : cache.lookup (roleSlug slugify source.roleName) = none) :
    policyFor slugify source engine fallback true tables cache needingSetup =
      match getOrCreatePolicy slugify engine source.roleName tables with
      | .error exception => .error exception
      | .ok (policy, created, tables) =>
          .ok ⟨policy, tables, (roleSlug slugify source.roleName, policy) :: cache,
            if created then needingSetup ++ [policy.openbaoPolicy] else needingSetup⟩ := by
  unfold policyFor
  have hasked : (!true || source.roleName == "") = false := beq_eq_false_iff_ne.mpr hrole
  rw [hasked, if_neg Bool.false_ne_true]
  dsimp only
  generalize cache.lookup (roleSlug slugify source.roleName) = cached at hcache
  subst hcache
  rfl

/-- The engine of the policy a source ends up on. -/
def engineOf (slugify : String → String) (options : ImportOptions) (initial : Tables) (source : SourceSecret) : Nat :=
  if options.mapRoles && source.roleName != "" then
    match initial.policies.find? fun policy => policy.slug == roleSlug slugify source.roleName with
    | some policy => policy.engine
    | none => options.engine.engine
  else options.fallbackPolicy.engine

/-- What a run has made of the policies: those there were, and one for each of some roles that had none. -/
structure Mapped (slugify : String → String) (options : ImportOptions) (initial : Tables) (attempts : List Attempt)
    (policies : List CredentialPolicy) (cache : List (String × CredentialPolicy)) : Prop where
  made : ∃ made, policies = initial.policies ++ made ∧ ∀ policy ∈ made, policy.engine = options.engine.engine ∧
    ∃ attempt ∈ attempts, LooksUp options initial attempt ∧ ¬HasPolicy slugify initial attempt.source ∧
      policy.slug = roleSlug slugify attempt.source.roleName ∧ policy.name = sliced attempt.source.roleName 100
  cached : ∀ slug policy, cache.lookup slug = some policy →
    policies.find? (fun other => other.slug == slug) = some policy

theorem Mapped.engine {attempts : List Attempt} {policies : List CredentialPolicy}
    {cache : List (String × CredentialPolicy)} (h : Mapped slugify options initial attempts policies cache)
    {source : SourceSecret} {policy : CredentialPolicy} (hmapped : options.mapRoles = true) (hrole : source.roleName ≠ "")
    (hfound : policies.find? (fun other => other.slug == roleSlug slugify source.roleName) = some policy) :
    policy.engine = engineOf slugify options initial source := by
  obtain ⟨made, rfl, hmade⟩ := h.made
  unfold engineOf
  rw [hmapped, Bool.true_and, if_pos (bne_iff_ne.mpr hrole)]
  rw [List.find?_append] at hfound
  cases hinitial : initial.policies.find? fun other => other.slug == roleSlug slugify source.roleName with
  | some found =>
      rw [hinitial, Option.some_or] at hfound
      obtain rfl := Option.some.inj hfound
      rfl
  | none =>
      rw [hinitial, Option.none_or] at hfound
      exact (hmade policy (List.mem_of_find?_eq_some hfound)).1

theorem lookup_cons_ne {slug other : String} {policy : CredentialPolicy} {cache : List (String × CredentialPolicy)}
    (h : other ≠ slug) : ((slug, policy) :: cache).lookup other = cache.lookup other := by
  rw [List.lookup_cons, beq_eq_false_iff_ne.mpr h]

theorem lookup_cons_eq {slug : String} {policy : CredentialPolicy} {cache : List (String × CredentialPolicy)} :
    ((slug, policy) :: cache).lookup slug = some policy := by
  rw [List.lookup_cons, beq_self_eq_true]

theorem Mapped.found {attempts : List Attempt} {policies : List CredentialPolicy}
    {cache : List (String × CredentialPolicy)} (h : Mapped slugify options initial attempts policies cache)
    {slug : String} {policy : CredentialPolicy} (hfound : policies.find? (fun other => other.slug == slug) = some policy) :
    Mapped slugify options initial attempts policies ((slug, policy) :: cache) where
  made := h.made
  cached := by
    intro other cached hlookup
    by_cases hsame : other = slug
    · rw [hsame, lookup_cons_eq] at hlookup
      rw [hsame, hfound, Option.some.inj hlookup]
    · rw [lookup_cons_ne hsame] at hlookup
      exact h.cached other cached hlookup

/-- Creating the policy of a role that has none caches it too. -/
theorem Mapped.created {attempts : List Attempt} {policies : List CredentialPolicy}
    {cache : List (String × CredentialPolicy)} (h : Mapped slugify options initial attempts policies cache)
    {attempt : Attempt} (hattempt : attempt ∈ attempts) (hlooks : LooksUp options initial attempt) (pk : Nat)
    (hnone : policies.find? (fun other => other.slug == roleSlug slugify attempt.source.roleName) = none) :
    Mapped slugify options initial attempts
      (policies ++ [rolePolicy slugify options.engine.engine attempt.source.roleName pk])
      ((roleSlug slugify attempt.source.roleName,
        rolePolicy slugify options.engine.engine attempt.source.roleName pk) :: cache) := by
  obtain ⟨made, hpolicies, hmade⟩ := h.made
  have hhas : ¬HasPolicy slugify initial attempt.source := by
    rintro ⟨policy, hpolicy, hslug⟩
    refine List.find?_eq_none.mp hnone policy ?_ (beq_iff_eq.mpr hslug)
    rw [hpolicies]
    exact List.mem_append_left _ hpolicy
  constructor
  · refine ⟨made ++ [rolePolicy slugify options.engine.engine attempt.source.roleName pk], ?_, fun policy hpolicy => ?_⟩
    · rw [hpolicies, List.append_assoc]
    · rcases List.mem_append.mp hpolicy with hpolicy | hpolicy
      · exact hmade policy hpolicy
      · rw [List.mem_singleton.mp hpolicy]
        exact ⟨rfl, attempt, hattempt, hlooks, hhas, rfl, rfl⟩
  · intro other cached hlookup
    rw [List.find?_append]
    by_cases hsame : other = roleSlug slugify attempt.source.roleName
    · rw [hsame, lookup_cons_eq] at hlookup
      rw [hsame, hnone, Option.none_or, ← Option.some.inj hlookup, List.find?_cons_of_pos]
      exact beq_iff_eq.mpr rfl
    · rw [lookup_cons_ne hsame] at hlookup
      rw [h.cached other cached hlookup, Option.some_or]

/-- The name of a role whose policy has to be created is free. -/
theorem Mapped.name_free {attempts : List Attempt} {policies : List CredentialPolicy}
    {cache : List (String × CredentialPolicy)} (h : Mapped slugify options initial attempts policies cache)
    {attempt : Attempt} (hcreate : CanCreate slugify options initial attempts attempt)
    (hnone : policies.find? (fun other => other.slug == roleSlug slugify attempt.source.roleName) = none) :
    policies.any (fun other => other.name == sliced attempt.source.roleName 100) = false := by
  obtain ⟨made, hpolicies, hmade⟩ := h.made
  have hslug : ∀ policy ∈ policies, policy.slug ≠ roleSlug slugify attempt.source.roleName :=
    fun policy hpolicy hsame => List.find?_eq_none.mp hnone policy hpolicy (beq_iff_eq.mpr hsame)
  rw [List.any_eq_false]
  intro policy hpolicy hname
  rw [beq_iff_eq] at hname
  rcases hcreate with ⟨existing, hexisting, hsame⟩ | ⟨hinitial, hothers⟩
  · exact hslug existing (hpolicies ▸ List.mem_append_left _ hexisting) hsame
  · rw [hpolicies] at hpolicy
    rcases List.mem_append.mp hpolicy with hold | hnew
    · exact hinitial policy hold hname
    · obtain ⟨-, other, hother, hlooks, hhas, hpolicySlug, hpolicyName⟩ := hmade policy hnew
      refine hslug policy (hpolicies ▸ List.mem_append_right _ hnew) ?_
      rw [hpolicySlug]
      exact hothers other hother hlooks hhas (hpolicyName.symm.trans hname)

/-- What choosing a policy leaves. -/
structure Chose (slugify : String → String) (options : ImportOptions) (initial : Tables) (attempts : List Attempt)
    (source : SourceSecret) (tables : Tables) (chosen : ChosenPolicy) : Prop where
  engine : chosen.policy.engine = engineOf slugify options initial source
  mapped : Mapped slugify options initial attempts chosen.tables.policies chosen.cache
  credentials : chosen.tables.credentials = tables.credentials
  contentTypes : chosen.tables.contentTypes = tables.contentTypes

theorem choosePolicy_chose {attempts : List Attempt} {attempt : Attempt} {loop : Loop}
    (hmapped : Mapped slugify options initial attempts loop.estate.tables.policies loop.policyCache)
    (hattempt : attempt ∈ attempts)
    (hlooks : sourceMarker attempt.source.pk ∉ markersOn options.engine.engine initial)
    (hcopying : options.dryRun = false) (hapart : RolesApart slugify options initial attempts) :
    ∃ chosen, choosePolicy slugify options attempt loop = .ok chosen ∧
      Chose slugify options initial attempts attempt.source loop.estate.tables chosen := by
  by_cases hasks : options.mapRoles = true ∧ attempt.source.roleName ≠ ""
  · obtain ⟨hmaps, hrole⟩ := hasks
    obtain ⟨hfault, hcreate⟩ := hapart hcopying hmaps attempt hattempt ⟨hlooks, hrole⟩
    have hpolicyFor : choosePolicy slugify options attempt loop =
        policyFor slugify attempt.source options.engine.engine options.fallbackPolicy options.mapRoles
          loop.estate.tables loop.policyCache loop.result.policiesNeedingSetup := by
      unfold choosePolicy
      rw [hfault]
    rw [hpolicyFor, hmaps]
    cases hcache : loop.policyCache.lookup (roleSlug slugify attempt.source.roleName) with
    | some policy =>
        have hasked : (!true || attempt.source.roleName == "") = false := beq_eq_false_iff_ne.mpr hrole
        unfold policyFor
        rw [hasked, if_neg Bool.false_ne_true]
        dsimp only
        rw [hcache]
        exact ⟨_, rfl, hmapped.engine hmaps hrole (hmapped.cached _ _ hcache), hmapped, rfl, rfl⟩
    | none =>
        rw [policyFor_asked hrole hcache]
        cases hfound : loop.estate.tables.policies.find? fun policy =>
            policy.slug == roleSlug slugify attempt.source.roleName with
        | some policy =>
            rw [getOrCreatePolicy_found hfound]
            exact ⟨_, rfl, hmapped.engine hmaps hrole hfound, hmapped.found hfound, rfl, rfl⟩
        | none =>
            have hcreated := hmapped.created hattempt ⟨hlooks, hrole⟩ loop.estate.tables.nextPolicy hfound
            rw [getOrCreatePolicy_new hfound, hmapped.name_free hcreate hfound, if_neg Bool.false_ne_true]
            exact ⟨_, rfl, hcreated.engine hmaps hrole (hcreated.cached _ _ lookup_cons_eq), hcreated, rfl, rfl⟩
  · have hunmapped : (!options.mapRoles || attempt.source.roleName == "") = true := by
      rw [Bool.or_eq_true, Bool.not_eq_true', beq_iff_eq]
      by_contra hneither
      rw [not_or, Bool.not_eq_false] at hneither
      exact hasks hneither
    have hmapsRole : (options.mapRoles && attempt.source.roleName != "") = false := by
      rw [← Bool.not_eq_true, Bool.and_eq_true, bne_iff_ne]
      exact hasks
    refine ⟨⟨options.fallbackPolicy, loop.estate.tables, loop.policyCache, loop.result.policiesNeedingSetup⟩, ?_, ?_⟩
    · unfold choosePolicy asksPolicy policyFor
      rw [hunmapped, hmapsRole, if_pos rfl, Bool.false_and]
      cases attempt.policyFault with
      | none => rfl
      | some exception => rfl
    · refine ⟨?_, hmapped, rfl, rfl⟩
      unfold engineOf
      rw [hmapsRole]
      rfl

end Policies

/-! ### One step -/

section Steps

variable [MaterialLibrary] {config : Config} {slugify : String → String} {options : ImportOptions} {initial : Tables}
  {attempts : List Attempt}

/-- The detail of a source that has been copied, or has failed with the given exception. -/
def copyDetail (source : SourceSecret) (raised : Option String) : Detail :=
  match raised with
  | some exception => ⟨source.pk, source.name, .failed, exception⟩
  | none => ⟨source.pk, source.name, .imported, (inferCredentialType source.plaintext).1⟩

variable (config options) in
theorem copyOne_fields (attempt : Attempt) (loop : Loop) (chosen : ChosenPolicy) :
    let result := copySecret config options chosen.policy attempt { loop.estate with tables := chosen.tables }
    let next := copyOne config options attempt loop chosen
    next.estate = result.2 ∧ next.policyCache = chosen.cache ∧
      next.alreadyImported =
        (if result.1.isNone then sourceMarker attempt.source.pk :: loop.alreadyImported else loop.alreadyImported) ∧
      next.result.details = loop.result.details ++ [copyDetail attempt.source result.1] ∧
      next.result.failed = loop.result.failed + (if result.1.isNone then 0 else 1) := by
  dsimp only
  unfold copyOne
  dsimp only
  generalize copySecret config options chosen.policy attempt { loop.estate with tables := chosen.tables } = result
  obtain ⟨raised, left⟩ := result
  cases raised with
  | none => exact ⟨rfl, rfl, rfl, rfl, rfl⟩
  | some exception => exact ⟨rfl, rfl, rfl, rfl, rfl⟩

/-- What holds of a loop that has not been left. -/
structure Going (slugify : String → String) (options : ImportOptions) (initial : Tables) (attempts : List Attempt)
    (loop : Loop) : Prop where
  mapped : Mapped slugify options initial attempts loop.estate.tables.policies loop.policyCache
  marked : ∀ marker ∈ markersOn options.engine.engine initial, marker ∈ loop.alreadyImported

/-- Two loops that the attempts still to come cannot tell apart. -/
structure Same (config : Config) (options : ImportOptions) (rest : List Attempt) (loop loop' : Loop) : Prop where
  already : loop.alreadyImported = loop'.alreadyImported
  keys : loop.estate.tables.credentials.map Credential.key = loop'.estate.tables.credentials.map Credential.key
  contentTypes : loop.estate.tables.contentTypes = loop'.estate.tables.contentTypes
  cells : ∀ attempt ∈ rest, loop.estate.store (options.engine.location (attempt.path config)) =
    loop'.estate.store (options.engine.location (attempt.path config))

omit [MaterialLibrary] in
theorem Same.refl (rest : List Attempt) (loop : Loop) : Same config options rest loop loop :=
  ⟨rfl, rfl, rfl, fun _ _ => rfl⟩

/-- The three ways through the body of the loop. -/
inductive Passed (config : Config) (slugify : String → String) (options : ImportOptions) (initial : Tables)
    (attempts : List Attempt) (attempt : Attempt) (loop : Loop) : Loop → Detail → Prop
  | skipped (known : sourceMarker attempt.source.pk ∈ loop.alreadyImported) :
      Passed config slugify options initial attempts attempt loop
        { loop with
          result := { loop.result with skipped := loop.result.skipped + 1 }.note attempt.source .skipped
            "already imported" }
        ⟨attempt.source.pk, attempt.source.name, .skipped, "already imported"⟩
  | planned (new : sourceMarker attempt.source.pk ∉ loop.alreadyImported) (dry : options.dryRun = true) :
      Passed config slugify options initial attempts attempt loop
        { loop with
          result := { loop.result with imported := loop.result.imported + 1 }.note attempt.source .planned
            (inferCredentialType attempt.source.plaintext).1 }
        ⟨attempt.source.pk, attempt.source.name, .planned, (inferCredentialType attempt.source.plaintext).1⟩
  | copied (new : sourceMarker attempt.source.pk ∉ loop.alreadyImported) (copying : options.dryRun = false)
      (chosen : ChosenPolicy)
      (chose : Chose slugify options initial attempts attempt.source loop.estate.tables chosen) :
      Passed config slugify options initial attempts attempt loop (copyOne config options attempt loop chosen)
        (copyDetail attempt.source
          (copySecret config options chosen.policy attempt { loop.estate with tables := chosen.tables }).1)

variable (config) in
theorem importOne_passed (hapart : RolesApart slugify options initial attempts) {attempt : Attempt}
    (hattempt : attempt ∈ attempts) {loop : Loop} (hgoing : Going slugify options initial attempts loop) :
    ∃ next detail, importOne config slugify options loop attempt = .ok next ∧
      Passed config slugify options initial attempts attempt loop next detail := by
  unfold importOne
  by_cases hknown : sourceMarker attempt.source.pk ∈ loop.alreadyImported
  · rw [if_pos (List.contains_iff_mem.mpr hknown)]
    exact ⟨_, _, rfl, .skipped hknown⟩
  · rw [if_neg fun hcontains => hknown (List.contains_iff_mem.mp hcontains)]
    cases hdry : options.dryRun with
    | true =>
        rw [if_pos rfl]
        exact ⟨_, _, rfl, .planned hknown hdry⟩
    | false =>
        rw [if_neg Bool.false_ne_true]
        obtain ⟨chosen, hchoose, hchose⟩ := choosePolicy_chose hgoing.mapped hattempt
          (fun hmarked => hknown (hgoing.marked _ hmarked)) hdry hapart
        rw [hchoose]
        exact ⟨_, _, rfl, .copied hknown hdry chosen hchose⟩

section Passed

variable {attempt : Attempt} {loop next : Loop} {detail : Detail}

theorem Passed.details (h : Passed config slugify options initial attempts attempt loop next detail) :
    next.result.details = loop.result.details ++ [detail] ∧ detail.pk = attempt.source.pk ∧
      next.result.failed = loop.result.failed + (if detail.outcome = .failed then 1 else 0) := by
  cases h with
  | skipped known => exact ⟨rfl, rfl, rfl⟩
  | planned new dry => exact ⟨rfl, rfl, rfl⟩
  | copied new copying chosen chose =>
      obtain ⟨-, -, -, hdetails, hfailed⟩ := copyOne_fields config options attempt loop chosen
      refine ⟨hdetails, ?_, ?_⟩
      · generalize (copySecret config options chosen.policy attempt _).1 = raised
        cases raised with
        | none => rfl
        | some exception => rfl
      · rw [hfailed]
        generalize (copySecret config options chosen.policy attempt _).1 = raised
        cases raised with
        | none => rfl
        | some exception => rfl

theorem Passed.going (h : Passed config slugify options initial attempts attempt loop next detail)
    (hgoing : Going slugify options initial attempts loop) : Going slugify options initial attempts next := by
  cases h with
  | skipped known => exact ⟨hgoing.mapped, hgoing.marked⟩
  | planned new dry => exact ⟨hgoing.mapped, hgoing.marked⟩
  | copied new copying chosen chose =>
      obtain ⟨hestate, hcache, halready, -, -⟩ :=
        copyOne_fields config options attempt loop chosen
      have hended := copySecret_ended config options chosen.policy attempt { loop.estate with tables := chosen.tables }
      constructor
      · rw [hestate, hcache]
        have hpolicies : (copySecret config options chosen.policy attempt
            { loop.estate with tables := chosen.tables }).2.tables.policies = chosen.tables.policies := by
          rcases hended with ⟨_, -, hundone⟩ | ⟨_, hstored, -⟩
          · exact hundone.framed.policies
          · exact hstored.framed.policies
        rw [hpolicies]
        exact chose.mapped
      · intro marker hmarker
        rw [halready]
        split
        · exact List.mem_cons_of_mem _ (hgoing.marked marker hmarker)
        · exact hgoing.marked marker hmarker

variable (config options) in
omit [MaterialLibrary] in
theorem location_ne {rest : List Attempt} (hdistinct : ((attempt :: rest).map Attempt.uuid).Nodup) {other : Attempt}
    (hother : other ∈ rest) :
    options.engine.location (other.path config) ≠ options.engine.location (attempt.path config) := by
  intro hplace
  have huuid : other.uuid ≠ attempt.uuid := by
    intro hsame
    exact (List.nodup_cons.mp hdistinct).1 (hsame ▸ List.mem_map_of_mem hother)
  exact path_ne huuid (congrArg Location.path hplace)

/-- Two loops that cannot be told apart go on in the same way. -/
theorem Passed.same {rest : List Attempt} {loop' next' : Loop} {detail' : Detail}
    (hdistinct : ((attempt :: rest).map Attempt.uuid).Nodup) (hsame : Same config options (attempt :: rest) loop loop')
    (h : Passed config slugify options initial attempts attempt loop next detail)
    (h' : Passed config slugify options initial attempts attempt loop' next' detail') :
    detail = detail' ∧ Same config options rest next next' := by
  have hcells : ∀ other ∈ rest, loop.estate.store (options.engine.location (other.path config)) =
      loop'.estate.store (options.engine.location (other.path config)) :=
    fun other hother => hsame.cells other (List.mem_cons_of_mem _ hother)
  cases h with
  | skipped known =>
      cases h' with
      | skipped known' => exact ⟨rfl, hsame.already, hsame.keys, hsame.contentTypes, hcells⟩
      | planned new' dry' => exact absurd (hsame.already ▸ known) new'
      | copied new' copying' chosen' chose' => exact absurd (hsame.already ▸ known) new'
  | planned new dry =>
      cases h' with
      | skipped known' => exact absurd (hsame.already ▸ known') new
      | planned new' dry' => exact ⟨rfl, hsame.already, hsame.keys, hsame.contentTypes, hcells⟩
      | copied new' copying' chosen' chose' =>
          rw [dry] at copying'
          cases copying'
  | copied new copying chosen chose =>
      cases h' with
      | skipped known' => exact absurd (hsame.already ▸ known') new
      | planned new' dry' =>
          rw [dry'] at copying
          cases copying
      | copied new' copying' chosen' chose' =>
          obtain ⟨hestate, -, halready, -, -⟩ :=
            copyOne_fields config options attempt loop chosen
          obtain ⟨hestate', -, halready', -, -⟩ :=
            copyOne_fields config options attempt loop' chosen'
          have halike : Alike (options.engine.location (attempt.path config))
              { loop.estate with tables := chosen.tables } { loop'.estate with tables := chosen'.tables } := by
            refine ⟨?_, ?_, hsame.cells attempt List.mem_cons_self⟩
            · rw [chose.credentials, chose'.credentials, hsame.keys]
            · rw [chose.contentTypes, chose'.contentTypes, hsame.contentTypes]
          obtain ⟨hraised, hkeys⟩ := copySecret_congr halike (chose.engine.trans chose'.engine.symm)
          have hframed := (copySecret_ended config options chosen.policy attempt
            { loop.estate with tables := chosen.tables }).framed
          have hframed' := (copySecret_ended config options chosen'.policy attempt
            { loop'.estate with tables := chosen'.tables }).framed
          refine ⟨by rw [hraised], ?_, ?_, ?_, fun other hother => ?_⟩
          · rw [halready, halready', hraised, hsame.already]
          · rw [hestate, hestate', hkeys]
          · rw [hestate, hestate', hframed.contentTypes, hframed'.contentTypes]
            exact halike.contentTypes
          · have hplace := location_ne config options hdistinct hother
            rw [hestate, hestate', hframed.elsewhere _ hplace, hframed'.elsewhere _ hplace]
            exact hcells other hother

/-- A source that failed and has left no row leaves a loop the others cannot tell from the one before. -/
theorem Passed.dropped {rest : List Attempt} {loop' : Loop} (hdistinct : ((attempt :: rest).map Attempt.uuid).Nodup)
    (hsame : Same config options (attempt :: rest) loop loop')
    (h : Passed config slugify options initial attempts attempt loop next detail)
    (hfailed : detail.outcome = .failed) (hundone : ∀ exception, attempt.fault ≠ .commit true exception) :
    Same config options rest next loop' := by
  cases h with
  | skipped known => cases hfailed
  | planned new dry => cases hfailed
  | copied new copying chosen chose =>
      obtain ⟨hestate, -, halready, -, -⟩ := copyOne_fields config options attempt loop chosen
      have hended := copySecret_ended config options chosen.policy attempt { loop.estate with tables := chosen.tables }
      have hframed := hended.framed
      cases hraised : (copySecret config options chosen.policy attempt
          { loop.estate with tables := chosen.tables }).1 with
      | none =>
          rw [hraised] at hfailed
          cases hfailed
      | some exception =>
          rcases hended with ⟨_, -, hleft⟩ | ⟨_, -, hnone | ⟨exception', hcommit⟩⟩
          · refine ⟨?_, ?_, ?_, fun other hother => ?_⟩
            · rw [halready, hraised, hsame.already]
              rfl
            · rw [hestate, hleft.credentials]
              exact (congrArg _ chose.credentials).trans hsame.keys
            · rw [hestate, hframed.contentTypes]
              exact chose.contentTypes.trans hsame.contentTypes
            · have hplace := location_ne config options hdistinct hother
              rw [hestate, hframed.elsewhere _ hplace]
              exact hsame.cells other (List.mem_cons_of_mem _ hother)
          · rw [hraised] at hnone
            cases hnone
          · exact absurd hcommit (hundone exception')

end Passed

/-! ### Apart is isolated -/

variable (config) in
/-- A run of a selection of the sources returns, with a detail for each. -/
theorem importLoop_going (hapart : RolesApart slugify options initial attempts) (rest : List Attempt) :
    ∀ loop, (∀ attempt ∈ rest, attempt ∈ attempts) → Going slugify options initial attempts loop →
      (importLoop config slugify options rest loop).1 = none ∧
        ∃ details, (importLoop config slugify options rest loop).2.result.details = loop.result.details ++ details ∧
          details.map Detail.pk = rest.map (fun attempt => attempt.source.pk) ∧
          (importLoop config slugify options rest loop).2.result.failed =
            loop.result.failed + (details.filter (·.outcome = .failed)).length := by
  induction rest with
  | nil => exact fun loop _ _ => ⟨rfl, [], (List.append_nil _).symm, rfl, rfl⟩
  | cons attempt rest ih =>
      intro loop hmem hgoing
      obtain ⟨next, detail, hnext, hpassed⟩ :=
        importOne_passed config hapart (hmem attempt List.mem_cons_self) hgoing
      obtain ⟨hdetails, hpk, hfailed⟩ := hpassed.details
      obtain ⟨hreturns, details, hall, hpks, hcount⟩ :=
        ih next (fun other hother => hmem other (List.mem_cons_of_mem _ hother)) (hpassed.going hgoing)
      rw [importLoop, hnext]
      refine ⟨hreturns, detail :: details, ?_, ?_, ?_⟩
      · rw [hall, hdetails, List.append_assoc, List.singleton_append]
      · rw [List.map_cons, List.map_cons, hpks, hpk]
      · rw [hcount, hfailed, List.filter_cons]
        by_cases hsome : detail.outcome = .failed
        · rw [if_pos hsome, if_pos (decide_eq_true hsome), List.length_cons]
          omega
        · rw [if_neg hsome, if_neg fun hdecide => hsome (of_decide_eq_true hdecide), Nat.add_zero]

/-- The sources that are kept end as they did among those that are dropped. -/
theorem importLoop_without (hapart : RolesApart slugify options initial attempts) {rest others : List Attempt}
    {details left : List Detail} (hwithout : Without rest details others left) :
    ∀ loop loop', (∀ attempt ∈ rest, attempt ∈ attempts) → (rest.map Attempt.uuid).Nodup →
      Going slugify options initial attempts loop → Going slugify options initial attempts loop' →
      Same config options rest loop loop' →
      (importLoop config slugify options rest loop).2.result.details = loop.result.details ++ details →
      (importLoop config slugify options others loop').1 = none ∧
        (importLoop config slugify options others loop').2.result.details = loop'.result.details ++ left := by
  induction hwithout with
  | nil => exact fun loop loop' _ _ _ _ _ _ => ⟨rfl, (List.append_nil _).symm⟩
  | keep attempt detail rest ih =>
      intro loop loop' hmem hdistinct hgoing hgoing' hsame hrun
      obtain ⟨next, detail₁, hnext, hpassed⟩ :=
        importOne_passed config hapart (hmem attempt List.mem_cons_self) hgoing
      obtain ⟨next', detail₂, hnext', hpassed'⟩ :=
        importOne_passed config hapart (hmem attempt List.mem_cons_self) hgoing'
      obtain ⟨hdetail, hrest⟩ := hpassed.same hdistinct hsame hpassed'
      obtain ⟨-, later, hlater, -, -⟩ := importLoop_going config hapart _ next
        (fun other hother => hmem other (List.mem_cons_of_mem _ hother)) (hpassed.going hgoing)
      rw [importLoop, hnext] at hrun
      rw [importLoop, hnext']
      dsimp only at hrun ⊢
      rw [hlater, hpassed.details.1, List.append_assoc, List.singleton_append] at hrun
      obtain ⟨rfl, rfl⟩ := List.cons.inj (List.append_cancel_left hrun)
      obtain ⟨hreturns, hdetails⟩ := ih next next' (fun other hother => hmem other (List.mem_cons_of_mem _ hother))
        (List.nodup_cons.mp hdistinct).2 (hpassed.going hgoing) (hpassed'.going hgoing') hrest hlater
      refine ⟨hreturns, ?_⟩
      rw [hdetails, hpassed'.details.1, ← hdetail, List.append_assoc, List.singleton_append]
  | drop attempt detail failed undone rest ih =>
      intro loop loop' hmem hdistinct hgoing hgoing' hsame hrun
      obtain ⟨next, detail₁, hnext, hpassed⟩ :=
        importOne_passed config hapart (hmem attempt List.mem_cons_self) hgoing
      obtain ⟨-, later, hlater, -, -⟩ := importLoop_going config hapart _ next
        (fun other hother => hmem other (List.mem_cons_of_mem _ hother)) (hpassed.going hgoing)
      rw [importLoop, hnext] at hrun
      dsimp only at hrun
      rw [hlater, hpassed.details.1, List.append_assoc, List.singleton_append] at hrun
      obtain ⟨rfl, rfl⟩ := List.cons.inj (List.append_cancel_left hrun)
      exact ih next loop' (fun other hother => hmem other (List.mem_cons_of_mem _ hother))
        (List.nodup_cons.mp hdistinct).2 (hpassed.going hgoing) hgoing' (hpassed.dropped hdistinct hsame failed undone)
        hlater

variable (slugify options attempts) in
omit [MaterialLibrary] in
theorem startLoop_going (estate : Estate) :
    Going slugify options estate.tables attempts (startLoop options estate) where
  mapped := ⟨⟨[], (List.append_nil _).symm, nofun⟩, nofun⟩
  marked _ hmarker := hmarker

theorem isolated_of_apart {estate : Estate} (hdistinct : (attempts.map Attempt.uuid).Nodup)
    (hapart : RolesApart slugify options estate.tables attempts) :
    Isolated config slugify options estate attempts := by
  have hgoing := startLoop_going slugify options attempts estate
  obtain ⟨hreturns, details, hdetails, hpks, hfailed⟩ :=
    importLoop_going config hapart attempts _ (fun _ h => h) hgoing
  change (importSecrets config slugify options attempts estate).2.result.details = [] ++ details at hdetails
  rw [List.nil_append] at hdetails
  refine ⟨hreturns, ?_, ?_, fun others left hwithout => ?_⟩
  · rw [hdetails, hpks]
  · rw [hdetails]
    exact hfailed.trans (Nat.zero_add _)
  · exact importLoop_without hapart hwithout _ _ (fun _ h => h) hdistinct hgoing hgoing (Same.refl _ _) rfl

/-! ### Isolated is apart -/

/-- The attempt, failing before anything is stored. -/
def stalled (attempt : Attempt) : Attempt := { attempt with fault := .before "OperationalError" }

variable (config options) in
/-- What the stalled attempts of a copying run leave: what is imported stays what it was. -/
theorem copyOne_stalled (attempt : Attempt) (loop : Loop) (chosen : ChosenPolicy) :
    let next := copyOne config options (stalled attempt) loop chosen
    next.alreadyImported = loop.alreadyImported ∧ next.estate.tables = chosen.tables ∧
      next.policyCache = chosen.cache ∧
      next.result.details = loop.result.details ++
        [⟨attempt.source.pk, attempt.source.name, .failed, "OperationalError"⟩] :=
  ⟨rfl, rfl, rfl, rfl⟩

/-- The sources of a list that are known to be imported. -/
def knownOf (known : List String) (rest : List Attempt) : List Attempt :=
  rest.filter fun attempt => known.contains (sourceMarker attempt.source.pk)

/-- A selection of the attempts that has at least those that are known. -/
inductive Picks (known : List String) : List Attempt → List Attempt → Prop
  | nil : Picks known [] []
  | keep {rest others : List Attempt} (attempt : Attempt) (picks : Picks known rest others) :
      Picks known (attempt :: rest) (attempt :: others)
  | drop {rest others : List Attempt} (attempt : Attempt) (new : sourceMarker attempt.source.pk ∉ known)
      (picks : Picks known rest others) : Picks known (attempt :: rest) others

omit [MaterialLibrary] in
theorem Picks.refl (known : List String) (rest : List Attempt) : Picks known rest rest := by
  induction rest with
  | nil => exact .nil
  | cons attempt rest ih => exact .keep attempt ih

omit [MaterialLibrary] in
theorem Picks.append {known : List String} {rest others rest' others' : List Attempt} (h : Picks known rest others)
    (h' : Picks known rest' others') : Picks known (rest ++ rest') (others ++ others') := by
  induction h with
  | nil => exact h'
  | keep attempt picks ih => exact .keep attempt ih
  | drop attempt new picks ih => exact .drop attempt new ih

omit [MaterialLibrary] in
theorem picks_known (known : List String) (rest : List Attempt) : Picks known rest (knownOf known rest) := by
  induction rest with
  | nil => exact .nil
  | cons attempt rest ih =>
      rw [knownOf, List.filter_cons]
      by_cases hknown : sourceMarker attempt.source.pk ∈ known
      · rw [if_pos (List.contains_iff_mem.mpr hknown)]
        exact .keep attempt ih
      · rw [if_neg fun hcontains => hknown (List.contains_iff_mem.mp hcontains)]
        exact .drop attempt hknown ih

theorem importOne_stalled (hcopying : options.dryRun = false) {attempt : Attempt} {loop : Loop}
    (hnew : sourceMarker attempt.source.pk ∉ loop.alreadyImported) :
    importOne config slugify options loop (stalled attempt) =
      match choosePolicy slugify options (stalled attempt) loop with
      | .error exception => .error exception
      | .ok chosen => .ok (copyOne config options (stalled attempt) loop chosen) := by
  have hcontains : ¬loop.alreadyImported.contains (sourceMarker (stalled attempt).source.pk) = true :=
    fun hcontains => hnew (List.contains_iff_mem.mp hcontains)
  unfold importOne
  rw [if_neg hcontains, hcopying]
  rfl

/-- A run over stalled attempts that returns can do without any that are not known. -/
theorem importLoop_stalled (hcopying : options.dryRun = false) (rest : List Attempt) :
    ∀ loop, (importLoop config slugify options (rest.map stalled) loop).1 = none →
      ∃ details, (importLoop config slugify options (rest.map stalled) loop).2.result.details =
          loop.result.details ++ details ∧
        ∀ others, Picks loop.alreadyImported rest others →
          ∃ left, Without (rest.map stalled) details (others.map stalled) left := by
  induction rest with
  | nil =>
      intro loop _
      refine ⟨[], (List.append_nil _).symm, fun others hpicks => ?_⟩
      cases hpicks
      exact ⟨[], .nil⟩
  | cons attempt rest ih =>
      intro loop hreturns
      rw [List.map_cons, importLoop] at hreturns ⊢
      by_cases hknown : sourceMarker attempt.source.pk ∈ loop.alreadyImported
      · have hskip : loop.alreadyImported.contains (sourceMarker (stalled attempt).source.pk) = true :=
          List.contains_iff_mem.mpr hknown
        rw [importOne_skipped hskip] at hreturns ⊢
        obtain ⟨details, hdetails, hwithout⟩ := ih _ hreturns
        refine ⟨⟨attempt.source.pk, attempt.source.name, .skipped, "already imported"⟩ :: details, ?_, ?_⟩
        · rw [hdetails]
          exact List.append_assoc _ [_] _
        · intro others hpicks
          cases hpicks with
          | keep _ picks =>
              obtain ⟨left, hleft⟩ := hwithout _ picks
              exact ⟨_, .keep _ _ hleft⟩
          | drop _ new picks => exact absurd hknown new
      · rw [importOne_stalled hcopying hknown] at hreturns ⊢
        cases hchoose : choosePolicy slugify options (stalled attempt) loop with
        | error exception =>
            rw [hchoose] at hreturns
            cases hreturns
        | ok chosen =>
            rw [hchoose] at hreturns
            dsimp only at hreturns ⊢
            obtain ⟨hsame, -, -, hnoted⟩ :=
              copyOne_stalled config options attempt loop chosen
            obtain ⟨details, hdetails, hwithout⟩ := ih _ hreturns
            refine ⟨⟨attempt.source.pk, attempt.source.name, .failed, "OperationalError"⟩ :: details, ?_, ?_⟩
            · rw [hdetails, hnoted]
              exact List.append_assoc _ [_] _
            · rw [hsame] at hwithout
              intro others hpicks
              cases hpicks with
              | keep _ picks =>
                  obtain ⟨left, hleft⟩ := hwithout _ picks
                  exact ⟨_, .keep _ _ hleft⟩
              | drop _ new picks =>
                  obtain ⟨left, hleft⟩ := hwithout _ picks
                  refine ⟨left, .drop _ _ rfl ?_ hleft⟩
                  intro exception hfault
                  cases hfault

theorem importLoop_append (first second : List Attempt) :
    ∀ loop, importLoop config slugify options (first ++ second) loop =
      match importLoop config slugify options first loop with
      | (none, next) => importLoop config slugify options second next
      | stopped => stopped := by
  induction first with
  | nil => exact fun loop => rfl
  | cons attempt rest ih =>
      intro loop
      rw [List.cons_append, importLoop, importLoop]
      cases importOne config slugify options loop attempt with
      | error exception => rfl
      | ok next => exact ih next

variable (config slugify options) in
theorem importLoop_known (known : List String) (rest : List Attempt) :
    ∀ loop, loop.alreadyImported = known →
      ∃ result, importLoop config slugify options ((knownOf known rest).map stalled) loop =
        (none, { loop with result }) := by
  induction rest with
  | nil => exact fun loop _ => ⟨loop.result, rfl⟩
  | cons attempt rest ih =>
      intro loop halready
      cases hknown : known.contains (sourceMarker attempt.source.pk) with
      | false =>
          rw [knownOf, List.filter_cons, if_neg (by rw [Bool.not_eq_true]; exact hknown)]
          exact ih loop halready
      | true =>
          rw [knownOf, List.filter_cons, if_pos hknown, List.map_cons, importLoop]
          have hskip : loop.alreadyImported.contains (sourceMarker (stalled attempt).source.pk) = true := by
            rw [halready]
            exact hknown
          rw [importOne_skipped hskip]
          exact ih _ halready

variable (slugify) in
omit [MaterialLibrary] in
/-- A policy that has to be asked for and cannot be had. -/
theorem choosePolicy_refused (attempt : Attempt) (loop : Loop) (hmaps : options.mapRoles = true)
    (hrole : attempt.source.roleName ≠ "")
    (hcache : loop.policyCache.lookup (roleSlug slugify attempt.source.roleName) = none)
    (h : attempt.policyFault ≠ none ∨
      loop.estate.tables.policies.find? (fun policy => policy.slug == roleSlug slugify attempt.source.roleName) = none ∧
        loop.estate.tables.policies.any (fun other => other.name == sliced attempt.source.roleName 100) = true) :
    ∃ exception, choosePolicy slugify options attempt loop = .error exception := by
  unfold choosePolicy asksPolicy
  rw [hmaps, hcache, bne_iff_ne.mpr hrole]
  cases hfault : attempt.policyFault with
  | some exception => exact ⟨exception, rfl⟩
  | none =>
      rcases h with hsome | ⟨hfound, hname⟩
      · exact absurd hfault hsome
      · refine ⟨"IntegrityError", ?_⟩
        dsimp only
        rw [policyFor_asked hrole hcache, getOrCreatePolicy_new hfound, hname, if_pos rfl]

section Converse

variable {estate : Estate} (hcopying : options.dryRun = false) (hmaps : options.mapRoles = true)
  (hisolated : ∀ faulted, SameSources attempts faulted → Isolated config slugify options estate faulted)

include hcopying hisolated in
theorem selection_returns {others : List Attempt}
    (hpicks : Picks (markersOn options.engine.engine estate.tables) attempts others) :
    (importLoop config slugify options (others.map stalled) (startLoop options estate)).1 = none := by
  have hsame : SameSources attempts (attempts.map stalled) := by
    rw [SameSources, List.map_map]
    rfl
  have h := hisolated _ hsame
  obtain ⟨details, hdetails, hwithout⟩ :=
    importLoop_stalled hcopying attempts (startLoop options estate) h.returns
  obtain ⟨left, hleft⟩ := hwithout others hpicks
  refine (h.apart (others.map stalled) left ?_).1
  have hall : (importSecrets config slugify options (attempts.map stalled) estate).2.result.details = details :=
    hdetails.trans (List.nil_append _)
  rw [hall]
  exact hleft

include hcopying hmaps hisolated in
/-- The first source of a selection that is looked up has a policy, or one can be created. -/
theorem first_accepted {pre post : List Attempt} {attempt : Attempt} (hall : attempts = pre ++ attempt :: post)
    (hlooks : LooksUp options estate.tables attempt) :
    attempt.policyFault = none ∧
      (¬HasPolicy slugify estate.tables attempt.source →
        ∀ policy ∈ estate.tables.policies, policy.name ≠ sliced attempt.source.roleName 100) := by
  have hpicks : Picks (markersOn options.engine.engine estate.tables) attempts
      (knownOf (markersOn options.engine.engine estate.tables) pre ++ attempt :: post) :=
    hall ▸ (picks_known _ pre).append (Picks.refl _ _)
  have hreturns := selection_returns hcopying hisolated hpicks
  obtain ⟨result, hknown⟩ := importLoop_known config slugify options
    (markersOn options.engine.engine estate.tables) pre (startLoop options estate) rfl
  rw [List.map_append, importLoop_append, hknown, List.map_cons] at hreturns
  dsimp only at hreturns
  rw [importLoop, importOne_stalled hcopying hlooks.1] at hreturns
  by_contra hrefused
  have hcannot : (stalled attempt).policyFault ≠ none ∨
      estate.tables.policies.find? (fun policy => policy.slug == roleSlug slugify attempt.source.roleName) = none ∧
        estate.tables.policies.any (fun other => other.name == sliced attempt.source.roleName 100) = true := by
    by_cases hfault : attempt.policyFault = none
    · right
      by_contra hfree
      refine hrefused ⟨hfault, fun hhas policy hpolicy hname => hfree ⟨?_, ?_⟩⟩
      · exact List.find?_eq_none.mpr fun other hother hslug => hhas ⟨other, hother, beq_iff_eq.mp hslug⟩
      · exact List.any_eq_true.mpr ⟨policy, hpolicy, beq_iff_eq.mpr hname⟩
    · exact .inl hfault
  obtain ⟨exception, hchoose⟩ := choosePolicy_refused slugify (stalled attempt)
    { startLoop options estate with result } hmaps hlooks.2 rfl hcannot
  rw [hchoose] at hreturns
  cases hreturns

include hcopying hmaps hisolated in
/-- Two roles that have no policy and have one name have one slug. -/
theorem pair_accepted {pre mid post : List Attempt} {first second : Attempt}
    (hall : attempts = pre ++ first :: (mid ++ second :: post)) (hfirst : LooksUp options estate.tables first)
    (hsecond : LooksUp options estate.tables second) (hhas : ¬HasPolicy slugify estate.tables first.source)
    (hhas' : ¬HasPolicy slugify estate.tables second.source)
    (hname : sliced second.source.roleName 100 = sliced first.source.roleName 100) :
    roleSlug slugify second.source.roleName = roleSlug slugify first.source.roleName := by
  by_contra hslug
  have hpicks : Picks (markersOn options.engine.engine estate.tables) attempts
      (knownOf (markersOn options.engine.engine estate.tables) pre ++
        first :: (knownOf (markersOn options.engine.engine estate.tables) mid ++ second :: post)) :=
    hall ▸ (picks_known _ pre).append (.keep first ((picks_known _ mid).append (Picks.refl _ _)))
  have hreturns := selection_returns hcopying hisolated hpicks
  obtain ⟨result, hknown⟩ := importLoop_known config slugify options
    (markersOn options.engine.engine estate.tables) pre (startLoop options estate) rfl
  rw [List.map_append, importLoop_append, hknown, List.map_cons] at hreturns
  dsimp only at hreturns
  rw [importLoop, importOne_stalled hcopying hfirst.1] at hreturns
  have hnone : ∀ {attempt : Attempt}, ¬HasPolicy slugify estate.tables attempt.source →
      estate.tables.policies.find? (fun policy => policy.slug == roleSlug slugify attempt.source.roleName) = none :=
    fun hhas => List.find?_eq_none.mpr fun other hother hslug => hhas ⟨other, hother, beq_iff_eq.mp hslug⟩
  obtain ⟨hfault, hfree⟩ := first_accepted hcopying hmaps hisolated hall hfirst
  -- The first of the two creates the policy, whose name the second then finds taken.
  obtain ⟨chosen, hcreated, hpolicies, hcached⟩ : ∃ chosen,
      choosePolicy slugify options (stalled first) { startLoop options estate with result } = .ok chosen ∧
        chosen.tables.policies = estate.tables.policies ++
          [rolePolicy slugify options.engine.engine first.source.roleName estate.tables.nextPolicy] ∧
        chosen.cache = [(roleSlug slugify first.source.roleName,
          rolePolicy slugify options.engine.engine first.source.roleName estate.tables.nextPolicy)] := by
    have hany : estate.tables.policies.any (fun other => other.name == sliced first.source.roleName 100) = false := by
      rw [List.any_eq_false]
      exact fun policy hpolicy hsame => hfree hhas policy hpolicy (beq_iff_eq.mp hsame)
    have hchosen : choosePolicy slugify options (stalled first) { startLoop options estate with result } =
        policyFor slugify first.source options.engine.engine options.fallbackPolicy options.mapRoles estate.tables []
          result.policiesNeedingSetup := by
      unfold choosePolicy
      rw [show (stalled first).policyFault = none from hfault]
      rfl
    rw [hchosen, hmaps, policyFor_asked hfirst.2 rfl, getOrCreatePolicy_new (hnone hhas), hany,
      if_neg Bool.false_ne_true]
    exact ⟨_, rfl, rfl, rfl⟩
  rw [hcreated] at hreturns
  dsimp only at hreturns
  obtain ⟨result', hknown'⟩ := importLoop_known config slugify options
    (markersOn options.engine.engine estate.tables) mid (copyOne config options (stalled first)
      { startLoop options estate with result } chosen) rfl
  rw [List.map_append, importLoop_append, hknown', List.map_cons] at hreturns
  dsimp only at hreturns
  rw [importLoop, importOne_stalled hcopying hsecond.1] at hreturns
  -- The policy of the second is neither cached nor there, and its name is taken.
  have hcache : chosen.cache.lookup (roleSlug slugify second.source.roleName) = none := by
    rw [hcached]
    exact lookup_cons_ne hslug
  have hmissing : chosen.tables.policies.find?
      (fun policy => policy.slug == roleSlug slugify second.source.roleName) = none := by
    rw [hpolicies, List.find?_append, hnone hhas', Option.none_or, List.find?_eq_none]
    intro policy hpolicy hsame
    rw [List.mem_singleton.mp hpolicy] at hsame
    exact hslug (beq_iff_eq.mp hsame).symm
  have htaken : chosen.tables.policies.any (fun other => other.name == sliced second.source.roleName 100) = true := by
    rw [hpolicies]
    exact List.any_eq_true.mpr
      ⟨_, List.mem_append_right _ (List.mem_singleton_self _), beq_iff_eq.mpr hname.symm⟩
  obtain ⟨exception, hchoose⟩ := choosePolicy_refused slugify (stalled second)
    { copyOne config options (stalled first) { startLoop options estate with result } chosen with result := result' }
    hmaps hsecond.2 hcache (.inr ⟨hmissing, htaken⟩)
  rw [hchoose] at hreturns
  cases hreturns

include hcopying hmaps hisolated in
/-- Two roles of the list that have no policy and have one name have one slug. -/
theorem roles_of_name {attempt other : Attempt} (hattempt : attempt ∈ attempts) (hother : other ∈ attempts)
    (hlooks : LooksUp options estate.tables attempt) (hlooks' : LooksUp options estate.tables other)
    (hhas : ¬HasPolicy slugify estate.tables attempt.source) (hhas' : ¬HasPolicy slugify estate.tables other.source)
    (hname : sliced other.source.roleName 100 = sliced attempt.source.roleName 100) :
    roleSlug slugify other.source.roleName = roleSlug slugify attempt.source.roleName := by
  obtain ⟨pre, post, hall⟩ := List.append_of_mem hattempt
  rw [hall] at hother
  rcases List.mem_append.mp hother with hbefore | hafter
  · obtain ⟨start, mid, hpre⟩ := List.append_of_mem hbefore
    have hsplit : attempts = start ++ other :: (mid ++ attempt :: post) := by
      rw [hall, hpre, List.append_assoc, List.cons_append]
    exact (pair_accepted hcopying hmaps hisolated hsplit hlooks' hlooks hhas' hhas hname.symm).symm
  · rcases List.mem_cons.mp hafter with hsame | hlater
    · rw [hsame]
    · obtain ⟨mid, rest, hpost⟩ := List.append_of_mem hlater
      exact pair_accepted hcopying hmaps hisolated (hpost ▸ hall) hlooks hlooks' hhas hhas' hname

include hisolated in
theorem apart_of_isolated : RolesApart slugify options estate.tables attempts := by
  intro hcopying hmaps attempt hattempt hlooks
  obtain ⟨pre, post, hall⟩ := List.append_of_mem hattempt
  obtain ⟨hfault, hfree⟩ := first_accepted hcopying hmaps hisolated hall hlooks
  refine ⟨hfault, ?_⟩
  by_cases hhas : HasPolicy slugify estate.tables attempt.source
  · exact .inl hhas
  · exact .inr ⟨hfree hhas, fun other hother hlooks' hhas' hname =>
      roles_of_name hcopying hmaps hisolated hattempt hother hlooks hlooks' hhas hhas' hname⟩

end Converse

end Steps

/-! ### The same sources -/

section SameSources

variable {slugify : String → String} {options : ImportOptions} {attempts faulted : List Attempt}

theorem SameSources.symm (h : SameSources attempts faulted) : SameSources faulted attempts := Eq.symm h

theorem SameSources.uuids (h : SameSources attempts faulted) :
    faulted.map Attempt.uuid = attempts.map Attempt.uuid := by
  have huuids := congrArg (List.map fun (entry : SourceSecret × String × Option String) => entry.2.1) h
  rw [List.map_map, List.map_map] at huuids
  exact huuids

theorem SameSources.mem (h : SameSources attempts faulted) {attempt : Attempt} (hattempt : attempt ∈ attempts) :
    ∃ other ∈ faulted, other.source = attempt.source ∧ other.policyFault = attempt.policyFault := by
  have hentry : (attempt.source, attempt.uuid, attempt.policyFault) ∈
      faulted.map fun attempt => (attempt.source, attempt.uuid, attempt.policyFault) :=
    h ▸ List.mem_map_of_mem hattempt
  obtain ⟨other, hother, hsame⟩ := List.mem_map.mp hentry
  exact ⟨other, hother, congrArg Prod.fst hsame, congrArg (·.2.2) hsame⟩

/-- What stands in the way of the policies is a matter of the sources. -/
theorem SameSources.apart {tables : Tables} (h : SameSources attempts faulted)
    (hapart : RolesApart slugify options tables attempts) : RolesApart slugify options tables faulted := by
  intro hcopying hmaps attempt hattempt hlooks
  obtain ⟨twin, htwin, hsource, hpolicyFault⟩ := h.symm.mem hattempt
  have hlooksTwin : LooksUp options tables twin := by
    rw [LooksUp, hsource]
    exact hlooks
  obtain ⟨hfault, hcreate⟩ := hapart hcopying hmaps twin htwin hlooksTwin
  refine ⟨hpolicyFault.symm.trans hfault, ?_⟩
  rw [CanCreate, hsource] at hcreate
  refine hcreate.imp id fun hfree => ⟨hfree.1, fun other hother hlooks' hhas hname => ?_⟩
  obtain ⟨first, hfirst, hsame, -⟩ := h.symm.mem hother
  rw [← hsame]
  refine hfree.2 first hfirst ?_ (hsame ▸ hhas) (hsame ▸ hname)
  rw [LooksUp, hsame]
  exact hlooks'

end SameSources

/-- Whatever fails in the blocks of the sources, each is isolated from the others, if and only if nothing stands in the
way of the policies their roles need. -/
theorem sources_isolated_iff [MaterialLibrary] (config : Config) (slugify : String → String) (options : ImportOptions)
    (estate : Estate) (attempts : List Attempt) (hdistinct : (attempts.map Attempt.uuid).Nodup) :
    (∀ faulted, SameSources attempts faulted → Isolated config slugify options estate faulted) ↔
      RolesApart slugify options estate.tables attempts := by
  constructor
  · exact apart_of_isolated
  · intro hapart faulted hsame
    exact isolated_of_apart (hsame.uuids ▸ hdistinct) (hsame.apart hapart)

namespace Sample.Roles

/-- The tier "Production" of a database, under a slug of its own. -/
def production : CredentialPolicy := ⟨1, "Production", "prod", 1, "netbox", ""⟩

def estate : Estate := ⟨⟨[production], [], [], [], 2, 1, 1⟩, fun _ => ⟨Secret.empty, none⟩⟩

def slugify (name : String) : String := if name == "Production" then "production" else "lab"

def options : ImportOptions := ⟨⟨1, "lab", .openbao, 2⟩, production, false, true⟩

/-- A password of the given role. -/
def attempt (pk : Nat) (roleName uuid : String) : Attempt :=
  ⟨⟨pk, "switch login", "hunter2", roleName, "admin", none, none⟩, uuid, none, .none⟩

end Sample.Roles

/-- The role "Production" has no policy under its slug, and its name is taken: the run raises, and the source after it
is never processed. -/
theorem taken_role_name_ends_the_run :
    let run := @importSecrets NetboxOpenbao.Sample.library (NetboxOpenbao.Sample.config 2) Sample.Roles.slugify
      Sample.Roles.options [Sample.Roles.attempt 7 "Production" "5f0c", Sample.Roles.attempt 8 "" "71aa"]
      Sample.Roles.estate
    run.1 = some "IntegrityError" ∧ run.2.result.details.length = 0 ∧ run.2.result.failed = 0 := by
  decide +kernel

namespace Sample.Roles

/-- A source of a role without a policy, whose write does not reach the server, and another source of that role. -/
def lost : Attempt := { attempt 7 "Lab" "5f0c" with fault := .write false "OpenBaoUnavailable" }

def sources : List Attempt := [lost, attempt 8 "Lab" "71aa"]

theorem sources_apart : RolesApart slugify options estate.tables sources := by
  have hlab : ∀ attempt ∈ sources, attempt.policyFault = none ∧ attempt.source.roleName = "Lab" := by
    intro attempt hattempt
    rcases List.mem_pair.mp hattempt with rfl | rfl
    · exact ⟨rfl, rfl⟩
    · exact ⟨rfl, rfl⟩
  intro _ _ attempt hattempt _
  obtain ⟨hfault, hname⟩ := hlab attempt hattempt
  refine ⟨hfault, .inr ⟨fun policy hpolicy => ?_, fun other hother _ _ _ => ?_⟩⟩
  · rw [List.mem_singleton.mp hpolicy, hname]
    decide
  · rw [(hlab other hother).2, hname]

end Sample.Roles

/-- The first source fails, and the second is imported with it and without it. -/
theorem lost_source_isolated :
    let import_ := @importSecrets NetboxOpenbao.Sample.library (NetboxOpenbao.Sample.config 2) Sample.Roles.slugify
      Sample.Roles.options
    @Isolated NetboxOpenbao.Sample.library (NetboxOpenbao.Sample.config 2) Sample.Roles.slugify Sample.Roles.options
        Sample.Roles.estate Sample.Roles.sources ∧
      (import_ Sample.Roles.sources Sample.Roles.estate).2.result.details.map Detail.outcome = [.failed, .imported] ∧
      (import_ [Sample.Roles.attempt 8 "Lab" "71aa"] Sample.Roles.estate).2.result.details.map Detail.outcome =
        [.imported] :=
  ⟨(@sources_isolated_iff NetboxOpenbao.Sample.library (NetboxOpenbao.Sample.config 2) Sample.Roles.slugify
      Sample.Roles.options Sample.Roles.estate Sample.Roles.sources (by decide)).mpr Sample.Roles.sources_apart
      Sample.Roles.sources rfl, rfl, rfl⟩

end NetboxOpenbao.Importers
