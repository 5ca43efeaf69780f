import NetboxOpenbao.Effect.Fallible
import NetboxOpenbao.Proof.Administration.Explorer

/-!
# Journeys on the live mounts

The catalog and the resolver filter alike: by the ambiguity of a mount's parameter, by what the mount supports, and by
what the document advertises.
-/

namespace NetboxOpenbao

open Effect Engines

namespace EngineJourneys

theorem journeyIds_nodup : (engineJourneys.map EngineJourney.journeyId).Nodup := by decide +kernel

/-! ### Parameters of mounts -/

/-- The parameter a document names a live mount's operations with. -/
def parameterOf (mount : SecretEngineMount) : String := mount.path.map parameterChar ++ "_mount_path"

def Ambiguous (mounts : List SecretEngineMount) (mount : SecretEngineMount) : Prop :=
  1 < (mounts.map parameterOf).count (parameterOf mount)

instance (mounts : List SecretEngineMount) (mount : SecretEngineMount) : Decidable (Ambiguous mounts mount) :=
  inferInstanceAs (Decidable (1 < _))

theorem mountParameterForPath_eq (mount : SecretEngineMount) :
    mountParameterForPath mount.path = .ok (parameterOf mount) := mountParameterForPath_of_valid mount.valid

theorem ambiguousMountParameters_eq (mounts : List SecretEngineMount) : ambiguousMountParameters mounts =
    .ok ((mounts.map parameterOf).filter fun parameter => 1 < (mounts.map parameterOf).count parameter) := by
  unfold ambiguousMountParameters
  rw [mapM_mountParameterForPath]
  rfl

theorem contains_ambiguous {mounts : List SecretEngineMount} {mount : SecretEngineMount} (hmount : mount ∈ mounts) :
    (((mounts.map parameterOf).filter fun parameter => 1 < (mounts.map parameterOf).count parameter).contains
      (parameterOf mount) = true) ↔ Ambiguous mounts mount := by
  rw [List.contains_iff_mem, List.mem_filter, decide_eq_true_eq]
  exact ⟨fun h => h.2, fun h => ⟨List.mem_map_of_mem hmount, h⟩⟩

/-- A mount that is not ambiguous is the only one at its path. -/
theorem alone_of_not_ambiguous {before after : List SecretEngineMount} {mount : SecretEngineMount}
    (h : ¬ Ambiguous (before ++ mount :: after) mount) : ∀ other ∈ before ++ after, other.path ≠ mount.path := by
  intro other hother hpath
  have hsame : parameterOf other = parameterOf mount := by
    unfold parameterOf
    rw [hpath]
  have hcount : 0 < ((before ++ after).map parameterOf).count (parameterOf mount) :=
    List.count_pos_iff.mpr (List.mem_map.mpr ⟨other, hother, hsame⟩)
  refine h ?_
  unfold Ambiguous
  rw [List.map_append, List.map_cons, List.count_append, List.count_cons_self]
  rw [List.map_append, List.count_append] at hcount
  omega

/-! ### The resolver -/

/-- What the resolver finds for a mount and a journey that are there. -/
def resolution (document : CapabilityDocument) (mounts : List SecretEngineMount) (mount : SecretEngineMount)
    (journey : EngineJourney) : Option ExplorerOperation :=
  if Ambiguous mounts mount then none
  else if mountSupports mount journey then operationFor document (parameterOf mount) journey
  else none

section

variable {document : CapabilityDocument} {mounts : List SecretEngineMount} {mountPath journeyId : String}

variable (document) in
theorem resolveEngineJourney_of_none
    (h : engineJourneys.find? (fun journey => journey.journeyId == journeyId) = none ∨
      mounts.find? (fun mount => mount.path == mountPath) = none) :
    ∃ error, resolveEngineJourney document mounts mountPath journeyId = .error error := by
  unfold resolveEngineJourney
  rw [ambiguousMountParameters_eq, Fallible.ok_bind]
  cases hjourney : engineJourneys.find? fun journey => journey.journeyId == journeyId with
  | none => exact ⟨_, rfl⟩
  | some journey =>
      rw [hjourney] at h
      rw [h.resolve_left (Option.some_ne_none journey)]
      exact ⟨_, rfl⟩

variable (document) in
theorem resolveEngineJourney_of_some {journey : EngineJourney} {mount : SecretEngineMount}
    (hjourney : engineJourneys.find? (fun journey => journey.journeyId == journeyId) = some journey)
    (hmount : mounts.find? (fun mount => mount.path == mountPath) = some mount) :
    ∃ error, resolveEngineJourney document mounts mountPath journeyId =
      match resolution document mounts mount journey with
      | some operation => .ok (journey, operation)
      | none => .error error := by
  have hcontains := contains_ambiguous (List.mem_of_find?_eq_some hmount)
  unfold resolveEngineJourney resolution
  rw [ambiguousMountParameters_eq, Fallible.ok_bind, hjourney, hmount]
  dsimp only
  rw [mountParameterForPath_eq, Fallible.ok_bind]
  by_cases hambiguous : Ambiguous mounts mount
  · rw [if_pos hambiguous, hcontains.mpr hambiguous]
    exact ⟨_, rfl⟩
  · rw [if_neg hambiguous, Bool.eq_false_iff.mpr (mt hcontains.mp hambiguous), Bool.false_or]
    cases mountSupports mount journey with
    | false => exact ⟨_, rfl⟩
    | true =>
        cases hoperation : operationFor document (parameterOf mount) journey with
        | none => exact ⟨_, rfl⟩
        | some operation => exact ⟨.doesNotExist, rfl⟩

theorem resolveEngineJourney_ok_iff (journey : EngineJourney) (operation : ExplorerOperation) :
    resolveEngineJourney document mounts mountPath journeyId = .ok (journey, operation) ↔
      ∃ mount, engineJourneys.find? (fun journey => journey.journeyId == journeyId) = some journey ∧
        mounts.find? (fun mount => mount.path == mountPath) = some mount ∧
        resolution document mounts mount journey = some operation := by
  constructor
  · intro h
    cases hjourney : engineJourneys.find? fun journey => journey.journeyId == journeyId with
    | none =>
        obtain ⟨error, herror⟩ := resolveEngineJourney_of_none document (.inl hjourney)
        rw [herror] at h
        cases h
    | some found =>
        cases hmount : mounts.find? fun mount => mount.path == mountPath with
        | none =>
            obtain ⟨error, herror⟩ := resolveEngineJourney_of_none document (.inr hmount)
            rw [herror] at h
            cases h
        | some mount =>
            obtain ⟨error, hresolved⟩ := resolveEngineJourney_of_some document hjourney hmount
            rw [hresolved] at h
            cases hresolution : resolution document mounts mount found with
            | none =>
                rw [hresolution] at h
                cases h
            | some result =>
                rw [hresolution] at h
                obtain ⟨rfl, rfl⟩ := Prod.mk.inj (Except.ok.inj h)
                exact ⟨mount, rfl, rfl, hresolution⟩
  · rintro ⟨mount, hjourney, hmount, hresolution⟩
    obtain ⟨error, hresolved⟩ := resolveEngineJourney_of_some document hjourney hmount
    rw [hresolved, hresolution]

/-- What a resolved operation is, besides the journey's. -/
theorem resolved_facts {journey : EngineJourney} {operation : ExplorerOperation}
    (h : resolveEngineJourney document mounts mountPath journeyId = .ok (journey, operation)) :
    journey ∈ engineJourneys ∧ (∃ mount ∈ mounts, mount.path = mountPath) ∧
      operation ∈ classifyExplorerOperations document ∧ operation.executable = true ∧
      operation.pathTemplate = journey.pathTemplate := by
  obtain ⟨mount, hjourney, hmount, hresolution⟩ := (resolveEngineJourney_ok_iff _ _).mp h
  unfold resolution at hresolution
  split at hresolution
  · cases hresolution
  · split at hresolution
    · unfold operationFor at hresolution
      have hfound := List.find?_some hresolution
      simp only [Bool.and_eq_true, beq_iff_eq] at hfound
      obtain ⟨⟨⟨⟨hexecutable, -⟩, -⟩, -⟩, htemplate⟩ := hfound
      have hpath := List.find?_some hmount
      exact ⟨List.mem_of_find?_eq_some hjourney, ⟨mount, List.mem_of_find?_eq_some hmount, beq_iff_eq.mp hpath⟩,
        List.mem_reverse.mp (List.mem_of_find?_eq_some hresolution), hexecutable, htemplate⟩
    · cases hresolution

end

/-! ### The catalog -/

/-- What the catalog shows of a journey and a mount that are there. -/
def mountItem (document : CapabilityDocument) (mounts : List SecretEngineMount) (mount : SecretEngineMount)
    (journey : EngineJourney) : Option CatalogItem :=
  (resolution document mounts mount journey).map (catalogItem mount.path journey)

theorem mountItems_eq (document : CapabilityDocument) {mounts : List SecretEngineMount} {mount : SecretEngineMount}
    (hmount : mount ∈ mounts) :
    mountItems document
        ((mounts.map parameterOf).filter fun parameter => 1 < (mounts.map parameterOf).count parameter) mount =
      .ok (engineJourneys.filterMap (mountItem document mounts mount)) := by
  have hcontains := contains_ambiguous hmount
  unfold mountItems
  rw [mountParameterForPath_eq, Fallible.ok_bind]
  by_cases hambiguous : Ambiguous mounts mount
  · have hnone : mountItem document mounts mount = fun _ => none := by
      funext journey
      unfold mountItem resolution
      rw [if_pos hambiguous]
      rfl
    rw [if_pos (hcontains.mpr hambiguous), hnone, List.filterMap_none]
    rfl
  · have hsome : mountItem document mounts mount = fun journey =>
        if mountSupports mount journey then
          (operationFor document (parameterOf mount) journey).map (catalogItem mount.path journey)
        else none := by
      funext journey
      unfold mountItem resolution
      rw [if_neg hambiguous]
      cases mountSupports mount journey with
      | true => rfl
      | false => rfl
    rw [if_neg (mt hcontains.mp hambiguous), hsome]
    rfl

theorem engineJourneyCatalog_eq (document : CapabilityDocument) (mounts : List SecretEngineMount) :
    engineJourneyCatalog document mounts =
      .ok ((mounts.flatMap fun mount => engineJourneys.filterMap (mountItem document mounts mount)).insertionSort
        fun a b => catalogOrder a b) := by
  have hitems : ∀ live : List SecretEngineMount, (∀ mount ∈ live, mount ∈ mounts) →
      live.mapM (mountItems document
        ((mounts.map parameterOf).filter fun parameter => 1 < (mounts.map parameterOf).count parameter)) =
        .ok (live.map fun mount => engineJourneys.filterMap (mountItem document mounts mount)) := by
    intro live
    induction live with
    | nil => intro _; rfl
    | cons mount rest ih =>
        intro hlive
        rw [List.mapM_cons, mountItems_eq document (hlive mount List.mem_cons_self), Fallible.ok_bind,
          ih fun other hother => hlive other (List.mem_cons_of_mem mount hother)]
        rfl
  unfold engineJourneyCatalog
  rw [ambiguousMountParameters_eq, Fallible.ok_bind, hitems mounts fun _ h => h, Fallible.ok_bind, List.flatMap_def]
  rfl

/-- The items of the catalog for one mount path and one journey. -/
def itemsFor (items : List CatalogItem) (mountPath journeyId : String) : List CatalogItem :=
  items.filter fun item => item.mountPath == mountPath && item.journey.journeyId == journeyId

theorem mountItem_eq_some {document : CapabilityDocument} {mounts : List SecretEngineMount}
    {mount : SecretEngineMount} {journey : EngineJourney} {item : CatalogItem}
    (h : mountItem document mounts mount journey = some item) :
    item.mountPath = mount.path ∧ item.journey = journey := by
  obtain ⟨operation, -, rfl⟩ := Option.map_eq_some_iff.mp h
  exact ⟨rfl, rfl⟩

theorem itemsFor_mount (document : CapabilityDocument) (mounts : List SecretEngineMount) (mount : SecretEngineMount)
    (journeyId : String) :
    itemsFor (engineJourneys.filterMap (mountItem document mounts mount)) mount.path journeyId =
      ((engineJourneys.find? fun journey => journey.journeyId == journeyId).bind
        (mountItem document mounts mount)).toList := by
  have hone : ∀ journeys : List EngineJourney, (journeys.map EngineJourney.journeyId).Nodup →
      itemsFor (journeys.filterMap (mountItem document mounts mount)) mount.path journeyId =
        ((journeys.find? fun journey => journey.journeyId == journeyId).bind
          (mountItem document mounts mount)).toList := by
    intro journeys
    induction journeys with
    | nil => intro _; rfl
    | cons journey rest ih =>
        intro hnodup
        obtain ⟨hfresh, hrest⟩ := List.nodup_cons.mp hnodup
        have htail := ih hrest
        unfold itemsFor at htail ⊢
        by_cases hid : journey.journeyId = journeyId
        · have hnone : rest.find? (fun journey => journey.journeyId == journeyId) = none := by
            refine List.find?_eq_none.mpr fun other hother hsame => hfresh ?_
            rw [hid, ← beq_iff_eq.mp hsame]
            exact List.mem_map_of_mem hother
          have hfirst : (journey :: rest).find? (fun journey => journey.journeyId == journeyId) = some journey :=
            List.find?_cons_of_pos (beq_iff_eq.mpr hid)
          rw [hnone] at htail
          rw [hfirst, Option.bind_some, List.filterMap_cons]
          cases hitem : mountItem document mounts mount journey with
          | none => exact htail
          | some item =>
              obtain ⟨hpath, rfl⟩ := mountItem_eq_some hitem
              have hkept : (item.mountPath == mount.path && item.journey.journeyId == journeyId) = true := by
                rw [hpath, hid, beq_self_eq_true, beq_self_eq_true]
                rfl
              dsimp only
              rw [List.filter_cons, if_pos hkept, htail]
              rfl
        · have hskip : (journey :: rest).find? (fun journey => journey.journeyId == journeyId) =
              rest.find? fun journey => journey.journeyId == journeyId :=
            List.find?_cons_of_neg (by rw [beq_iff_eq]; exact hid)
          rw [hskip, ← htail, List.filterMap_cons]
          cases hitem : mountItem document mounts mount journey with
          | none => rfl
          | some item =>
              obtain ⟨-, rfl⟩ := mountItem_eq_some hitem
              refine List.filter_cons_of_neg ?_
              rw [Bool.and_eq_true, beq_iff_eq, beq_iff_eq]
              exact fun h => hid h.2
  exact hone engineJourneys journeyIds_nodup

/-- Nothing is shown of a mount under another path. -/
theorem itemsFor_other (document : CapabilityDocument) (mounts : List SecretEngineMount) {mount : SecretEngineMount}
    {mountPath : String} (hpath : mount.path ≠ mountPath) (journeyId : String) :
    itemsFor (engineJourneys.filterMap (mountItem document mounts mount)) mountPath journeyId = [] := by
  refine List.filter_eq_nil_iff.mpr fun item hitem hkept => ?_
  obtain ⟨journey, -, hjourney⟩ := List.mem_filterMap.mp hitem
  obtain ⟨hsame, -⟩ := mountItem_eq_some hjourney
  exact hpath (hsame.symm.trans (beq_iff_eq.mp (Bool.and_eq_true_iff.mp hkept).1))

/-- Sorting the catalog does not change what it shows of a journey, which is one item or none. -/
theorem itemsFor_sorted {items expected : List CatalogItem} {mountPath journeyId : String}
    (hitems : itemsFor items mountPath journeyId = expected) (hlength : expected.length ≤ 1) :
    itemsFor (items.insertionSort fun a b => catalogOrder a b) mountPath journeyId = expected := by
  have hperm : (itemsFor (items.insertionSort fun a b => catalogOrder a b) mountPath journeyId).Perm expected := by
    rw [← hitems]
    exact (List.perm_insertionSort _ items).filter _
  cases expected with
  | nil => exact hperm.eq_nil
  | cons item rest =>
      obtain rfl : rest = [] := List.eq_nil_of_length_eq_zero (Nat.le_zero.mp (Nat.le_of_succ_le_succ hlength))
      exact List.perm_singleton.mp hperm

/-- What the mount at a path shows is what the catalog shows, if no other mount shows anything there. -/
theorem itemsFor_catalog {document : CapabilityDocument} {mounts before after : List SecretEngineMount}
    {mount : SecretEngineMount} {journeyId : String} {expected : List CatalogItem}
    (hmounts : mounts = before ++ mount :: after) (hlength : expected.length ≤ 1)
    (hone : itemsFor (engineJourneys.filterMap (mountItem document mounts mount)) mount.path journeyId = expected)
    (hothers : ∀ other ∈ before ++ after,
      itemsFor (engineJourneys.filterMap (mountItem document mounts other)) mount.path journeyId = []) :
    itemsFor ((mounts.flatMap fun live => engineJourneys.filterMap (mountItem document mounts live)).insertionSort
      fun a b => catalogOrder a b) mount.path journeyId = expected := by
  have hsplit : (mounts.flatMap fun live => engineJourneys.filterMap (mountItem document mounts live)) =
      (before ++ mount :: after).flatMap fun live => engineJourneys.filterMap (mountItem document mounts live) :=
    congrArg _ hmounts
  refine itemsFor_sorted ?_ hlength
  unfold itemsFor at hone hothers ⊢
  rw [hsplit, List.filter_flatMap, List.flatMap_append, List.flatMap_cons, hone,
    List.flatMap_eq_nil_iff.mpr fun other h => hothers other (List.mem_append_left after h),
    List.flatMap_eq_nil_iff.mpr fun other h => hothers other (List.mem_append_right before h),
    List.nil_append, List.append_nil]

/-- A mount at a path that is ambiguous shows nothing. -/
theorem mountItems_ambiguous (document : CapabilityDocument) {mounts : List SecretEngineMount}
    {mount live : SecretEngineMount} (hambiguous : Ambiguous mounts mount) (hpath : live.path = mount.path) :
    engineJourneys.filterMap (mountItem document mounts live) = [] := by
  have hsame : Ambiguous mounts live := by
    unfold Ambiguous parameterOf at hambiguous ⊢
    rw [hpath]
    exact hambiguous
  refine List.filterMap_eq_nil_iff.mpr fun journey _ => ?_
  unfold mountItem resolution
  rw [if_pos hsame]
  rfl

theorem resolveEngineJourney_ambiguous (document : CapabilityDocument) {mounts : List SecretEngineMount}
    {mountPath : String} {mount : SecretEngineMount} (hambiguous : Ambiguous mounts mount)
    (hmount : (mounts.find? fun mount => mount.path == mountPath) = some mount) (journeyId : String) :
    ∃ error, resolveEngineJourney document mounts mountPath journeyId = .error error := by
  cases hjourney : engineJourneys.find? fun journey => journey.journeyId == journeyId with
  | none => exact resolveEngineJourney_of_none document (.inl hjourney)
  | some journey =>
      obtain ⟨error, hresolved⟩ := resolveEngineJourney_of_some document hjourney hmount
      unfold resolution at hresolved
      rw [if_pos hambiguous] at hresolved
      exact ⟨error, hresolved⟩

/-- The catalog lists a journey on a mount path just when the resolver finds its operation, once, and with the key and
the fields of that operation. -/
theorem catalog_lists_resolved (document : CapabilityDocument) (mounts : List SecretEngineMount) :
    ∃ items, engineJourneyCatalog document mounts = .ok items ∧ ∀ mountPath journeyId,
      itemsFor items mountPath journeyId = match resolveEngineJourney document mounts mountPath journeyId with
        | .ok (journey, operation) => [catalogItem mountPath journey operation]
        | .error _ => [] := by
  refine ⟨_, engineJourneyCatalog_eq document mounts, fun mountPath journeyId => ?_⟩
  cases hmount : mounts.find? fun mount => mount.path == mountPath with
  | none =>
      obtain ⟨error, herror⟩ := resolveEngineJourney_of_none document (.inr hmount)
      rw [herror]
      refine itemsFor_sorted ?_ (Nat.zero_le 1)
      unfold itemsFor
      rw [List.filter_flatMap, List.flatMap_eq_nil_iff]
      intro mount hmem
      exact itemsFor_other document mounts (fun hpath => List.find?_eq_none.mp hmount mount hmem (beq_iff_eq.mpr hpath))
        journeyId
  | some mount =>
      obtain ⟨hpath, before, after, hmounts, -⟩ := List.find?_eq_some_iff_append.mp hmount
      obtain rfl := beq_iff_eq.mp hpath
      by_cases hambiguous : Ambiguous mounts mount
      · obtain ⟨error, herror⟩ := resolveEngineJourney_ambiguous document hambiguous hmount journeyId
        rw [herror]
        refine itemsFor_catalog hmounts (Nat.zero_le 1) ?_ fun other _ => ?_
        · rw [mountItems_ambiguous document hambiguous rfl]
          rfl
        · by_cases hother : other.path = mount.path
          · rw [mountItems_ambiguous document hambiguous hother]
            rfl
          · exact itemsFor_other document _ hother journeyId
      · have hothers := fun other hmem =>
          itemsFor_other document mounts (alone_of_not_ambiguous (hmounts ▸ hambiguous) other hmem) journeyId
        have hone := itemsFor_mount document mounts mount journeyId
        cases hjourney : engineJourneys.find? fun journey => journey.journeyId == journeyId with
        | none =>
            obtain ⟨error, herror⟩ := resolveEngineJourney_of_none document (.inl hjourney)
            rw [hjourney] at hone
            rw [herror]
            exact itemsFor_catalog hmounts (Nat.zero_le 1) hone hothers
        | some journey =>
            obtain ⟨error, hresolved⟩ := resolveEngineJourney_of_some document hjourney hmount
            rw [hjourney, Option.bind_some] at hone
            unfold mountItem at hone
            rw [hresolved]
            cases hresolution : resolution document mounts mount journey with
            | none =>
                rw [hresolution] at hone
                exact itemsFor_catalog hmounts (Nat.zero_le 1) hone hothers
            | some operation =>
                rw [hresolution] at hone
                exact itemsFor_catalog hmounts (Nat.le_refl 1) hone hothers

end EngineJourneys

end NetboxOpenbao
