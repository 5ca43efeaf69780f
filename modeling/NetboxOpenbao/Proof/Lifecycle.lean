import NetboxOpenbao.Proof.Versions
import NetboxOpenbao.Automation
import NetboxOpenbao.Effect.Runs

/-!
# Status and staged version

The status column is written by staging, promotion and discard, and by nothing else a material operation
does. It follows the staged pointer until a rotation clears the pointer and leaves the status; and it forgets
what it was before a candidate was staged.
-/

namespace NetboxOpenbao

open Effect

section

variable [library : MaterialLibrary]

/-! ### Operations on material -/

/-- The operation moves material and edits nothing else. -/
def Operation.Material : Operation → Prop
  | .rotate .. | .stage .. | .promote .. | .discard .. => True
  | .create .. | .update .. => False

/-- The row numbered `pk` is there. -/
def Site.Holds (pk : Nat) (s : Site) : Prop := ∃ row, s.Row pk row

/-- A call of a material operation on the credential numbered `pk`. -/
def Site.Handles (pk : Nat) (_ : Site) (c : Call) : Prop := c.operation.On pk ∧ c.operation.Material

/-- Material operations leave the row where it is, and write nowhere else. -/
theorem Commits.material {config : Config} {time : Time} {row row' : Credential} {operation : Operation}
    {wrote : Option (WriteRequest × Nat)} (h : Commits config time row operation wrote row')
    (hmaterial : operation.Material) : row'.pk = row.pk ∧ row'.location = row.location ∧
      ∀ req version, wrote = some (req, version) → req.location = row.location := by
  cases h with
  | rotate _ =>
      rw [written_promote]
      refine ⟨rfl, rfl, fun req version hw => ?_⟩
      cases hw
      rfl
  | stage _ _ =>
      rw [written_stage]
      refine ⟨by simp [withMetadata], by simp [withMetadata, Credential.location], fun req version hw => ?_⟩
      cases hw
      rfl
  | promote _ | discard _ => exact ⟨rfl, rfl, fun req version hw => by cases hw⟩
  | edit _ => exact hmaterial.elim
  | update _ _ => exact hmaterial.elim

theorem Site.Holds.step {pk : Nat} {s : Site} {c : Call} (h : s.Holds pk) (hc : s.Handles pk c) :
    (s.step c).Holds pk := by
  obtain ⟨row, hrow⟩ := h
  obtain ⟨-, -, hmoved⟩ := Site.step_moved hc.1 hrow
  cases hmoved with
  | kept hcredentials => exact ⟨row, by rw [hcredentials]; exact hrow.found, hrow.pk, hrow.engine⟩
  | committed wrote row' hcommits hcredentials _ =>
      obtain ⟨hpk, hlocation, -⟩ := hcommits.material hc.2
      have hengine : row'.engineId = row.engineId := congrArg Location.engine hlocation
      refine ⟨row', ?_, hpk.trans hrow.pk, hengine ▸ hrow.engine⟩
      rw [hcredentials, Database.putCredential_self]

/-- What a transition does to the status and to the staged pointer. -/
inductive Lifecycle (row row' : Credential) : Operation → Prop
  | rotate {held : Credential} {payload : Payload} {user : Option User} {request : Option Nat}
      (hstatus : row'.status = row.status) (hpointer : row'.stagedKvVersion = none) :
      Lifecycle row row' (.rotate held payload user request)
  | stage {held : Credential} {payload : Payload} {user : Option User} {request : Option Nat}
      (hstaged : row.stagedKvVersion = none) (hstatus : row'.status = .staged)
      (hpointer : row'.stagedKvVersion ≠ none) : Lifecycle row row' (.stage held payload user request)
  | promote {held : Credential} {user : Option User} {request : Option Nat} {verified : Bool} {note : String}
      (hstaged : row.stagedKvVersion ≠ none) (hstatus : row'.status = .active)
      (hpointer : row'.stagedKvVersion = none) : Lifecycle row row' (.promote held user request verified note)
  | discard {held : Credential} {user : Option User} {request : Option Nat}
      (hstaged : row.stagedKvVersion ≠ none) (hstatus : row'.status = .active)
      (hpointer : row'.stagedKvVersion = none) : Lifecycle row row' (.discard held user request)

theorem Commits.lifecycle {config : Config} {time : Time} {row row' : Credential} {operation : Operation}
    {wrote : Option (WriteRequest × Nat)} (h : Commits config time row operation wrote row')
    (hmaterial : operation.Material) : Lifecycle row row' operation := by
  cases h with
  | rotate _ =>
      rw [written_promote]
      exact .rotate rfl rfl
  | stage hstaged _ =>
      rw [written_stage]
      exact .stage hstaged rfl (by simp)
  | promote hstaged => exact .promote (by simp [hstaged]) rfl rfl
  | discard hstaged => exact .discard (by simp [hstaged]) rfl rfl
  | edit _ => exact hmaterial.elim
  | update _ _ => exact hmaterial.elim

/-! ### A status of staged and a staged version -/

def Operation.Rotates : Operation → Prop
  | .rotate .. => True
  | .create .. | .stage .. | .promote .. | .discard .. | .update .. => False

/-- The row numbered `pk` shows as staged exactly when it has a staged version. -/
def Site.StatusAgrees (pk : Nat) (s : Site) : Prop :=
  ∀ row, s.db.credentials pk = some row → (row.status = .staged ↔ row.stagedKvVersion ≠ none)

/-- A rotation that finds a staged version fails. -/
def Site.SparesStaged (pk : Nat) (s : Site) (c : Call) : Prop :=
  ∀ row, s.db.credentials pk = some row → row.stagedKvVersion ≠ none → c.operation.Rotates →
    (s.step c).db.credentials = s.db.credentials

omit library in
/-- Every transition but a rotation over a staged version keeps the two in agreement. -/
theorem Lifecycle.statusAgrees {row row' : Credential} {operation : Operation}
    (h : Lifecycle row row' operation) (hagrees : row.status = .staged ↔ row.stagedKvVersion ≠ none) :
    (row'.status = .staged ↔ row'.stagedKvVersion ≠ none) ↔
      (operation.Rotates → row.stagedKvVersion = none) := by
  cases h with
  | rotate hstatus hpointer => simp [hstatus, hpointer, Operation.Rotates, hagrees]
  | stage hstaged hstatus hpointer => simp [hstatus, hpointer, Operation.Rotates]
  | promote hstaged hstatus hpointer => simp [hstatus, hpointer, Operation.Rotates]
  | discard hstaged hstatus hpointer => simp [hstatus, hpointer, Operation.Rotates]

theorem Site.statusAgrees_step {pk : Nat} {s : Site} {c : Call} (hholds : s.Holds pk) (hc : s.Handles pk c)
    (hagrees : s.StatusAgrees pk) : (s.step c).StatusAgrees pk ↔ s.SparesStaged pk c := by
  obtain ⟨row, hrow⟩ := hholds
  obtain ⟨-, -, hmoved⟩ := Site.step_moved hc.1 hrow
  cases hmoved with
  | kept hcredentials =>
      refine iff_of_true (fun row' hrow' => ?_) fun _ _ _ _ => hcredentials
      exact hagrees row' (hcredentials ▸ hrow')
  | committed wrote row' hcommits hcredentials _ =>
      have hput : (s.step c).db.credentials pk = some row' := by
        rw [hcredentials, Database.putCredential_self]
      have hlifecycle := hcommits.lifecycle hc.2
      have hstatus := hlifecycle.statusAgrees (hagrees row hrow.found)
      constructor
      · intro h found hfound hstaged hrotates
        obtain rfl := Option.some.inj (hrow.found.symm.trans hfound)
        exact absurd (hstatus.mp (h row' hput) hrotates) hstaged
      · intro h found hfound
        obtain rfl := Option.some.inj (hput.symm.trans hfound)
        refine hstatus.mpr fun hrotates => ?_
        by_contra hstaged
        -- a rotation that left the row alone would have left the staged version
        have hsame := h row hrow.found hstaged hrotates
        rw [hsame, hrow.found] at hput
        obtain rfl := Option.some.inj hput
        generalize c.operation = operation at hlifecycle hrotates
        cases hlifecycle with
        | rotate _ hpointer => exact hstaged hpointer
        | stage | promote | discard => exact hrotates.elim

/-- A newly created credential and any sequence of rotations, stagings, promotions and discards, each failing
or not: it shows as staged exactly when it has a staged version, in every state reached, if and only if it was
not created as staged and every rotation that finds a staged version fails. -/
theorem staged_status_iff_rotations_spare (s : Site) (c : Call) (uuid : String) (attributes : Edits)
    (payload : Payload) (user : Option User) (request : Option Nat)
    (conforms : Database → Credential → Except Error Unit) (pk : Nat) (row : Credential) (calls : List Call)
    (hids : s.db.config.engines 0 = none) (hnew : s.db.credentials pk = none)
    (hcreate : c.operation = .create uuid attributes payload user request conforms)
    (hcreated : (s.step c).db.credentials pk = some row)
    (hcalls : Runs.Along Site.step (Site.Handles pk) (s.step c) calls) :
    Runs.Throughout Site.step (Site.StatusAgrees pk) (s.step c) calls ↔
      attributes.status ≠ some .staged ∧ Runs.Along Site.step (Site.SparesStaged pk) (s.step c) calls := by
  obtain ⟨-, req, version, metadata, fingerprint, _, _, _, hmade, -⟩ :=
    Site.step_created hids hnew hcreate hcreated
  have hrow : (s.step c).Row pk row := by
    refine ⟨hcreated, ?_, hmade.engine⟩
    rw [hmade.made, written_promote]
  have hstaged : row.stagedKvVersion = none := by rw [hmade.made, written_promote]
  have hstatus : row.status = attributes.status.getD .active := by
    rw [hmade.made, written_promote]
    rfl
  have hrun := fun h => Runs.throughout_iff_along (P := Site.StatusAgrees pk) (C := Site.SparesStaged pk)
    (fun _ _ hholds hc => Site.Holds.step hholds hc) (fun _ _ => Site.statusAgrees_step) ⟨row, hrow⟩ h hcalls
  have hfirst : (s.step c).StatusAgrees pk ↔ attributes.status ≠ some .staged := by
    have hrowStatus : (row.status = .staged ↔ row.stagedKvVersion ≠ none) ↔
        attributes.status ≠ some .staged := by
      rw [hstatus, hstaged]
      cases attributes.status <;> simp
    constructor
    · intro h
      exact hrowStatus.mp (h row hcreated)
    · intro h found hfound
      obtain rfl := Option.some.inj (hcreated.symm.trans hfound)
      exact hrowStatus.mpr h
  constructor
  · intro h
    exact ⟨hfirst.mp h.head, (hrun h.head).mp h⟩
  · rintro ⟨hattributes, h⟩
    exact (hrun (hfirst.mpr hattributes)).mpr h

end

namespace Sample

/-- What a caller sets on a new credential. -/
def attributes : Edits where
  username := some "svc-backup"
  credentialType := some "password"
  policyId := some 1
  engineId := none
  columns := .empty
  status := none
  lastRotated := none

/-- A deployment that has not stored any material yet. -/
def fresh : Site := site 2 (credential "password") ⟨Effect.Secret.empty, none⟩

def create : Call :=
  ⟨.create "77aa" attributes [("password", .str "first")] none none fun _ _ => .ok (), calm, noActs⟩

/-- The second credential, as any caller may hold it. -/
def second : Credential := { credential "password" with pk := some 2, path := "netbox/credentials/77aa" }

def stageSecond : Call := ⟨.stage second [("password", .str "candidate")] none none, calm, noActs⟩

def rotateSecond : Call := ⟨.rotate second [("password", .str "next")] none none, calm, noActs⟩

def promoteSecond : Call := ⟨.promote second none none true "", calm, noActs⟩

end Sample

theorem staged_status_iff_rotations_spare_promoted :
    Runs.Throughout (@Site.step Sample.library) (Site.StatusAgrees 2)
      (@Site.step Sample.library Sample.fresh Sample.create)
      [Sample.stageSecond, Sample.promoteSecond, Sample.rotateSecond] := by
  obtain ⟨row, hcreated⟩ := Option.isSome_iff_exists.mp
    (by decide +kernel : ((@Site.step Sample.library Sample.fresh Sample.create).db.credentials 2).isSome = true)
  have hiff := @staged_status_iff_rotations_spare Sample.library Sample.fresh Sample.create _ _ _ _ _ _ 2 row
    [Sample.stageSecond, Sample.promoteSecond, Sample.rotateSecond] rfl rfl rfl hcreated
    ⟨⟨.stage rfl _ _ _, trivial⟩, ⟨.promote rfl _ _ _ _, trivial⟩, ⟨.rotate rfl _ _ _, trivial⟩, trivial⟩
  refine hiff.mpr ⟨by decide, fun _ _ _ h => h.elim, fun _ _ _ h => h.elim, fun found hfound hstaged _ => ?_, trivial⟩
  have hnone : ((@Site.step Sample.library (@Site.step Sample.library
      (@Site.step Sample.library Sample.fresh Sample.create) Sample.stageSecond)
      Sample.promoteSecond).db.credentials 2).bind (·.stagedKvVersion) = none := by
    decide +kernel
  rw [hfound] at hnone
  exact absurd hnone hstaged

/-- A rotation over a staged candidate clears the pointer and leaves the status. -/
theorem rotation_leaves_staged_status :
    ((Runs.final (@Site.step Sample.library) (@Site.step Sample.library Sample.fresh Sample.create)
      [Sample.stageSecond, Sample.rotateSecond]).db.credentials 2).map
        (fun row => (row.status, row.stagedKvVersion)) = some (.staged, none) ∧
    ¬ Runs.Throughout (@Site.step Sample.library) (Site.StatusAgrees 2)
      (@Site.step Sample.library Sample.fresh Sample.create) [Sample.stageSecond, Sample.rotateSecond] := by
  have hfinal : ((Runs.final (@Site.step Sample.library) (@Site.step Sample.library Sample.fresh Sample.create)
      [Sample.stageSecond, Sample.rotateSecond]).db.credentials 2).map
        (fun row => (row.status, row.stagedKvVersion)) = some (.staged, none) := by
    decide +kernel
  refine ⟨hfinal, fun h => ?_⟩
  obtain ⟨row, hrow, heq⟩ := Option.map_eq_some_iff.mp hfinal
  obtain ⟨hstatus, hstaged⟩ := Prod.mk.inj heq
  exact (h.final row hrow).mp hstatus hstaged

/-! ### What automation refuses -/

/-- Automation refuses the credential for its lifecycle status: whoever asks, whenever, under whatever tier,
and whatever the validity window. -/
def LifecycleRefused (c : Credential) : Prop :=
  ∀ restricts policy actor now columns, checkCredential restricts policy actor now { c with columns } = false

theorem lifecycleRefused_iff (c : Credential) :
    LifecycleRefused c ↔ c.status ≠ .active ∧ c.status ≠ .staged := by
  constructor
  · intro h
    have hopen := h (fun _ => true) ⟨0, [], 0, false⟩ ⟨"", true, []⟩ 0 PublicColumns.blank
    simpa [checkCredential, withinWindow, PublicColumns.blank] using hopen
  · rintro ⟨hactive, hstaged⟩ restricts policy actor now columns
    simp [checkCredential, hactive, hstaged]

/-- The row numbered `pk` is refused for its lifecycle status. -/
def Site.Refuses (pk : Nat) (s : Site) : Prop :=
  ∀ row, s.db.credentials pk = some row → LifecycleRefused row

def Operation.Candidate : Operation → Prop
  | .stage .. | .discard .. => True
  | .create .. | .rotate .. | .promote .. | .update .. => False

/-- A call that stages or discards a candidate of the credential numbered `pk`. -/
def Site.Candidates (pk : Nat) (_ : Site) (c : Call) : Prop := c.operation.On pk ∧ c.operation.Candidate

/-- The call changes no row. -/
def Site.Idles [library : MaterialLibrary] (s : Site) (c : Call) : Prop :=
  (s.step c).db.credentials = s.db.credentials

section

variable [library : MaterialLibrary]

omit library in
theorem Site.Candidates.handles {pk : Nat} {s : Site} {c : Call} (h : s.Candidates pk c) : s.Handles pk c := by
  obtain ⟨hon, hcandidate⟩ := h
  refine ⟨hon, ?_⟩
  generalize c.operation = operation at hcandidate
  cases operation with
  | create | rotate | promote | update => exact hcandidate.elim
  | stage | discard => trivial

theorem Site.refuses_step {pk : Nat} {s : Site} {c : Call} (hholds : s.Holds pk) (hc : s.Candidates pk c)
    (hrefuses : s.Refuses pk) : (s.step c).Refuses pk ↔ s.Idles c := by
  obtain ⟨row, hrow⟩ := hholds
  obtain ⟨-, -, hmoved⟩ := Site.step_moved hc.1 hrow
  cases hmoved with
  | kept hcredentials =>
      refine iff_of_true (fun row' hrow' => ?_) hcredentials
      exact hrefuses row' (hcredentials ▸ hrow')
  | committed wrote row' hcommits hcredentials _ =>
      have hput : (s.step c).db.credentials pk = some row' := by
        rw [hcredentials, Database.putCredential_self]
      have haccepted : row'.status = .staged ∨ row'.status = .active := by
        have hlifecycle := hcommits.lifecycle hc.handles.2
        generalize hop : c.operation = operation at hlifecycle
        cases hlifecycle with
        | rotate =>
            have hcandidate := hc.2
            rw [hop] at hcandidate
            exact hcandidate.elim
        | stage hstaged hstatus hpointer => exact .inl hstatus
        | promote hstaged hstatus hpointer => exact .inr hstatus
        | discard hstaged hstatus hpointer => exact .inr hstatus
      refine iff_of_false (fun h => ?_) fun hidle => ?_
      · obtain ⟨hactive, hstaged⟩ := (lifecycleRefused_iff row').mp (h row' hput)
        exact haccepted.elim hstaged hactive
      · unfold Site.Idles at hidle
        rw [hidle, hrow.found] at hput
        obtain rfl := Option.some.inj hput
        obtain ⟨hactive, hstaged⟩ := (lifecycleRefused_iff row).mp (hrefuses row hrow.found)
        exact haccepted.elim hstaged hactive

/-- A credential refused for its status, and any sequence of stagings and discards: it stays refused, in every
state reached, if and only if none of them takes effect. -/
theorem refusal_iff_candidates_idle (pk : Nat) (s : Site) (calls : List Call) (hholds : s.Holds pk)
    (hrefuses : s.Refuses pk) (hcalls : Runs.Along Site.step (Site.Candidates pk) s calls) :
    Runs.Throughout Site.step (Site.Refuses pk) s calls ↔ Runs.Along Site.step Site.Idles s calls := by
  refine Runs.throughout_iff_along (I := Site.Holds pk) ?_ ?_ hholds hrefuses hcalls
  · exact fun t c hholds' hc => hholds'.step hc.handles
  · exact fun t c hholds' hc => Site.refuses_step hholds' hc

end

namespace Sample

/-- A disclosed password, still live. -/
def disclosed : Credential := { credential "password" with
  status := .compromised
  kvVersion := some 1
  liveKvVersion := some 1 }

def disclosure : Site := site 2 disclosed ⟨Effect.Secret.empty.push [("password", .str "leaked")], none⟩

def stageFirst : Call := ⟨.stage disclosed [("password", .str "candidate")] none none, calm, noActs⟩

def discardFirst : Call := ⟨.discard disclosed none none, calm, noActs⟩

theorem disclosure_holds : disclosure.Holds 1 := ⟨disclosed, rfl, rfl, by decide⟩

theorem disclosure_refuses : disclosure.Refuses 1 := by
  intro row hrow
  obtain rfl : disclosed = row := Option.some.inj hrow
  exact (lifecycleRefused_iff disclosed).mpr ⟨by decide, by decide⟩

end Sample

theorem refusal_iff_candidates_idle_discard :
    Runs.Throughout (@Site.step Sample.library) (Site.Refuses 1) Sample.disclosure [Sample.discardFirst] := by
  have hiff := @refusal_iff_candidates_idle Sample.library 1 Sample.disclosure [Sample.discardFirst]
    Sample.disclosure_holds Sample.disclosure_refuses ⟨⟨.discard rfl _ _, trivial⟩, trivial⟩
  refine hiff.mpr ⟨?_, trivial⟩
  have hrow : Sample.disclosure.Row 1 Sample.disclosed := ⟨rfl, rfl, by decide⟩
  obtain ⟨-, -, hmoved⟩ := @Site.step_moved Sample.library Sample.disclosure Sample.discardFirst 1 Sample.disclosed
    (.discard rfl _ _) hrow
  cases hmoved with
  | kept hcredentials => exact hcredentials
  | committed wrote row' hcommits hcredentials hwritten =>
      have hlifecycle := @Commits.lifecycle Sample.library _ _ _ _ _ _ hcommits trivial
      have hstaged : Sample.disclosed.stagedKvVersion ≠ none := by
        generalize hop : Sample.discardFirst.operation = operation at hlifecycle
        cases hlifecycle with
        | rotate | stage | promote => cases hop
        | discard hstaged => exact hstaged
      exact absurd rfl hstaged

/-- Staging a candidate makes automation accept the version it refused. -/
theorem staging_lifts_refusal :
    Sample.disclosure.Refuses 1 ∧ ∃ row,
      (@Site.step Sample.library Sample.disclosure Sample.stageFirst).db.credentials 1 = some row ∧
      row.liveKvVersion = some 1 ∧
      checkCredential (fun _ => true) ⟨1, [], 300, false⟩ ⟨"automation", false, []⟩ 0 row = true := by
  have hrow : ((@Site.step Sample.library Sample.disclosure Sample.stageFirst).db.credentials 1).map
      (fun row => (row.liveKvVersion,
        checkCredential (fun _ => true) ⟨1, [], 300, false⟩ ⟨"automation", false, []⟩ 0 row)) =
      some (some 1, true) := by
    decide +kernel
  obtain ⟨row, hfound, heq⟩ := Option.map_eq_some_iff.mp hrow
  obtain ⟨hlive, haccepts⟩ := Prod.mk.inj heq
  exact ⟨Sample.disclosure_refuses, row, hfound, hlive, haccepts⟩

end NetboxOpenbao
