import NetboxOpenbao.Proof.Alone
import NetboxOpenbao.Proof.Reveal

/-!
# Metadata updates

An update without material saves the whole row from an instance that was loaded before the lock was waited
for. The lock refreshes the version state of that instance and nothing else, so what a material operation wrote
meanwhile into another column is overwritten with its older value. The engine of the instance is saved too, and
the material stays on the engine it was written to.
-/

namespace NetboxOpenbao

open Effect

/-! ### What material operations write -/

/-- The columns material operations write and the lock does not refresh. -/
structure Unrefreshed where
  columns : PublicColumns
  status : CredentialStatus
  lastRotated : Option Time
  lastVerified : Option Time
deriving DecidableEq, Repr

/-- Every column material operations write. -/
structure MaterialState extends Unrefreshed where
  kvVersion : Option Nat
  liveKvVersion : Option Nat
  stagedKvVersion : Option Nat
  liveKeyFingerprint : String
  liveKeyVersion : Option Nat
  stagedKeyFingerprint : String
  stagedKeyVersion : Option Nat
deriving DecidableEq, Repr

def Credential.unrefreshed (c : Credential) : Unrefreshed where
  columns := c.columns
  status := c.status
  lastRotated := c.lastRotated
  lastVerified := c.lastVerified

def Credential.materialState (c : Credential) : MaterialState where
  toUnrefreshed := c.unrefreshed
  kvVersion := c.kvVersion
  liveKvVersion := c.liveKvVersion
  stagedKvVersion := c.stagedKvVersion
  liveKeyFingerprint := c.liveKeyFingerprint
  liveKeyVersion := c.liveKeyVersion
  stagedKeyFingerprint := c.stagedKeyFingerprint
  stagedKeyVersion := c.stagedKeyVersion

/-- Apart from what the request sets, every column material operations write is the same in both rows. -/
def Edits.Keeps (edits : Edits) (row row' : Credential) : Prop :=
  (edits.apply row').materialState = (edits.apply row).materialState

/-- Apart from what the request sets, the loaded instance has the row's value in every column the lock does not
refresh. -/
def Edits.Current (edits : Edits) (held row : Credential) : Prop :=
  (edits.apply held).unrefreshed = (edits.apply row).unrefreshed

instance (edits : Edits) (row row' : Credential) : Decidable (edits.Keeps row row') :=
  inferInstanceAs (Decidable ((edits.apply row').materialState = (edits.apply row).materialState))

instance (edits : Edits) (held row : Credential) : Decidable (edits.Current held row) :=
  inferInstanceAs (Decidable ((edits.apply held).unrefreshed = (edits.apply row).unrefreshed))

namespace Edits

variable (edits : Edits)

theorem setColumns_setColumns (columns : PublicColumns) :
    edits.setColumns (edits.setColumns columns) = edits.setColumns columns := by
  have honce := edits.columns.apply_apply columns
  simp only [setColumns, Metadata.apply, PublicColumns.mk.injEq] at honce ⊢
  obtain ⟨hkey, hfingerprint, htype, hserial, hsubject, hissuer, hfrom, huntil⟩ := honce
  refine ⟨hkey, hfingerprint, htype, hserial, hsubject, hissuer, ?_, ?_⟩
  · split
    · rfl
    · exact hfrom
  · split
    · rfl
    · exact huntil

theorem apply_apply (c : Credential) : edits.apply (edits.apply c) = edits.apply c := by
  have hrotated : (if edits.nulls.lastRotated then none else edits.lastRotated <|>
      (if edits.nulls.lastRotated then none else edits.lastRotated <|> c.lastRotated)) =
      (if edits.nulls.lastRotated then none else edits.lastRotated <|> c.lastRotated) := by
    split
    · rfl
    · cases edits.lastRotated <;> rfl
  have hgetD : ∀ {α : Type} (x : Option α) (a : α), x.getD (x.getD a) = x.getD a := by
    intro α x a
    cases x <;> rfl
  simp only [apply, setColumns_setColumns, hgetD, hrotated]

theorem apply_unrefreshed {c d : Credential} (h : c.unrefreshed = d.unrefreshed) :
    (edits.apply c).unrefreshed = (edits.apply d).unrefreshed := by
  simp only [Credential.unrefreshed, Unrefreshed.mk.injEq] at h
  obtain ⟨hcolumns, hstatus, hrotated, hverified⟩ := h
  simp only [apply, Credential.unrefreshed, hcolumns, hstatus, hrotated, hverified]

/-- The row an update leaves keeps its columns exactly if the loaded instance was current. -/
theorem keeps_updated (held row : Credential) (engine : Nat) :
    edits.Keeps row { updated held edits row with engineId := engine } ↔ edits.Current held row := by
  have hshape : (edits.apply { updated held edits row with engineId := engine }).unrefreshed =
      (edits.apply held).unrefreshed := by
    have hloaded : (updated held edits row).unrefreshed = (edits.apply held).unrefreshed := by
      have hrefreshed : (refreshVersions (edits.apply held) row).unrefreshed = (edits.apply held).unrefreshed := rfl
      rw [updated, edits.apply_unrefreshed hrefreshed, apply_apply]
    have hagain : ({ updated held edits row with engineId := engine } : Credential).unrefreshed =
        (edits.apply held).unrefreshed := hloaded
    rw [edits.apply_unrefreshed hagain, apply_apply]
  constructor
  · intro h
    have hsame := congrArg MaterialState.toUnrefreshed h
    exact hshape.symm.trans hsame
  · intro h
    have hsame : (edits.apply { updated held edits row with engineId := engine }).unrefreshed =
        (edits.apply row).unrefreshed := hshape.trans h
    show Credential.materialState _ = Credential.materialState _
    simp only [Credential.materialState, hsame]
    rfl

end Edits

/-! ### An update after a material operation -/

/-- The loaded instance and the requested edits of an update without material. -/
def Operation.edits : Operation → Option (Credential × Edits)
  | .update held edits payload _ _ _ => if CredentialViewSet.carries payload then none else some (held, edits)
  | .create .. | .rotate .. | .stage .. | .promote .. | .discard .. => none

theorem Operation.edits_eq_some {operation : Operation} {held : Credential} {edits : Edits}
    (h : operation.edits = some (held, edits)) : ∃ payload user request conforms,
      operation = .update held edits payload user request conforms ∧ CredentialViewSet.carries payload = false := by
  cases operation with
  | update held' edits' payload user request conforms =>
      unfold Operation.edits at h
      dsimp only at h
      split at h
      · cases h
      · next hcarries =>
          obtain ⟨rfl, rfl⟩ := Prod.mk.inj (Option.some.inj h)
          exact ⟨payload, user, request, conforms, rfl, Bool.eq_false_iff.mpr hcarries⟩
  | create | rotate | stage | promote | discard => cases h

section

variable [library : MaterialLibrary]

/-- A metadata update of the credential numbered `pk` reverts nothing. -/
def Site.KeepsMaterial (pk : Nat) (s : Site) (c : Call) : Prop :=
  ∀ held edits row row', c.operation.edits = some (held, edits) → held.pk = some pk → s.Row pk row →
    (s.step c).db.credentials pk = some row' → edits.Keeps row row'

/-- A metadata update of the credential numbered `pk` that takes effect was loaded current. -/
def Site.LoadedCurrent (pk : Nat) (s : Site) (c : Call) : Prop :=
  ∀ held edits row, c.operation.edits = some (held, edits) → held.pk = some pk → s.Row pk row →
    s.Idles c ∨ edits.Current held row

theorem Site.step_edited {pk : Nat} {s : Site} {c : Call} {held row : Credential} {edits : Edits}
    (hedits : c.operation.edits = some (held, edits)) (hheld : held.pk = some pk) (hrow : s.Row pk row) :
    s.Idles c ∨ ∃ engine, Selected s.db.config (updated held edits row) engine ∧
      (s.step c).db.credentials =
        (s.db.putCredential pk { updated held edits row with engineId := engine }).credentials := by
  obtain ⟨payload, user, request, conforms, hupdate, hcarries⟩ := Operation.edits_eq_some hedits
  have hon : c.operation.On pk := by
    rw [hupdate]
    exact .update hheld _ _ _ _ _
  obtain ⟨-, -, hmoved⟩ := Site.step_moved hon hrow
  cases hmoved with
  | kept hcredentials => exact .inl hcredentials
  | committed wrote row' hcommits hcredentials _ =>
      right
      rw [hupdate] at hcommits
      cases hcommits with
      | edit hselected _ => exact ⟨_, hselected, hcredentials⟩
      | update _ _ hpayload =>
          rw [hcarries] at hpayload
          cases hpayload

theorem Site.step_silent {pk : Nat} {s : Site} {c : Call} {held row : Credential} {edits : Edits}
    (hedits : c.operation.edits = some (held, edits)) (hheld : held.pk = some pk) (hrow : s.Row pk row) :
    Interference c.acts s.ext (s.step c).ext := by
  obtain ⟨payload, user, request, conforms, hupdate, hcarries⟩ := Operation.edits_eq_some hedits
  have hon : c.operation.On pk := by
    rw [hupdate]
    exact .update hheld _ _ _ _ _
  have hasks : ∀ req, ¬ Requests s.db.config row c.operation req := by
    intro req hreq
    rw [hupdate] at hreq
    cases hreq with
    | update _ hpayload =>
        rw [hcarries] at hpayload
        cases hpayload
  obtain ⟨-, -, hstepped⟩ := Site.step_stepped hon hrow
  cases hstepped with
  | kept attempts wrote mid ds hreached hissued hcredentials hdeletes =>
      cases hreached with
      | wrote req hreq => exact absurd hreq (hasks req)
      | idle hattempts hext =>
          have hnone : ds = [] := by
            rcases hdeletes with rfl | rfl
            · rfl
            · refine List.filterMap_eq_nil_iff.mpr fun a ha => ?_
              rw [MaterialAttempt.pendingDelete, hattempts a (List.mem_reverse.mp ha), Option.map_none]
          subst hnone
          cases hissued with
          | done hlate => exact hext.trans hlate
  | committed attempts deletions wrote mid ds pk' row' hreached hissued hcommits hcredentials hdeletions hdeletes =>
      cases hreached with
      | wrote req hreq => exact absurd hreq (hasks req)
      | idle hattempts hext =>
          have hnone : ds = [] := by
            rcases hdeletes with rfl | rfl
            · rfl
            · refine List.filterMap_eq_nil_iff.mpr fun a ha => ?_
              obtain ⟨⟨held', user', request', hdiscard⟩, -⟩ := hdeletions a ha
              rw [hupdate] at hdiscard
              cases hdiscard
          subst hnone
          cases hissued with
          | done hlate => exact hext.trans hlate

theorem Site.keepsMaterial_iff {pk : Nat} {s : Site} {c : Call} : s.KeepsMaterial pk c ↔ s.LoadedCurrent pk c := by
  constructor
  · intro h held edits row hedits hheld hrow
    rcases Site.step_edited hedits hheld hrow with hidles | ⟨engine, -, hput⟩
    · exact .inl hidles
    · have hsaved : (s.step c).db.credentials pk = some { updated held edits row with engineId := engine } := by
        rw [hput, Database.putCredential_self]
      have hkeeps := h held edits row _ hedits hheld hrow hsaved
      exact .inr ((edits.keeps_updated held row engine).mp hkeeps)
  · intro h held edits row row' hedits hheld hrow hrow'
    have hunchanged : s.Idles c → edits.Keeps row row' := by
      intro hidles
      unfold Site.Idles at hidles
      rw [hidles, hrow.found] at hrow'
      obtain rfl := Option.some.inj hrow'
      rfl
    rcases Site.step_edited hedits hheld hrow with hidles | ⟨engine, -, hput⟩
    · exact hunchanged hidles
    · rcases h held edits row hedits hheld hrow with hidles | hcurrent
      · exact hunchanged hidles
      · rw [hput, Database.putCredential_self] at hrow'
        obtain rfl := Option.some.inj hrow'
        exact (edits.keeps_updated held row engine).mpr hcurrent

/-- Any run of operations in the order they get the row lock, each metadata update on an instance loaded at any
time before: no update reverts what a material operation wrote and it did not request, if and only if every
update that takes effect was loaded with the values the unrefreshed columns have at its lock. -/
theorem updates_keep_material_iff_current (pk : Nat) (s : Site) (calls : List Call) :
    Runs.Along Site.step (Site.KeepsMaterial pk) s calls ↔ Runs.Along Site.step (Site.LoadedCurrent pk) s calls :=
  Runs.along_congr fun _ _ => Site.keepsMaterial_iff

end

namespace Sample

/-- A password in use. -/
def inUse : Credential := { credential "password" with
  kvVersion := some 1
  liveKvVersion := some 1 }

def office : Site := site 2 inUse ⟨Effect.Secret.empty.push [("password", .str "first")], none⟩

def stageInUse : Call := ⟨.stage inUse [("password", .str "candidate")] none none, calm, noActs⟩

def rotateInUse : Call := ⟨.rotate inUse [("password", .str "next")] none none, calm, noActs⟩

/-- A request that only sets the user name. -/
def rename : Edits where
  username := some "svc-restore"
  credentialType := none
  policyId := none
  engineId := none
  columns := .empty
  status := none
  lastRotated := none

/-- The update of the user name, on the instance as it was at first. -/
def renameInUse : Call := ⟨.update inUse rename none none none fun _ _ => .ok (), calm, noActs⟩

end Sample

/-- The update loads the row, a candidate is staged, and the update reverts the status it never asked for. -/
theorem stale_update_reverts_status :
    Sample.office.db.credentials 1 = some Sample.inUse ∧
    ((@Site.step Sample.library Sample.office Sample.stageInUse).db.credentials 1).map
        (fun row => (row.status, row.stagedKvVersion)) = some (.staged, some 2) ∧
    ((@Site.step Sample.library (@Site.step Sample.library Sample.office Sample.stageInUse)
        Sample.renameInUse).db.credentials 1).map
        (fun row => (row.username, row.status, row.stagedKvVersion)) = some ("svc-restore", .active, some 2) ∧
    ¬ Runs.Along (@Site.step Sample.library) (@Site.KeepsMaterial Sample.library 1) Sample.office
        [Sample.stageInUse, Sample.renameInUse] := by
  have hstaged : ((@Site.step Sample.library Sample.office Sample.stageInUse).db.credentials 1).map
      (fun row => (row.status, row.stagedKvVersion)) = some (.staged, some 2) := by
    decide +kernel
  have hupdated : ((@Site.step Sample.library (@Site.step Sample.library Sample.office Sample.stageInUse)
      Sample.renameInUse).db.credentials 1).map
      (fun row => (row.username, row.status, row.stagedKvVersion)) = some ("svc-restore", .active, some 2) := by
    decide +kernel
  refine ⟨rfl, hstaged, hupdated, fun h => ?_⟩
  obtain ⟨row, hrow, heq⟩ := Option.map_eq_some_iff.mp hstaged
  obtain ⟨row', hrow', heq'⟩ := Option.map_eq_some_iff.mp hupdated
  obtain ⟨hstatus, -⟩ := Prod.mk.inj heq
  obtain ⟨-, hrest⟩ := Prod.mk.inj heq'
  obtain ⟨hstatus', -⟩ := Prod.mk.inj hrest
  obtain ⟨found, hfound, hpk, hengine⟩ : (@Site.step Sample.library Sample.office Sample.stageInUse).Holds 1 :=
    @Site.Holds.step Sample.library _ _ _ ⟨Sample.inUse, rfl, rfl, by decide⟩ ⟨.stage rfl _ _ _, trivial⟩
  obtain rfl := Option.some.inj (hrow.symm.trans hfound)
  have hkeeps : Sample.rename.Keeps row row' :=
    h.2.1 Sample.inUse Sample.rename row row' rfl rfl ⟨hfound, hpk, hengine⟩ hrow'
  have hsame : row'.status = row.status := congrArg (fun state => state.toUnrefreshed.status) hkeeps
  rw [hstatus, hstatus'] at hsame
  cases hsame

/-! ### The engine of an updated row -/

section

variable [library : MaterialLibrary]

omit library in
theorem servedIn_congr {config : Config} {row row' : Credential} {cell : Cell}
    (hengine : row'.engineId = row.engineId) (hlive : row'.liveKvVersion = row.liveKvVersion) :
    servedIn config row' cell = servedIn config row cell := by
  rw [servedIn, servedIn, hengine, hlive]

/-- A metadata update that takes effect, on an instance of the row loaded at any time, of a credential whose
material can be read: it sends the servers nothing, and where nobody else comes near the path meanwhile the material
can be read at the engine and path of the updated row exactly if the update leaves the engine as it is, or the other
engine had the same payload there before. -/
theorem update_keeps_material_attached_iff (s : Site) (c : Call) (pk : Nat) (held row : Credential) (edits : Edits)
    (data : Payload) (hids : s.db.config.engines 0 = none) (hedits : c.operation.edits = some (held, edits))
    (hheld : held.pk = some pk) (hpath : held.path = row.path) (hrow : s.Row pk row) (hsaved : ¬ s.Idles c)
    (hmaterial : servedIn s.db.config row (s.ext.store row.location) = .ok data) :
    Interference c.acts s.ext (s.step c).ext ∧ ((∀ engine, Undisturbed ⟨engine, row.path⟩ c.acts) →
      ((∃ row', (s.step c).db.credentials pk = some row' ∧
          servedIn s.db.config row' ((s.step c).ext.store row'.location) = .ok data) ↔
        (edits.apply held).engineId = row.engineId ∨
          servedIn s.db.config { row with engineId := (edits.apply held).engineId }
            (s.ext.store ⟨(edits.apply held).engineId, row.path⟩) = .ok data)) := by
  have hsilent := Site.step_silent hedits hheld hrow
  refine ⟨hsilent, fun hacts => ?_⟩
  have hstore : ∀ engine, (s.step c).ext.store ⟨engine, row.path⟩ = s.ext.store ⟨engine, row.path⟩ :=
    fun engine => hsilent.undisturbed (hacts engine)
  obtain ⟨engine, hselected, hput⟩ := (Site.step_edited hedits hheld hrow).resolve_left hsaved
  generalize hnew : ({ updated held edits row with engineId := engine } : Credential) = new at hput
  have hengine : new.engineId = (edits.apply held).engineId := by
    have hfound := hselected.found
    rw [(updated_selectors held edits row).2] at hfound
    have hne : (updated held edits row).engineId ≠ 0 := by
      rw [(updated_selectors held edits row).2]
      intro hzero
      rw [hzero, hids] at hfound
      cases hfound
    rw [← hnew, hselected.engine hne, (updated_selectors held edits row).2]
  have hlive : new.liveKvVersion = row.liveKvVersion := by
    rw [← hnew]
    rfl
  have hlocation : new.location = ⟨(edits.apply held).engineId, row.path⟩ := by
    have hnewPath : new.path = row.path := by
      rw [← hnew]
      exact hpath
    rw [Credential.location, hengine, hnewPath]
  have hserved : servedIn s.db.config new ((s.step c).ext.store new.location) =
      servedIn s.db.config { row with engineId := (edits.apply held).engineId }
        (s.ext.store ⟨(edits.apply held).engineId, row.path⟩) := by
    rw [hlocation, hstore]
    exact servedIn_congr hengine hlive
  have hfound : (s.step c).db.credentials pk = some new := by
    rw [hput, Database.putCredential_self]
  constructor
  · rintro ⟨row', hrow', hreads⟩
    obtain rfl := Option.some.inj (hfound.symm.trans hrow')
    exact .inr (hserved.symm.trans hreads)
  · intro h
    refine ⟨new, hfound, ?_⟩
    rcases h with hsame | hreads
    · rw [hserved, hsame]
      exact hmaterial
    · rw [hserved, hreads]

end

namespace Sample

/-- A second engine, and a tier on it. -/
def twoEngines : Config := { config 2 with
  policies := fun id => if id = 1 then some ⟨1, [], 300, false⟩ else if id = 2 then some ⟨2, [], 300, false⟩ else none
  engines := fun id => if id = 1 then some (engine 2) else if id = 2 then some { engine 2 with slug := "site-b" } else none }

/-- The password in use on the first engine, and nothing on the second. -/
def branches : Site where
  db := { office.db with config := twoEngines }
  ext := ⟨fun l => if l = location then ⟨Effect.Secret.empty.push [("password", .str "first")], none⟩ else
    ⟨Effect.Secret.empty, none⟩, [], [], []⟩
  operations := 0

/-- A request that moves the credential to the tier of the second engine. -/
def relocate : Edits := { rename with
  username := none
  policyId := some 2
  engineId := some 2 }

def relocateInUse : Call := ⟨.update inUse relocate none none none fun _ _ => .ok (), calm, noActs⟩

/-- The password in use on the first engine, and the same password at its path on the second. -/
def mirrored : Site := { branches with
  ext := ⟨fun _ => ⟨Effect.Secret.empty.push [("password", .str "first")], none⟩, [], [], []⟩ }

theorem branches_row : branches.Row 1 inUse := ⟨rfl, rfl, by decide⟩

theorem mirrored_row : mirrored.Row 1 inUse := ⟨rfl, rfl, by decide⟩

theorem inUse_served : servedIn twoEngines inUse (branches.ext.store inUse.location) =
    .ok [("password", .str "first")] := by
  rfl

end Sample

theorem update_keeps_material_attached_iff_renamed :
    (∃ row', (@Site.step Sample.library Sample.branches Sample.renameInUse).db.credentials 1 = some row' ∧
      servedIn Sample.twoEngines row' ((@Site.step Sample.library Sample.branches
        Sample.renameInUse).ext.store row'.location) = .ok [("password", .str "first")]) ∧
    ∃ row', (@Site.step Sample.library Sample.mirrored Sample.relocateInUse).db.credentials 1 = some row' ∧
      servedIn Sample.twoEngines row' ((@Site.step Sample.library Sample.mirrored
        Sample.relocateInUse).ext.store row'.location) = .ok [("password", .str "first")] := by
  have hrenamed : ((@Site.step Sample.library Sample.branches Sample.renameInUse).db.credentials 1).map
      (·.username) = some "svc-restore" := by
    decide +kernel
  have hmoved : ((@Site.step Sample.library Sample.mirrored Sample.relocateInUse).db.credentials 1).map
      (·.engineId) = some 2 := by
    decide +kernel
  constructor
  · refine ((@update_keeps_material_attached_iff Sample.library Sample.branches Sample.renameInUse 1 Sample.inUse
      Sample.inUse Sample.rename _ rfl rfl rfl rfl Sample.branches_row (fun hidles => ?_) Sample.inUse_served).2
      fun _ => Sample.noActs_undisturbed _).mpr (.inl rfl)
    unfold Site.Idles at hidles
    rw [hidles] at hrenamed
    exact absurd hrenamed (by decide)
  · refine ((@update_keeps_material_attached_iff Sample.library Sample.mirrored Sample.relocateInUse 1 Sample.inUse
      Sample.inUse Sample.relocate _ rfl rfl rfl rfl Sample.mirrored_row (fun hidles => ?_) Sample.inUse_served).2
      fun _ => Sample.noActs_undisturbed _).mpr (.inr rfl)
    unfold Site.Idles at hidles
    rw [hidles] at hmoved
    exact absurd hmoved (by decide)

/-- A validated move to a tier on another engine leaves the material behind: it could be read before, and cannot
be read where the row says it is. -/
theorem moved_tier_detaches_material :
    (fullClean (Sample.relocate.apply Sample.inUse) (Sample.branches.start Sample.calm Sample.noActs)).1.isOk =
      true ∧
    (servedIn Sample.twoEngines Sample.inUse (Sample.branches.ext.store Sample.inUse.location)).isOk = true ∧
    ((@Site.step Sample.library Sample.branches Sample.relocateInUse).db.credentials 1).map
      (fun row => (row.engineId, (servedIn Sample.twoEngines row ((@Site.step Sample.library Sample.branches
        Sample.relocateInUse).ext.store row.location)).isOk)) = some (2, false) := by
  refine ⟨?_, ?_, ?_⟩ <;> decide +kernel

end NetboxOpenbao
