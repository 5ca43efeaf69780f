import NetboxOpenbao.Proof.Served

/-!
# What a call does to consumers on KV v1

A version 1 mount keeps one value: every write replaces it, whatever it is for, and a delete of any version
removes it.
-/

namespace NetboxOpenbao

open Effect Effect.Prog

namespace Backend

variable {b : Backend}

/-- The broker refuses a KV v1 engine, and a direct transport knows its one value. -/
theorem serves_v1 (hb : b.kvVersion = 1) (operation : String) :
    (b.choice = .broker ∧ ∃ e, b.serves operation = .error e) ∨
      b.choice ≠ .broker ∧ b.serves operation = .ok () := by
  unfold serves requireKv2
  cases b.choice <;> simp [hb]

theorem readCell_v1 (hb : b.kvVersion = 1) (hdirect : b.choice ≠ .broker) (cell : Cell) (version : Option Nat) :
    b.readCell cell version = match cell.value with
      | some data => .ok data
      | none => .error .notFound := by
  obtain ⟨hbroker, -⟩ | ⟨-, hserves⟩ := serves_v1 hb "Reading a secret"
  · exact absurd hbroker hdirect
  · simp only [readCell, hserves, hb, if_neg (by decide : (1 : Nat) ≠ 2)]
    cases cell.value <;> rfl

theorem writeCell_v1 (hb : b.kvVersion = 1) {cell cell' : Cell} {data : Payload} {cas : Option Nat} {version : Nat}
    (h : b.writeCell cell data cas = .ok (version, cell')) :
    b.choice ≠ .broker ∧ cell'.value = some data := by
  unfold writeCell at h
  obtain ⟨-, e, hserves⟩ | ⟨hdirect, hserves⟩ := serves_v1 hb "Writing a secret"
  · rw [hserves] at h
    cases h
  · rw [hserves] at h
    simp only [hb, if_neg (by decide : (1 : Nat) ≠ 2), bind, Except.bind, pure, Except.pure] at h
    cases h
    exact ⟨hdirect, rfl⟩

theorem deleteCell_v1 (hb : b.kvVersion = 1) {cell cell' : Cell} {version : Nat}
    (h : b.deleteCell cell version = .ok cell') : b.choice ≠ .broker ∧ cell'.value = none := by
  unfold deleteCell at h
  obtain ⟨-, e, hserves⟩ | ⟨hdirect, hserves⟩ := serves_v1 hb "Deleting a secret"
  · rw [hserves] at h
    cases h
  · rw [hserves] at h
    simp only [hb, if_neg (by decide : (1 : Nat) ≠ 2), bind, Except.bind, pure, Except.pure] at h
    cases h
    exact ⟨hdirect, rfl⟩

theorem readCell_v1_unversioned (hb : b.kvVersion = 1) (cell : Cell) (version version' : Option Nat) :
    b.readCell cell version = b.readCell cell version' := by
  simp only [readCell, hb, if_neg (by decide : (1 : Nat) ≠ 2)]

/-- Reads agree with those of a stored value exactly if the value is there still. -/
theorem readCell_v1_congr (hb : b.kvVersion = 1) (hdirect : b.choice ≠ .broker) {cell cell' : Cell}
    {version version' : Option Nat} {data : Payload} (hdata : cell.value = some data) :
    b.readCell cell' version' = b.readCell cell version ∧ cell'.value ≠ none ↔ cell'.value = some data := by
  rw [readCell_v1 hb hdirect, readCell_v1 hb hdirect, hdata]
  cases cell'.value with
  | none => simp
  | some found => simp

end Backend

section

variable [library : MaterialLibrary]

/-- The value a call leaves on a KV v1 mount: the one before it, the payload it wrote, or none once it was deleted. -/
theorem Outcome.value_v1 {config : Config} {time : Time} {b : Backend} {row : Credential} {operation : Operation}
    {cell cell' : Cell} {taken : Option WriteRequest} {gone : Bool} {left : Option Credential} (hb : b.kvVersion = 1)
    (h : Outcome config time b row operation cell taken gone left cell') :
    (taken = none ∧ gone = false ∧ cell' = cell) ∨ b.choice ≠ .broker ∧
      ((∃ req, taken = some req ∧ gone = false ∧ Requests config row operation req ∧ cell'.value = some req.data) ∨
        gone = true ∧ cell'.value = none) := by
  cases h with
  | untouched | repointed _ => exact .inl ⟨rfl, rfl, rfl⟩
  | orphaned hreq hwrite | stored hreq _ hwrite =>
      obtain ⟨hdirect, hvalue⟩ := Backend.writeCell_v1 hb hwrite
      exact .inr ⟨hdirect, .inl ⟨_, rfl, rfl, hreq, hvalue⟩⟩
  | compensated _ _ hdelete | cleaned _ _ _ hdelete =>
      obtain ⟨hdirect, hvalue⟩ := Backend.deleteCell_v1 hb hdelete
      exact .inr ⟨hdirect, .inr ⟨rfl, hvalue⟩⟩

/-- The rows are as they were, and what the server took of the call is deleted again. -/
def Site.Undone (l : Location) (s : Site) (c : Call) : Prop :=
  s.Idles c ∧ (s.Writes l c → s.Deletes l c)

/-- A call that puts nothing in service, or that was rolled back and compensated, leaves every reveal of stored
material as it was, and the material there. -/
def Site.KeepsValue (pk : Nat) (s : Site) (c : Call) : Prop :=
  ∀ row row' data, s.db.credentials pk = some row → (s.step c).db.credentials pk = some row' →
    (s.ext.store row.location).value = some data → ¬ c.operation.PutsInService ∨ s.Undone row.location c →
    (∀ user request reason, (s.step c).reveal row' user request reason = s.reveal row user request reason) ∧
      ((s.step c).ext.store row.location).value ≠ none

/-- Such a call writes nothing but what is stored already, and no delete of it is carried out. -/
def Site.LeavesValue (pk : Nat) (s : Site) (c : Call) : Prop :=
  ∀ row data, s.db.credentials pk = some row → (s.ext.store row.location).value = some data →
    ¬ c.operation.PutsInService ∨ s.Undone row.location c →
    (s.Writes row.location c → ∀ req, Requests s.db.config row c.operation req → req.data = data) ∧
      ¬ s.Deletes row.location c

theorem Site.keepsValue_iff {pk : Nat} {l : Location} {b : Backend} {s : Site} {c : Call}
    (hb : b.kvVersion = 1) (h : s.FurnishedAt pk l b) (hc : s.Secluded pk l c) :
    (s.step c).FurnishedAt pk l b ∧ (s.KeepsValue pk c ↔ s.LeavesValue pk c) := by
  obtain ⟨row, hrow, rfl, hfurnished⟩ := h
  obtain ⟨hconfig, taken, gone, left, row', hleft, hrow', hlocation, hpolicy, houtcome, htaken, hgone, -, -⟩ :=
    Site.FurnishedAt.call hrow rfl hfurnished hc
  refine ⟨hfurnished.stays hconfig hrow' hlocation hpolicy, ?_⟩
  have hreads := Site.reveal_congr_iff hfurnished hconfig hpolicy hlocation
  -- both sides speak of the one row, and of a value that was there
  have hboth : ∀ data, (s.ext.store row.location).value = some data →
      ((∀ user request reason, (s.step c).reveal row' user request reason = s.reveal row user request reason) ∧
          ((s.step c).ext.store row.location).value ≠ none ↔
        (s.Writes row.location c → ∀ req, Requests s.db.config row c.operation req → req.data = data) ∧
          ¬ s.Deletes row.location c) := by
    intro data hdata
    rw [hreads, ← htaken, ← hgone]
    rcases houtcome.value_v1 hb with ⟨rfl, rfl, hcell⟩ | ⟨hdirect, ⟨req, rfl, rfl, hreq, hvalue⟩ | ⟨rfl, hvalue⟩⟩
    · rw [hcell, hdata]
      constructor
      · intro _
        exact ⟨nofun, nofun⟩
      · intro _
        exact ⟨Backend.readCell_v1_unversioned hb _ _ _, nofun⟩
    · rw [Backend.readCell_v1_congr hb hdirect hdata, hvalue]
      constructor
      · intro hsame
        refine ⟨fun _ req' hreq' => ?_, nofun⟩
        rw [hreq'.unique hreq hc.1.2]
        exact Option.some.inj hsame
      · rintro ⟨hpayload, -⟩
        rw [hpayload rfl req hreq]
    · rw [hvalue]
      exact iff_of_false (fun h => h.2 rfl) fun h => h.2 rfl
  constructor
  · intro hkeeps found data hfound hdata hdomain
    obtain rfl := Option.some.inj (hrow.found.symm.trans hfound)
    exact (hboth data hdata).mp (hkeeps row row' data hfound hleft hdata hdomain)
  · intro hleaves found found' data hfound hfound' hdata hdomain
    obtain rfl := Option.some.inj (hrow.found.symm.trans hfound)
    obtain rfl := Option.some.inj (hleft.symm.trans hfound')
    exact (hboth data hdata).mpr (hleaves row data hfound hdata hdomain)

/-- Any sequence of rotations, stagings, promotions and discards of a credential on KV v1 whose place nobody else
comes near, each failing at any point: every staging and discard, and every call that was rolled back and
compensated, leaves every reveal of stored material as it was and the material there, if and only if every such
call writes nothing but what is stored already and no delete of it is carried out. -/
theorem value_kept_iff_left (pk : Nat) (s : Site) (row : Credential) (calls : List Call) (hrow : s.Row pk row)
    (hpolicy : (s.db.config.policies row.policyId).isSome = true)
    (hengine : ∃ engine, s.db.config.engines row.engineId = some engine ∧ engine.kvVersion = 1)
    (hcalls : Runs.Along Site.step (Site.Secluded pk row.location) s calls) :
    Runs.Along Site.step (Site.KeepsValue pk) s calls ↔ Runs.Along Site.step (Site.LeavesValue pk) s calls := by
  obtain ⟨engine, hfound, hkv⟩ := hengine
  have hstart : s.FurnishedAt pk row.location
      ⟨row.engineId, engine.slug, engine.backend, engine.kvVersion⟩ :=
    ⟨row, hrow, rfl, hpolicy, ⟨engine, hfound, rfl⟩, rfl⟩
  have hcall : ∀ (s : Site) (c : Call), s.FurnishedAt pk row.location
      ⟨row.engineId, engine.slug, engine.backend, engine.kvVersion⟩ → s.Secluded pk row.location c → _ :=
    fun s c h hc => Site.keepsValue_iff hkv h hc
  exact Runs.along_iff_along (fun s c h hc => (hcall s c h hc).1) (fun s c h hc => (hcall s c h hc).2) hstart hcalls

end

namespace Sample

/-- The password on a KV v1 mount. -/
def single : Site := site 1 promoted ⟨Secret.empty, some [("password", .str "first")]⟩

/-- The server refuses the write. -/
def rotateUntaken : Call := { rotatePromoted with env := failing 19 .refused }

def discardPromoted : Call := ⟨.discard promoted none none, calm, noActs⟩

end Sample

theorem value_kept_iff_left_refused :
    Runs.Along (@Site.step Sample.library) (@Site.KeepsValue Sample.library 1) Sample.single [Sample.rotateUntaken] := by
  have hnone : Sample.single.ext.since (@Site.step Sample.library Sample.single Sample.rotateUntaken).ext = [] := by
    decide +kernel
  have hkept : Sample.single.ext.deletedSince (@Site.step Sample.library Sample.single Sample.rotateUntaken).ext =
      [] := by
    decide +kernel
  have hleaves : @Site.LeavesValue Sample.library 1 Sample.single Sample.rotateUntaken := by
    intro row data hfound hdata hdomain
    obtain rfl : Sample.promoted = row := Option.some.inj hfound
    constructor
    · rintro ⟨call, hcall, -⟩
      rw [hnone] at hcall
      cases hcall
    · rintro ⟨version, hmem⟩
      rw [hkept] at hmem
      cases hmem
  exact (@value_kept_iff_left Sample.library 1 Sample.single Sample.promoted [Sample.rotateUntaken]
    ⟨rfl, rfl, by decide⟩ (by decide) ⟨Sample.engine 1, rfl, rfl⟩
    ⟨⟨⟨.rotate rfl _ _ _, trivial⟩, Sample.noActs_undisturbed _⟩, trivial⟩).mpr ⟨hleaves, trivial⟩

theorem staging_replaces_value :
    ((Sample.single.reveal Sample.promoted none none "approved").toOption.bind fun out =>
      out.1.lookup "password") matches some (.str "first") ∧
    (((@Site.step Sample.library Sample.single Sample.stagePromoted).reveal Sample.promoted none none
      "approved").toOption.bind fun out => out.1.lookup "password") matches some (.str "candidate") ∧
    (((@Site.step Sample.library (@Site.step Sample.library Sample.single Sample.stagePromoted)
      Sample.discardPromoted).ext.store Sample.promoted.location).value).isNone = true ∧
    ¬ Runs.Along (@Site.step Sample.library) (@Site.KeepsValue Sample.library 1) Sample.single
      [Sample.stagePromoted, Sample.discardPromoted] := by
  have hgone : (((@Site.step Sample.library (@Site.step Sample.library Sample.single Sample.stagePromoted)
      Sample.discardPromoted).ext.store Sample.promoted.location).value).isNone = true := by
    decide +kernel
  refine ⟨by decide +kernel, by decide +kernel, hgone, fun h => ?_⟩
  have hstaged : ((@Site.step Sample.library Sample.single Sample.stagePromoted).db.credentials 1).map
      (·.location) = some Sample.promoted.location := by
    decide +kernel
  have hdiscarded : ((@Site.step Sample.library (@Site.step Sample.library Sample.single Sample.stagePromoted)
      Sample.discardPromoted).db.credentials 1).isSome = true := by
    decide +kernel
  have hvalue : ((@Site.step Sample.library Sample.single Sample.stagePromoted).ext.store
      Sample.promoted.location).value.isSome = true := by
    decide +kernel
  obtain ⟨row, hrow, hlocation⟩ := Option.map_eq_some_iff.mp hstaged
  obtain ⟨row', hrow'⟩ := Option.isSome_iff_exists.mp hdiscarded
  obtain ⟨data, hdata⟩ := Option.isSome_iff_exists.mp hvalue
  have hkept := h.2.1 row row' data hrow hrow' (by rw [hlocation]; exact hdata) (.inl id)
  rw [hlocation] at hkept
  exact hkept.2 (Option.isNone_iff_eq_none.mp hgone)

end NetboxOpenbao
