import NetboxOpenbao.Proof.Resolution
import NetboxOpenbao.Operations
import NetboxOpenbao.Effect.Fallible

/-!
# What automation can hand out of a stored payload

The writer looks at which fields a payload has, and leaves their values to the type's JSON Schema, if there is one. The
reader hands out strings of bounded size. So of a payload that the writer takes, all declared fields can be handed out
when all of them are such strings, and no others.
-/

namespace NetboxOpenbao

open Effect Dialogue

theorem Backend.serves_any {b : Backend} {operation : String} (h : b.serves operation = .ok ()) (other : String) :
    b.serves other = .ok () := by
  unfold serves requireKv2 at h ⊢
  cases hchoice : b.choice with
  | broker =>
      rw [hchoice] at h
      dsimp only at h ⊢
      split at h
      next hv2 => rw [if_pos hv2]
      next => cases h
  | openbao | vault => rfl

/-- A version reads back as what was written. -/
theorem Backend.readCell_written {b : Backend} {cell after : Cell} {data : Payload} {cas : Option Nat} {version : Nat}
    (h : b.writeCell cell data cas = .ok (version, after)) : b.readCell after (some version) = .ok data := by
  by_cases hv2 : b.kvVersion = 2
  · obtain ⟨-, rfl, rfl⟩ := (writeCell_v2 hv2).mp h
    refine (readCell_v2 hv2).mpr ?_
    unfold Secret.read Secret.version? Secret.current Secret.push
    simp
  · unfold writeCell at h
    unfold readCell
    obtain ⟨⟨⟩, hserves, h⟩ := Fallible.bind_ok h
    rw [if_neg hv2] at h
    obtain ⟨-, rfl⟩ := Prod.mk.inj (Except.ok.inj h)
    rw [serves_any hserves, Fallible.ok_bind, if_neg hv2]
    rfl

namespace Automation

/-! ### The statement -/

/-- A value that automation can hand out. -/
def Deliverable (value : Value) : Prop := ∃ text, value = .str text ∧ text.utf8ByteSize ≤ 262144

/-- The specifications of the requested fields that are declared. -/
def selected (schema : Schema) (requested : List String) : List (String × FieldSpec) :=
  requested.eraseDups.filterMap fun field => (schema.vaultFields.lookup field).map fun spec => (field, spec)

/-- The surroundings of a read: the backend answers with what it keeps in the cell, and the type still has its
schema. -/
def Serves (backend : Backend) (cell : Cell) (credentialType : String) (schema : Schema) :
    Exchange Error Request Request.Carries → Prop
  | ⟨.getBackend _ _, answer⟩ => answer = .ok ()
  | ⟨.read _ version, answer⟩ => answer = (backend.readCell cell (some version)).map Value.dict
  | ⟨.statement, answer⟩ => ∃ inventory, answer = .ok inventory ∧ getSchema inventory.config credentialType = .ok schema
  | _ => True

/-- The requested fields with the texts they have. -/
structure Delivered (payload : Payload) (requested : List String) (material : List (String × String)) : Prop where
  fields : material.map Prod.fst = requested.eraseDups
  values : ∀ entry ∈ material, payload.lookup entry.1 = some (.str entry.2)

section Bundle

variable [library : MaterialLibrary]

/-- The key of the payload is the one that was authorized, where there is one. -/
def Identified (schema : Schema) (payload : Payload) (expected : String) : Prop :=
  isSshFingerprint expected = true ∨ schema.extractor = some "ssh" → bundleMatches payload expected = true

/-- Automation can read the requested fields, and does so in every dialogue. -/
def Projects (credential : LockedCredential) (backend : Backend) (cell : Cell) (version : Nat) (schema : Schema)
    (expected : String) (payload : Payload) (requested : List String) : Prop :=
  (∃ h result, Ends (readAutomationBundle credential version (selected schema requested) expected) h result ∧
    ∀ x ∈ h, Serves backend cell credential.row.credentialType schema x) ∧
  ∀ h result, Ends (readAutomationBundle credential version (selected schema requested) expected) h result →
    (∀ x ∈ h, Serves backend cell credential.row.credentialType schema x) →
    ∃ material ttl, result = .ok (material, ttl) ∧ Delivered payload requested material

end Bundle

/-! ### The projection -/

theorem projectFields_ok {payload : Payload} {specifications : List (String × FieldSpec)}
    (h : ∀ spec ∈ specifications, ∃ value, payload.lookup spec.1 = some value ∧ Deliverable value) :
    ∃ material, projectFields payload specifications = .ok material ∧
      material.map Prod.fst = specifications.map Prod.fst ∧
      ∀ entry ∈ material, payload.lookup entry.1 = some (.str entry.2) := by
  induction specifications with
  | nil => exact ⟨[], rfl, rfl, nofun⟩
  | cons head rest ih =>
      obtain ⟨name, spec⟩ := head
      obtain ⟨⟨value, hvalue, text, rfl, hsize⟩, hrest⟩ := List.forall_mem_cons.mp h
      obtain ⟨material, hmaterial, hfields, hvalues⟩ := ih hrest
      refine ⟨(name, text) :: material, ?_, congrArg (name :: ·) hfields, List.forall_mem_cons.mpr ⟨hvalue, hvalues⟩⟩
      rw [projectFields, hvalue]
      dsimp only
      rw [if_neg (Nat.not_lt.mpr hsize), hmaterial]
      rfl

/-- A field that cannot be handed out spoils the whole projection. -/
theorem projectFields_deliverable {payload : Payload} {specifications : List (String × FieldSpec)}
    {material : List (String × String)} (h : projectFields payload specifications = .ok material) :
    ∀ spec ∈ specifications, ∀ value, payload.lookup spec.1 = some value → Deliverable value := by
  induction specifications generalizing material with
  | nil => exact nofun
  | cons head rest ih =>
      obtain ⟨name, spec⟩ := head
      rw [projectFields] at h
      cases hlookup : payload.lookup name with
      | none =>
          rw [hlookup] at h
          dsimp only at h
          split at h
          · cases h
          · refine List.forall_mem_cons.mpr ⟨fun value hvalue => ?_, ih h⟩
            rw [hlookup] at hvalue
            cases hvalue
      | some found =>
          rw [hlookup] at h
          cases found with
          | str text =>
              dsimp only at h
              split at h
              · cases h
              next hsize =>
                cases hrest : projectFields payload rest with
                | error error =>
                    rw [hrest] at h
                    cases h
                | ok others =>
                    refine List.forall_mem_cons.mpr ⟨fun value hvalue => ?_, ih hrest⟩
                    rw [hlookup] at hvalue
                    exact ⟨text, (Option.some.inj hvalue).symm, Nat.not_lt.mp hsize⟩
          | null | bool | int | decimal | list | dict => cases h

theorem projectFields_error {payload : Payload} {specifications : List (String × FieldSpec)} {error : Error}
    (h : projectFields payload specifications = .error error) : error = invalidPayload := by
  induction specifications with
  | nil => cases h
  | cons head rest ih =>
      rw [projectFields] at h
      split at h
      · split at h
        · exact (Except.error.inj h).symm
        · exact ih h
      · split at h
        · exact (Except.error.inj h).symm
        · cases hrest : projectFields payload rest with
          | ok others =>
              rw [hrest] at h
              cases h
          | error other =>
              rw [hrest] at h
              exact ih (hrest.trans h)
      · exact (Except.error.inj h).symm

theorem mem_selected {schema : Schema} {requested : List String} {spec : String × FieldSpec}
    (h : spec ∈ selected schema requested) : spec.1 ∈ requested := by
  obtain ⟨field, hfield, hspec⟩ := List.mem_filterMap.mp h
  obtain ⟨found, -, rfl⟩ := Option.map_eq_some_iff.mp hspec
  exact List.mem_eraseDups.mp hfield

theorem selected_names {schema : Schema} {requested : List String}
    (h : ∀ field ∈ requested, (schema.vaultFields.lookup field).isSome) :
    (selected schema requested).map Prod.fst = requested.eraseDups := by
  have hall : ∀ field ∈ requested.eraseDups, (schema.vaultFields.lookup field).isSome :=
    fun field hfield => h field (List.mem_eraseDups.mp hfield)
  unfold selected
  generalize requested.eraseDups = names at hall
  induction names with
  | nil => rfl
  | cons name rest ih =>
      obtain ⟨hname, hrest⟩ := List.forall_mem_cons.mp hall
      obtain ⟨spec, hspec⟩ := Option.isSome_iff_exists.mp hname
      rw [List.filterMap_cons, hspec]
      exact congrArg (name :: ·) (ih hrest)

theorem selected_of_declared {schema : Schema} {requested : List String}
    (h : ∀ field ∈ requested, (schema.vaultFields.lookup field).isSome) {field : String} (hfield : field ∈ requested) :
    ∃ spec ∈ selected schema requested, spec.1 = field := by
  have hname : field ∈ (selected schema requested).map Prod.fst := by
    rw [selected_names h]
    exact List.mem_eraseDups.mpr hfield
  exact List.mem_map.mp hname

/-! ### The dialogue -/

/-- A sequence that begins with a request ends with the request's failure, or as what comes after its answer. -/
theorem send_ends {α : Type} {r : Request} {f : r.Carries → Talk α} {h : History} {result : Except Error α}
    (he : Ends (send r >>= f) h result) :
    (∃ error, h = [⟨r, .error error⟩]) ∨ ∃ rest a, h = ⟨r, .ok a⟩ :: rest ∧ Ends (f a) rest result := by
  rcases he.bind with ⟨error, hfirst, -⟩ | ⟨first, rest, a, rfl, hfirst, hrest⟩
  · exact Or.inl ⟨error, hfirst.request⟩
  · rw [hfirst.request]
    exact Or.inr ⟨rest, a, rfl, hrest⟩

section Bundle

variable [library : MaterialLibrary] {backend : Backend} {cell : Cell} {schema : Schema} {credential : LockedCredential}
  {expected : String} {payload : Payload} {h : History}

omit library in
theorem mustVerify_ends {result : Except Error Bool}
    (hserves : ∀ x ∈ h, Serves backend cell credential.row.credentialType schema x)
    (he : Ends (mustVerify credential expected) h result) :
    result = .ok (isSshFingerprint expected || schema.extractor == some "ssh") := by
  unfold mustVerify at he
  split at he
  next hssh =>
    obtain ⟨-, hsame⟩ := Talks.done he
    rw [hssh, Bool.true_or]
    exact Dialogue.done.inj hsame
  next hssh =>
    rcases send_ends he with ⟨error, rfl⟩ | ⟨rest, inventory, rfl, hrest⟩
    · obtain ⟨inventory, hanswer, -⟩ := hserves _ List.mem_cons_self
      cases hanswer
    · obtain ⟨other, hanswer, hschema⟩ := hserves _ List.mem_cons_self
      obtain rfl := Except.ok.inj hanswer
      rw [hschema] at hrest
      obtain ⟨-, hsame⟩ := Talks.done hrest
      rw [Bool.not_eq_true] at hssh
      rw [hssh, Bool.false_or]
      exact Dialogue.done.inj hsame

theorem verifyBundleIdentity_ends {result : Except Error Unit} (hidentified : Identified schema payload expected)
    (hserves : ∀ x ∈ h, Serves backend cell credential.row.credentialType schema x)
    (he : Ends (verifyBundleIdentity credential payload expected) h result) : result = .ok () := by
  rcases Ends.bind he with ⟨error, hfirst, -⟩ | ⟨first, rest, verifies, rfl, hfirst, hrest⟩
  · cases mustVerify_ends hserves hfirst
  · obtain rfl := Except.ok.inj (mustVerify_ends (fun x hx => hserves x (List.mem_append_left _ hx)) hfirst)
    have hpasses : ((isSshFingerprint expected || schema.extractor == some "ssh") && !bundleMatches payload expected) =
        false := by
      cases hneeded : isSshFingerprint expected || schema.extractor == some "ssh" with
      | false => rfl
      | true =>
          rw [Bool.or_eq_true, beq_iff_eq] at hneeded
          rw [hidentified hneeded]
          rfl
    unfold raiseIf at hrest
    rw [hpasses] at hrest
    exact Dialogue.done.inj (Talks.done hrest).2

/-- A read that the surroundings serve comes down to the projection. -/
theorem readAutomationBundle_ends {version : Nat} {specifications : List (String × FieldSpec)}
    {result : Except Error (List (String × String) × Nat)} (hread : backend.readCell cell (some version) = .ok payload)
    (hidentified : Identified schema payload expected)
    (hserves : ∀ x ∈ h, Serves backend cell credential.row.credentialType schema x)
    (he : Ends (readAutomationBundle credential version specifications expected) h result) :
    (∃ error, projectFields payload specifications = .error error ∧ result = .error error) ∨
      ∃ material ttl, projectFields payload specifications = .ok material ∧ result = .ok (material, ttl) := by
  rcases send_ends he with ⟨error, rfl⟩ | ⟨asked, _, rfl, hasked⟩
  · cases hserves _ List.mem_cons_self
  have hserves₁ := (List.forall_mem_cons.mp hserves).2
  have hanswer : ∀ answer : Except Error Value,
      Serves backend cell credential.row.credentialType schema ⟨.read ⟨credential.row.engineId, credential.row.path⟩ version,
        answer⟩ → answer = .ok (.dict payload) := by
    intro answer hanswer
    have hsame : answer = (backend.readCell cell (some version)).map Value.dict := hanswer
    rw [hsame, hread]
    rfl
  rcases send_ends hasked with ⟨error, rfl⟩ | ⟨given, data, rfl, hgiven⟩
  · cases hanswer _ (hserves₁ _ List.mem_cons_self)
  obtain rfl := Except.ok.inj (hanswer _ (hserves₁ _ List.mem_cons_self))
  have hserves₂ := (List.forall_mem_cons.mp hserves₁).2
  rcases Ends.bind hgiven with ⟨error, hverify, -⟩ | ⟨first, verified, _, rfl, hverify, hverified⟩
  · cases verifyBundleIdentity_ends hidentified hserves₂ hverify
  have hserves₃ := (List.forall_mem_append.mp hserves₂).2
  cases hproject : projectFields payload specifications with
  | error error =>
      rw [hproject] at hverified
      exact Or.inl ⟨error, rfl, Dialogue.done.inj (Talks.done hverified).2⟩
  | ok material =>
      rw [hproject] at hverified
      rcases send_ends hverified with ⟨error, rfl⟩ | ⟨last, inventory, rfl, hlast⟩
      · obtain ⟨inventory, hinventory, -⟩ := hserves₃ _ List.mem_cons_self
        cases hinventory
      · exact Or.inr ⟨material, _, rfl, Dialogue.done.inj (Talks.done hlast).2⟩

omit library in
/-- Every dialogue can be served. -/
theorem served_dialogue {α : Type} {config : Config} {credentialType : String}
    (hschema : getSchema config credentialType = .ok schema) (backend : Backend) (cell : Cell) (d : Talk α) :
    ∃ h result, Ends d h result ∧ ∀ x ∈ h, Serves backend cell credentialType schema x := by
  let answers : (r : Request) → Except Error r.Carries
    | .getBackend _ _ => .ok ()
    | .read _ version => (backend.readCell cell (some version)).map Value.dict
    | .statement => .ok ⟨config, fun _ => none, [], fun _ => none, fun _ => none, [], fun _ _ _ _ => false⟩
    | _ => .error denied
  obtain ⟨h, result, hends, hfollows⟩ := ends_against d fun _ => answers
  refine ⟨h, result, hends, fun x hx => ?_⟩
  obtain ⟨first, rest, rfl⟩ := List.append_of_mem hx
  obtain ⟨request, answer⟩ := x
  obtain rfl : answer = answers request := hfollows first _ rest rfl
  cases request with
  | getBackend | read => rfl
  | statement => exact ⟨_, rfl, hschema⟩
  | _ => trivial

section Requested

variable {config : Config} {version : Nat} {requested : List String}
  (hread : backend.readCell cell (some version) = .ok payload) (hidentified : Identified schema payload expected)
  (hpresent : ∀ field ∈ requested, (schema.vaultFields.lookup field).isSome ∧ (payload.lookup field).isSome)

include hread hidentified hpresent in
theorem projects_iff (hschema : getSchema config credential.row.credentialType = .ok schema) :
    Projects credential backend cell version schema expected payload requested ↔
      ∀ field ∈ requested, ∀ value, payload.lookup field = some value → Deliverable value := by
  constructor
  · rintro ⟨⟨h, result, hends, hserves⟩, hruns⟩ field hfield value hvalue
    obtain ⟨material, ttl, rfl, -⟩ := hruns h result hends hserves
    rcases readAutomationBundle_ends hread hidentified hserves hends with ⟨error, -, hsame⟩ | ⟨found, -, hproject, -⟩
    · cases hsame
    · obtain ⟨spec, hspec, rfl⟩ := selected_of_declared (fun field hfield => (hpresent field hfield).1) hfield
      exact projectFields_deliverable hproject spec hspec value hvalue
  · intro hall
    refine ⟨served_dialogue hschema backend cell _, fun h result hends hserves => ?_⟩
    have hvalues : ∀ spec ∈ selected schema requested, ∃ value, payload.lookup spec.1 = some value ∧ Deliverable value := by
      intro spec hspec
      have hmem := mem_selected hspec
      obtain ⟨value, hvalue⟩ := Option.isSome_iff_exists.mp (hpresent spec.1 hmem).2
      exact ⟨value, hvalue, hall spec.1 hmem value hvalue⟩
    obtain ⟨material, hmaterial, hfields, htexts⟩ := projectFields_ok hvalues
    rcases readAutomationBundle_ends hread hidentified hserves hends with ⟨error, herror, -⟩ | ⟨found, ttl, hok, rfl⟩
    · rw [hmaterial] at herror
      cases herror
    · obtain rfl := Except.ok.inj (hmaterial.symm.trans hok)
      exact ⟨material, ttl, rfl, hfields.trans (selected_names fun field hfield => (hpresent field hfield).1), htexts⟩

include hread hidentified hpresent in
theorem undeliverable_refused {field : String} {value : Value} (hfield : field ∈ requested)
    (hvalue : payload.lookup field = some value) (hundeliverable : ¬ Deliverable value)
    {result : Except Error (List (String × String) × Nat)}
    (hends : Ends (readAutomationBundle credential version (selected schema requested) expected) h result)
    (hserves : ∀ x ∈ h, Serves backend cell credential.row.credentialType schema x) :
    result = .error invalidPayload := by
  rcases readAutomationBundle_ends hread hidentified hserves hends with ⟨error, herror, rfl⟩ | ⟨found, -, hok, -⟩
  · rw [projectFields_error herror]
  · obtain ⟨spec, hspec, rfl⟩ := selected_of_declared (fun field hfield => (hpresent field hfield).1) hfield
    exact absurd (projectFields_deliverable hok spec hspec value hvalue) hundeliverable

end Requested

/-- Of a payload that the writer takes, automation can hand out a set of declared fields exactly when all of them are
strings of bounded size; the read of another set ends in the error about an invalid payload. -/
theorem bundle_projects_iff (config : Config) (credential : LockedCredential) (expected : String) (data payload : Payload)
    (backend : Backend) (cas : Option Nat) (before after : Cell) (version : Nat)
    (hvalid : validatePayload config credential.row.credentialType data = .ok payload)
    (hwrite : backend.writeCell before payload cas = .ok (version, after)) :
    ∃ schema, getSchema config credential.row.credentialType = .ok schema ∧
      (Identified schema payload expected → ∀ requested : List String,
        (∀ field ∈ requested, (schema.vaultFields.lookup field).isSome ∧ (payload.lookup field).isSome) →
        (Projects credential backend after version schema expected payload requested ↔
          ∀ field ∈ requested, ∀ value, payload.lookup field = some value → Deliverable value) ∧
        ((∃ field ∈ requested, ∃ value, payload.lookup field = some value ∧ ¬ Deliverable value) →
          ∀ h result, Ends (readAutomationBundle credential version (selected schema requested) expected) h result →
            (∀ x ∈ h, Serves backend after credential.row.credentialType schema x) →
            result = .error invalidPayload)) := by
  obtain ⟨schema, hschema, -⟩ := Fallible.bind_ok hvalid
  have hread := Backend.readCell_written hwrite
  refine ⟨schema, hschema, fun hidentified requested hpresent => ⟨?_, ?_⟩⟩
  · exact projects_iff hread hidentified hpresent hschema
  · rintro ⟨field, hfield, value, hvalue, hundeliverable⟩ h result hends hserves
    exact undeliverable_refused hread hidentified hpresent hfield hvalue hundeliverable hends hserves

end Bundle

/-! ### Samples -/

/-- An API token. -/
def Sample.apiToken : LockedCredential where
  pk := 1
  row := NetboxOpenbao.Sample.credential "api-token"
  policy := ⟨1, [], 300, false⟩
  engine := NetboxOpenbao.Sample.engine 2

def Sample.lab : Backend := ⟨1, "lab", .openbao, 2⟩

/-- The first version of a secret. -/
def Sample.first (payload : Payload) : Cell := ⟨Secret.empty.push payload, none⟩

def Sample.tokenSchema : Schema := ⟨[("token", ⟨true, true⟩)], none, false, none⟩

theorem sample_write (payload : Payload) :
    Sample.lab.writeCell ⟨Secret.empty, none⟩ payload none = .ok (1, Sample.first payload) := rfl

theorem sample_schema : getSchema (NetboxOpenbao.Sample.config 2) Sample.apiToken.row.credentialType =
    .ok Sample.tokenSchema := rfl

theorem sample_identified (payload : Payload) :
    @Identified NetboxOpenbao.Sample.library Sample.tokenSchema payload "" := by
  rintro (hssh | hextractor)
  · cases hssh
  · cases hextractor

theorem token_projects :
    @Projects NetboxOpenbao.Sample.library Sample.apiToken Sample.lab (Sample.first [("token", .str "t0ken")]) 1
      Sample.tokenSchema "" [("token", .str "t0ken")] ["token"] := by
  have hvalid : @validatePayload NetboxOpenbao.Sample.library (NetboxOpenbao.Sample.config 2)
      Sample.apiToken.row.credentialType [("token", .str "t0ken")] = .ok [("token", .str "t0ken")] := rfl
  obtain ⟨schema, hschema, hprojects⟩ := @bundle_projects_iff NetboxOpenbao.Sample.library
    (NetboxOpenbao.Sample.config 2) Sample.apiToken "" _ _ Sample.lab none _ _ 1 hvalid (sample_write _)
  obtain rfl := Except.ok.inj (sample_schema.symm.trans hschema)
  obtain ⟨hiff, -⟩ := hprojects (sample_identified _) ["token"] (by
    intro field hfield
    obtain rfl := List.mem_singleton.mp hfield
    exact ⟨rfl, rfl⟩)
  refine hiff.mpr fun field hfield value hvalue => ?_
  obtain rfl := List.mem_singleton.mp hfield
  exact ⟨"t0ken", (Option.some.inj hvalue).symm, by decide⟩

/-- The writer takes a token that is a number, and automation can never hand it out. -/
theorem number_refused : ¬ ∀ (_ : MaterialLibrary) (config : Config) (credential : LockedCredential)
    (expected : String) (data payload : Payload) (backend : Backend) (cas : Option Nat) (before after : Cell)
    (version : Nat) (schema : Schema), validatePayload config credential.row.credentialType data = .ok payload →
    backend.writeCell before payload cas = .ok (version, after) →
    getSchema config credential.row.credentialType = .ok schema → Identified schema payload expected →
    ∀ requested : List String, requested ≠ [] →
    (∀ field ∈ requested, (schema.vaultFields.lookup field).isSome ∧ (payload.lookup field).isSome) →
    Projects credential backend after version schema expected payload requested := by
  intro h
  have hpresent : ∀ field ∈ ["token"], (Sample.tokenSchema.vaultFields.lookup field).isSome ∧
      (List.lookup field [("token", Value.int 4711)]).isSome := by
    intro field hfield
    obtain rfl := List.mem_singleton.mp hfield
    exact ⟨rfl, rfl⟩
  have hprojects := h NetboxOpenbao.Sample.library (NetboxOpenbao.Sample.config 2) Sample.apiToken ""
    [("token", .int 4711)] [("token", .int 4711)] Sample.lab none _ _ 1 Sample.tokenSchema rfl (sample_write _)
    sample_schema (sample_identified _) ["token"] (List.cons_ne_nil _ _) hpresent
  have hiff := @projects_iff NetboxOpenbao.Sample.library Sample.lab (Sample.first [("token", .int 4711)])
    Sample.tokenSchema Sample.apiToken "" [("token", .int 4711)] (NetboxOpenbao.Sample.config 2) 1 ["token"]
    (Backend.readCell_written (sample_write _)) (sample_identified _) hpresent sample_schema
  obtain ⟨text, htext, -⟩ := hiff.mp hprojects "token" List.mem_cons_self (.int 4711) rfl
  cases htext

end Automation

end NetboxOpenbao
