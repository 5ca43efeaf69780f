import NetboxOpenbao.Importers.Import
import NetboxOpenbao.Effect.Fallible

/-!
# What one copy does

A copy either leaves every row as it was or adds one, of the source's marker, that no row had before. Which of the two
it is depends on the source, on the values the unique constraints look at, and on the cell at the copy's own path.
-/

namespace NetboxOpenbao.Importers

open Effect

/-! ### The source alone -/

/-- A policy for an instance whose engine is not known yet. -/
def draftPolicy : CredentialPolicy := ⟨0, "", "", 0, "", ""⟩

section Acceptable

variable [MaterialLibrary] (config : Config)

/-- What is stored of a source: the type, the payload and the public columns. -/
def sourceMaterial (source : SourceSecret) : Except String (String × Payload × PublicColumns) := do
  let (credentialType, payload) := inferCredentialType source.plaintext
  let (clean, metadata) ← (prepareMaterial config credentialType payload).mapError exceptionName
  let _ ← (deriveKeyFingerprint config credentialType clean).mapError exceptionName
  .ok (credentialType, clean, metadata.apply PublicColumns.blank)

/-- The instance of a source, with its public columns. -/
def filledCredential (source : SourceSecret) (credentialType : String) (columns : PublicColumns)
    (policy : CredentialPolicy) (engine : Nat) (uuid : String) : Credential :=
  { newCredential source credentialType policy engine uuid with columns }

/-- The material and the columns of the source are accepted. -/
def acceptable (source : SourceSecret) : Bool :=
  match sourceMaterial config source with
  | .error _ => false
  | .ok (credentialType, _, columns) =>
      let credential := filledCredential source credentialType columns draftPolicy 0 ""
      fieldsFit credential && cleanPasses config draftPolicy credential

/-- The source can be imported into tables that have none of its values yet. -/
def importable (contentTypes : List Nat) (source : SourceSecret) : Bool :=
  acceptable config source &&
    match sourceAssignment source 0 0 with
    | some assignment => contentTypes.contains assignment.assignedObjectType
    | none => true

end Acceptable

theorem assignable_eq (tables : Tables) (source : SourceSecret) (credential pk : Nat) :
    assignable tables (sourceAssignment source credential pk) =
      match sourceAssignment source 0 0 with
      | some assignment => tables.contentTypes.contains assignment.assignedObjectType
      | none => true := by
  unfold assignable sourceAssignment
  rcases source.assignedObjectTypeId with _ | _ | objectType
  · rfl
  · rfl
  · rcases source.assignedObjectId with _ | _ | object
    · rfl
    · rfl
    · rfl

/-! ### The unique constraints -/

/-- What the unique constraints look at. -/
structure Key where
  uuid : String
  engine : Nat
  path : String
  importSource : String

def Credential.key (credential : Credential) : Key :=
  ⟨credential.uuid, credential.engine, credential.path, credential.importSource⟩

def Key.clashes (key other : Key) : Bool :=
  other.uuid == key.uuid || (other.engine == key.engine && other.path == key.path) ||
    (key.importSource != "" && other.importSource == key.importSource)

theorem occupied_eq (credentials : List Credential) (credential : Credential) :
    occupied credentials credential = (credentials.map Credential.key).any credential.key.clashes := by
  rw [occupied, List.any_map]
  rfl

theorem sourceMarker_ne (pk : Nat) : sourceMarker pk ≠ "" := by
  intro h
  have hlength := congrArg String.length h
  rw [sourceMarker, sourceSystem, String.length_append, String.length_append] at hlength
  simp at hlength

/-! ### The block up to the row -/

section Preparation

variable [MaterialLibrary] {config : Config} {tables : Tables} {policy : CredentialPolicy} {engine : Nat}
  {source : SourceSecret} {uuid : String}

theorem prepareCopy_eq (config : Config) (tables : Tables) (policy : CredentialPolicy) (engine : Nat)
    (source : SourceSecret) (uuid : String) :
    prepareCopy config tables policy engine source uuid =
      (do
        let (credentialType, clean, columns) ← sourceMaterial config source
        let credential := filledCredential source credentialType columns policy engine uuid
        fullClean config policy tables credential
        .ok ⟨credential, clean⟩) := by
  unfold prepareCopy sourceMaterial
  dsimp only
  cases (prepareMaterial config (inferCredentialType source.plaintext).1
      (inferCredentialType source.plaintext).2).mapError exceptionName with
  | error exception => rfl
  | ok prepared =>
      obtain ⟨clean, metadata⟩ := prepared
      cases hfingerprint : (deriveKeyFingerprint config (inferCredentialType source.plaintext).1 clean).mapError
          exceptionName with
      | error exception =>
          change (_ >>= fun _ => _) = (_ >>= fun _ => _)
          simp only [bind, Except.bind, hfingerprint]
      | ok fingerprint =>
          change (_ >>= fun _ => _) = (_ >>= fun _ => _)
          simp only [bind, Except.bind, hfingerprint]
          rfl

omit [MaterialLibrary] in
/-- Everything but the engine's own check is a matter of the source. -/
theorem cleanPasses_filled (credentialType : String) (columns : PublicColumns) :
    (fieldsFit (filledCredential source credentialType columns policy engine uuid) &&
        cleanPasses config policy (filledCredential source credentialType columns policy engine uuid)) =
      ((fieldsFit (filledCredential source credentialType columns draftPolicy 0 "") &&
        cleanPasses config draftPolicy (filledCredential source credentialType columns draftPolicy 0 "")) &&
          policy.engine == engine) := by
  have hbool : ∀ fits known same valid : Bool,
      (fits && (known && same && valid)) = ((fits && (known && true && valid)) && same) := by decide
  exact hbool _ _ (policy.engine == engine) _

variable (config) in
omit [MaterialLibrary] in
/-- `full_clean` as a matter of the source, its policy's engine and the clashes of its key. -/
def cleans (source : SourceSecret) (credentialType : String) (columns : PublicColumns) (sameEngine clashes : Bool) :
    Bool :=
  (fieldsFit (filledCredential source credentialType columns draftPolicy 0 "") &&
    cleanPasses config draftPolicy (filledCredential source credentialType columns draftPolicy 0 "")) &&
      sameEngine && !clashes

omit [MaterialLibrary] in
theorem fullClean_eq (credentialType : String) (columns : PublicColumns) :
    fullClean config policy tables (filledCredential source credentialType columns policy engine uuid) =
      if cleans config source credentialType columns (policy.engine == engine)
          ((tables.credentials.map Credential.key).any (Key.clashes ⟨uuid, engine, "", sourceMarker source.pk⟩)) then
        .ok ()
      else .error "ValidationError" := by
  unfold fullClean
  rw [cleanPasses_filled, occupied_eq]
  rfl

omit [MaterialLibrary] in
theorem passed_of_ok {c : Bool} {exception : String}
    (h : (if c then .ok () else .error exception : Except String Unit) = .ok ()) : c = true := by
  cases c with
  | true => rfl
  | false => cases h

omit [MaterialLibrary] in
theorem cleans_iff {credentialType : String} {columns : PublicColumns} {sameEngine clashes : Bool} :
    cleans config source credentialType columns sameEngine clashes = true ↔
      (fieldsFit (filledCredential source credentialType columns draftPolicy 0 "") &&
        cleanPasses config draftPolicy (filledCredential source credentialType columns draftPolicy 0 "")) = true ∧
        sameEngine = true ∧ clashes = false := by
  unfold cleans
  generalize (fieldsFit (filledCredential source credentialType columns draftPolicy 0 "") &&
    cleanPasses config draftPolicy (filledCredential source credentialType columns draftPolicy 0 "")) = fits
  cases fits <;> cases sameEngine <;> cases clashes <;> decide

theorem acceptable_of {credentialType : String} {columns : PublicColumns} {clean : Payload}
    (hmaterial : sourceMaterial config source = .ok (credentialType, clean, columns))
    (hfits : (fieldsFit (filledCredential source credentialType columns draftPolicy 0 "") &&
      cleanPasses config draftPolicy (filledCredential source credentialType columns draftPolicy 0 "")) = true) :
    acceptable config source = true := by
  unfold acceptable
  rw [hmaterial]
  exact hfits

/-- A block that gets to its row has an acceptable source, and its instance clashes with no row. -/
theorem prepareCopy_ok {prepared : Prepared} (h : prepareCopy config tables policy engine source uuid = .ok prepared) :
    acceptable config source = true ∧ policy.engine = engine ∧
      (tables.credentials.map Credential.key).any (Key.clashes ⟨uuid, engine, "", sourceMarker source.pk⟩) = false ∧
      prepared.credential.key = ⟨uuid, engine, "", sourceMarker source.pk⟩ := by
  rw [prepareCopy_eq] at h
  obtain ⟨⟨credentialType, clean, columns⟩, hmaterial, hrest⟩ := Fallible.bind_ok h
  obtain ⟨_, hclean, hprepared⟩ := Fallible.bind_ok hrest
  obtain rfl := Except.ok.inj hprepared
  rw [fullClean_eq] at hclean
  obtain ⟨hfits, hengine, hfree⟩ := cleans_iff.mp (passed_of_ok hclean)
  exact ⟨acceptable_of hmaterial hfits, beq_iff_eq.mp hengine, hfree, rfl⟩

theorem prepareCopy_of_acceptable (haccepted : acceptable config source = true) (hengine : policy.engine = engine)
    (hfree : (tables.credentials.map Credential.key).any (Key.clashes ⟨uuid, engine, "", sourceMarker source.pk⟩) =
      false) :
    ∃ prepared, prepareCopy config tables policy engine source uuid = .ok prepared := by
  rw [prepareCopy_eq]
  unfold acceptable at haccepted
  cases hmaterial : sourceMaterial config source with
  | error exception =>
      rw [hmaterial] at haccepted
      cases haccepted
  | ok stored =>
      obtain ⟨credentialType, clean, columns⟩ := stored
      rw [hmaterial] at haccepted
      have hpasses : cleans config source credentialType columns (policy.engine == engine)
          ((tables.credentials.map Credential.key).any (Key.clashes ⟨uuid, engine, "", sourceMarker source.pk⟩)) =
            true := cleans_iff.mpr ⟨haccepted, beq_iff_eq.mpr hengine, hfree⟩
      refine ⟨⟨filledCredential source credentialType columns policy engine uuid, clean⟩, ?_⟩
      rw [Fallible.ok_bind]
      dsimp only
      rw [fullClean_eq, hpasses, if_pos rfl, Fallible.ok_bind]

variable (config engine source uuid) in
/-- The exception of a block that does not get to its row is a matter of the source, its policy's engine and the
clashes of its key. -/
theorem prepareCopy_congr {tables' : Tables} {policy' : CredentialPolicy} (hengine : policy.engine = policy'.engine)
    (hkeys : tables.credentials.map Credential.key = tables'.credentials.map Credential.key) :
    (prepareCopy config tables policy engine source uuid).map (fun prepared => (prepared.credential.key, prepared.payload)) =
      (prepareCopy config tables' policy' engine source uuid).map fun prepared =>
        (prepared.credential.key, prepared.payload) := by
  rw [prepareCopy_eq, prepareCopy_eq]
  cases sourceMaterial config source with
  | error exception =>
      show (Except.error exception : Except String (Key × Payload)) = .error exception
      rfl
  | ok stored =>
      obtain ⟨credentialType, clean, columns⟩ := stored
      rw [Fallible.ok_bind, Fallible.ok_bind]
      dsimp only
      rw [fullClean_eq, fullClean_eq, hengine, hkeys]
      cases cleans config source credentialType columns (policy'.engine == engine)
          ((tables'.credentials.map Credential.key).any (Key.clashes ⟨uuid, engine, "", sourceMarker source.pk⟩)) with
      | true =>
          have hkey : (filledCredential source credentialType columns policy engine uuid).key =
              (filledCredential source credentialType columns policy' engine uuid).key := rfl
          exact congrArg (fun key => Except.ok (key, clean)) hkey
      | false =>
          show (Except.error "ValidationError" : Except String (Key × Payload)) = .error "ValidationError"
          rfl

end Preparation

/-! ### The whole block -/

def Attempt.path (config : Config) (attempt : Attempt) : String := config.pathPrefix ++ "/credentials/" ++ attempt.uuid

theorem path_ne {config : Config} {a b : Attempt} (h : a.uuid ≠ b.uuid) : a.path config ≠ b.path config := by
  intro hpath
  have hlists := congrArg String.toList hpath
  simp only [Attempt.path, String.toList_append] at hlists
  exact h (String.toList_inj.mp (List.append_cancel_left hlists))

theorem path_ne_empty (config : Config) (attempt : Attempt) : attempt.path config ≠ "" := by
  intro hpath
  have hlists := congrArg String.toList hpath
  rw [Attempt.path, String.toList_append, String.toList_append] at hlists
  have hmiddle := (List.append_eq_nil_iff.mp (List.append_eq_nil_iff.mp hlists).1).2
  cases hmiddle

/-- The values of an attempt's row. -/
def Attempt.key (config : Config) (engine : Nat) (attempt : Attempt) : Key :=
  ⟨attempt.uuid, engine, attempt.path config, sourceMarker attempt.source.pk⟩

/-- What a copy leaves alone whatever happens: the policies, the content types, and every cell but its own. -/
structure Framed (location : Location) (estate left : Estate) : Prop where
  policies : left.tables.policies = estate.tables.policies
  contentTypes : left.tables.contentTypes = estate.tables.contentTypes
  elsewhere : ∀ other, other ≠ location → left.store other = estate.store other

theorem Framed.refl (location : Location) (estate : Estate) : Framed location estate estate := ⟨rfl, rfl, fun _ _ => rfl⟩

theorem Framed.put {location : Location} {estate left : Estate} (h : Framed location estate left) (cell : Cell) :
    Framed location estate (left.put location cell) where
  policies := h.policies
  contentTypes := h.contentTypes
  elsewhere other hother := by
    rw [Estate.put]
    dsimp only
    rw [if_neg hother, h.elsewhere other hother]

theorem Framed.recovered {location : Location} {estate left : Estate} (h : Framed location estate left)
    (options : ImportOptions) (version : Nat) (removed : Bool) :
    Framed location estate (recovered options left location version removed) ∧
      (Importers.recovered options left location version removed).tables = left.tables := by
  unfold Importers.recovered
  split
  · exact ⟨h.put _, rfl⟩
  · exact ⟨h, rfl⟩

section Block

variable [MaterialLibrary] {config : Config} {options : ImportOptions} {policy : CredentialPolicy} {attempt : Attempt}

/-- The block has left every row as it was. -/
structure Undone (config : Config) (options : ImportOptions) (attempt : Attempt) (estate left : Estate) : Prop where
  framed : Framed (options.engine.location (attempt.path config)) estate left
  credentials : left.tables.credentials = estate.tables.credentials
  assignments : left.tables.assignments = estate.tables.assignments

/-- The block has stored the source, which could be, in a row of its own. -/
structure Stored (config : Config) (options : ImportOptions) (policy : CredentialPolicy) (attempt : Attempt)
    (estate left : Estate) (row : Credential) : Prop where
  framed : Framed (options.engine.location (attempt.path config)) estate left
  credentials : left.tables.credentials = estate.tables.credentials ++ [row]
  key : row.key = attempt.key config options.engine.engine
  importable : importable config estate.tables.contentTypes attempt.source = true
  policy : policy.engine = options.engine.engine
  free : (estate.tables.credentials.map Credential.key).any (attempt.key config options.engine.engine).clashes = false

theorem importable_of {contentTypes : List Nat} {tables : Tables} {source : SourceSecret} {credential pk : Nat}
    (haccepted : acceptable config source = true)
    (hassignable : assignable tables (sourceAssignment source credential pk) = true)
    (htypes : tables.contentTypes = contentTypes) : importable config contentTypes source = true := by
  rw [assignable_eq, htypes] at hassignable
  rw [importable, haccepted, Bool.true_and]
  exact hassignable

variable (options attempt) in
omit [MaterialLibrary] in
/-- The block after its write: it rolls back, or the row is there, which it may still be told otherwise about. -/
theorem finishCopy_cases {estate written : Estate} {location : Location} (hframed : Framed location estate written)
    (hcredentials : written.tables.credentials = estate.tables.credentials)
    (hassignments : written.tables.assignments = estate.tables.assignments) (row : Credential) (version : Nat) :
    (∃ exception, (finishCopy options attempt written location row version).1 = some exception ∧
        Framed location estate (finishCopy options attempt written location row version).2 ∧
        (finishCopy options attempt written location row version).2.tables.credentials = estate.tables.credentials ∧
        (finishCopy options attempt written location row version).2.tables.assignments = estate.tables.assignments) ∨
      Framed location estate (finishCopy options attempt written location row version).2 ∧
        (finishCopy options attempt written location row version).2.tables.credentials =
          estate.tables.credentials ++ [{ row with kvVersion := some version }] ∧
        (∃ credential pk, assignable written.tables (sourceAssignment attempt.source credential pk) = true) ∧
        ((finishCopy options attempt written location row version).1 = none ∨
          ∃ exception, attempt.fault = .commit true exception) := by
  have hrecovered : ∀ (exception : String) (removed : Bool), ∃ raised, some exception = some raised ∧
      Framed location estate (recovered options written location version removed) ∧
      (recovered options written location version removed).tables.credentials = estate.tables.credentials ∧
      (recovered options written location version removed).tables.assignments = estate.tables.assignments := by
    intro exception removed
    obtain ⟨hleft, htables⟩ := hframed.recovered options version removed
    exact ⟨exception, rfl, hleft, by rw [htables, hcredentials], by rw [htables, hassignments]⟩
  have hcommitted : ∀ assignment, (commitCopy written.tables { row with kvVersion := some version } assignment).credentials =
      estate.tables.credentials ++ [{ row with kvVersion := some version }] := by
    intro assignment
    rw [commitCopy, hcredentials]
  unfold finishCopy
  dsimp only
  generalize hassignment : sourceAssignment attempt.source (row.pk.getD 0) written.tables.nextAssignment = assignment
  cases hassignable : assignable written.tables assignment with
  | false => exact .inl (hrecovered _ _)
  | true =>
      have hpossible : ∃ credential pk, assignable written.tables (sourceAssignment attempt.source credential pk) =
          true := ⟨_, _, hassignment ▸ hassignable⟩
      have hleft : Framed location estate
          { written with tables := commitCopy written.tables { row with kvVersion := some version } assignment } :=
        ⟨hframed.policies, hframed.contentTypes, hframed.elsewhere⟩
      cases hfault : attempt.fault with
      | after removed exception => exact .inl (hrecovered exception removed)
      | commit applied exception =>
          cases applied with
          | true => exact .inr ⟨hleft, hcommitted _, hpossible, .inr ⟨exception, rfl⟩⟩
          | false => exact .inl ⟨exception, rfl, hframed, hcredentials, hassignments⟩
      | none => exact .inr ⟨hleft, hcommitted _, hpossible, .inl rfl⟩
      | before exception => exact .inr ⟨hleft, hcommitted _, hpossible, .inl rfl⟩
      | write reached exception => exact .inr ⟨hleft, hcommitted _, hpossible, .inl rfl⟩

variable (config) in
omit [MaterialLibrary] in
/-- The values of the row are those of the attempt. -/
theorem insertedRow_key (pk : Nat) {prepared : Prepared} {engine : Nat}
    (hkey : prepared.credential.key = ⟨attempt.uuid, engine, "", sourceMarker attempt.source.pk⟩) :
    (insertedRow config pk prepared.credential).key = attempt.key config engine := by
  have huuid : prepared.credential.uuid = attempt.uuid := congrArg Key.uuid hkey
  have hengine : prepared.credential.engine = engine := congrArg Key.engine hkey
  have hmarker : prepared.credential.importSource = sourceMarker attempt.source.pk := congrArg Key.importSource hkey
  rw [Credential.key, Attempt.key, Attempt.path, insertedRow]
  dsimp only
  rw [huuid, hengine, hmarker]

/-- The two ways a block ends: it raises and its rows are rolled back, or its row is there. -/
def Ended (config : Config) (options : ImportOptions) (policy : CredentialPolicy) (attempt : Attempt) (estate : Estate)
    (result : Option String × Estate) : Prop :=
  (∃ exception, result.1 = some exception ∧ Undone config options attempt estate result.2) ∨
    ∃ row, Stored config options policy attempt estate result.2 row ∧
      (result.1 = none ∨ ∃ exception, attempt.fault = .commit true exception)

theorem Ended.framed {estate : Estate} {result : Option String × Estate}
    (h : Ended config options policy attempt estate result) :
    Framed (options.engine.location (attempt.path config)) estate result.2 := by
  rcases h with ⟨_, -, hundone⟩ | ⟨_, hstored, -⟩
  · exact hundone.framed
  · exact hstored.framed

theorem writeCopy_ended {estate drawn : Estate} {row : Credential} {payload : Payload}
    (hframed : Framed (options.engine.location (attempt.path config)) estate drawn)
    (hcredentials : drawn.tables.credentials = estate.tables.credentials)
    (hassignments : drawn.tables.assignments = estate.tables.assignments)
    (hkey : row.key = attempt.key config options.engine.engine)
    (haccepted : acceptable config attempt.source = true) (hpolicy : policy.engine = options.engine.engine)
    (hfree : (estate.tables.credentials.map Credential.key).any (attempt.key config options.engine.engine).clashes =
      false) :
    Ended config options policy attempt estate (writeCopy options attempt drawn row payload) := by
  have hpath : row.path = attempt.path config := congrArg Key.path hkey
  unfold writeCopy
  rw [hpath]
  dsimp only
  cases options.engine.writeCell (drawn.store (options.engine.location (attempt.path config))) payload (some 0) with
  | error error => exact .inl ⟨_, rfl, hframed, hcredentials, hassignments⟩
  | ok result =>
      obtain ⟨version, cell⟩ := result
      have hwritten := hframed.put cell
      have hfinished : Ended config options policy attempt estate (finishCopy options attempt
          (drawn.put (options.engine.location (attempt.path config)) cell)
          (options.engine.location (attempt.path config)) row version) := by
        rcases finishCopy_cases options attempt hwritten hcredentials hassignments row version
          with ⟨exception, hraised, hundone, hrows, hassigned⟩ | ⟨hstored, hrows, ⟨_, _, hassignable⟩, hended⟩
        · exact .inl ⟨exception, hraised, hundone, hrows, hassigned⟩
        · exact .inr ⟨_, ⟨hstored, hrows, hkey, importable_of haccepted hassignable hframed.contentTypes, hpolicy, hfree⟩,
            hended⟩
      split
      next => exact .inl ⟨_, rfl, hframed, hcredentials, hassignments⟩
      next =>
        split
        · exact .inl ⟨_, rfl, hframed.put _, hcredentials, hassignments⟩
        · exact .inl ⟨_, rfl, hframed, hcredentials, hassignments⟩
      next hresult _ =>
        obtain ⟨rfl, rfl⟩ := Prod.mk.inj (Except.ok.inj hresult)
        exact hfinished

theorem copySecret_ended (config : Config) (options : ImportOptions) (policy : CredentialPolicy) (attempt : Attempt)
    (estate : Estate) :
    Ended config options policy attempt estate (copySecret config options policy attempt estate) := by
  unfold copySecret
  split
  · exact .inl ⟨_, rfl, Framed.refl _ _, rfl, rfl⟩
  · cases hprepared : prepareCopy config estate.tables policy options.engine.engine attempt.source attempt.uuid with
    | error exception => exact .inl ⟨exception, rfl, Framed.refl _ _, rfl, rfl⟩
    | ok prepared =>
        obtain ⟨haccepted, hpolicy, -, hkey⟩ := prepareCopy_ok hprepared
        have hrowKey := insertedRow_key config estate.tables.nextCredential hkey
        dsimp only
        generalize insertedRow config estate.tables.nextCredential prepared.credential = row at hrowKey ⊢
        have hdrawn : Framed (options.engine.location (attempt.path config)) estate
            { estate with tables := { estate.tables with nextCredential := estate.tables.nextCredential + 1 } } :=
          ⟨rfl, rfl, fun _ _ => rfl⟩
        cases hfree : occupied estate.tables.credentials row with
        | true => exact .inl ⟨_, rfl, hdrawn, rfl, rfl⟩
        | false =>
            rw [occupied_eq, hrowKey] at hfree
            exact writeCopy_ended hdrawn rfl rfl hrowKey haccepted hpolicy hfree

/-! ### What a block depends on -/

/-- Two estates that a copy cannot tell apart. -/
structure Alike (location : Location) (estate estate' : Estate) : Prop where
  keys : estate.tables.credentials.map Credential.key = estate'.tables.credentials.map Credential.key
  contentTypes : estate.tables.contentTypes = estate'.tables.contentTypes
  cell : estate.store location = estate'.store location

variable (options attempt) in
omit [MaterialLibrary] in
theorem finishCopy_congr {estate estate' : Estate} {location : Location} {row row' : Credential} (version : Nat)
    (h : Alike location estate estate') (hkey : row.key = row'.key) :
    (finishCopy options attempt estate location row version).1 =
        (finishCopy options attempt estate' location row' version).1 ∧
      (finishCopy options attempt estate location row version).2.tables.credentials.map Credential.key =
        (finishCopy options attempt estate' location row' version).2.tables.credentials.map Credential.key := by
  have hrolled : ∀ removed,
      (recovered options estate location version removed).tables.credentials.map Credential.key =
        (recovered options estate' location version removed).tables.credentials.map Credential.key := by
    intro removed
    rw [((Framed.refl location estate).recovered options version removed).2,
      ((Framed.refl location estate').recovered options version removed).2, h.keys]
  have hcommitted : ∀ assignment assignment',
      (commitCopy estate.tables { row with kvVersion := some version } assignment).credentials.map Credential.key =
        (commitCopy estate'.tables { row' with kvVersion := some version } assignment').credentials.map
          Credential.key := by
    intro assignment assignment'
    change (estate.tables.credentials ++ [_]).map Credential.key = (estate'.tables.credentials ++ [_]).map Credential.key
    rw [List.map_append, List.map_append, h.keys]
    exact congrArg (_ ++ [·]) hkey
  unfold finishCopy
  dsimp only
  rw [assignable_eq, assignable_eq, h.contentTypes]
  cases (match sourceAssignment attempt.source 0 0 with
    | some assignment => estate'.tables.contentTypes.contains assignment.assignedObjectType
    | none => true) with
  | false => exact ⟨rfl, hrolled true⟩
  | true =>
      cases attempt.fault with
      | after removed exception => exact ⟨rfl, hrolled removed⟩
      | commit applied exception =>
          cases applied with
          | true => exact ⟨rfl, hcommitted _ _⟩
          | false => exact ⟨rfl, h.keys⟩
      | none => exact ⟨rfl, hcommitted _ _⟩
      | before exception => exact ⟨rfl, hcommitted _ _⟩
      | write reached exception => exact ⟨rfl, hcommitted _ _⟩

omit [MaterialLibrary] in
theorem Alike.put {location : Location} {estate estate' : Estate} (h : Alike location estate estate') (cell : Cell) :
    Alike location (estate.put location cell) (estate'.put location cell) where
  keys := h.keys
  contentTypes := h.contentTypes
  cell := by
    rw [Estate.put, Estate.put]
    dsimp only
    rw [if_pos rfl, if_pos rfl]

omit [MaterialLibrary] in
theorem writeCopy_congr {estate estate' : Estate} {row row' : Credential} {payload : Payload}
    (h : Alike (options.engine.location row.path) estate estate') (hkey : row.key = row'.key) :
    (writeCopy options attempt estate row payload).1 = (writeCopy options attempt estate' row' payload).1 ∧
      (writeCopy options attempt estate row payload).2.tables.credentials.map Credential.key =
        (writeCopy options attempt estate' row' payload).2.tables.credentials.map Credential.key := by
  have hpath : row'.path = row.path := (congrArg Key.path hkey).symm
  unfold writeCopy
  rw [hpath]
  dsimp only
  rw [h.cell]
  cases options.engine.writeCell (estate'.store (options.engine.location row.path)) payload (some 0) with
  | error error => exact ⟨rfl, h.keys⟩
  | ok result =>
      obtain ⟨version, cell⟩ := result
      have hfinish := finishCopy_congr options attempt version (h.put cell) hkey
      cases hfault : attempt.fault with
      | write reached exception =>
          cases reached with
          | true => exact ⟨rfl, h.keys⟩
          | false => exact ⟨rfl, h.keys⟩
      | none => exact hfinish
      | before exception => exact hfinish
      | after removed exception => exact hfinish
      | commit applied exception => exact hfinish

/-- A copy ends the same way, and leaves rows of the same values, wherever its policy's engine is the same. -/
theorem copySecret_congr {policy' : CredentialPolicy} {estate estate' : Estate}
    (h : Alike (options.engine.location (attempt.path config)) estate estate')
    (hpolicy : policy.engine = policy'.engine) :
    (copySecret config options policy attempt estate).1 = (copySecret config options policy' attempt estate').1 ∧
      (copySecret config options policy attempt estate).2.tables.credentials.map Credential.key =
        (copySecret config options policy' attempt estate').2.tables.credentials.map Credential.key := by
  have hprepare := prepareCopy_congr config options.engine.engine attempt.source attempt.uuid hpolicy h.keys
  unfold copySecret
  split
  · exact ⟨rfl, h.keys⟩
  · cases hprepared : prepareCopy config estate.tables policy options.engine.engine attempt.source attempt.uuid with
    | error exception =>
        rw [hprepared] at hprepare
        cases hprepared' : prepareCopy config estate'.tables policy' options.engine.engine attempt.source attempt.uuid with
        | error exception' =>
            rw [hprepared'] at hprepare
            obtain rfl := Except.error.inj hprepare
            exact ⟨rfl, h.keys⟩
        | ok prepared' =>
            rw [hprepared'] at hprepare
            cases hprepare
    | ok prepared =>
        rw [hprepared] at hprepare
        cases hprepared' : prepareCopy config estate'.tables policy' options.engine.engine attempt.source attempt.uuid with
        | error exception' =>
            rw [hprepared'] at hprepare
            cases hprepare
        | ok prepared' =>
            rw [hprepared'] at hprepare
            obtain ⟨-, hpayload⟩ := Prod.mk.inj (Except.ok.inj hprepare)
            obtain ⟨-, -, -, hkey⟩ := prepareCopy_ok hprepared
            obtain ⟨-, -, -, hkey'⟩ := prepareCopy_ok hprepared'
            have hrow := insertedRow_key config estate.tables.nextCredential hkey
            have hrow' := insertedRow_key config estate'.tables.nextCredential hkey'
            dsimp only
            rw [occupied_eq, occupied_eq, hrow, hrow', h.keys, ← hpayload]
            split
            · exact ⟨rfl, h.keys⟩
            · have hpath : (insertedRow config estate.tables.nextCredential prepared.credential).path =
                  attempt.path config := congrArg Key.path hrow
              refine writeCopy_congr ?_ (hrow.trans hrow'.symm)
              rw [hpath]
              exact ⟨h.keys, h.contentTypes, h.cell⟩

/-- Nothing stands in the way of the attempt: its values are free, and the backend takes its write. -/
structure Clear (config : Config) (engine : Backend) (attempt : Attempt) (estate : Estate) : Prop where
  unnamed : (estate.tables.credentials.map Credential.key).any
    (Key.clashes ⟨attempt.uuid, engine.engine, "", sourceMarker attempt.source.pk⟩) = false
  free : (estate.tables.credentials.map Credential.key).any (attempt.key config engine.engine).clashes = false
  taken : ∀ payload, ∃ written,
    engine.writeCell (estate.store (engine.location (attempt.path config))) payload (some 0) = .ok written

/-- A source that can be imported is, when nothing goes wrong and nothing stands in its way. -/
theorem copySecret_copies {estate : Estate} (hfault : attempt.fault = .none)
    (himportable : importable config estate.tables.contentTypes attempt.source = true)
    (hpolicy : policy.engine = options.engine.engine) (hclear : Clear config options.engine attempt estate) :
    (copySecret config options policy attempt estate).1 = none := by
  obtain ⟨haccepted, hassignable⟩ := Bool.and_eq_true_iff.mp himportable
  obtain ⟨prepared, hprepared⟩ := prepareCopy_of_acceptable haccepted hpolicy hclear.unnamed
  obtain ⟨-, -, -, hkey⟩ := prepareCopy_ok hprepared
  have hrowKey := insertedRow_key config estate.tables.nextCredential hkey
  have hpath : (insertedRow config estate.tables.nextCredential prepared.credential).path = attempt.path config :=
    congrArg Key.path hrowKey
  obtain ⟨⟨version, cell⟩, hwrite⟩ := hclear.taken prepared.payload
  unfold copySecret
  rw [hfault]
  dsimp only
  rw [hprepared]
  dsimp only
  rw [occupied_eq, hrowKey, hclear.free, if_neg Bool.false_ne_true]
  unfold writeCopy
  rw [hpath]
  dsimp only
  rw [hwrite, hfault]
  dsimp only
  unfold finishCopy
  dsimp only
  rw [assignable_eq, hfault]
  have hassigned : (match sourceAssignment attempt.source 0 0 with
      | some assignment => estate.tables.contentTypes.contains assignment.assignedObjectType
      | none => true) = true := hassignable
  simp only [Estate.put]
  rw [hassigned]
  rfl

end Block

/-! ### The loop -/

/-- Choosing a policy touches nothing but the policies. -/
theorem choosePolicy_tables {slugify : String → String} {options : ImportOptions} {attempt : Attempt} {loop : Loop}
    {chosen : ChosenPolicy} (h : choosePolicy slugify options attempt loop = .ok chosen) :
    ∃ policies nextPolicy, chosen.tables = { loop.estate.tables with policies, nextPolicy } := by
  have hpolicyFor : policyFor slugify attempt.source options.engine.engine options.fallbackPolicy options.mapRoles
      loop.estate.tables loop.policyCache loop.result.policiesNeedingSetup = .ok chosen := by
    unfold choosePolicy at h
    split at h
    · cases h
    · exact h
  unfold policyFor at hpolicyFor
  split at hpolicyFor
  · obtain rfl := Except.ok.inj hpolicyFor
    exact ⟨_, _, rfl⟩
  · dsimp only at hpolicyFor
    split at hpolicyFor
    · obtain rfl := Except.ok.inj hpolicyFor
      exact ⟨_, _, rfl⟩
    · split at hpolicyFor
      · cases hpolicyFor
      · next hcreated =>
          obtain rfl := Except.ok.inj hpolicyFor
          unfold getOrCreatePolicy at hcreated
          dsimp only at hcreated
          split at hcreated
          · cases hcreated
            exact ⟨_, _, rfl⟩
          · split at hcreated
            · cases hcreated
            · cases hcreated
              exact ⟨_, _, rfl⟩

section Loop

variable [MaterialLibrary] {config : Config} {slugify : String → String} {options : ImportOptions}

theorem importOne_skipped {loop : Loop} {attempt : Attempt}
    (h : loop.alreadyImported.contains (sourceMarker attempt.source.pk) = true) :
    importOne config slugify options loop attempt =
      .ok { loop with
            result := { loop.result with skipped := loop.result.skipped + 1 }.note attempt.source .skipped
              "already imported" } := by
  unfold importOne
  rw [if_pos h]

/-- The invariant of a loop that is never left. -/
theorem importLoop_returns {P : List Attempt → Loop → Prop} {attempts : List Attempt} {start : Loop}
    (hstep : ∀ done attempt rest loop, attempts = done ++ attempt :: rest → P done loop →
      ∃ next, importOne config slugify options loop attempt = .ok next ∧ P (done ++ [attempt]) next)
    (hstart : P [] start) :
    (importLoop config slugify options attempts start).1 = none ∧
      P attempts (importLoop config slugify options attempts start).2 := by
  have hfrom : ∀ rest done loop, attempts = done ++ rest → P done loop →
      (importLoop config slugify options rest loop).1 = none ∧
        P attempts (importLoop config slugify options rest loop).2 := by
    intro rest
    induction rest with
    | nil =>
        intro done loop hall h
        rw [hall, List.append_nil]
        exact ⟨rfl, h⟩
    | cons attempt rest ih =>
        intro done loop hall h
        obtain ⟨next, hnext, hdone⟩ := hstep done attempt rest loop hall h
        rw [importLoop, hnext]
        refine ih (done ++ [attempt]) next ?_ hdone
        rw [hall, List.append_assoc, List.singleton_append]
  exact hfrom attempts [] start rfl hstart

end Loop

namespace Sample

def policy (engine : Nat) : CredentialPolicy := ⟨engine, s!"Tier {engine}", s!"tier-{engine}", engine, "netbox", ""⟩

/-- A run onto the engine's own tier. -/
def onto (engine : Nat) (mapRoles : Bool) : ImportOptions := ⟨⟨engine, "lab", .openbao, 2⟩, policy engine, false, mapRoles⟩

def login : SourceSecret := ⟨7, "switch login", "hunter2", "", "admin", none, none⟩

def attempt (uuid : String) : Attempt := ⟨login, uuid, none, .none⟩

/-- No credential yet, and nothing under any path. -/
def empty : Estate := ⟨⟨[policy 1, policy 2], [], [], [], 3, 1, 1⟩, fun _ => ⟨Secret.empty, none⟩⟩

end Sample

end NetboxOpenbao.Importers
