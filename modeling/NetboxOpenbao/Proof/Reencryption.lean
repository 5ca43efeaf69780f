import NetboxOpenbao.Reencryption

/-!
# All rows or none

A run of the command that returns has closed every field of every row anew with what it held, and one that raises has
left the table as it was. The first is carried through the loop by what it does to one row; the second is the
transaction's.
-/

namespace NetboxOpenbao

open Effect

variable [Fernet]

/-! ### One value -/

/-- What Fernet has closed it opens under the same key. -/
def FernetCorrect : Prop := ∀ secretKey nonce plaintext : String,
  Fernet.decrypt secretKey (Fernet.encrypt secretKey nonce plaintext) = some plaintext

omit [Fernet] in
theorem startsWith_append (start s : String) : Text.startsWith (start ++ s) start = true := by
  unfold Text.startsWith
  rw [String.toList_append, List.isPrefixOf_iff_prefix]
  exact List.prefix_append _ _

theorem decryptValue_of_encryptValue (hfernet : FernetCorrect) {secretKey nonce value ciphertext : String}
    (h : encryptValue secretKey nonce value = .ok ciphertext) : decryptValue secretKey ciphertext = .ok value := by
  unfold encryptValue encrypt at h
  by_cases hvalue : value = ""
  · rw [if_pos hvalue] at h
    obtain rfl := Except.ok.inj h
    rw [decryptValue, if_pos rfl, hvalue]
  · rw [if_neg hvalue] at h
    by_cases hkey : secretKey = ""
    · rw [if_pos hkey] at h
      cases h
    · rw [if_neg hkey, if_neg hvalue] at h
      obtain rfl := Except.ok.inj h
      have hne : "v1:" ++ Fernet.encrypt secretKey nonce value ≠ "" := by
        intro hempty
        have hchars := congrArg String.toList hempty
        rw [String.toList_append] at hchars
        cases hchars
      have hdrop : String.ofList (("v1:" ++ Fernet.encrypt secretKey nonce value).toList.drop
          ciphertextPrefix.toList.length) = Fernet.encrypt secretKey nonce value := by
        rw [String.toList_append]
        exact String.ofList_toList
      have hstarts : Text.startsWith ("v1:" ++ Fernet.encrypt secretKey nonce value) ciphertextPrefix = true :=
        startsWith_append _ _
      unfold decryptValue
      rw [if_neg hne, hstarts, if_neg (by decide), if_neg hkey, hdrop, hfernet]

/-! ### One row -/

/-- The columns hold for `name`, under the current key, what the row holds for it under the old one. -/
def Recovers (oldSecretKey secretKey : String) (row : EngineAuthMaterial) (columns : MaterialColumns)
    (name : AuthField) : Prop :=
  ∃ plaintext, row.getSecret oldSecretKey name = .ok plaintext ∧
    decryptValue secretKey (columns (.ciphertext name)) = .ok plaintext

variable {oldSecretKey secretKey : String}

theorem recovers_of_unconfigured {row : EngineAuthMaterial} {name : AuthField} (h : row.isConfigured name = false) :
    Recovers oldSecretKey secretKey row row.columns name := by
  have hempty : row.columns (.ciphertext name) = "" := by simpa [EngineAuthMaterial.isConfigured] using h
  exact ⟨"", by rw [EngineAuthMaterial.getSecret, hempty, decryptValue, if_pos rfl],
    by rw [hempty, decryptValue, if_pos rfl]⟩

theorem opened_ok {row : EngineAuthMaterial} {names : List AuthField} {values : List (AuthField × String)}
    (h : (names.mapM fun name => return (name, ← row.getSecret oldSecretKey name) :
      Except Error (List (AuthField × String))) = .ok values) :
    values.map Prod.fst = names ∧ ∀ entry ∈ values, row.getSecret oldSecretKey entry.1 = .ok entry.2 := by
  induction names generalizing values with
  | nil =>
      cases h
      exact ⟨rfl, nofun⟩
  | cons name rest ih =>
      rw [List.mapM_cons] at h
      cases hsecret : row.getSecret oldSecretKey name with
      | error error =>
          rw [hsecret] at h
          cases h
      | ok plaintext =>
          cases hrest : (rest.mapM fun name => return (name, ← row.getSecret oldSecretKey name) :
              Except Error (List (AuthField × String))) with
          | error error =>
              rw [hsecret, hrest] at h
              cases h
          | ok others =>
              rw [hsecret, hrest] at h
              cases h
              obtain ⟨hnames, hvalues⟩ := ih hrest
              refine ⟨by rw [List.map_cons, hnames], fun entry hentry => ?_⟩
              rcases List.mem_cons.mp hentry with rfl | hentry
              · exact hsecret
              · exact hvalues entry hentry

/-- Closing the values one after another: a name that has had its turn recovers, and one that recovers goes on to. -/
theorem closed_ok (hfernet : FernetCorrect) {nonces : AuthField → String} {row : EngineAuthMaterial}
    {values : List (AuthField × String)} (hvalues : ∀ entry ∈ values, row.getSecret oldSecretKey entry.1 = .ok entry.2)
    {material after : MaterialInstance}
    (h : values.foldlM (fun (material : MaterialInstance) entry => do
      return material.assign (.ciphertext entry.1) (← encryptValue secretKey (nonces entry.1) entry.2)) material =
        .ok after) :
    after.loadedAuthValues = material.loadedAuthValues ∧
      ∀ name, (name ∈ values.map Prod.fst ∨ Recovers oldSecretKey secretKey row material.columns name) →
        Recovers oldSecretKey secretKey row after.columns name := by
  induction values generalizing material with
  | nil =>
      cases h
      refine ⟨rfl, fun name hname => hname.resolve_left nofun⟩
  | cons entry rest ih =>
      rw [List.foldlM_cons] at h
      cases hclosed : encryptValue secretKey (nonces entry.1) entry.2 with
      | error error =>
          rw [hclosed] at h
          cases h
      | ok ciphertext =>
          rw [hclosed] at h
          obtain ⟨hloaded, hrecovers⟩ := ih (fun e he => hvalues e (List.mem_cons_of_mem _ he)) h
          refine ⟨hloaded, fun name hname => hrecovers name ?_⟩
          by_cases hsame : name = entry.1
          · refine .inr ⟨entry.2, hsame ▸ hvalues entry List.mem_cons_self, ?_⟩
            subst hsame
            have hcolumn : (material.assign (.ciphertext entry.1) ciphertext).columns (.ciphertext entry.1) =
                ciphertext := Function.update_self _ _ _
            rw [hcolumn]
            exact decryptValue_of_encryptValue hfernet hclosed
          · rcases hname with hlisted | ⟨plaintext, hold, hnew⟩
            · rw [List.map_cons] at hlisted
              exact .inl ((List.mem_cons.mp hlisted).resolve_left hsame)
            · refine .inr ⟨plaintext, hold, ?_⟩
              have hcolumn : (material.assign (.ciphertext entry.1) ciphertext).columns (.ciphertext name) =
                  material.columns (.ciphertext name) :=
                Function.update_of_ne (fun h => hsame (MaterialColumn.ciphertext.inj h)) _ _
              rw [hcolumn]
              exact hnew

theorem reencrypted_ok (hfernet : FernetCorrect) {nonces : AuthField → String} {row : EngineAuthMaterial}
    {material : MaterialInstance} (h : reencrypted oldSecretKey secretKey nonces row = .ok material) :
    material.loadedAuthValues = row.columns ∧ ∀ name, Recovers oldSecretKey secretKey row material.columns name := by
  unfold reencrypted at h
  dsimp only at h
  cases hopened : ((authMaterialFields.filter row.isConfigured).mapM fun name =>
      return (name, ← row.getSecret oldSecretKey name) : Except Error (List (AuthField × String))) with
  | error error =>
      rw [hopened] at h
      cases h
  | ok values =>
      rw [hopened] at h
      obtain ⟨hnames, hvalues⟩ := opened_ok hopened
      obtain ⟨hloaded, hrecovers⟩ := closed_ok hfernet hvalues h
      refine ⟨hloaded, fun name => hrecovers name ?_⟩
      cases hconfigured : row.isConfigured name with
      | true =>
          left
          rw [hnames, List.mem_filter]
          exact ⟨by cases name <;> decide, hconfigured⟩
      | false => exact .inr (recovers_of_unconfigured hconfigured)

omit [Fernet] in
/-- A save of an instance that was loaded from the row writes every column of the instance. -/
theorem merge_columns {material : MaterialInstance} {locked : EngineAuthMaterial}
    (h : material.loadedAuthValues = locked.columns) :
    (material.merge (material.submittedFields none) locked).columns = material.columns := by
  funext c
  change (if (material.columns c != material.loadedAuthValues c) = true then material.columns c
    else locked.columns c) = material.columns c
  by_cases hsame : material.columns c = material.loadedAuthValues c
  · rw [hsame, bne_self_eq_false, if_neg Bool.false_ne_true, h]
  · rw [if_pos (bne_iff_ne.mpr hsame)]

/-! ### The table -/

namespace MaterialTable

omit [Fernet] in
theorem lookup_update (rows : List (Nat × EngineAuthMaterial)) (pk other : Nat) (material : EngineAuthMaterial) :
    (rows.map fun entry => if entry.1 = pk then (pk, material) else entry).lookup other =
      if other = pk then (rows.lookup pk).map fun _ => material else rows.lookup other := by
  induction rows with
  | nil => split <;> rfl
  | cons entry rest ih =>
      rw [List.map_cons]
      by_cases hentry : entry.1 = pk
      · subst hentry
        rw [if_pos rfl, List.lookup_cons, List.lookup_cons, List.lookup_cons, ih]
        by_cases hother : other = entry.1
        · subst hother
          simp
        · rw [beq_eq_false_iff_ne.mpr hother]
          simp [hother]
      · rw [if_neg hentry, List.lookup_cons, List.lookup_cons, List.lookup_cons, ih]
        by_cases hother : other = pk
        · subst hother
          rw [beq_eq_false_iff_ne.mpr (Ne.symm hentry)]
        · rw [if_neg hother, if_neg hother]

omit [Fernet] in
theorem row?_update (table : MaterialTable) (pk other : Nat) (material : EngineAuthMaterial) :
    (table.update pk material).row? other =
      if other = pk then (table.row? pk).map fun _ => material else table.row? other :=
  lookup_update table.rows pk other material

omit [Fernet] in
theorem row?_eq_some_iff (table : MaterialTable) (pk : Nat) (row : EngineAuthMaterial) :
    table.row? pk = some row ↔ (pk, row) ∈ table.rows := by
  have hlookup : ∀ rows : List (Nat × EngineAuthMaterial), (rows.map Prod.fst).Nodup →
      (rows.lookup pk = some row ↔ (pk, row) ∈ rows) := by
    intro rows
    induction rows with
    | nil => intro _; simp
    | cons entry rest ih =>
        intro hdistinct
        rw [List.map_cons, List.nodup_cons] at hdistinct
        rw [List.lookup_cons, List.mem_cons]
        by_cases hpk : pk = entry.1
        · subst hpk
          simp only [beq_self_eq_true]
          constructor
          · intro h
            exact .inl (Prod.ext rfl (Option.some.inj h).symm)
          · rintro (h | h)
            · rw [← h]
            · exact absurd (List.mem_map_of_mem (f := Prod.fst) h) hdistinct.1
        · rw [beq_eq_false_iff_ne.mpr hpk]
          constructor
          · intro h
            exact .inr ((ih hdistinct.2).mp h)
          · rintro (h | h)
            · exact absurd (congrArg Prod.fst h) hpk
            · exact (ih hdistinct.2).mpr h
  exact hlookup table.rows table.distinct

end MaterialTable

/-! ### The loop -/

variable {answers : DatabaseAnswers} {nonces : Nat → AuthField → String}

/-- The row under a key after a run that closed it anew. -/
def RecoversRow (oldSecretKey secretKey : String) (after : MaterialTable) (entry : Nat × EngineAuthMaterial) : Prop :=
  ∃ row, after.row? entry.1 = some row ∧ ∀ name, Recovers oldSecretKey secretKey entry.2 row.columns name

omit [Fernet] in
theorem saveMaterial_ok {table after : MaterialTable} {pk : Nat} {material : MaterialInstance}
    (h : saveMaterial answers pk material table = (.ok (), after)) :
    ∃ locked, table.row? pk = some locked ∧
      after = table.update pk (material.merge (material.submittedFields none) locked) := by
  obtain ⟨_, t, hanswer, hread⟩ := Prog.bind_ok h
  obtain rfl : table = t := (Prod.mk.inj hanswer).2
  obtain ⟨u, v, hget, hwrite⟩ := Prog.bind_ok hread
  obtain ⟨rfl, rfl⟩ := Prog.get_ok hget
  cases hrow : v.row? pk with
  | none =>
      rw [hrow] at hwrite
      exact absurd hwrite Prog.throw_ok
  | some locked =>
      rw [hrow] at hwrite
      exact ⟨locked, rfl, (Prod.mk.inj hwrite).2.symm⟩

theorem reencrypt_ok (hfernet : FernetCorrect) {table after : MaterialTable} {entry : Nat × EngineAuthMaterial}
    (hrow : table.row? entry.1 = some entry.2)
    (h : EngineAuthMaterial.reencrypt answers oldSecretKey secretKey nonces entry table = (.ok (), after)) :
    RecoversRow oldSecretKey secretKey after entry ∧ ∀ pk, pk ≠ entry.1 → after.row? pk = table.row? pk := by
  obtain ⟨material, t, hclosed, hsave⟩ := Prog.bind_ok h
  obtain ⟨hmaterial, rfl⟩ := Prod.mk.inj hclosed
  obtain ⟨locked, hlocked, rfl⟩ := saveMaterial_ok hsave
  obtain rfl : entry.2 = locked := Option.some.inj (hrow.symm.trans hlocked)
  obtain ⟨hloaded, hrecovers⟩ := reencrypted_ok hfernet hmaterial
  constructor
  · refine ⟨_, by rw [MaterialTable.row?_update, if_pos rfl, hrow, Option.map_some], fun name => ?_⟩
    rw [merge_columns hloaded]
    exact hrecovers name
  · intro pk hpk
    rw [MaterialTable.row?_update, if_neg hpk]

/-- The loop, over rows that the table still has as they were read. -/
theorem forM_reencrypt_ok (hfernet : FernetCorrect) {rows : List (Nat × EngineAuthMaterial)}
    (hdistinct : (rows.map Prod.fst).Nodup) {table after : MaterialTable}
    (hrows : ∀ entry ∈ rows, table.row? entry.1 = some entry.2)
    (h : rows.forM (EngineAuthMaterial.reencrypt answers oldSecretKey secretKey nonces) table = (.ok (), after)) :
    (∀ entry ∈ rows, RecoversRow oldSecretKey secretKey after entry) ∧
      ∀ pk, pk ∉ rows.map Prod.fst → after.row? pk = table.row? pk := by
  induction rows generalizing table with
  | nil =>
      obtain ⟨-, rfl⟩ := Prog.pure_ok h
      exact ⟨nofun, fun _ _ => rfl⟩
  | cons entry rest ih =>
      rw [List.map_cons, List.nodup_cons] at hdistinct
      obtain ⟨_, t, hfirst, hrest⟩ := Prog.bind_ok h
      obtain ⟨hentry, hothers⟩ := reencrypt_ok hfernet (hrows entry List.mem_cons_self) hfirst
      have hkeep : ∀ e ∈ rest, t.row? e.1 = some e.2 := by
        intro e he
        have hne : e.1 ≠ entry.1 := fun hsame => hdistinct.1 (hsame ▸ List.mem_map_of_mem he)
        rw [hothers e.1 hne]
        exact hrows e (List.mem_cons_of_mem _ he)
      obtain ⟨hrecovers, hrestore⟩ := ih hdistinct.2 hkeep hrest
      constructor
      · intro e he
        rcases List.mem_cons.mp he with rfl | he
        · obtain ⟨row, hrow, hnames⟩ := hentry
          exact ⟨row, by rw [hrestore _ hdistinct.1, hrow], hnames⟩
        · exact hrecovers e he
      · intro pk hpk
        rw [List.map_cons, List.mem_cons, not_or] at hpk
        rw [hrestore pk hpk.2, hothers pk hpk.1]

/-! ### The transaction -/

omit [Fernet] in
/-- A block that is left by an exception, its own or the commit's, has changed nothing. -/
theorem inTransaction_run {α : Type} (body : Command α) (table : MaterialTable) :
    (∃ a after, body table = (.ok a, after) ∧ inTransaction answers body table = (.ok a, after)) ∨
      ∃ error, inTransaction answers body table = (.error error, table) := by
  unfold inTransaction
  rw [Prog.bind_run_ok (Prog.get_run table), Prog.bind_run_ok (Prog.attempt_run _ table)]
  cases hbody : body table with
  | mk outcome after =>
      cases outcome with
      | error error =>
          rw [Prog.bind_run_error hbody]
          exact .inr ⟨error, rfl⟩
      | ok a =>
          rw [Prog.bind_run_ok hbody]
          cases hcommit : answers.commit with
          | error error =>
              rw [Prog.bind_run_error (Prog.resume_run _ _)]
              exact .inr ⟨error, rfl⟩
          | ok u => exact .inl ⟨a, after, rfl, rfl⟩

/-- A run of the command: its transaction committed, or nothing has changed. -/
theorem reencryptCommand_run (oldSecretKey secretKey : String) (table : MaterialTable) :
    (∃ count after, reencryptCommand answers oldSecretKey secretKey nonces table = (.ok count, after) ∧
        table.rows.forM (EngineAuthMaterial.reencrypt answers oldSecretKey secretKey nonces) table =
          (.ok (), after)) ∨
      ∃ error, reencryptCommand answers oldSecretKey secretKey nonces table = (.error error, table) := by
  unfold reencryptCommand
  rw [Prog.bind_run_ok (Prog.attempt_run _ table)]
  rcases @inTransaction_run answers _ (do
      Prog.resume answers.select
      let rows := (← get).rows
      rows.forM (EngineAuthMaterial.reencrypt answers oldSecretKey secretKey nonces)
      return rows.length) table with ⟨count, after, hbody, hrun⟩ | ⟨error, hrun⟩
  · rw [hrun]
    refine .inl ⟨count, after, rfl, ?_⟩
    obtain ⟨_, t, hselect, hread⟩ := Prog.bind_ok hbody
    obtain rfl : table = t := (Prod.mk.inj hselect).2
    obtain ⟨u, v, hget, hloop⟩ := Prog.bind_ok hread
    obtain ⟨rfl, rfl⟩ := Prog.get_ok hget
    obtain ⟨_, w, hrows, hreturn⟩ := Prog.bind_ok hloop
    obtain ⟨-, rfl⟩ := Prog.pure_ok hreturn
    exact hrows
  · rw [hrun]
    right
    dsimp only
    split
    · exact ⟨_, rfl⟩
    · exact ⟨_, rfl⟩

/-- The command opens and closes every field of every row, or leaves the table as it is; it fails if a single field
does not open. -/
theorem reencryption_all_or_nothing (hfernet : FernetCorrect) (answers : DatabaseAnswers)
    (nonces : Nat → AuthField → String) (oldSecretKey secretKey : String) (table : MaterialTable) :
    (∀ count after, reencryptCommand answers oldSecretKey secretKey nonces table = (.ok count, after) →
      (∀ pk, after.row? pk = none ↔ table.row? pk = none) ∧
        ∀ pk row, table.row? pk = some row → ∃ row', after.row? pk = some row' ∧
          ∀ name, ∃ plaintext, row.getSecret oldSecretKey name = .ok plaintext ∧
            row'.getSecret secretKey name = .ok plaintext) ∧
      (∀ error after, reencryptCommand answers oldSecretKey secretKey nonces table = (.error error, after) →
        after = table) ∧
      ∀ pk row name error, table.row? pk = some row → row.getSecret oldSecretKey name = .error error →
        ∃ raised, (reencryptCommand answers oldSecretKey secretKey nonces table).1 = .error raised := by
  rcases @reencryptCommand_run _ answers nonces oldSecretKey secretKey table with
    ⟨count, after, hrun, hloop⟩ | ⟨error, hrun⟩
  · have hrows : ∀ entry ∈ table.rows, table.row? entry.1 = some entry.2 :=
      fun entry hentry => (table.row?_eq_some_iff entry.1 entry.2).mpr hentry
    obtain ⟨hrecovers, hothers⟩ := forM_reencrypt_ok hfernet table.distinct hrows hloop
    have hall : ∀ pk row, table.row? pk = some row → RecoversRow oldSecretKey secretKey after (pk, row) :=
      fun pk row hrow => hrecovers (pk, row) ((table.row?_eq_some_iff pk row).mp hrow)
    refine ⟨fun count' after' hrun' => ?_, fun error after' hrun' => ?_, fun pk row name error hrow herror => ?_⟩
    · obtain ⟨-, rfl⟩ := Prod.mk.inj (hrun.symm.trans hrun')
      refine ⟨fun pk => ?_, fun pk row hrow => hall pk row hrow⟩
      cases hrow : table.row? pk with
      | some row =>
          obtain ⟨row', hrow', -⟩ := hall pk row hrow
          rw [hrow']
          exact ⟨nofun, nofun⟩
      | none =>
          have hkey : pk ∉ table.rows.map Prod.fst := by
            intro hmem
            obtain ⟨entry, hentry, rfl⟩ := List.mem_map.mp hmem
            rw [hrows entry hentry] at hrow
            cases hrow
          rw [hothers pk hkey, hrow]
    · rw [hrun] at hrun'
      cases hrun'
    · obtain ⟨row', -, hnames⟩ := hall pk row hrow
      obtain ⟨plaintext, hopened, -⟩ := hnames name
      rw [hopened] at herror
      cases herror
  · refine ⟨fun count after hrun' => ?_, fun error' after hrun' => ?_, fun _ _ _ _ _ _ => ?_⟩
    · rw [hrun] at hrun'
      cases hrun'
    · rw [hrun] at hrun'
      exact (Prod.mk.inj hrun').2.symm
    · exact ⟨error, by rw [hrun]⟩

/-! ### Two rows -/

namespace Sample

/-- A closing that names its key. -/
@[reducible] def fernet : Fernet where
  encrypt secretKey _ plaintext := secretKey ++ plaintext
  decrypt secretKey token :=
    if Text.startsWith token secretKey then some (String.ofList (token.toList.drop secretKey.toList.length)) else none

omit [Fernet] in
theorem fernet_correct : @FernetCorrect fernet := by
  intro secretKey _ plaintext
  change (if Text.startsWith (secretKey ++ plaintext) secretKey then
    some (String.ofList ((secretKey ++ plaintext).toList.drop secretKey.toList.length)) else none) = some plaintext
  rw [startsWith_append, if_pos rfl, String.toList_append, List.drop_left, String.ofList_toList]

/-- A row with a token and no other field. -/
def withToken (ciphertext : String) : EngineAuthMaterial where
  columns
    | .engine => some 1
    | .policy => none
    | .cluster => none
    | .ciphertext .token => ciphertext
    | .ciphertext _ => ""
  revision := 1

def materials : MaterialTable where
  rows := [(1, withToken "v1:oldfirst"), (2, withToken "v1:oldsecond")]
  distinct := by decide

def answering : DatabaseAnswers := ⟨.ok (), fun _ => .ok (), .ok ()⟩

end Sample

omit [Fernet] in
theorem reencryption_of_two_rows :
    ∃ after, @reencryptCommand Sample.fernet Sample.answering "old" "new" (fun _ _ => "") Sample.materials =
        (.ok 2, after) ∧
      ∀ pk row, Sample.materials.row? pk = some row → ∃ row', after.row? pk = some row' ∧
        ∀ name, ∃ plaintext, @EngineAuthMaterial.getSecret Sample.fernet row "old" name = .ok plaintext ∧
          @EngineAuthMaterial.getSecret Sample.fernet row' "new" name = .ok plaintext := by
  have hcount : ((@reencryptCommand Sample.fernet Sample.answering "old" "new" (fun _ _ => "")
      Sample.materials).1.toOption = some 2) := by decide +kernel
  have hall := @reencryption_all_or_nothing Sample.fernet Sample.fernet_correct Sample.answering (fun _ _ => "") "old"
    "new" Sample.materials
  cases hrun : @reencryptCommand Sample.fernet Sample.answering "old" "new" (fun _ _ => "") Sample.materials with
  | mk outcome after =>
      rw [hrun] at hcount
      cases outcome with
      | error error => cases hcount
      | ok count =>
          obtain rfl : count = 2 := Option.some.inj hcount
          exact ⟨after, rfl, (hall.1 2 after hrun).2⟩

end NetboxOpenbao
