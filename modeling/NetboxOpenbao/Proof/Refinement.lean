import NetboxOpenbao.Proof.Served
import NetboxOpenbao.Effect.Refinement

/-!
# The material of a credential as a register

What rotation, staging, promotion and discard are for: a live value, and at most one candidate beside it. The row
keeps two version numbers for that and the server any number of versions, written and deleted by calls that fail
halfway. The calls that commit are moves of the register, and everything else leaves it alone.
-/

namespace NetboxOpenbao

open Effect Effect.Prog

/-- The row and the secret at its place stand for the register: the live version reads as its value, and the staged
one, another version, as its candidate. -/
structure Shows (row : Credential) (secret : Secret Payload) (r : Register Payload) : Prop where
  live : ∃ v, row.liveKvVersion = some v ∧ secret.Keeps v r.live
  staged : ∀ v, row.stagedKvVersion = some v →
    row.liveKvVersion ≠ some v ∧ ∃ value, r.staged = some value ∧ secret.Keeps v value
  unstaged : row.stagedKvVersion = none → r.staged = none

section

variable {row : Credential} {secret : Secret Payload} {r : Register Payload}

/-- A version nobody points at shows nowhere. -/
theorem Shows.push (h : Shows row secret r) (data : Payload) : Shows row (secret.push data) r where
  live := by
    obtain ⟨v, hv, hkeeps⟩ := h.live
    exact ⟨v, hv, hkeeps.push data⟩
  staged v hv := by
    obtain ⟨hne, value, hvalue, hkeeps⟩ := h.staged v hv
    exact ⟨hne, value, hvalue, hkeeps.push data⟩
  unstaged := h.unstaged

theorem Shows.compensated (h : Shows row secret r) (data : Payload) :
    Shows row ((secret.push data).delete (secret.current + 1)) r where
  live := by
    obtain ⟨v, hv, hkeeps⟩ := h.live
    exact ⟨v, hv, (hkeeps.push data).delete (Nat.ne_of_lt (Nat.lt_succ_of_le hkeeps.le))⟩
  staged v hv := by
    obtain ⟨hne, value, hvalue, hkeeps⟩ := h.staged v hv
    exact ⟨hne, value, hvalue, (hkeeps.push data).delete (Nat.ne_of_lt (Nat.lt_succ_of_le hkeeps.le))⟩
  unstaged := h.unstaged

theorem Shows.replaced {row' : Credential} {data : Payload} (hlive : row'.liveKvVersion = some (secret.current + 1))
    (hstaged : row'.stagedKvVersion = none) : Shows row' (secret.push data) ⟨data, none⟩ where
  live := ⟨_, hlive, secret.keeps_push_new data⟩
  staged v hv := by
    rw [hstaged] at hv
    cases hv
  unstaged _ := rfl

theorem Shows.stage {row' : Credential} {data : Payload} (h : Shows row secret r)
    (hlive : row'.liveKvVersion = row.liveKvVersion) (hstaged : row'.stagedKvVersion = some (secret.current + 1)) :
    Shows row' (secret.push data) ⟨r.live, some data⟩ where
  live := by
    obtain ⟨v, hv, hkeeps⟩ := h.live
    exact ⟨v, hlive.trans hv, hkeeps.push data⟩
  staged v hv := by
    obtain rfl := Option.some.inj (hstaged.symm.trans hv)
    refine ⟨fun hsame => ?_, data, rfl, secret.keeps_push_new data⟩
    obtain ⟨w, hw, hkeeps⟩ := h.live
    rw [hlive, hw] at hsame
    have hle := hkeeps.le
    rw [Option.some.inj hsame] at hle
    omega
  unstaged hnone := by
    rw [hstaged] at hnone
    cases hnone

theorem Shows.promote {row' : Credential} {v : Nat} (h : Shows row secret r) (hv : row.stagedKvVersion = some v)
    (hlive : row'.liveKvVersion = some v) (hstaged : row'.stagedKvVersion = none) :
    ∃ value, r.staged = some value ∧ Shows row' secret ⟨value, none⟩ := by
  obtain ⟨-, value, hvalue, hkeeps⟩ := h.staged v hv
  refine ⟨value, hvalue, ⟨v, hlive, hkeeps⟩, fun w hw => ?_, fun _ => rfl⟩
  rw [hstaged] at hw
  cases hw

/-- The discarded version is not the live one, so deleting it hides nothing. -/
theorem Shows.discard {row' : Credential} {secret' : Secret Payload} {v : Nat} (h : Shows row secret r)
    (hv : row.stagedKvVersion = some v) (hsecret : secret' = secret ∨ secret' = secret.delete v)
    (hlive : row'.liveKvVersion = row.liveKvVersion) (hstaged : row'.stagedKvVersion = none) :
    ∃ value, r.staged = some value ∧ Shows row' secret' ⟨r.live, none⟩ := by
  obtain ⟨hne, value, hvalue, -⟩ := h.staged v hv
  refine ⟨value, hvalue, ?_, fun w hw => ?_, fun _ => rfl⟩
  · obtain ⟨w, hw, hkeeps⟩ := h.live
    refine ⟨w, hlive.trans hw, ?_⟩
    rcases hsecret with rfl | rfl
    · exact hkeeps
    · refine hkeeps.delete fun heq => hne ?_
      rw [hw, heq]
  · rw [hstaged] at hw
    cases hw

end

section

variable [library : MaterialLibrary]

/-- The move an operation asks for: its material as it would be stored. -/
def Operation.move (config : Config) (credentialType : String) : Operation → Option (Register.Move Payload)
  | .rotate _ payload .. => (prepareMaterial config credentialType payload).toOption.map fun out => .replace out.1
  | .stage _ payload .. => (prepareMaterial config credentialType payload).toOption.map fun out => .stage out.1
  | .promote .. => some .promote
  | .discard .. => some .discard
  | .create .. | .update .. => none

/-- A call counts as the move it asks for if it changed the row, and as nothing otherwise. -/
def Site.CountsAs (pk : Nat) (s : Site) (c : Call) : Option (Register.Move Payload) → Prop
  | none => s.Idles c
  | some m => ¬ s.Idles c ∧ ∃ row, s.db.credentials pk = some row ∧
      c.operation.move s.db.config row.credentialType = some m

theorem Commits.shows_stored {config : Config} {time : Time} {row row' : Credential} {operation : Operation}
    {req : WriteRequest} {secret : Secret Payload} {r : Register Payload}
    (h : Commits config time row operation (some (req, secret.current + 1)) row') (hmaterial : operation.Material)
    (hshows : Shows row secret r) :
    ∃ m r', operation.move config row.credentialType = some m ∧ r.move m = some r' ∧
      Shows row' (secret.push req.data) r' := by
  cases h with
  | @rotate _ _ data _ _ _ _ _ hprepared =>
      refine ⟨.replace data, ⟨data, none⟩, ?_, rfl, ?_⟩
      · simp [Operation.move, hprepared.material, Except.toOption]
      · rw [written_promote]
        exact .replaced rfl rfl
  | @stage _ _ data _ _ _ _ _ hstaged hprepared =>
      refine ⟨.stage data, ⟨r.live, some data⟩, ?_, Register.move_stage (hshows.unstaged hstaged) data, ?_⟩
      · simp [Operation.move, hprepared.material, Except.toOption]
      · obtain ⟨v, hv, -⟩ := hshows.live
        rw [pinned_of_live (by simp [hv]), written_stage]
        exact hshows.stage rfl rfl
  | update _ _ => exact hmaterial.elim

theorem Commits.shows_repointed {config : Config} {time : Time} {row row' : Credential} {operation : Operation}
    {secret secret' : Secret Payload} {r : Register Payload} (h : Commits config time row operation none row')
    (hmaterial : operation.Material) (hshows : Shows row secret r)
    (hsecret : secret' = secret ∨ operation.Discards ∧ ∃ v, row.stagedKvVersion = some v ∧ secret' = secret.delete v) :
    ∃ m r', operation.move config row.credentialType = some m ∧ r.move m = some r' ∧ Shows row' secret' r' := by
  cases h with
  | promote hstaged =>
      obtain ⟨value, hvalue, hshows'⟩ :
          ∃ value, r.staged = some value ∧ Shows (promoted row time).1 secret ⟨value, none⟩ :=
        hshows.promote hstaged hstaged rfl
      have hsame : secret' = secret := by
        rcases hsecret with hsame | ⟨hdiscards, -⟩
        · exact hsame
        · exact hdiscards.elim
      exact ⟨.promote, _, rfl, Register.move_promote hvalue, hsame ▸ hshows'⟩
  | @discard _ _ _ staged hstaged =>
      have hdeleted : secret' = secret ∨ secret' = secret.delete staged := by
        rcases hsecret with hsame | ⟨-, v, hv, hdelete⟩
        · exact .inl hsame
        · obtain rfl := Option.some.inj (hstaged.symm.trans hv)
          exact .inr hdelete
      obtain ⟨value, hvalue, hshows'⟩ :
          ∃ value, r.staged = some value ∧ Shows (discarded row).1 secret' ⟨r.live, none⟩ :=
        hshows.discard hstaged hdeleted rfl rfl
      exact ⟨.discard, _, rfl, Register.move_discard hvalue, hshows'⟩
  | edit _ => exact hmaterial.elim

omit library in
/-- The row numbered `pk` lives at `l`, its tier and the engine of `l` are there, and it stands for the register. -/
def Site.StandsFor (pk : Nat) (l : Location) (b : Backend) (s : Site) (r : Register Payload) : Prop :=
  ∃ row, s.Row pk row ∧ row.location = l ∧ s.Furnished row b ∧ Shows row (s.ext.store l).secret r

/-- One secluded call: it leaves the row and what the register holds, or it makes its move. -/
theorem Site.StandsFor.step {pk : Nat} {l : Location} {b : Backend} (hb : b.kvVersion = 2) (s : Site) (c : Call)
    (r : Register Payload) (h : s.StandsFor pk l b r) (hc : s.Secluded pk l c) :
    (s.CountsAs pk c none ∧ (s.step c).StandsFor pk l b r) ∨
      ∃ m r', s.CountsAs pk c (some m) ∧ r.move m = some r' ∧ (s.step c).StandsFor pk l b r' := by
  obtain ⟨row, hrow, rfl, hfurnished, hshows⟩ := h
  obtain ⟨hconfig, taken, gone, left, row', hleft, hrow', hlocation, hpolicy, houtcome, -, -, hkept, hput⟩ :=
    Site.FurnishedAt.call hrow rfl hfurnished hc
  have hstays : ∀ r', Shows row' ((s.step c).ext.store row.location).secret r' →
      (s.step c).StandsFor pk row.location b r' := by
    intro r' hshows'
    obtain ⟨found, hfound, hat, hfurnished'⟩ := hfurnished.stays hconfig hrow' hlocation hpolicy
    obtain rfl := Option.some.inj (hrow'.found.symm.trans hfound.found)
    exact ⟨row', hfound, hat, hfurnished', hshows'⟩
  have hidle : left = none → Shows row ((s.step c).ext.store row.location).secret r →
      s.CountsAs pk c none ∧ (s.step c).StandsFor pk row.location b r := by
    intro hnone hsame
    obtain ⟨hidles, hrowSame⟩ := hkept hnone
    exact ⟨hidles, hstays r (hrowSame ▸ hsame)⟩
  have hmoves : ∀ m r', row' ≠ row → left = some row' →
      c.operation.move s.db.config row.credentialType = some m → r.move m = some r' →
      Shows row' ((s.step c).ext.store row.location).secret r' →
      s.CountsAs pk c (some m) ∧ r.move m = some r' ∧ (s.step c).StandsFor pk row.location b r' := by
    intro m r' hne hsome hasks hallows hshows'
    exact ⟨⟨(hput row' hsome).2 hne, row, hrow.found, hasks⟩, hallows, hstays r' hshows'⟩
  generalize hcell : (s.step c).ext.store row.location = cell' at houtcome hstays hidle hmoves
  cases houtcome with
  | untouched => exact .inl (hidle rfl hshows)
  | orphaned _ hwrite =>
      obtain ⟨-, -, rfl⟩ := (Backend.writeCell_v2 hb).mp hwrite
      exact .inl (hidle rfl (hshows.push _))
  | compensated _ hwrite hdelete =>
      obtain ⟨-, rfl, rfl⟩ := (Backend.writeCell_v2 hb).mp hwrite
      rw [Backend.deleteCell_v2 hb] at hdelete
      obtain rfl := Except.ok.inj hdelete
      exact .inl (hidle rfl (hshows.compensated _))
  | stored hreq hcommits hwrite =>
      obtain ⟨hcas, rfl, rfl⟩ := (Backend.writeCell_v2 hb).mp hwrite
      rw [(hreq.material hc.1.2).2] at hcas
      obtain ⟨rfl, -⟩ := hput _ rfl
      obtain ⟨-, hversion, -⟩ := hcommits.stored_cases hc.1.2
      have hne : row' ≠ row := by
        intro heq
        rw [heq] at hversion
        have hnext := hcas _ hversion
        omega
      obtain ⟨m, r', hasks, hallows, hshows'⟩ := hcommits.shows_stored hc.1.2 hshows
      exact .inr ⟨m, r', hmoves m r' hne rfl hasks hallows hshows'⟩
  | repointed hcommits =>
      obtain ⟨rfl, -⟩ := hput _ rfl
      obtain ⟨-, hne, -⟩ := hcommits.repointed_cases hc.1.2
      obtain ⟨m, r', hasks, hallows, hshows'⟩ := hcommits.shows_repointed hc.1.2 hshows (.inl rfl)
      exact .inr ⟨m, r', hmoves m r' hne rfl hasks hallows hshows'⟩
  | @cleaned _ _ _ _ staged _ hdiscard hstaged hcommits hdelete =>
      rw [Backend.deleteCell_v2 hb] at hdelete
      obtain rfl := Except.ok.inj hdelete
      obtain ⟨rfl, -⟩ := hput _ rfl
      obtain ⟨-, hne, -⟩ := hcommits.repointed_cases hc.1.2
      have hdiscards : c.operation.Discards := by
        rw [hdiscard]
        trivial
      obtain ⟨m, r', hasks, hallows, hshows'⟩ :=
        hcommits.shows_repointed hc.1.2 hshows (.inr ⟨hdiscards, staged, hstaged, rfl⟩)
      exact .inr ⟨m, r', hmoves m r' hne rfl hasks hallows hshows'⟩

omit library in
theorem Site.StandsFor.reveal {pk : Nat} {l : Location} {b : Backend} (hb : b.kvVersion = 2) {s : Site}
    {r : Register Payload} (h : s.StandsFor pk l b r) : ∃ row policy, s.db.credentials pk = some row ∧
      s.db.config.policies row.policyId = some policy ∧ ∀ user request reason,
        s.reveal row user request reason = (gateIn s.db.config row user >>= fun _ =>
          reasonIn policy reason >>= fun _ => .ok (r.live, revealTtlOf s.db.config policy)) := by
  obtain ⟨row, hrow, rfl, hfurnished, hshows⟩ := h
  obtain ⟨policy, hpolicy⟩ := Option.isSome_iff_exists.mp hfurnished.policy
  obtain ⟨v, hv, hkeeps⟩ := hshows.live
  refine ⟨row, policy, hrow.found, hpolicy, fun user request reason => ?_⟩
  rw [Site.reveal_eq, revealed_eq hpolicy, hfurnished.served, hv, (Backend.readCell_v2 hb).mpr hkeeps.read]
  rfl

/-- Any sequence of rotations, stagings, promotions and discards of a credential on KV v2 whose place nobody else
comes near, each failing at any point: the calls that changed the row are moves of a register with one live value
and at most one candidate, each allowed when its turn came. What they leave stands for the register they lead to,
every reveal serves its live value, and that value was live at the start, was rotated in, or was a candidate that
was promoted before anything else changed the row. -/
theorem material_calls_replay_on_register (pk : Nat) (s : Site) (row : Credential) (r : Register Payload)
    (calls : List Call) (hrow : s.Row pk row) (hpolicy : (s.db.config.policies row.policyId).isSome = true)
    (hengine : (s.db.config.engines row.engineId).isSome = true) (hkv : s.db.config.Kv2 row.engineId)
    (hshows : Shows row (s.ext.store row.location).secret r)
    (hcalls : Runs.Along Site.step (Site.Secluded pk row.location) s calls) :
    ∃ moves r', Runs.Traced Site.step (Site.CountsAs pk) s calls moves ∧ replay Register.move r moves = some r' ∧
      Register.Origin r moves r'.live ∧ ∃ row' policy,
        (Runs.final Site.step s calls).db.credentials pk = some row' ∧
        Shows row' ((Runs.final Site.step s calls).ext.store row.location).secret r' ∧
        ∀ user request reason, (Runs.final Site.step s calls).reveal row' user request reason =
          (gateIn (Runs.final Site.step s calls).db.config row' user >>= fun _ => reasonIn policy reason >>= fun _ =>
            .ok (r'.live, revealTtlOf (Runs.final Site.step s calls).db.config policy)) := by
  obtain ⟨engine, hfound⟩ := Option.isSome_iff_exists.mp hengine
  have hb : (⟨row.engineId, engine.slug, engine.backend, engine.kvVersion⟩ : Backend).kvVersion = 2 :=
    hkv engine hfound
  have hstart : s.StandsFor pk row.location ⟨row.engineId, engine.slug, engine.backend, engine.kvVersion⟩ r :=
    ⟨row, hrow, rfl, ⟨hpolicy, ⟨engine, hfound, rfl⟩, rfl⟩, hshows⟩
  obtain ⟨moves, r', htraced, hreplay, hend⟩ :=
    Runs.refines_of_step (fun s c r h hc => Site.StandsFor.step hb s c r h hc) hstart hcalls
  refine ⟨moves, r', htraced, hreplay, Register.origin_of_replay hreplay, ?_⟩
  obtain ⟨row', policy, hfinal, -, hreveal⟩ := hend.reveal hb
  obtain ⟨found, hfinal', -, -, hshows'⟩ := hend
  obtain rfl := Option.some.inj (hfinal.symm.trans hfinal'.found)
  exact ⟨row', policy, hfinal, hshows', hreveal⟩

end

namespace Sample

theorem promotedShelf_shows : Shows promoted (promotedShelf.ext.store promoted.location).secret
    ⟨[("password", .str "first")], none⟩ where
  live := ⟨1, rfl, Nat.one_pos, rfl⟩
  staged _ h := by cases h
  unstaged _ := rfl

end Sample

theorem material_calls_replay_on_register_staged :
    let s := Runs.final (@Site.step Sample.library) Sample.promotedShelf [Sample.rotatePromoted, Sample.stagePromoted]
    ∃ moves r', Runs.Traced (@Site.step Sample.library) (@Site.CountsAs Sample.library 1) Sample.promotedShelf
        [Sample.rotatePromoted, Sample.stagePromoted] moves ∧
      replay Register.move ⟨[("password", .str "first")], none⟩ moves = some r' ∧
      Register.Origin ⟨[("password", .str "first")], none⟩ moves r'.live ∧ ∃ row' policy,
        s.db.credentials 1 = some row' ∧ Shows row' (s.ext.store Sample.promoted.location).secret r' ∧
        ∀ user request reason, s.reveal row' user request reason =
          (gateIn s.db.config row' user >>= fun _ => reasonIn policy reason >>= fun _ =>
            .ok (r'.live, revealTtlOf s.db.config policy)) :=
  @material_calls_replay_on_register Sample.library 1 Sample.promotedShelf
    Sample.promoted ⟨[("password", .str "first")], none⟩ [Sample.rotatePromoted, Sample.stagePromoted]
    ⟨rfl, rfl, by decide⟩ (by decide) (by decide) (Sample.config_kv2 1) Sample.promotedShelf_shows
    ⟨⟨⟨.rotate rfl _ _ _, trivial⟩, Sample.noActs_undisturbed _⟩,
      ⟨⟨.stage rfl _ _ _, trivial⟩, Sample.noActs_undisturbed _⟩, trivial⟩

end NetboxOpenbao
