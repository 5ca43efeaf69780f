import Mathlib.Tactic.ByContra
import NetboxOpenbao.AuthSessions
import NetboxOpenbao.Effect.Runs

/-!
# Tokens and TLS sessions

The keys of the caches carry the revision, so what is found under a key is of that revision, whenever it was put there.
A client carries none: it is of the revision of its backend's object only as long as nobody but the backend's own calls
moves the object on, and `health` trusts the object without asking.
-/

namespace NetboxOpenbao

namespace AuthSessions

open Effect

/-! ### What is kept is what its key says -/

/-- Whatever `row` holds is no older than the floor. Where the floor is that nothing is left, there is nothing. -/
def Reaches (floor row : Option Nat) : Prop := ∀ r, row = some r → ∃ R, floor = some R ∧ R ≤ r

theorem Reaches.refl (row : Option Nat) : Reaches row row := fun r hr => ⟨r, hr, Nat.le_refl r⟩

theorem Reaches.trans {a b c : Option Nat} (h : Reaches a b) (h' : Reaches b c) : Reaches a c := by
  intro r hr
  obtain ⟨middle, hmiddle, hle⟩ := h' r hr
  obtain ⟨R, hR, hle'⟩ := h middle hmiddle
  exact ⟨R, hR, Nat.le_trans hle' hle⟩

theorem Reaches.none (floor : Option Nat) : Reaches floor none := nofun

structure Shared.Sound (shared : Shared) : Prop where
  tokens : ∀ r token, shared.tokens r = some token → token = r
  sessions : ∀ key r, shared.sessions key = some (some r) → key.identity = .revision r

namespace Shared

variable {shared : Shared}

theorem Sound.putSession (h : shared.Sound) {key : SessionKey} {entry : Option (Option Nat)}
    (hentry : ∀ r, entry = some (some r) → key.identity = .revision r) :
    Sound { shared with sessions := Function.update shared.sessions key entry } := by
  refine ⟨h.tokens, fun other r hother => ?_⟩
  dsimp only at hother
  by_cases hsame : other = key
  · rw [hsame, Function.update_self] at hother
    rw [hsame]
    exact hentry r hother
  · rw [Function.update_of_ne hsame] at hother
    exact h.sessions other r hother

theorem Sound.putToken (h : shared.Sound) {r : Nat} {token : Option Nat} (htoken : ∀ t, token = some t → t = r) :
    Sound { shared with tokens := Function.update shared.tokens r token } := by
  refine ⟨fun other t hother => ?_, h.sessions⟩
  dsimp only at hother
  by_cases hsame : other = r
  · rw [hsame, Function.update_self] at hother
    rw [hsame]
    exact htoken t hother
  · rw [Function.update_of_ne hsame] at hother
    exact h.tokens other t hother

theorem Sound.getSession (h : shared.Sound) {key : SessionKey} {origin : Option Nat} {after : Shared}
    (hsession : shared.getSession key = some (origin, after)) :
    after.Sound ∧ ∀ r, origin = some r → key.identity = .revision r := by
  unfold Shared.getSession at hsession
  cases hpooled : shared.sessions key with
  | some pooled =>
      rw [hpooled] at hsession
      cases hsession
      exact ⟨h, fun r hr => h.sessions key r (hr ▸ hpooled)⟩
  | none =>
      rw [hpooled] at hsession
      cases hidentity : key.identity with
      | missing =>
          rw [hidentity] at hsession
          cases hsession
      | unnamed =>
          rw [hidentity] at hsession
          cases hsession
          exact ⟨h.putSession nofun, nofun⟩
      | revision revision =>
          rw [hidentity] at hsession
          cases hsession
          refine ⟨h.putSession fun r hr => ?_, fun r hr => ?_⟩
          · rw [hidentity, Option.some.inj (Option.some.inj hr)]
          · rw [Option.some.inj hr]

theorem Sound.cacheGet (h : shared.Sound) {revision : Option Nat} {token : Nat}
    (htoken : shared.cacheGet revision = some token) : revision = some token := by
  obtain ⟨r, rfl, hcached⟩ := Option.bind_eq_some_iff.mp htoken
  rw [h.tokens r token hcached]

theorem Sound.cacheSet (h : shared.Sound) {revision token : Option Nat}
    (htoken : ∀ t, token = some t → revision = some t) : (shared.cacheSet revision token).Sound := by
  cases revision with
  | none => exact h
  | some r => exact h.putToken fun t ht => (Option.some.inj (htoken t ht)).symm

theorem Sound.invalidate (h : shared.Sound) (r : Nat) : (shared.invalidate r).Sound := by
  have hdropped : Sound { shared with tokens := Function.update shared.tokens r none } := h.putToken nofun
  refine ⟨hdropped.tokens, fun key origin hkey => ?_⟩
  rw [Shared.invalidate] at hkey
  dsimp only at hkey
  split at hkey
  · cases hkey
  · exact h.sessions key origin hkey

end Shared

theorem sessionKey_identity {engine : SecretEngine} {revision : Option Nat} {r : Nat}
    (h : (sessionKey engine revision).identity = .revision r) : revision = some r := by
  unfold sessionKey at h
  cases revision with
  | none =>
      dsimp only at h
      split at h
      · cases h
      · rw [SessionKey.identity] at h
        split at h
        · cases h
        · cases h
  | some revision =>
      dsimp only at h
      split at h
      · exact congrArg some (Identity.revision.inj h)
      · rw [SessionKey.identity] at h
        split at h
        · exact congrArg some (Identity.revision.inj h)
        · cases h

/-- A direct backend puts a revision in the key only if it logs in with a certificate. -/
theorem sessionKey_certificate {engine : SecretEngine} {revision : Option Nat} {r : Nat}
    (h : (sessionKey engine revision).identity = .revision r) (hdirect : isBroker engine = false) :
    isCertificate engine = true := by
  unfold sessionKey at h
  dsimp only at h
  rw [hdirect, if_neg Bool.false_ne_true] at h
  cases hcertificate : isCertificate engine with
  | true => rfl
  | false =>
      rw [hcertificate, SessionKey.identity, if_neg Bool.false_ne_true] at h
      cases h

/-! ### One call -/

/-- What the client presents is of the given revision. -/
def Client.From (client : Client) (revision : Option Nat) : Prop := ∀ r ∈ client.origins, revision = some r

theorem Client.mem_origins {client : Client} {r : Nat} :
    r ∈ client.origins ↔ client.token = some r ∨ client.session = some r := by
  rw [Client.origins, List.mem_append, Option.mem_toList, Option.mem_toList]

/-- Everything presented is no older than the floor. -/
def NoneStale (floor : Option Nat) (origins : List Nat) : Prop := ∀ r ∈ origins, ∃ R, floor = some R ∧ R ≤ r

theorem Client.From.noneStale {client : Client} {floor revision : Option Nat} (h : client.From revision)
    (hreaches : Reaches floor revision) : NoneStale floor client.origins := fun r hr => hreaches r (h r hr)

section Calls

variable {ι : Type}

/-- What is so of the locals of a backend at any time. -/
structure Locals.Sound (locals : Locals ι) : Prop where
  shared : locals.shared.Sound
  stored : ∀ object, locals.object = some object → object.stored = true
  client : ∀ client, locals.backend.client = some client → client.From locals.revision

/-- What is so where a call is. -/
def Phase.Sound (floor : Option Nat) (locals : Locals ι) : Phase → Prop
  | .refreshing => True
  | .reloading => ∃ r, locals.revision = some r
  | .refreshed => Reaches floor locals.revision
  | .building token => Reaches floor locals.revision ∧ ∀ t, token = some t → locals.revision = some t
  | .login session => Reaches floor locals.revision ∧ ∀ s, session = some s → locals.revision = some s
  | .storing client => Reaches floor locals.revision ∧ client.From locals.revision
  | .requesting client => NoneStale floor client.origins
  | .probing => ∀ r, (sessionKey locals.backend.engine locals.revision).identity = .revision r →
      ∃ R, floor = some R ∧ R ≤ r

/-- A phase is about the revision, and about the engine. -/
theorem Phase.Sound.congr {floor : Option Nat} {locals locals' : Locals ι} {phase : Phase}
    (h : phase.Sound floor locals) (hrevision : locals'.revision = locals.revision)
    (hengine : locals'.backend.engine = locals.backend.engine) : phase.Sound floor locals' := by
  cases phase with
  | refreshing => trivial
  | reloading =>
      rw [Phase.Sound, hrevision]
      exact h
  | refreshed =>
      rw [Phase.Sound, hrevision]
      exact h
  | building token =>
      rw [Phase.Sound, hrevision]
      exact h
  | login session =>
      rw [Phase.Sound, hrevision]
      exact h
  | storing client =>
      rw [Phase.Sound, hrevision]
      exact h
  | requesting client => exact h
  | probing =>
      rw [Phase.Sound, hrevision, hengine]
      exact h

/-- What a step leaves. -/
structure Acted.Sound (floor : Option Nat) (before : Locals ι) (acted : Acted ι) : Prop where
  locals : acted.locals.Sound
  next : ∀ phase, acted.next = some phase → phase.Sound floor acted.locals
  presented : ∀ client, acted.presented = some client → NoneStale floor client.origins
  /-- The object is still the backend's, or the backend has let go of it. -/
  linked : acted.locals.backend.material = before.backend.material ∧ (acted.locals.object = none ↔ before.object = none) ∨
    acted.locals.backend.material = none ∧ acted.locals.object = none

variable {floor row : Option Nat} {locals : Locals ι}

theorem Acted.Sound.ofRaises (h : locals.Sound) : locals.raises.Sound floor locals :=
  ⟨h, nofun, nofun, .inl ⟨rfl, Iff.rfl⟩⟩

theorem Acted.Sound.ofGoes (h : locals.Sound) {phase : Phase} (hphase : phase.Sound floor locals) :
    (locals.goes phase).Sound floor locals :=
  ⟨h, fun _ hnext => Option.some.inj hnext ▸ hphase, nofun, .inl ⟨rfl, Iff.rfl⟩⟩

theorem refresh_sound (h : locals.Sound) (hrow : Reaches floor row) : (locals.refresh row).Sound floor locals := by
  unfold Locals.refresh
  cases hobject : locals.object with
  | none =>
      refine .ofGoes h ?_
      rw [Phase.Sound, Locals.revision, hobject]
      exact Reaches.none floor
  | some object =>
      dsimp only
      rw [h.stored object hobject, Bool.not_true, if_neg Bool.false_ne_true]
      cases row with
      | none => exact ⟨⟨h.shared, nofun, nofun⟩, fun _ hnext => Option.some.inj hnext ▸ nofun, nofun, .inr ⟨rfl, rfl⟩⟩
      | some r =>
          dsimp only
          split
          next hsame =>
            refine .ofGoes h ?_
            rw [Phase.Sound, Locals.revision, hobject, Option.map_some, ← hsame]
            exact hrow
          next =>
            refine .ofGoes h ⟨object.revision, ?_⟩
            rw [Locals.revision, hobject]
            rfl

theorem reload_sound (h : locals.Sound) (hphase : Phase.reloading.Sound floor locals) (hrow : Reaches floor row) :
    (locals.reload row).Sound floor locals := by
  obtain ⟨revision, hrevision⟩ := hphase
  have hobject : locals.object ≠ none := by
    intro hnone
    rw [Locals.revision, hnone] at hrevision
    cases hrevision
  unfold Locals.reload
  cases row with
  | none => exact .ofRaises h
  | some r =>
      refine ⟨⟨h.shared, fun object hobject => ?_, nofun⟩, fun phase hnext => ?_, nofun,
        .inl ⟨rfl, iff_of_false nofun hobject⟩⟩
      · obtain rfl := Option.some.inj hobject
        rfl
      · obtain rfl := Option.some.inj hnext
        exact hrow

theorem lookup_sound (h : locals.Sound) (hphase : Phase.refreshed.Sound floor locals) :
    locals.lookup.Sound floor locals := by
  unfold Locals.lookup
  cases hclient : locals.backend.client with
  | some client => exact .ofGoes h ((h.client client hclient).noneStale hphase)
  | none =>
      dsimp only
      split
      · exact .ofGoes h ⟨hphase, nofun⟩
      · exact .ofGoes h ⟨hphase, fun t ht => h.shared.cacheGet ht⟩

theorem build_sound (h : locals.Sound) {token : Option Nat} (hphase : (Phase.building token).Sound floor locals) :
    (locals.build token).Sound floor locals := by
  obtain ⟨hreaches, htoken⟩ := hphase
  unfold Locals.build
  cases hsession : locals.shared.getSession (sessionKey locals.backend.engine locals.revision) with
  | none => exact .ofRaises h
  | some result =>
      obtain ⟨session, shared⟩ := result
      obtain ⟨hshared, horigin⟩ := h.shared.getSession hsession
      have hsessionFrom : ∀ s, session = some s → locals.revision = some s :=
        fun s hs => sessionKey_identity (horigin s hs)
      dsimp only
      split
      · have hclient : (Client.mk token session).From locals.revision := by
          intro r hr
          rcases Client.mem_origins.mp hr with hr | hr
          · exact htoken r hr
          · exact hsessionFrom r hr
        refine ⟨⟨hshared, h.stored, fun client hsome => ?_⟩, fun phase hnext => ?_, nofun, .inl ⟨rfl, Iff.rfl⟩⟩
        · obtain rfl := Option.some.inj hsome
          exact hclient
        · obtain rfl := Option.some.inj hnext
          exact hclient.noneStale hreaches
      · refine ⟨⟨hshared, h.stored, h.client⟩, fun phase hnext => ?_, nofun, .inl ⟨rfl, Iff.rfl⟩⟩
        obtain rfl := Option.some.inj hnext
        exact ⟨hreaches, hsessionFrom⟩

theorem authenticate_sound (h : locals.Sound) {session : Option Nat} (fails : Bool)
    (hphase : (Phase.login session).Sound floor locals) :
    (locals.authenticate session fails).Sound floor locals := by
  obtain ⟨hreaches, hsession⟩ := hphase
  unfold Locals.authenticate
  cases hrevision : locals.revision with
  | none => exact .ofRaises h
  | some r =>
      have hclient : ∀ token, (∀ t, token = some t → t = r) → (Client.mk token session).From (some r) := by
        intro token htoken s hs
        rcases Client.mem_origins.mp hs with hs | hs
        · rw [htoken s hs]
        · rw [← hrevision]
          exact hsession s hs
      rw [hrevision] at hreaches
      refine ⟨h, fun phase hnext => ?_, fun client hsome => ?_, .inl ⟨rfl, Iff.rfl⟩⟩
      · cases fails with
        | true => cases hnext
        | false =>
            obtain rfl := Option.some.inj hnext
            rw [Phase.Sound, hrevision]
            exact ⟨hreaches, hclient (some r) fun t ht => (Option.some.inj ht).symm⟩
      · obtain rfl := Option.some.inj hsome
        exact (hclient none nofun).noneStale hreaches

theorem store_sound (h : locals.Sound) {client : Client} (hphase : (Phase.storing client).Sound floor locals) :
    (locals.store client).Sound floor locals := by
  obtain ⟨hreaches, hclient⟩ := hphase
  have hshared : (locals.shared.cacheSet locals.revision client.token).Sound :=
    h.shared.cacheSet fun t ht => hclient t (Client.mem_origins.mpr (.inl ht))
  refine ⟨⟨hshared, h.stored, fun other hsome => ?_⟩, fun phase hnext => ?_, nofun, .inl ⟨rfl, Iff.rfl⟩⟩
  · obtain rfl := Option.some.inj hsome
    exact hclient
  · obtain rfl := Option.some.inj hnext
    exact hclient.noneStale hreaches

theorem probe_sound (h : locals.Sound) (hphase : Phase.probing.Sound floor locals) :
    locals.probe.Sound floor locals := by
  unfold Locals.probe
  cases hsession : locals.shared.getSession (sessionKey locals.backend.engine locals.revision) with
  | none => exact .ofRaises h
  | some result =>
      obtain ⟨session, shared⟩ := result
      obtain ⟨hshared, horigin⟩ := h.shared.getSession hsession
      refine ⟨⟨hshared, h.stored, h.client⟩, fun phase hnext => ?_, nofun, .inl ⟨rfl, Iff.rfl⟩⟩
      obtain rfl := Option.some.inj hnext
      intro r hr
      rcases Client.mem_origins.mp hr with hr | hr
      · cases hr
      · exact hphase r (horigin r hr)

/-- The invariant of one call. -/
theorem act_sound (h : locals.Sound) {phase : Phase} (hphase : phase.Sound floor locals) (hrow : Reaches floor row)
    (fails : Bool) : (locals.act phase row fails).Sound floor locals := by
  unfold Locals.act
  cases phase with
  | login session => exact authenticate_sound h fails hphase
  | requesting client =>
      exact ⟨h, nofun, fun _ hsome => Option.some.inj hsome ▸ hphase, .inl ⟨rfl, Iff.rfl⟩⟩
  | refreshing =>
      cases fails with
      | true => exact .ofRaises h
      | false => exact refresh_sound h hrow
  | reloading =>
      cases fails with
      | true => exact .ofRaises h
      | false => exact reload_sound h hphase hrow
  | refreshed =>
      cases fails with
      | true => exact .ofRaises h
      | false => exact lookup_sound h hphase
  | building token =>
      cases fails with
      | true => exact .ofRaises h
      | false => exact build_sound h hphase
  | storing client =>
      cases fails with
      | true => exact .ofRaises h
      | false => exact store_sound h hphase
  | probing =>
      cases fails with
      | true => exact .ofRaises h
      | false => exact probe_sound h hphase

end Calls

/-! ### The system -/

section System

variable {θ β ι : Type} [DecidableEq θ] [DecidableEq β] [DecidableEq ι]

/-- The object is some backend's. -/
def State.Held (state : State θ β ι) (i : ι) : Prop := ∃ b backend, state.backends b = some backend ∧
  backend.material = some i

/-- What keeps a step from presenting a stale identity: every backend has an object of its own, which nothing else saves
or deletes, it runs one call at a time, and `health` of a direct backend that logs in with a certificate is asked only
while its object is that of the committed row. -/
def State.Careful (state : State θ β ι) : Event θ β ι → Prop
  | .getBackend _ _ (some i) => ¬state.Held i ∧ ∃ r, state.objects i = some ⟨true, r⟩
  | .call _ b health =>
      (∀ t call, state.calls t = some call → call.backend ≠ b) ∧
        (health = true → ∀ backend i, state.backends b = some backend → isBroker backend.engine = false →
          isCertificate backend.engine = true → backend.material = some i →
            (state.objects i).map MaterialObject.revision = state.committed)
  | .save i | .delete i => ¬state.Held i
  | _ => True

structure State.Sound (state : State θ β ι) : Prop where
  shared : state.shared.Sound
  writing : ∀ writing, state.writing = some writing → Reaches state.committed writing.row
  loaded : ∀ b backend i, state.backends b = some backend → backend.material = some i →
    ∃ object, state.objects i = some object
  own : ∀ b b' backend backend' i, state.backends b = some backend → state.backends b' = some backend' →
    backend.material = some i → backend'.material = some i → b = b'
  backends : ∀ b backend, state.backends b = some backend → (state.locals backend).Sound
  floors : ∀ t call, state.calls t = some call → Reaches call.floor state.committed
  calls : ∀ t call, state.calls t = some call → ∃ backend, state.backends call.backend = some backend ∧
    call.phase.Sound call.floor (state.locals backend)
  alone : ∀ t t' call call', state.calls t = some call → state.calls t' = some call' →
    call.backend = call'.backend → t = t'
  presented : ∀ p ∈ state.presented, NoneStale p.floor p.origins

variable {state : State θ β ι}

omit [DecidableEq θ] [DecidableEq β] [DecidableEq ι] in
/-- The row is no older than what is committed, from wherever it is read. -/
theorem State.Sound.row (h : state.Sound) (own : Bool) : Reaches state.committed (state.row own) := by
  unfold State.row
  split
  next writing hwriting => exact h.writing writing hwriting
  next => exact Reaches.refl _

omit [DecidableEq θ] [DecidableEq β] [DecidableEq ι] in
/-- Two states in which the backend's object is the same. -/
theorem Locals.Sound.congr {later : State θ β ι} {backend : BackendObject ι} (h : (state.locals backend).Sound)
    (hshared : later.shared.Sound)
    (hobjects : ∀ i, backend.material = some i → later.objects i = state.objects i) :
    (later.locals backend).Sound ∧ (later.locals backend).revision = (state.locals backend).revision := by
  have hobject : backend.material.bind later.objects = backend.material.bind state.objects := by
    cases hmaterial : backend.material with
    | none => rfl
    | some i => exact hobjects i hmaterial
  have hrevision : (later.locals backend).revision = (state.locals backend).revision := by
    rw [Locals.revision, Locals.revision, State.locals, State.locals]
    dsimp only
    rw [hobject]
  refine ⟨⟨hshared, fun object hsome => ?_, fun client hclient => ?_⟩, hrevision⟩
  · rw [State.locals] at hsome
    dsimp only at hsome
    rw [hobject] at hsome
    exact h.stored object hsome
  · rw [hrevision]
    exact h.client client hclient

omit [DecidableEq θ] [DecidableEq β] [DecidableEq ι] in
/-- A state that differs in nothing the backends and their calls look at. -/
theorem State.Sound.quiet {later : State θ β ι} (h : state.Sound) (hshared : later.shared.Sound)
    (hbackends : later.backends = state.backends) (hcalls : later.calls = state.calls)
    (hpresented : later.presented = state.presented)
    (hobjects : ∀ i, state.Held i → later.objects i = state.objects i)
    (hcommitted : Reaches state.committed later.committed)
    (hwriting : ∀ writing, later.writing = some writing → Reaches later.committed writing.row) : later.Sound := by
  have hheld : ∀ b backend i, state.backends b = some backend → backend.material = some i →
      later.objects i = state.objects i := fun b backend i hb hi => hobjects i ⟨b, backend, hb, hi⟩
  constructor
  · exact hshared
  · exact hwriting
  · intro b backend i hb hi
    rw [hbackends] at hb
    rw [hheld b backend i hb hi]
    exact h.loaded b backend i hb hi
  · rw [hbackends]
    exact h.own
  · intro b backend hb
    rw [hbackends] at hb
    exact ((h.backends b backend hb).congr hshared (fun i hi => hheld b backend i hb hi)).1
  · intro t call ht
    rw [hcalls] at ht
    exact (h.floors t call ht).trans hcommitted
  · intro t call ht
    rw [hcalls] at ht
    obtain ⟨backend, hb, hphase⟩ := h.calls t call ht
    rw [hbackends]
    have hsame := ((h.backends _ backend hb).congr hshared fun i hi => hheld _ backend i hb hi).2
    exact ⟨backend, hb, hphase.congr hsame rfl⟩
  · rw [hcalls]
    exact h.alone
  · rw [hpresented]
    exact h.presented

omit [DecidableEq β] [DecidableEq θ] [DecidableEq ι] in
/-- What a table with one entry set holds. -/
theorem updated_cases {κ τ : Type} [DecidableEq κ] {table : κ → Option τ} {key other : κ} {entry found : τ}
    (h : Function.update table key (some entry) other = some found) :
    other = key ∧ found = entry ∨ other ≠ key ∧ table other = some found := by
  by_cases hsame : other = key
  · rw [hsame, Function.update_self] at h
    exact .inl ⟨hsame, (Option.some.inj h).symm⟩
  · rw [Function.update_of_ne hsame] at h
    exact .inr ⟨hsame, h⟩

omit [DecidableEq θ] in
/-- What the locals of a backend leave are its locals. -/
theorem State.keep_locals {b : β} {before : BackendObject ι} {after : Locals ι}
    (hlinked : after.backend.material = before.material ∧ (after.object = none ↔ (state.locals before).object = none) ∨
      after.backend.material = none ∧ after.object = none) :
    (state.keep b before after).locals after.backend = after := by
  have hobject : after.backend.material.bind (state.keep b before after).objects = after.object := by
    rcases hlinked with ⟨hmaterial, hsome⟩ | ⟨hmaterial, hnone⟩
    · rw [hmaterial, State.keep]
      dsimp only
      rw [State.locals] at hsome
      dsimp only at hsome
      cases hbefore : before.material with
      | none =>
          rw [hbefore] at hsome
          exact (hsome.mpr rfl).symm
      | some i =>
          rw [hbefore] at hsome
          cases hafter : after.object with
          | none => exact hsome.mp hafter
          | some object => exact Function.update_self _ _ _
    · rw [hmaterial, hnone]
      rfl
  rw [State.locals, hobject]
  rfl

omit [DecidableEq θ] in
/-- A step that one backend has taken. -/
theorem State.Sound.keep (h : state.Sound) {b : β} {before : BackendObject ι} (hb : state.backends b = some before)
    {after : Locals ι} (hafter : after.Sound)
    (hlinked : after.backend.material = before.material ∧ (after.object = none ↔ (state.locals before).object = none) ∨
      after.backend.material = none ∧ after.object = none)
    {calls : θ → Option (Call β)} {presented : List Presentation}
    (hmine : ∀ t call, calls t = some call → call.backend = b →
      call.phase.Sound call.floor after ∧ Reaches call.floor state.committed)
    (hothers : ∀ t call, calls t = some call → call.backend ≠ b → state.calls t = some call)
    (halone : ∀ t t' call call', calls t = some call → calls t' = some call' → call.backend = call'.backend → t = t')
    (hpresented : ∀ p ∈ presented, NoneStale p.floor p.origins) :
    ({ state.keep b before after with calls, presented } : State θ β ι).Sound := by
  have hsubset : ∀ i, after.backend.material = some i → before.material = some i := by
    intro i hi
    rcases hlinked with ⟨hsame, -⟩ | ⟨hnone, -⟩
    · exact hsame ▸ hi
    · rw [hnone] at hi
      cases hi
  -- The object of another backend is not this one's.
  have helsewhere : ∀ b' backend i, b' ≠ b → state.backends b' = some backend → backend.material = some i →
      (state.keep b before after).objects i = state.objects i := by
    intro b' backend i hne hb' hi
    rw [State.keep]
    dsimp only
    cases hmaterial : before.material with
    | none => rfl
    | some mine =>
        cases after.object with
        | none => rfl
        | some object =>
            have hother : i ≠ mine := by
              rintro rfl
              exact hne (h.own b' b backend before i hb' hb hi hmaterial)
            exact Function.update_of_ne hother _ _
  have hbackends : ∀ b' backend, (state.keep b before after).backends b' = some backend →
      b' = b ∧ backend = after.backend ∨ b' ≠ b ∧ state.backends b' = some backend := by
    intro b' backend hb'
    rw [State.keep] at hb'
    exact updated_cases hb'
  have hlocals := State.keep_locals (b := b) hlinked
  have hloaded : ∀ i, after.backend.material = some i → ∃ object, (state.keep b before after).objects i = some object := by
    intro i hi
    have hobject : after.backend.material.bind (state.keep b before after).objects = after.object :=
      congrArg Locals.object hlocals
    rw [hi] at hobject
    rcases hlinked with ⟨hmaterial, hsome⟩ | ⟨hnone, -⟩
    · obtain ⟨object, hbefore⟩ := h.loaded b before i hb (hsubset i hi)
      have hnot : (state.locals before).object ≠ none := by
        rw [State.locals]
        dsimp only
        rw [hsubset i hi]
        exact fun hnone => nomatch hbefore.symm.trans hnone
      exact Option.ne_none_iff_exists'.mp fun hnone => hnot (hsome.mp (hobject.symm.trans hnone))
    · rw [hnone] at hi
      cases hi
  constructor
  · exact hafter.shared
  · exact h.writing
  · intro b' backend i hb' hi
    rcases hbackends b' backend hb' with ⟨-, rfl⟩ | ⟨hne, hold⟩
    · exact hloaded i hi
    · have hsame := helsewhere b' backend i hne hold hi
      obtain ⟨object, hobject⟩ := h.loaded b' backend i hold hi
      exact ⟨object, hsame.trans hobject⟩
  · intro b₁ b₂ backend₁ backend₂ i h₁ h₂ hi₁ hi₂
    rcases hbackends b₁ backend₁ h₁ with ⟨rfl, rfl⟩ | ⟨hne₁, hold₁⟩
    · rcases hbackends b₂ backend₂ h₂ with ⟨rfl, -⟩ | ⟨-, hold₂⟩
      · rfl
      · exact h.own _ _ _ _ i hb hold₂ (hsubset i hi₁) hi₂
    · rcases hbackends b₂ backend₂ h₂ with ⟨rfl, rfl⟩ | ⟨-, hold₂⟩
      · exact h.own _ _ _ _ i hold₁ hb hi₁ (hsubset i hi₂)
      · exact h.own _ _ _ _ i hold₁ hold₂ hi₁ hi₂
  · intro b' backend hb'
    rcases hbackends b' backend hb' with ⟨-, rfl⟩ | ⟨hne, hold⟩
    · exact hlocals.symm ▸ hafter
    · exact ((h.backends b' backend hold).congr hafter.shared fun i hi => helsewhere b' backend i hne hold hi).1
  · intro t call ht
    by_cases hmine' : call.backend = b
    · exact (hmine t call ht hmine').2
    · exact h.floors t call (hothers t call ht hmine')
  · intro t call ht
    by_cases hsame : call.backend = b
    · refine ⟨after.backend, ?_, ?_⟩
      · rw [hsame]
        exact Function.update_self _ _ _
      · exact hlocals.symm ▸ (hmine t call ht hsame).1
    · obtain ⟨backend, hold, hphase⟩ := h.calls t call (hothers t call ht hsame)
      have hrevision := ((h.backends _ backend hold).congr hafter.shared
        fun i hi => helsewhere _ backend i hsame hold hi).2
      exact ⟨backend, (Function.update_of_ne hsame _ _).trans hold, hphase.congr hrevision rfl⟩
  · exact halone
  · exact hpresented

omit [DecidableEq ι] in
theorem Locals.Sound.invalidateToken {locals : Locals ι} (h : locals.Sound) :
    locals.invalidateToken.Sound ∧ locals.invalidateToken.object = locals.object ∧
      locals.invalidateToken.backend.material = locals.backend.material ∧
      locals.invalidateToken.backend.engine = locals.backend.engine := by
  unfold Locals.invalidateToken
  split
  · cases locals.backend.client with
    | none => exact ⟨h, rfl, rfl, rfl⟩
    | some client => exact ⟨⟨h.shared.putSession nofun, h.stored, nofun⟩, rfl, rfl, rfl⟩
  · have hshared : (locals.shared.cacheSet locals.revision none).Sound := h.shared.cacheSet nofun
    dsimp only
    split
    · exact ⟨⟨hshared.putSession nofun, h.stored, nofun⟩, rfl, rfl, rfl⟩
    · exact ⟨⟨hshared, h.stored, nofun⟩, rfl, rfl, rfl⟩

theorem State.Sound.act (h : state.Sound) (t : θ) (own fails : Bool) :
    (state.step (.act t own fails)).Sound := by
  rw [State.step]
  cases ht : state.calls t with
  | none => exact h
  | some call =>
      obtain ⟨backend, hb, hphase⟩ := h.calls t call ht
      have hrow : Reaches call.floor (state.row own) := (h.floors t call ht).trans (h.row own)
      have hacted := act_sound (h.backends _ backend hb) hphase hrow fails
      dsimp only
      rw [hb]
      dsimp only
      generalize (state.locals backend).act call.phase (state.row own) fails = acted at hacted ⊢
      refine h.keep hb hacted.locals hacted.linked (fun t' call' ht' hbackend => ?_) (fun t' call' ht' hbackend => ?_)
        (fun t₁ t₂ call₁ call₂ h₁ h₂ hsame => ?_) fun p hp => ?_
      · by_cases hsame : t' = t
        · rw [hsame, Function.update_self] at ht'
          obtain ⟨phase, hnext, rfl⟩ := Option.map_eq_some_iff.mp ht'
          exact ⟨hacted.next phase hnext, h.floors t call ht⟩
        · rw [Function.update_of_ne hsame] at ht'
          exact absurd (h.alone t' t call' call ht' ht hbackend) hsame
      · by_cases hsame : t' = t
        · rw [hsame, Function.update_self] at ht'
          obtain ⟨phase, -, rfl⟩ := Option.map_eq_some_iff.mp ht'
          exact absurd rfl hbackend
        · rw [Function.update_of_ne hsame] at ht'
          exact ht'
      · have hold : ∀ t' call', Function.update state.calls t (acted.next.map fun phase => { call with phase }) t' =
            some call' → ∃ earlier, state.calls t' = some earlier ∧ earlier.backend = call'.backend := by
          intro t' call' ht'
          by_cases hsame : t' = t
          · rw [hsame, Function.update_self] at ht'
            obtain ⟨phase, -, rfl⟩ := Option.map_eq_some_iff.mp ht'
            exact ⟨call, hsame ▸ ht, rfl⟩
          · rw [Function.update_of_ne hsame] at ht'
            exact ⟨call', ht', rfl⟩
        obtain ⟨earlier₁, hearlier₁, hsame₁⟩ := hold t₁ call₁ h₁
        obtain ⟨earlier₂, hearlier₂, hsame₂⟩ := hold t₂ call₂ h₂
        exact h.alone t₁ t₂ earlier₁ earlier₂ hearlier₁ hearlier₂ (hsame₁.trans (hsame.trans hsame₂.symm))
      · rcases List.mem_append.mp hp with hold | hnew
        · exact h.presented p hold
        · obtain ⟨client, hclient, rfl⟩ := Option.map_eq_some_iff.mp (Option.mem_toList.mp hnew)
          exact hacted.presented client hclient

/-- A call that starts. Nothing it finds is older than what is committed, or it is going to ask. -/
theorem State.Sound.call (h : state.Sound) {t : θ} {b : β} {health : Bool} (hcareful : state.Careful (.call t b health)) :
    (state.step (.call t b health)).Sound := by
  obtain ⟨hidle, hcurrent⟩ := hcareful
  rw [State.step]
  cases ht : state.calls t with
  | some call => exact h
  | none =>
      cases hb : state.backends b with
      | none => exact h
      | some backend =>
          dsimp only
          have hphase : (if health && !isBroker backend.engine then Phase.probing else .refreshing).Sound state.committed
              (state.locals backend) := by
            cases hprobes : health && !isBroker backend.engine with
            | false => trivial
            | true =>
                rw [if_pos rfl]
                obtain ⟨hhealth, hdirect⟩ := Bool.and_eq_true_iff.mp hprobes
                rw [Bool.not_eq_true'] at hdirect
                intro r hr
                have hrevision := sessionKey_identity hr
                have hcertificate := sessionKey_certificate hr hdirect
                cases hmaterial : backend.material with
                | none =>
                    rw [Locals.revision, State.locals] at hrevision
                    dsimp only at hrevision
                    rw [hmaterial] at hrevision
                    cases hrevision
                | some i =>
                    have hcommitted := hcurrent hhealth backend i hb hdirect hcertificate hmaterial
                    rw [Locals.revision, State.locals] at hrevision
                    dsimp only at hrevision
                    rw [hmaterial] at hrevision
                    exact ⟨r, hcommitted.symm.trans hrevision, Nat.le_refl r⟩
          refine ⟨h.shared, h.writing, h.loaded, h.own, h.backends, fun t' call' ht' => ?_, fun t' call' ht' => ?_,
            fun t₁ t₂ call₁ call₂ h₁ h₂ hsame => ?_, h.presented⟩
          · rcases updated_cases ht' with ⟨-, rfl⟩ | ⟨-, hold⟩
            · exact Reaches.refl _
            · exact h.floors t' call' hold
          · rcases updated_cases ht' with ⟨-, rfl⟩ | ⟨-, hold⟩
            · exact ⟨backend, hb, hphase⟩
            · exact h.calls t' call' hold
          · rcases updated_cases h₁ with ⟨rfl, rfl⟩ | ⟨-, hold₁⟩
            · rcases updated_cases h₂ with ⟨rfl, -⟩ | ⟨-, hold₂⟩
              · rfl
              · exact absurd hsame.symm (hidle t₂ call₂ hold₂)
            · rcases updated_cases h₂ with ⟨rfl, rfl⟩ | ⟨-, hold₂⟩
              · exact absurd hsame (hidle t₁ call₁ hold₁)
              · exact h.alone t₁ t₂ call₁ call₂ hold₁ hold₂ hsame

/-- A backend that is new has no client, and an object of its own. -/
theorem State.Sound.getBackend (h : state.Sound) {b : β} {engine : SecretEngine} {material : Option ι}
    (hcareful : state.Careful (.getBackend b engine material)) :
    (state.step (.getBackend b engine material)).Sound := by
  rw [State.step]
  cases hb : state.backends b with
  | some backend => exact h
  | none =>
      have hfresh : ∀ i, material = some i → ¬state.Held i ∧ ∃ r, state.objects i = some ⟨true, r⟩ := by
        rintro i rfl
        exact hcareful
      refine ⟨h.shared, h.writing, fun b' backend i hb' hi => ?_, fun b₁ b₂ backend₁ backend₂ i h₁ h₂ hi₁ hi₂ => ?_,
        fun b' backend hb' => ?_, h.floors, fun t call ht => ?_, h.alone, h.presented⟩
      · rcases updated_cases hb' with ⟨-, rfl⟩ | ⟨-, hold⟩
        · obtain ⟨r, hr⟩ := (hfresh i hi).2
          exact ⟨_, hr⟩
        · exact h.loaded b' backend i hold hi
      · rcases updated_cases h₁ with ⟨rfl, rfl⟩ | ⟨-, hold₁⟩
        · rcases updated_cases h₂ with ⟨rfl, -⟩ | ⟨-, hold₂⟩
          · rfl
          · exact absurd ⟨b₂, backend₂, hold₂, hi₂⟩ (hfresh i hi₁).1
        · rcases updated_cases h₂ with ⟨rfl, rfl⟩ | ⟨-, hold₂⟩
          · exact absurd ⟨b₁, backend₁, hold₁, hi₁⟩ (hfresh i hi₂).1
          · exact h.own b₁ b₂ backend₁ backend₂ i hold₁ hold₂ hi₁ hi₂
      · rcases updated_cases hb' with ⟨-, rfl⟩ | ⟨-, hold⟩
        · refine ⟨h.shared, fun object hobject => ?_, nofun⟩
          cases hmaterial : material with
          | none =>
              rw [State.locals, hmaterial] at hobject
              cases hobject
          | some i =>
              obtain ⟨r, hr⟩ := (hfresh i hmaterial).2
              have hsame : state.objects i = some object := by
                rw [State.locals, hmaterial] at hobject
                exact hobject
              rw [hr] at hsame
              obtain rfl := Option.some.inj hsame
              rfl
        · exact h.backends b' backend hold
      · obtain ⟨backend, hold, hphase⟩ := h.calls t call ht
        have hne : call.backend ≠ b := by
          rintro hsame
          rw [hsame, hb] at hold
          cases hold
        exact ⟨backend, (Function.update_of_ne hne _ _).trans hold, hphase⟩

/-- The invariant of the system. -/
theorem State.Sound.step (h : state.Sound) (event : Event θ β ι) (hcareful : state.Careful event) :
    (state.step event).Sound := by
  have hfree : ∀ {i : ι} {object : Option MaterialObject}, ¬state.Held i → ∀ j, state.Held j →
      Function.update state.objects i object j = state.objects j := by
    intro i object hheld j hj
    refine Function.update_of_ne ?_ _ _
    rintro rfl
    exact hheld hj
  have hpresent : ∀ i, state.Held i → ∃ object, state.objects i = some object := by
    rintro i ⟨b, backend, hb, hi⟩
    exact h.loaded b backend i hb hi
  cases event with
  | load i own =>
      rw [State.step]
      cases hobject : state.objects i with
      | some object => exact h
      | none =>
          cases state.row own with
          | none => exact h
          | some r =>
              have hheld : ¬state.Held i := by
                intro hheld
                obtain ⟨object, hsome⟩ := hpresent i hheld
                rw [hobject] at hsome
                cases hsome
              exact h.quiet h.shared rfl rfl rfl (hfree hheld) (Reaches.refl _) h.writing
  | getBackend b engine material => exact h.getBackend hcareful
  | call t b health => exact h.call hcareful
  | act t own fails => exact h.act t own fails
  | invalidateToken b =>
      rw [State.step]
      cases hb : state.backends b with
      | none => exact h
      | some backend =>
          obtain ⟨hsound, hobject, hmaterial, hengine⟩ := (h.backends b backend hb).invalidateToken
          refine h.keep hb hsound (.inl ⟨hmaterial, by rw [hobject]⟩) (fun t call ht hbackend => ?_)
            (fun _ _ ht _ => ht) h.alone h.presented
          obtain ⟨mine, hmine, hphase⟩ := h.calls t call ht
          rw [hbackend, hb] at hmine
          obtain rfl := Option.some.inj hmine
          refine ⟨hphase.congr ?_ hengine, h.floors t call ht⟩
          rw [Locals.revision, Locals.revision, hobject]
  | save i =>
      have hrow := h.row true
      rw [State.step]
      split
      next r _ hr =>
        rw [hr] at hrow
        refine h.quiet h.shared rfl rfl rfl (hfree hcareful) (Reaches.refl _) fun writing hwriting => ?_
        obtain rfl := Option.some.inj hwriting
        intro next hnext
        obtain ⟨R, hR, hle⟩ := hrow r rfl
        exact ⟨R, hR, Option.some.inj hnext ▸ Nat.le_succ_of_le hle⟩
      next => exact h
  | delete i =>
      rw [State.step]
      split
      next =>
        refine h.quiet h.shared rfl rfl rfl (hfree hcareful) (Reaches.refl _) fun writing hwriting => ?_
        obtain rfl := Option.some.inj hwriting
        exact Reaches.none _
      next => exact h
  | commit =>
      rw [State.step]
      cases hwriting : state.writing with
      | none => exact h
      | some writing =>
          exact h.quiet h.shared rfl rfl rfl (fun _ _ => rfl) (h.writing writing hwriting) nofun
  | rollback => exact h.quiet h.shared rfl rfl rfl (fun _ _ => rfl) (Reaches.refl _) nofun
  | callback =>
      rw [State.step]
      cases state.callbacks with
      | nil => exact h
      | cons revision rest =>
          exact h.quiet (h.shared.invalidate revision) rfl rfl rfl (fun _ _ => rfl) (Reaches.refl _) h.writing
  | expire revision =>
      exact h.quiet (h.shared.putToken nofun) rfl rfl rfl (fun _ _ => rfl) (Reaches.refl _) h.writing

omit [DecidableEq θ] [DecidableEq β] [DecidableEq ι] in
/-- A process that has nothing in memory yet, and a cold cache. -/
def State.start (revision : Nat) : State θ β ι where
  committed := some revision
  writing := none
  callbacks := []
  objects _ := none
  backends _ := none
  calls _ := none
  shared := ⟨fun _ => none, fun _ => none⟩
  presented := []

omit [DecidableEq θ] [DecidableEq β] [DecidableEq ι] in
theorem State.start_sound (revision : Nat) : (State.start revision : State θ β ι).Sound := by
  constructor
  · constructor
    · rintro r token htoken
      cases htoken
    · rintro key r hkey
      cases hkey
  · rintro writing hwriting
    cases hwriting
  · rintro b backend i hb
    cases hb
  · rintro b b' backend backend' i hb
    cases hb
  · rintro b backend hb
    cases hb
  · rintro t call ht
    cases ht
  · rintro t call ht
    cases ht
  · rintro t t' call call' ht
    cases ht
  · rintro p hp
    cases hp

end System

/-- In a run whose every step is careful, a call that starts once a revision has committed presents no token and no TLS
session of an older one, and none at all once the row is deleted. -/
theorem no_stale_identity_presented {θ β ι : Type} [DecidableEq θ] [DecidableEq β] [DecidableEq ι] (revision : Nat)
    (events : List (Event θ β ι))
    (hcareful : Runs.Along State.step State.Careful (State.start revision) events) :
    Runs.Throughout State.step (fun state => ∀ p ∈ state.presented, NoneStale p.floor p.origins)
      (State.start revision) events :=
  (Runs.throughout_of_along (P := State.Sound) (fun _ event h hcareful => h.step event hcareful)
    (State.start_sound revision) hcareful).mono fun _ h => h.presented

namespace Sample

/-- An engine that logs in with a client certificate. -/
def engine : SecretEngine := ⟨"Lab", "lab", .openbao, "https://openbao.example", "", "secret", 2, "cert", true, ""⟩

/-- A backend whose row is saved through another object, and is then asked for the health of its engine. -/
def rotation : List (Event Nat Nat Nat) :=
  [.load 0 false, .getBackend 0 engine (some 0), .load 1 false, .save 1, .commit, .callback]

end Sample

/-- After the rotation `health` presents a TLS session of the revision before. -/
theorem health_presents_the_old_certificate :
    let state := Runs.final State.step (State.start 1) (Sample.rotation ++ [.call 0 0 true, .act 0 false false,
      .act 0 false false])
    ∃ p ∈ state.presented, p = ⟨some 2, [1]⟩ ∧ ¬NoneStale p.floor p.origins := by
  refine ⟨⟨some 2, [1]⟩, List.mem_of_mem_head? (by decide +kernel), rfl, fun h => ?_⟩
  obtain ⟨R, hR, hle⟩ := h 1 List.mem_cons_self
  rw [← Option.some.inj hR] at hle
  exact absurd hle (by decide)

/-- A read with the steps it takes: it asks the database, and reloads the object if the row has changed; it looks for a
client and builds one; it logs in, keeps the token and makes its request. -/
def Sample.read (steps : Nat) : List (Event Nat Nat Nat) :=
  .call 0 0 false :: List.replicate steps (.act 0 false false)

/-- A backend that has read once, and reads again after the rotation. -/
def Sample.reads : List (Event Nat Nat Nat) :=
  [.load 0 false, .getBackend 0 Sample.engine (some 0)] ++ Sample.read 6 ++
    [.load 1 false, .save 1, .commit, .callback] ++ Sample.read 7

/-- The second login and the second request present the new certificate, and nothing of the old one. -/
theorem read_presents_the_new_certificate :
    Runs.Throughout State.step (fun state => ∀ p ∈ state.presented, NoneStale p.floor p.origins) (State.start 1)
        Sample.reads ∧
      (Runs.final State.step (State.start 1) Sample.reads).presented =
        [⟨some 1, [1]⟩, ⟨some 1, [1, 1]⟩, ⟨some 2, [2]⟩, ⟨some 2, [2, 2]⟩] := by
  refine ⟨no_stale_identity_presented 1 _ ?_, rfl⟩
  refine ⟨trivial, ⟨?fresh, 1, rfl⟩, ⟨nofun, nofun⟩, trivial, trivial, trivial, trivial, trivial, trivial, trivial, ?other,
    trivial, trivial, ⟨?idle, nofun⟩, trivial, trivial, trivial, trivial, trivial, trivial, trivial, trivial⟩
  case fresh =>
    rintro ⟨b, backend, hb, -⟩
    cases hb
  case other =>
    rintro ⟨b, backend, hb, hmaterial⟩
    match b, hb with
    | 0, hb =>
        cases hb
        cases hmaterial
    | b + 1, hb => cases hb
  case idle =>
    intro t call ht
    match t, ht with
    | 0, ht => cases ht
    | t + 1, ht => cases ht

end AuthSessions

end NetboxOpenbao
