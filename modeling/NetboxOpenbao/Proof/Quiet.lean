import NetboxOpenbao.Services.Views
import Mathlib.Logic.Relation

/-!
# What ordinary code leaves alone

Apart from the material write, the owner's bookkeeping and the saves of a credential row, nothing the
services do touches the servers, the owner's attempts or an audit row that exists. `Quiet D` says this of
a pair of worlds, with a relation `D` for what may happen to the database; it is proved once for every
combinator and then function by function.
-/

namespace NetboxOpenbao

open Effect Effect.Prog

/-! ### The servers under other parties -/

/-- `e'` is reached from `e` by actions of other parties. -/
def Interference (acts : Nat → List Act) : Ext → Ext → Prop :=
  Relation.ReflTransGen fun e e' => ∃ n, ∃ a ∈ acts n, e' = e.act a

namespace Interference

variable {acts : Nat → List Act}

theorem refl (e : Ext) : Interference acts e e := Relation.ReflTransGen.refl

theorem trans {e f g : Ext} (h : Interference acts e f) (h' : Interference acts f g) :
    Interference acts e g := Relation.ReflTransGen.trans h h'

theorem foldl (e : Ext) {as : List Act} {n : Nat} (has : ∀ a ∈ as, a ∈ acts n) :
    Interference acts e (as.foldl Ext.act e) := by
  induction as generalizing e with
  | nil => exact refl e
  | cons a as ih =>
      have hhead : Interference acts e (e.act a) :=
        Relation.ReflTransGen.single ⟨n, a, has a List.mem_cons_self, rfl⟩
      exact hhead.trans (ih (e.act a) fun b hb => has b (List.mem_cons_of_mem a hb))

theorem ticked (w : World) : Interference w.acts w.ext w.ticked.ext :=
  foldl w.ext fun _ ha => ha

/-- What every action there is keeps, interference keeps. -/
theorem keeps_of_mem {P : Ext → Prop} (hact : ∀ n, ∀ a ∈ acts n, ∀ e, P e → P (e.act a)) {e e' : Ext}
    (h : Interference acts e e') (he : P e) : P e' := by
  induction h with
  | refl => exact he
  | tail _ hstep ih =>
      obtain ⟨n, a, ha, rfl⟩ := hstep
      exact hact n a ha _ ih

theorem keeps {P : Ext → Prop} (hact : ∀ e a, P e → P (e.act a)) {e e' : Ext} (h : Interference acts e e')
    (he : P e) : P e' := h.keeps_of_mem (fun _ a _ e => hact e a) he

/-- Nobody else acts. -/
theorem eq_of_none {e e' : Ext} (h : Interference (fun _ => []) e e') : e' = e := by
  induction h with
  | refl => rfl
  | tail _ hstep _ =>
      obtain ⟨n, a, ha, -⟩ := hstep
      cases ha

end Interference

/-! ### The database -/

/-- What every program does to the database: the settings stay, primary keys are never given out again,
and no audit row with an old key appears. -/
structure Database.Extends (db db' : Database) : Prop where
  config : db'.config = db.config
  nextId : db.nextId ≤ db'.nextId
  accessLog : ∀ row ∈ db'.accessLog, row.id < db.nextId → row ∈ db.accessLog

/-- `Extends`, and no credential row changes. -/
structure Database.SameRows (db db' : Database) : Prop extends Database.Extends db db' where
  credentials : db'.credentials = db.credentials

/-- A relation between databases that a rollback to the start does not break. -/
class Restorable (D : Database → Database → Prop) : Prop where
  refl : ∀ db, D db db
  trans : ∀ {db db' db'' : Database}, D db db' → D db' db'' → D db db''
  rollback : ∀ {db db' : Database}, D db db' → D db (db'.rollbackTo db)
  extends' : ∀ {db db' : Database}, D db db' → db.Extends db'

namespace Database

theorem Extends.refl (db : Database) : db.Extends db := ⟨rfl, Nat.le_refl _, fun _ hrow _ => hrow⟩

theorem Extends.trans {db db' db'' : Database} (h : db.Extends db') (h' : db'.Extends db'') :
    db.Extends db'' where
  config := h'.config.trans h.config
  nextId := Nat.le_trans h.nextId h'.nextId
  accessLog row hrow hold := h.accessLog row (h'.accessLog row hrow (Nat.lt_of_lt_of_le hold h.nextId)) hold

theorem Extends.rollback (db db' : Database) : db.Extends (db'.rollbackTo db) where
  config := rfl
  nextId := Nat.le_max_right _ _
  accessLog _ hrow _ := hrow

theorem Extends.putCredential (db : Database) (pk : Nat) (row : Credential) :
    db.Extends (db.putCredential pk row) := ⟨rfl, Nat.le_refl _, fun _ hrow _ => hrow⟩

theorem Extends.insertLog (db : Database) (row : CredentialAccessLog) : db.Extends (db.insertLog row) where
  config := rfl
  nextId := Nat.le_succ _
  accessLog row' hrow hold := by
    rcases List.mem_append.mp hrow with hmem | hnew
    · exact hmem
    · rw [List.mem_singleton.mp hnew] at hold
      exact absurd hold (Nat.lt_irrefl _)

theorem Extends.hasLog {db db' : Database} (h : db.Extends db') {id : Nat} (hid : id < db.nextId)
    (hlog : db'.hasLog id = true) : db.hasLog id = true := by
  obtain ⟨row, hrow, rfl⟩ := hasLog_iff.mp hlog
  exact hasLog_iff.mpr ⟨row, h.accessLog row hrow hid, rfl⟩

instance : Restorable Database.Extends where
  refl := Extends.refl
  trans := Extends.trans
  rollback _ := Extends.rollback _ _
  extends' h := h

instance : Restorable Database.SameRows where
  refl db := ⟨Extends.refl db, rfl⟩
  trans h h' := ⟨h.toExtends.trans h'.toExtends, h'.credentials.trans h.credentials⟩
  rollback _ := ⟨Extends.rollback _ _, rfl⟩
  extends' h := h.toExtends

end Database

/-! ### The relation -/

/-- What an owner has recorded, without the participants it has declared. -/
structure Ledger where
  operationId : Nat
  attempts : List MaterialAttempt
  deletions : List MaterialAttempt
  failed : Bool
  committed : Bool

def MaterialTransaction.ledger (o : MaterialTransaction) : Ledger :=
  ⟨o.operationId, o.attempts, o.deletions, o.failed, o.committed⟩

def World.ledger (w : World) : Option Ledger := w.owner.map MaterialTransaction.ledger

/-- The audit rows that savepoint rollbacks took away were new, and they are gone for good. -/
def Event.Gone (since : Nat) (db : Database) (events : List Event) : Prop :=
  ∀ ids, Event.rolledBack ids ∈ events → ∀ id ∈ ids, since ≤ id ∧ id < db.nextId ∧ db.hasLog id = false

namespace Event.Gone

theorem nil (since : Nat) (db : Database) : Event.Gone since db [] :=
  fun _ hids => absurd hids List.not_mem_nil

theorem append {since : Nat} {db : Database} {old new : List Event} (h : Event.Gone since db old)
    (h' : Event.Gone since db new) : Event.Gone since db (old ++ new) := by
  intro ids hids
  rcases List.mem_append.mp hids with hold | hnew
  · exact h ids hold
  · exact h' ids hnew

theorem of_le {since since' : Nat} {db : Database} {events : List Event} (h : Event.Gone since' db events)
    (hle : since ≤ since') : Event.Gone since db events := by
  intro ids hids id hid
  obtain ⟨hlow, hrest⟩ := h ids hids id hid
  exact ⟨Nat.le_trans hle hlow, hrest⟩

theorem mono {since : Nat} {db db' : Database} {events : List Event} (h : Event.Gone since db events)
    (hext : db.Extends db') : Event.Gone since db' events := by
  intro ids hids id hid
  obtain ⟨hlow, hlt, hgone⟩ := h ids hids id hid
  refine ⟨hlow, Nat.lt_of_lt_of_le hlt hext.nextId, ?_⟩
  cases hlog : db'.hasLog id with
  | false => rfl
  | true =>
      rw [hext.hasLog hlt hlog] at hgone
      cases hgone

/-- A rollback brings no row back that is newer than the state it restores. -/
theorem rollback {before db : Database} {events : List Event} (h : Event.Gone before.nextId db events) :
    Event.Gone before.nextId (db.rollbackTo before) events := by
  intro ids hids id hid
  obtain ⟨hlow, hlt, -⟩ := h ids hids id hid
  refine ⟨hlow, Nat.lt_of_lt_of_le hlt (Nat.le_max_left _ _), ?_⟩
  cases hlog : (db.rollbackTo before).hasLog id with
  | false => rfl
  | true =>
      obtain ⟨row, hrow, rfl⟩ := Database.hasLog_iff.mp hlog
      exact absurd (before.accessLog_lt row hrow) (Nat.not_lt.mpr hlow)

/-- What a rollback takes away is gone. -/
theorem lostRows {before db : Database} (hext : before.Extends db) :
    Event.Gone before.nextId (db.rollbackTo before) [.rolledBack (lostRows db before)] := by
  intro ids hids id hid
  obtain rfl : ids = NetboxOpenbao.lostRows db before := Event.rolledBack.inj (List.mem_singleton.mp hids)
  obtain ⟨hmem, hnot⟩ := List.mem_filter.mp hid
  obtain ⟨row, hrow, rfl⟩ := List.mem_map.mp hmem
  have habsent : ¬ ∃ old ∈ before.accessLog, old.id = row.id := by
    simpa using hnot
  have hlow : before.nextId ≤ row.id := by
    rcases Nat.lt_or_ge row.id before.nextId with hlt | hge
    · exact absurd ⟨row, hext.accessLog row hrow hlt, rfl⟩ habsent
    · exact hge
  refine ⟨hlow, Nat.lt_of_lt_of_le (db.accessLog_lt row hrow) (Nat.le_max_left _ _), ?_⟩
  cases hlog : (db.rollbackTo before).hasLog row.id with
  | false => rfl
  | true => exact absurd (Database.hasLog_iff.mp hlog) habsent

end Event.Gone

/-- The world apart from the servers, the owner and the connection. -/
structure Around (D : Database → Database → Prop) (w w' : World) : Prop where
  db : D w.db w'.db
  operations : w'.operations = w.operations
  env : w'.env = w.env
  acts : w'.acts = w.acts
  journal : ∃ new, w'.journal = w.journal ++ new ∧ Event.blockRaised ∉ new ∧
    Event.Gone w.db.nextId w'.db new

/-- The same kind of transaction, in which no callback registered marks an owner committed. -/
structure SameBlock (w w' : World) : Prop where
  inAtomic : w'.conn.inAtomic = w.conn.inAtomic
  onCommit : w.conn.inAtomic = true →
    ∃ more, w'.onCommit = w.onCommit ++ more ∧ Callback.markCommitted ∉ more

/-- Nothing happened to the servers but what others did, and nothing to the owner's ledger. -/
structure Still (D : Database → Database → Prop) (w w' : World) : Prop extends Around D w w' where
  ext : Interference w.acts w.ext w'.ext
  ledger : w'.ledger = w.ledger

/-- What leaves the servers, the ledger and the transaction alone. -/
structure Quiet (D : Database → Database → Prop) (w w' : World) : Prop
    extends Still D w w', SameBlock w w' where

/-- What leaves the transaction alone. -/
structure Frame (D : Database → Database → Prop) (w w' : World) : Prop
    extends Around D w w', SameBlock w w' where

variable {D : Database → Database → Prop} [Restorable D]

theorem Around.refl (w : World) : Around D w w where
  db := Restorable.refl _
  operations := rfl
  env := rfl
  acts := rfl
  journal := ⟨[], by simp, List.not_mem_nil, Event.Gone.nil _ _⟩

theorem Around.trans {w w' w'' : World} (h : Around D w w') (h' : Around D w' w'') : Around D w w'' where
  db := Restorable.trans h.db h'.db
  operations := h'.operations.trans h.operations
  env := h'.env.trans h.env
  acts := h'.acts.trans h.acts
  journal := by
    obtain ⟨new, hnew, hraised, hgone⟩ := h.journal
    obtain ⟨new', hnew', hraised', hgone'⟩ := h'.journal
    have hext : w.db.Extends w'.db := Restorable.extends' h.db
    have hext' : w'.db.Extends w''.db := Restorable.extends' h'.db
    refine ⟨new ++ new', by rw [hnew', hnew, List.append_assoc], ?_, ?_⟩
    · rw [List.mem_append]
      exact fun hmem => hmem.elim hraised hraised'
    · exact (hgone.mono hext').append (hgone'.of_le hext.nextId)

theorem SameBlock.refl (w : World) : SameBlock w w where
  inAtomic := rfl
  onCommit _ := ⟨[], by simp, List.not_mem_nil⟩

theorem SameBlock.trans {w w' w'' : World} (h : SameBlock w w') (h' : SameBlock w' w'') :
    SameBlock w w'' where
  inAtomic := h'.inAtomic.trans h.inAtomic
  onCommit hin := by
    obtain ⟨more, hmore, hmark⟩ := h.onCommit hin
    obtain ⟨more', hmore', hmark'⟩ := h'.onCommit (h.inAtomic.trans hin)
    refine ⟨more ++ more', by rw [hmore', hmore, List.append_assoc], ?_⟩
    rw [List.mem_append]
    exact fun hmem => hmem.elim hmark hmark'

theorem Still.refl (w : World) : Still D w w where
  toAround := Around.refl w
  ext := Interference.refl _
  ledger := rfl

theorem Still.trans {w w' w'' : World} (h : Still D w w') (h' : Still D w' w'') : Still D w w'' where
  toAround := h.toAround.trans h'.toAround
  ext := h.ext.trans (h.acts ▸ h'.ext)
  ledger := h'.ledger.trans h.ledger

theorem Quiet.refl (w : World) : Quiet D w w where
  toStill := Still.refl w
  toSameBlock := SameBlock.refl w

theorem Quiet.trans {w w' w'' : World} (h : Quiet D w w') (h' : Quiet D w' w'') : Quiet D w w'' where
  toStill := h.toStill.trans h'.toStill
  toSameBlock := h.toSameBlock.trans h'.toSameBlock

instance : Std.Refl (Quiet D) := ⟨Quiet.refl⟩

instance : IsTrans World (Quiet D) := ⟨fun _ _ _ => Quiet.trans⟩

instance : Std.Refl (Frame D) := ⟨fun w => ⟨Around.refl w, SameBlock.refl w⟩⟩

instance : IsTrans World (Frame D) :=
  ⟨fun _ _ _ h h' => ⟨h.toAround.trans h'.toAround, h.toSameBlock.trans h'.toSameBlock⟩⟩

omit [Restorable D] in
theorem Quiet.frame {w w' : World} (h : Quiet D w w') : Frame D w w' := ⟨h.toAround, h.toSameBlock⟩

omit [Restorable D] in
theorem Quiet.mono {D' : Database → Database → Prop} [Restorable D'] {w w' : World} (h : Quiet D w w')
    (hD : D w.db w'.db → D' w.db w'.db) : Quiet D' w w' :=
  { h with db := hD h.db }

/-- A program that changes no row leaves the database extended. -/
theorem Quiet.toExtends {w w' : World} (h : Quiet D w w') : Quiet Database.Extends w w' :=
  h.mono Restorable.extends'

/-! ### Single changes -/

theorem Still.ticked (w : World) : Still D w w.ticked :=
  { Still.refl w with ext := Interference.ticked w }

theorem Quiet.ticked (w : World) : Quiet D w w.ticked :=
  { Quiet.refl w with ext := Interference.ticked w }

theorem Still.of_db {w : World} {db : Database} (h : D w.db db) : Still D w { w with db } :=
  { Still.refl (D := D) w with
    db := h
    journal := ⟨[], by simp, List.not_mem_nil, Event.Gone.nil _ _⟩ }

theorem Quiet.of_db {w : World} {db : Database} (h : D w.db db) : Quiet D w { w with db } where
  toStill := Still.of_db h
  toSameBlock := { SameBlock.refl w with }

theorem Quiet.of_conn {w : World} {conn : Connection} (h : conn.inAtomic = w.conn.inAtomic) :
    Quiet D w { w with conn } :=
  { Quiet.refl w with inAtomic := h }

theorem Quiet.of_onCommit (w : World) {callback : Callback} (h : callback ≠ .markCommitted) :
    Quiet D w { w with onCommit := w.onCommit ++ [callback] } :=
  { Quiet.refl w with
    onCommit := fun _ => ⟨[callback], rfl, by
      rw [List.mem_singleton]
      exact h.symm⟩ }

theorem Quiet.of_graph (w : World) {f : MaterialTransaction → MaterialTransaction}
    (h : ∀ o, (f o).ledger = o.ledger) : Quiet D w { w with owner := w.owner.map f } :=
  { Quiet.refl w with
    ledger := by
      simp only [World.ledger, Option.map_map]
      congr 1
      exact funext h }

/-! ### Statements -/

theorem tick_quiet : Steps (Quiet D) tick := fun w => Quiet.ticked w

theorem now_quiet : Steps (Quiet D) now := fun w => Quiet.refl w

theorem raiseIf_quiet (condition : Bool) (error : Error) : Steps (Quiet D) (raiseIf condition error) := by
  unfold raiseIf
  cases condition with
  | true => exact Steps.throw error
  | false => exact Steps.pure ()

theorem statement_quiet {α : Type} {q : Database → Except Error (α × Database)}
    (hq : ∀ {db a db'}, q db = .ok (a, db') → D db db') : Steps (Quiet D) (statement q) := by
  intro w
  have htick : Quiet D w w.ticked := Quiet.ticked w
  have hdb : ∀ {a db'}, q w.ticked.db = .ok (a, db') → Quiet D w { w.ticked with db := db' } :=
    fun h => htick.trans (Quiet.of_db (hq h))
  unfold statement
  cases hrefuses : w.ticked.conn.refuses with
  | true => simpa [hrefuses] using htick
  | false =>
      simp only [hrefuses, Bool.false_eq_true, if_false]
      cases w.env.fault w.clock with
      | none =>
          cases hrun : q w.ticked.db with
          | ok out => exact hdb hrun
          | error e => exact htick
      | lost =>
          cases hrun : q w.ticked.db with
          | ok out => exact (hdb hrun).trans (Quiet.of_conn rfl)
          | error e => exact htick.trans (Quiet.of_conn rfl)
      | refused => exact htick.trans (Quiet.of_conn rfl)
      | commitFailed f => exact htick.trans (Quiet.of_conn rfl)

theorem query_quiet {α : Type} (q : Database → Except Error α) : Steps (Quiet D) (query q) := by
  apply statement_quiet
  intro db a db' h
  cases hq : q db with
  | error e =>
      rw [hq] at h
      cases h
  | ok b =>
      rw [hq] at h
      cases h
      exact Restorable.refl db

theorem saving_quiet {α : Type} {q : Database → Except Error (α × Database)}
    (hq : ∀ {db a db'}, q db = .ok (a, db') → D db db') : Steps (Quiet D) (saving q) := by
  refine Steps.tryCatch (statement_quiet hq) fun e => ?_
  exact Steps.bind (Steps.modify fun w => Quiet.of_conn rfl) fun _ => Steps.throw e

/-! ### Statements that returned -/

theorem raiseIf_ok {condition : Bool} {error : Error} {w w' : World} {u : Unit}
    (h : raiseIf condition error w = (.ok u, w')) : condition = false ∧ w' = w := by
  unfold raiseIf at h
  cases condition with
  | true => cases h
  | false =>
      cases h
      exact ⟨rfl, rfl⟩

theorem statement_ok {α : Type} {q : Database → Except Error (α × Database)} {w w' : World} {a : α}
    (h : statement q w = (.ok a, w')) : ∃ db, q w.db = .ok (a, db) ∧ w' = { w.ticked with db } := by
  unfold statement at h
  simp only at h
  split at h
  · cases h
  · cases hfault : w.env.fault w.clock with
    | none =>
        rw [hfault] at h
        simp only at h
        cases hq : q w.ticked.db with
        | error e =>
            rw [hq] at h
            cases h
        | ok out =>
            rw [hq] at h
            cases h
            exact ⟨_, hq, rfl⟩
    | _ =>
        rw [hfault] at h
        cases h

/-- A statement that returned found a connection that accepts statements. -/
theorem statement_open {α : Type} {q : Database → Except Error (α × Database)} {w w' : World} {a : α}
    (h : statement q w = (.ok a, w')) : w.conn.refuses = false := by
  unfold statement at h
  simp only at h
  split at h
  · cases h
  · next hrefuses => simpa [World.ticked] using hrefuses

theorem query_ok {α : Type} {q : Database → Except Error α} {w w' : World} {a : α}
    (h : query q w = (.ok a, w')) : q w.db = .ok a ∧ w' = w.ticked := by
  obtain ⟨db, hq, hw'⟩ := statement_ok h
  cases hrun : q w.db with
  | error e =>
      rw [hrun] at hq
      cases hq
  | ok b =>
      rw [hrun] at hq
      cases hq
      exact ⟨rfl, hw'⟩

theorem tryCatch_rethrow_ok {α : Type} {x : M α} {handler : Error → M α} {w w' : World} {a : α}
    (hraises : ∀ e u v b, handler e u ≠ (.ok b, v)) (h : (tryCatch x handler) w = (.ok a, w')) :
    x w = (.ok a, w') := by
  rw [tryCatch_run] at h
  match hx : x w with
  | (.ok b, u) =>
      rw [hx] at h
      exact h
  | (.error e, u) =>
      rw [hx] at h
      exact absurd h (hraises e u w' a)

theorem saving_ok {α : Type} {q : Database → Except Error (α × Database)} {w w' : World} {a : α}
    (h : saving q w = (.ok a, w')) : ∃ db, q w.db = .ok (a, db) ∧ w' = { w.ticked with db } := by
  refine statement_ok (tryCatch_rethrow_ok ?_ h)
  intro e u v b hraise
  obtain ⟨_, _, _, hthrow⟩ := bind_ok hraise
  exact throw_ok hthrow

/-! ### Atomic blocks -/

/-- Rolling back to a savepoint is quiet when what it undoes is. -/
theorem rollbackSavepoint_quiet {before w : World} (h : Quiet D before w) :
    Quiet D before (rollbackSavepoint before w).2 := by
  have htick : Quiet D before w.ticked := h.trans (Quiet.ticked w)
  have hmarked : Quiet D before
      { w.ticked with conn := { w.ticked.conn with needsRollback := true } } :=
    htick.trans (Quiet.of_conn rfl)
  unfold rollbackSavepoint
  cases hbroken : w.ticked.conn.broken with
  | true => simpa [hbroken] using hmarked
  | false =>
      cases hfault : w.env.fault w.clock with
      | refused => simpa [hbroken, hfault] using hmarked
      | lost => simpa [hbroken, hfault] using hmarked
      | commitFailed f => simpa [hbroken, hfault] using hmarked
      | none =>
          simp only [hbroken]
          obtain ⟨new, hnew, hraised, hgone⟩ := htick.journal
          refine { htick with
            db := Restorable.rollback htick.db
            inAtomic := htick.inAtomic
            journal := ?_
            onCommit := fun _ => ⟨[], by simp [World.note], List.not_mem_nil⟩ }
          refine ⟨new ++ [.rolledBack (lostRows w.ticked.db before.db)], ?_, ?_, ?_⟩
          · simp only [World.note, hnew, List.append_assoc]
          · simpa using hraised
          · exact hgone.rollback.append (Event.Gone.lostRows (Restorable.extends' htick.db))

theorem rollbackSavepoint_ok (before w : World) :
    rollbackSavepoint before w = (.ok (), (rollbackSavepoint before w).2) := by
  unfold rollbackSavepoint
  simp only
  split <;> rfl

/-- The savepoint rule: a relation that opening and releasing a savepoint and rolling back to it respect
holds across the block when it holds across the body. -/
theorem savepoint_steps {R : World → World → Prop} [IsTrans World R] {α : Type} {body : M α}
    (hquery : Steps R (query fun _ => .ok ()))
    (hrollback : ∀ before w, R before w → R before (rollbackSavepoint before w).2)
    (hbody : Steps R body) : Steps R (savepoint body) := by
  intro w
  unfold savepoint
  rw [bind_run_ok (get_run w)]
  split
  · exact hbody w
  · match hopen : query (fun _ => .ok ()) w with
    | (.error e, u) =>
        rw [bind_run_error hopen]
        exact hquery.of_error hopen
    | (.ok (), u) =>
        rw [bind_run_ok hopen, bind_run_ok (attempt_run body u), bind_run_ok (get_run _)]
        have hafter : R w (body u).2 := trans_of R (hquery.of_ok hopen) (hbody u)
        split
        · exact hafter
        · cases (body u).1 with
          | error e =>
              simp only
              rw [bind_run_ok (rollbackSavepoint_ok w _)]
              exact hrollback w _ hafter
          | ok a =>
              simp only
              split
              · rw [bind_run_ok (rollbackSavepoint_ok w _)]
                exact hrollback w _ hafter
              · match hclose : query (fun _ => .ok ()) (body u).2 with
                | (.ok (), v) =>
                    rw [bind_run, tryCatch_run, hclose]
                    exact trans_of R hafter (hquery.of_ok hclose)
                | (.error e, v) =>
                    rw [bind_run, tryCatch_run, hclose]
                    simp only
                    rw [bind_run_ok (rollbackSavepoint_ok w _)]
                    exact hrollback w _ (trans_of R hafter (hquery.of_error hclose))

theorem savepoint_quiet {α : Type} {body : M α} (hbody : Steps (Quiet D) body) :
    Steps (Quiet D) (savepoint body) :=
  savepoint_steps (query_quiet _) (fun _ _ => rollbackSavepoint_quiet) hbody

/-- Callbacks that mark no owner committed do nothing the model can see. -/
theorem runHooks_state {hooks : List Callback} (h : Callback.markCommitted ∉ hooks) (w : World) :
    (runHooks hooks w).2 = w := by
  induction hooks with
  | nil => rfl
  | cons hook rest ih =>
      have hrest : Callback.markCommitted ∉ rest := fun hmem => h (List.mem_cons_of_mem _ hmem)
      match hook with
      | .markCommitted => exact absurd List.mem_cons_self h
      | .projectMetadata _ => exact ih hrest
      | .foreign none => exact ih hrest
      | .foreign (some _) => rfl

theorem leaveAtomic_state {hooks : List Callback} (h : Callback.markCommitted ∉ hooks) (w : World) :
    (leaveAtomic hooks w).2 = w.ticked := by
  have htick : tick w = (.ok (w.env.fault w.clock), w.ticked) := rfl
  unfold leaveAtomic
  rw [bind_run_ok htick]
  cases w.env.fault w.clock with
  | none => exact runHooks_state h w.ticked
  | refused => rfl
  | lost => rfl
  | commitFailed f => rfl

/-- However a transaction ends, the world around it stays what it was. -/
theorem Still.ending {start w : World} (h : Still D start w) (durable : Bool) :
    Still D start (w.ending start durable) := by
  obtain ⟨new, hnew, hraised, hgone⟩ := h.journal
  have hevents : (w.ending start durable).journal = start.journal ++ (new ++ [.ended durable]) := by
    simp only [World.ending, World.note, hnew, List.append_assoc]
  have hraised' : Event.blockRaised ∉ new ++ [.ended durable] := by simpa using hraised
  have hended : ∀ db, Event.Gone start.db.nextId db [.ended durable] := by
    intro db ids hids
    cases List.mem_singleton.mp hids
  cases durable with
  | true => exact { h with journal := ⟨_, hevents, hraised', hgone.append (hended _)⟩ }
  | false =>
      exact { h with
        db := Restorable.rollback h.db
        journal := ⟨_, hevents, hraised', hgone.rollback.append (hended _)⟩ }

theorem commit_state (start w : World) :
    ∃ durable, (commit start w).2 = w.ticked.ending start durable := by
  unfold commit
  simp only
  split
  · exact ⟨_, rfl⟩
  · split <;> exact ⟨_, rfl⟩

/-- The ways to leave an outermost atomic block, from the world its body starts in: what is reported to
the caller, and in which world. -/
inductive Leaves {α : Type} (start : World) : Except Error α → World → Except AtomicFailure α → World → Prop
  | closed {r : Except Error α} {after : World} (hclosed : after.conn.closed = true) :
      Leaves start r after (r.mapError .body) (after.dropped start)
  | raised {e : Error} {after : World} (hopen : after.conn.closed = false) :
      Leaves start (.error e) after (.error (.body e)) (after.ending start false).ticked
  | raisedExit {e : Error} {after : World} (hopen : after.conn.closed = false)
      (hfault : after.env.fault after.clock ≠ .none) :
      Leaves start (.error e) after (.error (.exit .operational)) (after.ending start false).ticked
  | marked {a : α} {after : World} {r : Except AtomicFailure α} (hmarked : after.conn.needsRollback = true)
      (hr : r = .ok a ∨ r = .error (.exit .operational)) :
      Leaves start (.ok a) after r (after.ending start false).ticked
  | uncommitted {a : α} {after left : World} {e f : Error} (hcommit : commit start after = (.error e, left))
      (hf : f = e ∨ f = .operational) : Leaves start (.ok a) after (.error (.exit f)) left.ticked
  | committed {a : α} {after left w : World} (hcommit : commit start after = (.ok (), left))
      (hleave : leaveAtomic after.onCommit left = (.ok (), w)) : Leaves start (.ok a) after (.ok a) w
  | hookRaised {a : α} {after left w : World} {e : Error} (hcommit : commit start after = (.ok (), left))
      (hleave : leaveAtomic after.onCommit left = (.error e, w)) :
      Leaves start (.ok a) after (.error (.exit e)) w

theorem finishing_nil {α : Type} (outcome : Except AtomicFailure α) (w : World) :
    finishing [] outcome w = (.ok outcome, w.ticked) ∨
      finishing [] outcome w = (.ok (.error (.exit .operational)), w.ticked) ∧
        w.env.fault w.clock ≠ .none := by
  have htick : tick w = (.ok (w.env.fault w.clock), w.ticked) := rfl
  unfold finishing leaveAtomic
  rw [tryCatch_run, bind_run, bind_run_ok htick]
  cases w.env.fault w.clock with
  | none => exact .inl rfl
  | refused => exact .inr ⟨rfl, by simp⟩
  | lost => exact .inr ⟨rfl, by simp⟩
  | commitFailed f => exact .inr ⟨rfl, by simp⟩

theorem leaveOutermost_leaves {α : Type} (start after : World) (result : Except Error α) :
    ∃ r w, leaveOutermost start result after = (.ok r, w) ∧ Leaves start result after r w := by
  unfold leaveOutermost
  rw [bind_run_ok (get_run after)]
  split
  · next hclosed =>
      rw [bind_run_ok (modify_run _ after)]
      exact ⟨_, _, rfl, .closed hclosed⟩
  · next hopen =>
      have hopen : after.conn.closed = false := by simpa using hopen
      cases result with
      | error e =>
          simp only
          rw [bind_run_ok (modify_run _ after)]
          rcases finishing_nil (.error (.body e)) (after.ending start false) with h | ⟨h, hfault⟩
          · exact ⟨_, _, h, .raised hopen⟩
          · exact ⟨_, _, h, .raisedExit hopen hfault⟩
      | ok a =>
          simp only
          split
          · next hmarked =>
              rw [bind_run_ok (modify_run _ after)]
              rcases finishing_nil (.ok a) (after.ending start false) with h | ⟨h, -⟩
              · exact ⟨_, _, h, .marked hmarked (.inl rfl)⟩
              · exact ⟨_, _, h, .marked hmarked (.inr rfl)⟩
          · rw [bind_run_ok (attempt_run _ after)]
            match hcommit : commit start after with
            | (.error e, left) =>
                rcases finishing_nil (.error (.exit e)) left with h | ⟨h, -⟩
                · exact ⟨_, _, h, .uncommitted hcommit (.inl rfl)⟩
                · exact ⟨_, _, h, .uncommitted hcommit (.inr rfl)⟩
            | (.ok (), left) =>
                change ∃ r w, finishing after.onCommit (.ok a) left = (.ok r, w) ∧ _
                unfold finishing
                rw [tryCatch_run, bind_run]
                match hleave : leaveAtomic after.onCommit left with
                | (.ok (), w) => exact ⟨_, _, rfl, .committed hcommit hleave⟩
                | (.error e, w) => exact ⟨_, _, rfl, .hookRaised hcommit hleave⟩

/-- An outermost block either could not open a transaction, or ran its body and left. -/
theorem outermostAtomic_leaves {α : Type} (body : M α) (w : World) :
    outermostAtomic body w = (.ok (.error (.exit .operational)), w.ticked) ∨
      ∃ result after r w', body w.ticked.begun = (result, after) ∧
        outermostAtomic body w = (.ok r, w') ∧ Leaves w.ticked.begun result after r w' := by
  have htick : tick w = (.ok (w.env.fault w.clock), w.ticked) := rfl
  unfold outermostAtomic
  rw [bind_run_ok htick]
  cases w.env.fault w.clock with
  | refused => exact .inl rfl
  | lost => exact .inl rfl
  | commitFailed f => exact .inl rfl
  | none =>
      right
      simp only
      rw [bind_run_ok (modify_run _ w.ticked), bind_run_ok (get_run _), bind_run_ok (attempt_run body _)]
      obtain ⟨r, w', hleave, hleaves⟩ :=
        leaveOutermost_leaves w.ticked.begun (body w.ticked.begun).2 (body w.ticked.begun).1
      exact ⟨_, _, r, w', rfl, hleave, hleaves⟩

theorem Leaves.still {α : Type} {start after w : World} {result : Except Error α}
    {r : Except AtomicFailure α} (h : Leaves start result after r w) (hafter : Still D start after)
    (hmark : Callback.markCommitted ∉ after.onCommit) :
    Still D start w ∧ w.conn.inAtomic = false := by
  have hending : ∀ durable, Still D start (after.ending start durable).ticked :=
    fun durable => (hafter.ending durable).trans (Still.ticked _)
  have hcommitted : ∀ {e left}, commit start after = (e, left) →
      Still D start left.ticked ∧ left.ticked.conn.inAtomic = false := by
    intro e left hcommit
    obtain ⟨durable, hstate⟩ := commit_state start after
    rw [hcommit] at hstate
    obtain rfl : left = after.ticked.ending start durable := hstate
    exact ⟨((hafter.trans (Still.ticked after)).ending durable).trans (Still.ticked _), rfl⟩
  cases h with
  | closed hclosed => exact ⟨{ hafter.ending false with }, rfl⟩
  | raised hopen => exact ⟨hending false, rfl⟩
  | raisedExit hopen hfault => exact ⟨hending false, rfl⟩
  | marked hmarked hr => exact ⟨hending false, rfl⟩
  | uncommitted hcommit hf => exact hcommitted hcommit
  | @committed a after left w hcommit hleave =>
      have hstate := congrArg Prod.snd hleave
      rw [leaveAtomic_state hmark] at hstate
      obtain rfl : left.ticked = w := hstate
      exact hcommitted hcommit
  | @hookRaised a after left w e hcommit hleave =>
      have hstate := congrArg Prod.snd hleave
      rw [leaveAtomic_state hmark] at hstate
      obtain rfl : left.ticked = w := hstate
      exact hcommitted hcommit

theorem Still.begun (w : World) : Still D w w.ticked.begun := { Still.ticked w with }

theorem outermostAtomic_quiet {α : Type} {body : M α} (hbody : Steps (Quiet D) body) {w : World}
    (hw : w.conn.inAtomic = false) : Quiet D w (outermostAtomic body w).2 := by
  rcases outermostAtomic_leaves body w with h | ⟨result, after, r, w', hrun, hout, hleaves⟩
  · rw [h]
    exact Quiet.ticked w
  · rw [hout]
    have hquiet : Quiet D w.ticked.begun after := by
      have := hbody w.ticked.begun
      rwa [hrun] at this
    obtain ⟨more, hmore, hmark⟩ := hquiet.onCommit rfl
    obtain ⟨hstill, hidle⟩ := hleaves.still hquiet.toStill (by
      rw [hmore]
      exact hmark)
    exact {
      toStill := (Still.begun w).trans hstill
      inAtomic := hidle.trans hw.symm
      onCommit := fun hin => by
        rw [hw] at hin
        cases hin }

theorem atomic_quiet {α : Type} {body : M α} (hbody : Steps (Quiet D) body) : Steps (Quiet D) (atomic body) := by
  intro w
  unfold atomic
  rw [bind_run_ok (get_run w)]
  split
  · exact savepoint_quiet hbody w
  · next hin =>
      have hquiet := outermostAtomic_quiet (D := D) hbody (w := w) (by simpa using hin)
      match hout : outermostAtomic body w with
      | (.error e, u) =>
          rw [hout] at hquiet
          rw [bind_run_error hout]
          exact hquiet
      | (.ok (.ok a), u) =>
          rw [hout] at hquiet
          rw [bind_run_ok hout]
          exact hquiet
      | (.ok (.error f), u) =>
          rw [hout] at hquiet
          rw [bind_run_ok hout]
          exact hquiet

/-! ### Atomic blocks that returned -/

theorem rollbackSavepoint_db (before w : World) :
    (rollbackSavepoint before w).2.db = w.db ∨
      (rollbackSavepoint before w).2.db = w.db.rollbackTo before.db := by
  unfold rollbackSavepoint
  simp only
  split
  · exact .inr rfl
  · exact .inl rfl

/-- A savepoint that returned ran its body once, and undid it only when the body left a rollback due. -/
theorem savepoint_ok {α : Type} {x : M α} {w w' : World} {a : α} (h : savepoint x w = (.ok a, w')) :
    ∃ u v, u.db = w.db ∧ u.conn = w.conn ∧ x u = (.ok a, v) ∧ (w'.db = v.db ∨
      w'.db = v.db.rollbackTo w.db ∧ w.conn.needsRollback = false ∧ v.conn.needsRollback = true) := by
  unfold savepoint at h
  rw [bind_run_ok (get_run w)] at h
  split at h
  · exact ⟨w, w', rfl, rfl, h, .inl rfl⟩
  · next hclean =>
    have hclean : w.conn.needsRollback = false := by simpa using hclean
    obtain ⟨_, u, hopen, h⟩ := bind_ok h
    obtain ⟨-, rfl⟩ := query_ok hopen
    rw [bind_run_ok (attempt_run x _), bind_run_ok (get_run _)] at h
    match hx : x w.ticked with
    | (.error e, v) =>
        simp only [hx] at h
        split at h
        · cases h
        · rw [bind_run_ok (rollbackSavepoint_ok w v)] at h
          exact absurd h (by simp [throw_run])
    | (.ok b, v) =>
        simp only [hx] at h
        split at h
        · cases h
          exact ⟨w.ticked, _, rfl, rfl, hx, .inl rfl⟩
        · split at h
          · next hdue =>
              rw [bind_run_ok (rollbackSavepoint_ok w v)] at h
              cases h
              refine ⟨w.ticked, v, rfl, rfl, hx, ?_⟩
              rcases rollbackSavepoint_db w v with hdb | hdb
              · exact .inl hdb
              · exact .inr ⟨hdb, hclean, hdue⟩
          · obtain ⟨_, z, hclose, h⟩ := bind_ok h
            cases h
            have hquery : query (fun _ => .ok ()) v = (.ok (), w') := by
              refine tryCatch_rethrow_ok ?_ hclose
              intro e u v b hraise
              obtain ⟨_, _, _, hthrow⟩ := bind_ok hraise
              exact throw_ok hthrow
            obtain ⟨-, rfl⟩ := query_ok hquery
            exact ⟨w.ticked, v, rfl, rfl, hx, .inl rfl⟩

/-- Inside a transaction, a block that returned and left no rollback due kept what its body did. -/
theorem atomic_kept {α : Type} {x : M α} {w w' : World} {a : α} (hin : w.conn.inAtomic = true)
    (hx : ∀ {u v : World} {b : α}, x u = (.ok b, v) → v.conn = u.conn) (h : atomic x w = (.ok a, w')) :
    ∃ u v, u.db = w.db ∧ x u = (.ok a, v) ∧ w'.db = v.db := by
  unfold atomic at h
  rw [bind_run_ok (get_run w), if_pos hin] at h
  obtain ⟨u, v, hu, hconn, hrun, hdb | ⟨-, hclean, hdue⟩⟩ := savepoint_ok h
  · exact ⟨u, v, hu, hrun, hdb⟩
  · rw [hx hrun, hconn, hclean] at hdue
    cases hdue

theorem World.ending_db (w start : World) (durable : Bool) :
    (w.ending start durable).db = w.db ∨ (w.ending start durable).db = w.db.rollbackTo start.db := by
  cases durable with
  | true => exact .inl rfl
  | false => exact .inr rfl

theorem runHooks_db (hooks : List Callback) (w : World) : (runHooks hooks w).2.db = w.db := by
  induction hooks generalizing w with
  | nil => rfl
  | cons hook rest ih =>
      match hook with
      | .markCommitted => exact ih _
      | .projectMetadata _ => exact ih w
      | .foreign none => exact ih w
      | .foreign (some _) => rfl

theorem leaveAtomic_db (hooks : List Callback) (w : World) : (leaveAtomic hooks w).2.db = w.db := by
  have htick : tick w = (.ok (w.env.fault w.clock), w.ticked) := rfl
  unfold leaveAtomic
  rw [bind_run_ok htick]
  cases w.env.fault w.clock with
  | none => exact runHooks_db hooks w.ticked
  | refused => rfl
  | lost => rfl
  | commitFailed f => rfl

theorem Leaves.db {α : Type} {start after w : World} {result : Except Error α}
    {r : Except AtomicFailure α} (h : Leaves start result after r w) :
    w.db = after.db ∨ w.db = after.db.rollbackTo start.db := by
  have hcommitted : ∀ {e left}, commit start after = (e, left) →
      left.db = after.db ∨ left.db = after.db.rollbackTo start.db := by
    intro e left hcommit
    obtain ⟨durable, hstate⟩ := commit_state start after
    rw [hcommit] at hstate
    obtain rfl : left = after.ticked.ending start durable := hstate
    exact World.ending_db after.ticked start durable
  cases h with
  | closed hclosed => exact .inr rfl
  | raised hopen => exact .inr rfl
  | raisedExit hopen hfault => exact .inr rfl
  | marked hmarked hr => exact .inr rfl
  | @uncommitted a after left e f hcommit hf =>
      have hleft : left.db = after.db ∨ left.db = after.db.rollbackTo start.db := hcommitted hcommit
      exact hleft
  | @committed a after left w hcommit hleave =>
      have hdb := leaveAtomic_db after.onCommit left
      rw [hleave] at hdb
      exact hdb ▸ hcommitted hcommit
  | @hookRaised a after left w e hcommit hleave =>
      have hdb := leaveAtomic_db after.onCommit left
      rw [hleave] at hdb
      exact hdb ▸ hcommitted hcommit

theorem Leaves.ok {α : Type} {start after w : World} {result : Except Error α} {a : α}
    (h : Leaves start result after (.ok a) w) : result = .ok a := by
  generalize hr : (Except.ok a : Except AtomicFailure α) = r at h
  cases h with
  | @closed result after hclosed =>
      cases result with
      | ok b =>
          cases hr
          rfl
      | error e => cases hr
  | raised => cases hr
  | raisedExit => cases hr
  | marked hmarked hok =>
      rcases hok with rfl | rfl
      · cases hr
        rfl
      · cases hr
  | uncommitted => cases hr
  | committed =>
      cases hr
      rfl
  | hookRaised => cases hr

/-- Outside a transaction, a block that returned ran its body once, in a transaction of its own. -/
theorem atomic_outermost_ok {α : Type} {x : M α} {w w' : World} {a : α} (hout : w.conn.inAtomic = false)
    (h : atomic x w = (.ok a, w')) : ∃ after, x w.ticked.begun = (.ok a, after) ∧
      (w'.db = after.db ∨ w'.db = after.db.rollbackTo w.db) := by
  unfold atomic at h
  rw [bind_run_ok (get_run w)] at h
  simp only [hout, Bool.false_eq_true, if_false] at h
  obtain ⟨r, u, hleft, h⟩ := bind_ok h
  cases r with
  | error f => exact absurd h (by simp [throw_run])
  | ok b =>
      cases h
      rcases outermostAtomic_leaves x w with hfail | ⟨result, after, r, z, hrun, hleft', hleaves⟩
      · rw [hleft] at hfail
        cases hfail
      · rw [hleft] at hleft'
        cases hleft'
        rw [hleaves.ok] at hrun
        exact ⟨after, hrun, hleaves.db⟩

/-- A block that returned ran its body once, and kept or undid what the body did to the database. -/
theorem atomic_ok {α : Type} {x : M α} {w w' : World} {a : α} (h : atomic x w = (.ok a, w')) :
    ∃ u v, u.db = w.db ∧ x u = (.ok a, v) ∧ (w'.db = v.db ∨ w'.db = v.db.rollbackTo w.db) := by
  cases hin : w.conn.inAtomic with
  | true =>
      unfold atomic at h
      rw [bind_run_ok (get_run w), if_pos hin] at h
      obtain ⟨u, v, hu, -, hrun, hdb⟩ := savepoint_ok h
      exact ⟨u, v, hu, hrun, hdb.imp_right And.left⟩
  | false =>
      obtain ⟨after, hrun, hdb⟩ := atomic_outermost_ok hin h
      exact ⟨w.ticked.begun, after, rfl, hrun, hdb⟩

end NetboxOpenbao
