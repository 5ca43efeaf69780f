/-!
# The work of an open transaction

The locks a transaction has taken and the writes it has made, the newest first. The transaction sees its writes on top
of what is committed; a rollback to a savepoint drops the newest entries, the locks among them. A transaction whose
every write was admissible where it was made commits to what a serial execution of the writes would give.
-/

namespace Effect

inductive Deed (κ ε : Type) where
  | lock (key : κ)
  | write (effect : ε)
deriving DecidableEq, Repr

abbrev Work (κ ε : Type) : Type := List (Deed κ ε)

variable {κ ε δ : Type} (apply : ε → δ → δ) (admits : ε → δ → Prop)

/-- The effects executed one after another, each where it is admissible. -/
inductive Serially : δ → List ε → δ → Prop where
  | nil (db : δ) : Serially db [] db
  | cons {db db' : δ} {effect : ε} {rest : List ε} (admitted : admits effect db)
      (later : Serially (apply effect db) rest db') : Serially db (effect :: rest) db'

namespace Serially

variable {apply admits} {db db' db'' : δ} {effects more : List ε} {effect : ε}

theorem append (h : Serially apply admits db effects db') (h' : Serially apply admits db' more db'') :
    Serially apply admits db (effects ++ more) db'' := by
  induction h with
  | nil db => exact h'
  | cons admitted _ ih => exact .cons admitted (ih h')

theorem snoc (h : Serially apply admits db effects db') (admitted : admits effect db') :
    Serially apply admits db (effects ++ [effect]) (apply effect db') :=
  h.append (.cons admitted (.nil _))

/-- What every admissible effect preserves, together with the effects before it, holds at the end of a serial
execution. -/
theorem history {P : List ε → δ → Prop}
    (hstep : ∀ done effect db, P done db → admits effect db → P (done ++ [effect]) (apply effect db))
    (h : Serially apply admits db effects db') (done : List ε) (hdb : P done db) : P (done ++ effects) db' := by
  induction h generalizing done with
  | nil db => simpa using hdb
  | cons admitted _ ih => simpa using ih _ (hstep _ _ _ hdb admitted)

theorem invariant {P : δ → Prop} (hstep : ∀ effect db, P db → admits effect db → P (apply effect db))
    (h : Serially apply admits db effects db') (hdb : P db) : P db' :=
  history (P := fun _ => P) (fun _ => hstep) h [] hdb

end Serially

namespace Work

/-- What the transaction sees. -/
def view (db : δ) : Work κ ε → δ
  | [] => db
  | .lock _ :: rest => view db rest
  | .write effect :: rest => apply effect (view db rest)

/-- The writes, the oldest first. -/
def writes : Work κ ε → List ε
  | [] => []
  | .lock _ :: rest => writes rest
  | .write effect :: rest => writes rest ++ [effect]

/-- Every write was admissible where it was made. -/
def Accepted (db : δ) : Work κ ε → Prop
  | [] => True
  | .lock _ :: rest => Accepted db rest
  | .write effect :: rest => admits effect (view apply db rest) ∧ Accepted db rest

/-- Every write comes after the locks it needs. -/
def Covered (needs : ε → κ → Prop) : Work κ ε → Prop
  | [] => True
  | .lock _ :: rest => Covered needs rest
  | .write effect :: rest => (∀ key, needs effect key → .lock key ∈ rest) ∧ Covered needs rest

variable {apply admits} {needs needs' : ε → κ → Prop} {db db' : δ} {work : Work κ ε} {effect : ε} {key : κ}

@[simp] theorem view_nil (db : δ) : view apply db ([] : Work κ ε) = db := rfl

@[simp] theorem view_lock (db : δ) (key : κ) (work : Work κ ε) :
    view apply db (.lock key :: work) = view apply db work := rfl

@[simp] theorem view_write (db : δ) (effect : ε) (work : Work κ ε) :
    view apply db (.write effect :: work) = apply effect (view apply db work) := rfl

theorem Accepted.serially (h : Accepted apply admits db work) :
    Serially apply admits db work.writes (view apply db work) := by
  induction work with
  | nil => exact .nil db
  | cons deed rest ih =>
      cases deed with
      | lock key => exact ih h
      | write e => exact (ih h.2).snoc h.1

theorem Accepted.drop (h : Accepted apply admits db work) (n : Nat) : Accepted apply admits db (work.drop n) := by
  induction work generalizing n with
  | nil => simpa using h
  | cons deed rest ih =>
      cases n with
      | zero => exact h
      | succ n =>
          cases deed with
          | lock key => exact ih h n
          | write e => exact ih h.2 n

/-- A relation between databases that no write breaks holds between what is seen on top of them. -/
theorem view_related {R : δ → δ → Prop} (hR : ∀ effect db db', R db db' → R (apply effect db) (apply effect db'))
    (work : Work κ ε) (h : R db db') : R (view apply db work) (view apply db' work) := by
  induction work with
  | nil => exact h
  | cons deed rest ih =>
      cases deed with
      | lock key => exact ih
      | write e => exact hR e _ _ ih

/-- Work that was accepted on one database is accepted on one that is related to it, where the relation takes nothing
admissible away. -/
theorem Accepted.mono {R : δ → δ → Prop}
    (hR : ∀ effect db db', R db db' → R (apply effect db) (apply effect db'))
    (hadmits : ∀ effect db db', R db db' → admits effect db → admits effect db') (hrelated : R db db')
    (h : Accepted apply admits db work) : Accepted apply admits db' work := by
  induction work with
  | nil => trivial
  | cons deed rest ih =>
      cases deed with
      | lock key => exact ih h
      | write e => exact ⟨hadmits e _ _ (view_related hR rest hrelated) h.1, ih h.2⟩

theorem Covered.drop (h : Covered needs work) (n : Nat) : Covered needs (work.drop n) := by
  induction work generalizing n with
  | nil => simpa using h
  | cons deed rest ih =>
      cases n with
      | zero => exact h
      | succ n =>
          cases deed with
          | lock key => exact ih h n
          | write e => exact ih h.2 n

/-- The transaction has the locks its writes need. -/
theorem Covered.lock_mem (h : Covered needs work) (hwrite : .write effect ∈ work) (hneeds : needs effect key) :
    .lock key ∈ work := by
  induction work with
  | nil => cases hwrite
  | cons deed rest ih =>
      apply List.mem_cons_of_mem
      cases deed with
      | lock k => exact ih h (by simpa using hwrite)
      | write e =>
          rcases List.mem_cons.mp hwrite with hsame | hrest
          · obtain rfl : effect = e := Deed.write.inj hsame
            exact h.1 key hneeds
          · exact ih h.2 hrest

/-- Only the needs of the writes that were made count. -/
theorem Covered.congr (hneeds : ∀ effect, .write effect ∈ work → ∀ key, needs' effect key → needs effect key)
    (h : Covered needs work) : Covered needs' work := by
  induction work with
  | nil => trivial
  | cons deed rest ih =>
      have hrest := ih fun effect heffect => hneeds effect (List.mem_cons_of_mem deed heffect)
      cases deed with
      | lock k => exact hrest h
      | write e => exact ⟨fun key hkey => h.1 key (hneeds e List.mem_cons_self key hkey), hrest h.2⟩

end Work

end Effect
