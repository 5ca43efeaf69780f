/-!
# A versioned secret

One path of a versioned key/value store: every accepted write adds a version, numbered from one, and a
version that is deleted keeps its number but can no longer be read. The number of the newest version
never goes back.
-/

namespace Effect

variable {α : Type}

/-- One version: what was written, and whether it has been deleted since. -/
structure Version (α : Type) where
  data : α
  deleted : Bool

/-- The versions of one path, oldest first: version `n` stands at index `n - 1`. -/
structure Secret (α : Type) where
  versions : List (Version α)

namespace Secret

def empty : Secret α := ⟨[]⟩

/-- The number of the newest version, `0` while nothing has been written. -/
def current (s : Secret α) : Nat := s.versions.length

/-- The version numbered `v`, deleted or not. -/
def version? (s : Secret α) (v : Nat) : Option (Version α) :=
  if v = 0 then none else s.versions[v - 1]?

/-- What was written as version `v`, deleted or not. -/
def written (s : Secret α) (v : Nat) : Option α := (s.version? v).map Version.data

/-- Read one version. No version, or version `0`, asks for the newest one; a deleted version cannot be
read. -/
def read (s : Secret α) (v : Option Nat) : Option α :=
  let number := match v with
    | none | some 0 => s.current
    | some (n + 1) => n + 1
  match s.version? number with
  | some entry => if entry.deleted then none else some entry.data
  | none => none

/-- Write a new version. A check-and-set value must equal the number of the newest version. -/
def write (s : Secret α) (cas : Option Nat) (data : α) : Option (Nat × Secret α) :=
  match cas with
  | some n => if n = s.current then some (s.current + 1, ⟨s.versions ++ [⟨data, false⟩]⟩) else none
  | none => some (s.current + 1, ⟨s.versions ++ [⟨data, false⟩]⟩)

/-- The secret with one more version. -/
def push (s : Secret α) (data : α) : Secret α := ⟨s.versions ++ [⟨data, false⟩]⟩

/-- Delete one version; a number without a version changes nothing. -/
def delete (s : Secret α) (v : Nat) : Secret α :=
  if v = 0 then s else ⟨s.versions.modify (v - 1) fun entry => { entry with deleted := true }⟩

@[simp] theorem current_empty : (empty : Secret α).current = 0 := rfl

@[simp] theorem current_push (s : Secret α) (data : α) : (s.push data).current = s.current + 1 := by
  simp [push, current]

@[simp] theorem current_delete (s : Secret α) (v : Nat) : (s.delete v).current = s.current := by
  unfold delete
  split <;> simp [current]

theorem write_eq_some {s t : Secret α} {cas : Option Nat} {data : α} {v : Nat} :
    s.write cas data = some (v, t) ↔
      (∀ n, cas = some n → n = s.current) ∧ v = s.current + 1 ∧ t = s.push data := by
  cases cas with
  | none => simp [write, push, eq_comm]
  | some n =>
      by_cases h : n = s.current
      · simp [write, push, h, eq_comm]
      · simp [write, h]

theorem version?_eq_none {s : Secret α} {v : Nat} (h : s.current < v) : s.version? v = none := by
  unfold version?
  split
  · rfl
  · simp only [current] at h
    exact List.getElem?_eq_none (by omega)

theorem version?_le {s : Secret α} {v : Nat} {entry : Version α} (h : s.version? v = some entry) :
    v ≤ s.current := by
  rcases Nat.lt_or_ge s.current v with hlt | hle
  · rw [version?_eq_none hlt] at h
    cases h
  · exact hle

theorem version?_push_of_le {s : Secret α} {v : Nat} (h : v ≤ s.current) (data : α) :
    (s.push data).version? v = s.version? v := by
  unfold version? push
  split
  · rfl
  · simp only [current] at h
    exact List.getElem?_append_left (by omega)

theorem version?_push_new (s : Secret α) (data : α) :
    (s.push data).version? (s.current + 1) = some ⟨data, false⟩ := by
  simp [version?, push, current]

theorem version?_delete_of_ne {s : Secret α} {v w : Nat} (h : v ≠ w) :
    (s.delete w).version? v = s.version? v := by
  unfold delete
  split
  · rfl
  · unfold version?
    split
    · rfl
    · simp only [List.getElem?_modify]
      have hne : w - 1 ≠ v - 1 := by omega
      simp [hne]

theorem version?_delete_self (s : Secret α) (v : Nat) :
    (s.delete v).version? v = (s.version? v).map fun entry => { entry with deleted := true } := by
  by_cases hv : v = 0
  · subst hv
    rfl
  · simp [delete, version?, hv]

@[simp] theorem written_delete (s : Secret α) (v w : Nat) : (s.delete w).written v = s.written v := by
  by_cases h : v = w
  · subst h
    rw [written, version?_delete_self, written, Option.map_map]
    rfl
  · rw [written, version?_delete_of_ne h, written]

/-- Deleting a version again changes nothing. -/
theorem delete_delete (s : Secret α) (v : Nat) : (s.delete v).delete v = s.delete v := by
  unfold delete
  split
  · rfl
  · rw [List.modify_modify_eq]
    rfl

theorem written_push_of_le {s : Secret α} {v : Nat} (h : v ≤ s.current) (data : α) :
    (s.push data).written v = s.written v := by
  rw [written, version?_push_of_le h, written]

@[simp] theorem written_push_new (s : Secret α) (data : α) :
    (s.push data).written (s.current + 1) = some data := by
  rw [written, version?_push_new]
  rfl

theorem written_le {s : Secret α} {v : Nat} {data : α} (h : s.written v = some data) :
    v ≤ s.current := by
  unfold written at h
  obtain ⟨entry, hentry, -⟩ := Option.map_eq_some_iff.mp h
  exact version?_le hentry

/-- Reading a numbered version looks at that version only. -/
theorem read_numbered (s : Secret α) {v : Nat} (h : 0 < v) :
    s.read (some v) = (s.version? v).bind fun entry => if entry.deleted then none else some entry.data := by
  obtain ⟨n, rfl⟩ : ∃ n, v = n + 1 := ⟨v - 1, by omega⟩
  simp only [read]
  cases s.version? (n + 1) <;> rfl

theorem read_latest (s : Secret α) :
    s.read none = (s.version? s.current).bind fun entry => if entry.deleted then none else some entry.data := by
  simp only [read]
  cases s.version? s.current <;> rfl

theorem read_push_of_le {s : Secret α} {v : Nat} (h0 : 0 < v) (h : v ≤ s.current) (data : α) :
    (s.push data).read (some v) = s.read (some v) := by
  rw [read_numbered _ h0, read_numbered _ h0, version?_push_of_le h]

theorem read_delete_of_ne {s : Secret α} {v w : Nat} (h0 : 0 < v) (h : v ≠ w) :
    (s.delete w).read (some v) = s.read (some v) := by
  rw [read_numbered _ h0, read_numbered _ h0, version?_delete_of_ne h]

theorem read_latest_push (s : Secret α) (data : α) : (s.push data).read none = some data := by
  rw [read_latest, current_push, version?_push_new]
  rfl

/-- The version a read asks for: no version, or version `0`, is the newest one. -/
def number (s : Secret α) : Option Nat → Nat
  | none | some 0 => s.current
  | some (n + 1) => n + 1

@[simp] theorem number_none (s : Secret α) : s.number none = s.current := rfl

@[simp] theorem number_current (s : Secret α) : s.number (some s.current) = s.current := by
  cases hcurrent : s.current with
  | zero => exact hcurrent
  | succ n => rfl

theorem number_congr {s t : Secret α} (h : t.current = s.current) (v : Option Nat) : t.number v = s.number v := by
  rcases v with _ | _ | n
  · exact h
  · exact h
  · rfl

theorem read_eq (s : Secret α) (v : Option Nat) :
    s.read v = (s.version? (s.number v)).bind fun entry => if entry.deleted then none else some entry.data := by
  rcases v with _ | _ | n
  · exact s.read_latest
  · exact s.read_latest
  · exact s.read_numbered (Nat.succ_pos n)

/-- Reads that ask for the same version are answered the same. -/
theorem read_congr {s : Secret α} {v w : Option Nat} (h : s.number v = s.number w) : s.read v = s.read w := by
  rw [read_eq, read_eq, h]

/-- Writing a version and deleting it again leaves every older version as it was and the newest one
unreadable. -/
theorem read_push_delete_latest (s : Secret α) (data : α) :
    ((s.push data).delete (s.current + 1)).read none = none := by
  rw [read_latest, current_delete, current_push, version?_delete_self, version?_push_new]
  rfl

/-! ### A version more -/

/-- `t` is `s` with one version more, which reads as `visible`: what was written, or nothing once it has been
deleted again. -/
structure Topped (s t : Secret α) (visible : Option α) : Prop where
  current : t.current = s.current + 1
  below : ∀ v, v ≠ s.current + 1 → t.version? v = s.version? v
  top : t.read none = visible

/-- A reader that asks for `pointer` does not notice a version more that reads as `visible`. -/
def Shielded (s : Secret α) (pointer : Option Nat) (visible : Option α) : Prop :=
  match pointer with
  | none | some 0 => s.read none = visible
  | some (n + 1) => n = s.current → visible = none

theorem topped_push (s : Secret α) (data : α) : s.Topped (s.push data) (some data) where
  current := current_push s data
  below v hv := by
    rcases Nat.lt_or_ge s.current v with hlt | hle
    · have habove : (s.push data).current < v := by
        rw [current_push]
        omega
      rw [version?_eq_none hlt, version?_eq_none habove]
    · exact version?_push_of_le hle data
  top := read_latest_push s data

theorem topped_push_delete (s : Secret α) (data : α) :
    s.Topped ((s.push data).delete (s.current + 1)) none where
  current := by rw [current_delete, current_push]
  below v hv := by rw [version?_delete_of_ne hv, (s.topped_push data).below v hv]
  top := read_push_delete_latest s data

theorem Topped.read_iff {s t : Secret α} {visible : Option α} (h : s.Topped t visible) (pointer : Option Nat) :
    t.read pointer = s.read pointer ↔ s.Shielded pointer visible := by
  have hlatest : t.read none = s.read none ↔ s.read none = visible := by
    rw [h.top]
    exact eq_comm
  rcases pointer with _ | _ | n
  · exact hlatest
  · exact hlatest
  · by_cases hn : n = s.current
    · subst hn
      have htop : t.read (some (s.current + 1)) = visible := by
        rw [← h.top]
        exact read_congr h.current.symm
      have hbefore : s.read (some (s.current + 1)) = none := by
        rw [read_numbered s (Nat.succ_pos _), version?_eq_none (Nat.lt_succ_self _)]
        rfl
      rw [htop, hbefore]
      exact ⟨fun hvisible _ => hvisible, fun hvisible => hvisible rfl⟩
    · refine iff_of_true ?_ fun heq => absurd heq hn
      rw [read_numbered t (Nat.succ_pos n), read_numbered s (Nat.succ_pos n), h.below (n + 1) (by omega)]

/-- A reader does not notice a delete of a version it does not ask for, or could not read. -/
theorem read_delete_iff (s : Secret α) (v : Nat) (pointer : Option Nat) :
    (s.delete v).read pointer = s.read pointer ↔ (s.number pointer = v → s.read pointer = none) := by
  rw [read_eq (s.delete v), number_congr (current_delete s v), read_eq s]
  by_cases hv : s.number pointer = v
  · rw [hv, version?_delete_self]
    cases hentry : s.version? v with
    | none => simp
    | some entry =>
        constructor
        · intro heq _
          exact heq.symm
        · intro hgone
          exact (hgone rfl).symm
  · rw [version?_delete_of_ne hv]
    exact iff_of_true rfl fun heq => absurd heq hv

/-! ### Time -/

/-- `t` is `s` after any number of writes and deletes: what has been written once stays on record. -/
structure Later (s t : Secret α) : Prop where
  current : s.current ≤ t.current
  written : ∀ v ≤ s.current, t.written v = s.written v

theorem Later.refl (s : Secret α) : s.Later s := ⟨Nat.le_refl _, fun _ _ => rfl⟩

theorem Later.trans {s t u : Secret α} (h : s.Later t) (h' : t.Later u) : s.Later u where
  current := Nat.le_trans h.current h'.current
  written v hv := by rw [h'.written v (Nat.le_trans hv h.current), h.written v hv]

theorem later_push (s : Secret α) (data : α) : s.Later (s.push data) where
  current := by
    rw [current_push]
    omega
  written _ hv := written_push_of_le hv data

theorem later_delete (s : Secret α) (v : Nat) : s.Later (s.delete v) where
  current := Nat.le_of_eq (current_delete s v).symm
  written w _ := written_delete s w v

theorem Later.written_some {s t : Secret α} (h : s.Later t) {v : Nat} {data : α}
    (hv : s.written v = some data) : t.written v = some data := by
  rw [h.written v (written_le hv), hv]

/-! ### Deletes -/

/-- `t` is `s` after any number of deletes: what can be read is as it was. -/
structure Thinned (s t : Secret α) : Prop where
  current : t.current = s.current
  read : ∀ v data, t.read v = some data → s.read v = some data

theorem Thinned.refl (s : Secret α) : s.Thinned s := ⟨rfl, fun _ _ h => h⟩

theorem Thinned.trans {s t u : Secret α} (h : s.Thinned t) (h' : t.Thinned u) : s.Thinned u where
  current := h'.current.trans h.current
  read v data hread := h.read v data (h'.read v data hread)

theorem thinned_delete (s : Secret α) (v : Nat) : s.Thinned (s.delete v) := by
  refine ⟨current_delete s v, fun w data h => ?_⟩
  rw [read_eq, number_congr (current_delete s v)] at h
  rw [read_eq]
  by_cases hw : s.number w = v
  · rw [hw, version?_delete_self] at h
    cases hentry : s.version? v with
    | none => simp [hentry] at h
    | some entry => simp [hentry] at h
  · rwa [version?_delete_of_ne hw] at h

/-- Reading version `k` and reading without a version never serve two versions. -/
def Agrees (s : Secret α) (k : Nat) : Prop :=
  ∀ latest numbered, s.read none = some latest → s.read (some k) = some numbered →
    s.number (some k) = s.number none

theorem Thinned.agrees {s t : Secret α} {k : Nat} (h : s.Thinned t) (hk : s.Agrees k) : t.Agrees k := by
  intro latest numbered hlatest hnumbered
  have hnumber := hk latest numbered (h.read _ _ hlatest) (h.read _ _ hnumbered)
  rw [number_congr h.current, number_congr h.current]
  exact hnumber

theorem agrees_current (s : Secret α) : s.Agrees s.current := by
  intro latest numbered _ _
  cases hcurrent : s.current with
  | zero => rfl
  | succ n => exact hcurrent.symm

theorem agrees_of_latest_gone {s : Secret α} (h : s.read none = none) (k : Nat) : s.Agrees k := by
  intro latest numbered hlatest _
  rw [h] at hlatest
  cases hlatest

theorem agrees_of_numbered_gone {s : Secret α} {k : Nat} (h : s.read (some k) = none) : s.Agrees k := by
  intro latest numbered _ hnumbered
  rw [h] at hnumbered
  cases hnumbered

/-! ### Pointers -/

/-- Reading version `v`, a version and not the newest one whatever its number, is answered `value`. -/
structure Keeps (s : Secret α) (v : Nat) (value : α) : Prop where
  positive : 0 < v
  read : s.read (some v) = some value

theorem Keeps.le {s : Secret α} {v : Nat} {value : α} (h : s.Keeps v value) : v ≤ s.current := by
  have hread := h.read
  rw [read_numbered s h.positive] at hread
  obtain ⟨entry, hentry, -⟩ := Option.bind_eq_some_iff.mp hread
  exact version?_le hentry

theorem keeps_push_new (s : Secret α) (data : α) : (s.push data).Keeps (s.current + 1) data where
  positive := Nat.succ_pos _
  read := by
    rw [read_numbered _ (Nat.succ_pos _), version?_push_new]
    rfl

theorem Keeps.push {s : Secret α} {v : Nat} {value : α} (h : s.Keeps v value) (data : α) :
    (s.push data).Keeps v value where
  positive := h.positive
  read := (read_push_of_le h.positive h.le data).trans h.read

theorem Keeps.delete {s : Secret α} {v w : Nat} {value : α} (h : s.Keeps v value) (hne : v ≠ w) :
    (s.delete w).Keeps v value where
  positive := h.positive
  read := (read_delete_of_ne h.positive hne).trans h.read

end Secret

end Effect
