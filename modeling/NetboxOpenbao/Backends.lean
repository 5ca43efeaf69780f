import NetboxOpenbao.Models
import NetboxOpenbao.Errors
import NetboxOpenbao.Effect.Versioned

/-!
# The secret backends

What one engine keeps at a path, and what a backend's read, write and delete do to it. A KV version 2
mount keeps a versioned secret; a version 1 mount keeps one value, which a write replaces and a delete
removes, and knows nothing of versions or check-and-set. Reaching the server can fail at any call; that
part is in `World`.
-/

namespace NetboxOpenbao

open Effect

/-- Where material lives: an engine, and the logical path beneath its mount. -/
structure Location where
  engine : Nat
  path : String
deriving DecidableEq, Repr

/-- What a server keeps at a location: the versions on a KV v2 mount, the value on a KV v1 mount. -/
structure Cell where
  secret : Secret Payload
  value : Option Payload

/-- The handle `get_backend` returns. -/
structure Backend where
  engine : Nat
  slug : String
  choice : BackendChoice
  kvVersion : Nat
deriving DecidableEq, Repr

namespace Backend

def location (b : Backend) (path : String) : Location := ⟨b.engine, path⟩

/-- `_require_kv2`, of the direct transports and of the broker. -/
def requireKv2 (b : Backend) (operation : String) : Except Error Unit :=
  if b.kvVersion = 2 then .ok ()
  else match b.choice with
    | .broker => .error (.openbao .configuration (operation ++
        " through the broker requires a KV version 2 mount; engine " ++ b.slug ++
        " is configured for version " ++ toString b.kvVersion ++ ", which the broker does not serve."))
    | .openbao | .vault => .error (.openbao .configuration (operation ++
        " requires a KV version 2 mount; engine " ++ b.slug ++ " is configured for version " ++
        toString b.kvVersion ++ "."))

/-- The broker refuses every operation on an engine that is not KV v2; the direct transports serve
both versions. -/
def serves (b : Backend) (operation : String) : Except Error Unit :=
  match b.choice with
  | .broker => b.requireKv2 operation
  | .openbao | .vault => .ok ()

def readCell (b : Backend) (cell : Cell) (version : Option Nat) : Except Error Payload := do
  b.serves "Reading a secret"
  if b.kvVersion = 2 then
    match cell.secret.read version with
    | some data => return data
    | none => throw .notFound
  else
    match cell.value with
    | some data => return data
    | none => throw .notFound

def writeCell (b : Backend) (cell : Cell) (data : Payload) (cas : Option Nat) :
    Except Error (Nat × Cell) := do
  b.serves "Writing a secret"
  if b.kvVersion = 2 then
    match cell.secret.write cas data with
    | some (version, secret) => return (version, { cell with secret })
    | none => throw .conflict
  else return (1, { cell with value := some data })

/-- `delete(path, versions=[version])`. -/
def deleteCell (b : Backend) (cell : Cell) (version : Nat) : Except Error Cell := do
  b.serves "Deleting a secret"
  if b.kvVersion = 2 then return { cell with secret := cell.secret.delete version }
  else return { cell with value := none }

/-- `list_versions`: every version number with whether it can still be read. -/
def listCell (b : Backend) (cell : Cell) : Except Error (List (Nat × Bool)) := do
  b.requireKv2 "Listing versions"
  if cell.secret.current = 0 then throw .notFound
  return (cell.secret.versions.zipIdx 1).map fun entry => (entry.2, !entry.1.deleted)

theorem writeCell_v2 {b : Backend} (hb : b.kvVersion = 2) {cell cell' : Cell} {data : Payload}
    {cas : Option Nat} {version : Nat} :
    b.writeCell cell data cas = .ok (version, cell') ↔
      (∀ n, cas = some n → n = cell.secret.current) ∧ version = cell.secret.current + 1 ∧
        cell' = { cell with secret := cell.secret.push data } := by
  have hserves : b.serves "Writing a secret" = .ok () := by
    unfold serves requireKv2
    cases b.choice <;> simp [hb]
  simp only [writeCell, hserves, hb, if_true]
  cases hw : cell.secret.write cas data with
  | none =>
      constructor
      · intro h
        cases h
      · rintro ⟨hcas, -, -⟩
        have hsome : cell.secret.write cas data = some (cell.secret.current + 1, cell.secret.push data) :=
          Secret.write_eq_some.mpr ⟨hcas, rfl, rfl⟩
        rw [hw] at hsome
        cases hsome
  | some out =>
      obtain ⟨v, secret⟩ := out
      obtain ⟨hcas, rfl, rfl⟩ := Secret.write_eq_some.mp hw
      constructor
      · intro h
        cases h
        exact ⟨hcas, rfl, rfl⟩
      · rintro ⟨-, rfl, rfl⟩
        rfl

theorem readCell_v2 {b : Backend} (hb : b.kvVersion = 2) {cell : Cell} {version : Option Nat} {data : Payload} :
    b.readCell cell version = .ok data ↔ cell.secret.read version = some data := by
  have hserves : b.serves "Reading a secret" = .ok () := by
    unfold serves requireKv2
    cases b.choice <;> simp [hb]
  simp only [readCell, hserves, hb, if_true]
  cases cell.secret.read version with
  | none =>
      constructor <;> intro h <;> cases h
  | some found =>
      constructor <;> intro h <;> cases h <;> rfl

theorem deleteCell_v2 {b : Backend} (hb : b.kvVersion = 2) (cell : Cell) (version : Nat) :
    b.deleteCell cell version = .ok { cell with secret := cell.secret.delete version } := by
  have hserves : b.serves "Deleting a secret" = .ok () := by
    unfold serves requireKv2
    cases b.choice <;> simp [hb]
  simp only [deleteCell, hserves, hb, if_true]
  rfl

/-- A KV v1 mount keeps no versions, and a KV v2 mount all of them. -/
theorem writeCell_later {b : Backend} {cell cell' : Cell} {data : Payload} {cas : Option Nat} {version : Nat}
    (h : b.writeCell cell data cas = .ok (version, cell')) : cell.secret.Later cell'.secret := by
  by_cases hkv : b.kvVersion = 2
  · obtain ⟨-, -, rfl⟩ := (writeCell_v2 hkv).mp h
    exact Secret.later_push _ _
  · have hsecret : cell'.secret = cell.secret := by
      unfold writeCell at h
      cases hserves : b.serves "Writing a secret" with
      | error e =>
          rw [hserves] at h
          cases h
      | ok u =>
          rw [hserves] at h
          simp only [hkv, if_false, bind, Except.bind, pure, Except.pure] at h
          cases h
          rfl
    rw [hsecret]
    exact Secret.Later.refl _

theorem deleteCell_secret {b : Backend} {cell cell' : Cell} {version : Nat}
    (h : b.deleteCell cell version = .ok cell') :
    cell'.secret = cell.secret ∨ cell'.secret = cell.secret.delete version := by
  by_cases hkv : b.kvVersion = 2
  · rw [deleteCell_v2 hkv] at h
    cases h
    exact .inr rfl
  · unfold deleteCell at h
    cases hserves : b.serves "Deleting a secret" with
    | error e =>
        rw [hserves] at h
        cases h
    | ok u =>
        rw [hserves] at h
        simp only [hkv, if_false, bind, Except.bind, pure, Except.pure] at h
        cases h
        exact .inl rfl

theorem deleteCell_later {b : Backend} {cell cell' : Cell} {version : Nat}
    (h : b.deleteCell cell version = .ok cell') : cell.secret.Later cell'.secret := by
  rcases deleteCell_secret h with hsecret | hsecret <;> rw [hsecret]
  · exact Secret.Later.refl _
  · exact Secret.later_delete _ _

theorem deleteCell_current {b : Backend} {cell cell' : Cell} {version : Nat}
    (h : b.deleteCell cell version = .ok cell') : cell'.secret.current = cell.secret.current := by
  rcases deleteCell_secret h with hsecret | hsecret <;> rw [hsecret]
  exact Secret.current_delete _ _

end Backend

end NetboxOpenbao
