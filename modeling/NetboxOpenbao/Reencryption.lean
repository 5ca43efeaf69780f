import NetboxOpenbao.Administration.Json
import NetboxOpenbao.AuthMaterial
import NetboxOpenbao.Effect.Prog

/-!
# Re-encrypting the authentication material

The command that follows a rotation of `SECRET_KEY`: every row's configured fields are opened with the old key and
closed with the current one, in one transaction over the whole table.
-/

namespace NetboxOpenbao

open Effect

/-- Fernet under the key that HKDF derives from a secret key. A token depends on the instant and on random bytes, which
are its nonce. -/
class Fernet where
  encrypt (secretKey nonce plaintext : String) : String
  decrypt (secretKey token : String) : Option String

/-- `AuthMaterialDecryptionError`. -/
def decryptionError : Error := .raised "AuthMaterialDecryptionError"

def ciphertextPrefix : String := "v1:"

def authMaterialFields : List AuthField := [.roleId, .secretId, .token, .k8sRole, .k8sJwtPath, .clientCert, .clientKey]

section

variable [Fernet]

/-- `_encrypt(value, secret_key=…)`. -/
def encryptValue (secretKey nonce value : String) : Except Error String :=
  if value = "" then .ok ""
  else if secretKey = "" then .error decryptionError
  else .ok (encrypt value (Fernet.encrypt secretKey nonce value))

/-- `_decrypt(value, secret_key=…)`. -/
def decryptValue (secretKey value : String) : Except Error String :=
  if value = "" then .ok ""
  else if !Text.startsWith value ciphertextPrefix then .error decryptionError
  else if secretKey = "" then .error decryptionError
  else match Fernet.decrypt secretKey (String.ofList (value.toList.drop ciphertextPrefix.toList.length)) with
    | some plaintext => .ok plaintext
    | none => .error decryptionError

/-- `get_secret(name, secret_key=…)` of a row. -/
def EngineAuthMaterial.getSecret (material : EngineAuthMaterial) (secretKey : String) (name : AuthField) :
    Except Error String :=
  decryptValue secretKey (material.columns (.ciphertext name))

def EngineAuthMaterial.isConfigured (material : EngineAuthMaterial) (name : AuthField) : Bool :=
  material.columns (.ciphertext name) != ""

/-! ### The table -/

/-- The rows of the table by their keys, no two under one key. -/
structure MaterialTable where
  rows : List (Nat × EngineAuthMaterial)
  distinct : (rows.map Prod.fst).Nodup

namespace MaterialTable

def row? (table : MaterialTable) (pk : Nat) : Option EngineAuthMaterial := table.rows.lookup pk

/-- `UPDATE … WHERE id = pk`. -/
def update (table : MaterialTable) (pk : Nat) (material : EngineAuthMaterial) : MaterialTable where
  rows := table.rows.map fun entry => if entry.1 = pk then (pk, material) else entry
  distinct := by
    have hkeys : (table.rows.map fun entry => if entry.1 = pk then (pk, material) else entry).map Prod.fst =
        table.rows.map Prod.fst := by
      rw [List.map_map]
      refine List.map_congr_left fun entry _ => ?_
      by_cases h : entry.1 = pk
      · rw [Function.comp, if_pos h, h]
      · rw [Function.comp, if_neg h]
    rw [hkeys]
    exact table.distinct

end MaterialTable

/-! ### The command -/

/-- What the database answers to the statements of one run: to the `SELECT … FOR UPDATE`, to the save of the row under
a key, and to the commit. -/
structure DatabaseAnswers where
  select : Except Error Unit
  save : Nat → Except Error Unit
  commit : Except Error Unit

abbrev Command (α : Type) : Type := Prog Error MaterialTable α

/-- The instance of a row with its configured fields closed anew: all of them are opened before the first is set. -/
def reencrypted (oldSecretKey secretKey : String) (nonces : AuthField → String) (material : EngineAuthMaterial) :
    Except Error MaterialInstance := do
  let names := authMaterialFields.filter material.isConfigured
  let values ← names.mapM fun name => return (name, ← material.getSecret oldSecretKey name)
  values.foldlM (fun (material : MaterialInstance) entry => do
    return material.assign (.ciphertext entry.1) (← encryptValue secretKey (nonces entry.1) entry.2)) (.fromDb material)

/-- `save()` of an instance inside the command's transaction, which has the row locked already. -/
def saveMaterial (answers : DatabaseAnswers) (pk : Nat) (material : MaterialInstance) : Command Unit := do
  Prog.resume (answers.save pk)
  let table ← get
  match table.row? pk with
  | none => throw .doesNotExist
  | some locked => set (table.update pk (material.merge (material.submittedFields none) locked))

/-- `reencrypt(old_secret_key)`. -/
def EngineAuthMaterial.reencrypt (answers : DatabaseAnswers) (oldSecretKey secretKey : String)
    (nonces : Nat → AuthField → String) (entry : Nat × EngineAuthMaterial) : Command Unit := do
  let material ← Prog.resume (reencrypted oldSecretKey secretKey (nonces entry.1) entry.2)
  saveMaterial answers entry.1 material

/-- `with transaction.atomic():`, around statements that the database may refuse. -/
def inTransaction {α : Type} (answers : DatabaseAnswers) (body : Command α) : Command α := do
  let before ← get
  match ← Prog.attempt (do let a ← body; Prog.resume answers.commit; return a) with
  | .ok a => return a
  | .error error => do
      set before
      throw error

/-- `_reencrypt`, once the old key is read: how many rows it re-encrypted. -/
def reencryptCommand (answers : DatabaseAnswers) (oldSecretKey secretKey : String)
    (nonces : Nat → AuthField → String) : Command Nat := do
  match ← Prog.attempt (inTransaction answers (do
      Prog.resume answers.select
      let rows := (← get).rows
      rows.forM (EngineAuthMaterial.reencrypt answers oldSecretKey secretKey nonces)
      return rows.length)) with
  | .ok count => return count
  | .error error =>
      if error = decryptionError then
        throw (.raised "Auth material re-encryption failed; no rows were changed.")
      else throw error

end

end NetboxOpenbao
