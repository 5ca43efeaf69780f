import NetboxOpenbao.Administration.Json

/-!
# Secret-engine mounts

The names a secret-engine mount, a migration and a mounted resource may have.
-/

namespace NetboxOpenbao

namespace Engines

def mountRe (s : String) : Bool := Text.token ['_', '.', '-'] 127 s

/-- `normalize_mount_path` of the engines module. -/
def normalizeMountPath (value : String) : Except Error String :=
  let normalized := Text.stripSlashes (Text.strip value)
  if mountRe normalized then .ok normalized
  else .error (.schema "The secret-engine mount path is invalid.")

theorem normalizeMountPath_valid {value path : String} (h : normalizeMountPath value = .ok path) :
    mountRe path = true := by
  unfold normalizeMountPath at h
  dsimp only at h
  split at h
  · next hvalid => exact Except.ok.inj h ▸ hvalid
  · cases h

/-- The character a mount parameter has in place of `c`. -/
def parameterChar (c : Char) : Char := if c.isAlphanum then c else '_'

/-- The path parameter a document names a mount's operations with. -/
def mountParameterForPath (mountPath : String) : Except Error String := do
  let normalized ← normalizeMountPath mountPath
  return normalized.map parameterChar ++ "_mount_path"

end Engines

/-- A live mount. Its path is as `normalize_mount_path` leaves it. -/
structure SecretEngineMount where
  path : String
  valid : Engines.mountRe path = true
  engineType : String
  accessor : String
  description : String
  isLocal : Bool
  sealWrap : Bool
  defaultLeaseTtl : Nat
  maxLeaseTtl : Nat
  pluginVersion : String
  kvVersion : Nat

end NetboxOpenbao
