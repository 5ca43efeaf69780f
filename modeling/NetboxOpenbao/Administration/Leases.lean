import Mathlib.Data.List.Sort
import NetboxOpenbao.Administration.Dumps
import NetboxOpenbao.Effect.Dialogue

/-!
# Leases under a prefix

The preview of a prefix-wide revocation lists every lease under the prefix, one LIST call for each level that the
backend reports. A LIST call is a request of a dialogue, so that the backend may answer anything to each.
-/

namespace NetboxOpenbao

open Effect

namespace Finalization

def leaseRe (s : String) : Bool := Text.token ['_', '.', ':', '/', '+', '-'] 499 s

def headerRe (s : String) : Bool :=
  match s.toList with
  | [] => false
  | first :: others => first.isAlpha && others.length ≤ 126 && others.all fun c => c.isAlphanum || c == '-'

def algorithmRe (s : String) : Bool :=
  ["sha2-224", "sha2-256", "sha2-384", "sha2-512", "sha3-224", "sha3-256", "sha3-384", "sha3-512"].contains s

def sourceRe (s : String) : Bool := s == "platform" || s == "all"

/-- The pattern of a kind of identifier. -/
def matcher : List (String × (String → Bool)) :=
  [("lease-prefix", leaseRe), ("header", headerRe), ("algorithm", algorithmRe), ("source", sourceRe)]

/-- `pair in value`, for a pair of one character twice. -/
def doubled (c : Char) : List Char → Bool
  | a :: b :: rest => (a == c && b == c) || doubled c (b :: rest)
  | _ => false

def normalizeFinalIdentifier (value : String) (kind : String) : Except Error String :=
  if value != Text.strip value then .error (.schema "The operation identifier is invalid.")
  else match matcher.lookup kind with
    | none => .error (.schema "The operation identifier is invalid.")
    | some full =>
        if !full value || doubled '.' value.toList || doubled '/' value.toList then
          .error (.schema "The operation identifier is invalid.")
        else .ok value

/-! ### One LIST -/

/-- `execute_final_operation("LIST", …)` for the leases under a prefix. -/
structure LeaseListing where
  under : String
deriving DecidableEq, Repr

/-- `FINAL_RESOURCES["leases"].path("list", under)`. -/
def LeaseListing.path (listing : LeaseListing) : String :=
  "/sys/leases/lookup/" ++ Text.quote ['/'] (Text.rstripSlashes listing.under)

abbrev LeaseDialogue := Dialogue Error LeaseListing (fun _ => Json)

def invalidHierarchy {α : Type} : Except Error α :=
  .error (.openbao .conflict "OpenBao returned an invalid lease hierarchy.")

def hierarchyTooLarge {α : Type} : Except Error α :=
  .error (.openbao .conflict "The lease hierarchy exceeds the reviewed preview bounds.")

/-- One key of a listing: whether it is a branch, and where it leads. -/
def leaseEntry (listed : String) (key : Json) : Except Error (Bool × String) :=
  match key with
  | .str s =>
      if s == "" then invalidHierarchy
      else
        let combined := "/".intercalate ([listed, Text.rstripSlashes s].filter (· != ""))
        match normalizeFinalIdentifier combined "lease-prefix" with
        | .ok normalized => .ok (s.toList.getLast? == some '/', normalized)
        | .error _ => invalidHierarchy
  | _ => invalidHierarchy

def leaseEntries (response : Json) (listed : String) : Except Error (List (Bool × String)) :=
  match response with
  | .dict entries =>
      match JsonObject.get entries "data" .null with
      | .dict container =>
          match JsonObject.get container "keys" .null with
          | .list keys => if keys.length > 2000 then invalidHierarchy else keys.mapM (leaseEntry listed)
          | _ => invalidHierarchy
      | _ => invalidHierarchy
  | _ => invalidHierarchy

/-! ### The search -/

/-- What is left to list, the last added first, and the leaves so far. -/
structure LeaseFound where
  pending : List (String × Nat)
  leaves : List String
  leafBytes : Nat
deriving DecidableEq, Repr

/-- The bytes of a text as JSON. -/
def jsonBytes (value : Json) : Nat := (value.encode true).length

/-- One entry of a listing, the `visited`th, at `depth`. -/
def addLeaseEntry (visited depth : Nat) (found : LeaseFound) (entry : Bool × String) : Except Error LeaseFound :=
  let (branch, path) := entry
  if branch then
    let found := { found with pending := (path, depth + 1) :: found.pending }
    if visited + found.pending.length > 256 then hierarchyTooLarge else .ok found
  else
    let found := if found.leaves.contains path then found else
      { found with leaves := path :: found.leaves, leafBytes := found.leafBytes + (jsonBytes (.str path) + 1) }
    if found.leaves.length > 2000 then hierarchyTooLarge
    else if found.leafBytes > 256000 then hierarchyTooLarge
    else .ok found

def boundedLeaseResult (leaves : List String) : Except Error (List String) :=
  let result := leaves.insertionSort fun a b => a ≤ b
  if result.length > 2000 || jsonBytes (.list (result.map .str)) > 256000 then hierarchyTooLarge else .ok result

def leaseLoop (visited : List String) (found : LeaseFound) : LeaseDialogue (List String) :=
  match found.pending with
  | [] => .done (boundedLeaseResult found.leaves)
  | (current, depth) :: rest =>
      if visited.contains current || depth > 12 || visited.length ≥ 256 then .done hierarchyTooLarge
      else .ask ⟨current⟩ fun answer =>
        match answer with
        | .error error => .done (.error error)
        | .ok response =>
            match (leaseEntries response current >>= fun entries =>
              entries.foldlM (addLeaseEntry (visited.length + 1) depth) { found with pending := rest }) with
            | .error error => .done (.error error)
            | .ok found => leaseLoop (current :: visited) found
termination_by 256 - visited.length
decreasing_by
  simp_all only [Bool.or_eq_true, decide_eq_true_eq, not_or, List.length_cons]
  omega

/-- `_lease_set`. -/
def leaseSet (under : String) : LeaseDialogue (List String) :=
  leaseLoop [] ⟨[(Text.rstripSlashes under, 0)], [], 2⟩

end Finalization

end NetboxOpenbao
