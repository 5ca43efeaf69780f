import NetboxOpenbao.Administration.Authentication

/-!
# Access-control contracts

What is kept of a response about policies, identities, OIDC or namespaces, or about leases, tools and UI headers.
-/

namespace NetboxOpenbao

namespace Access

def maxPolicyDocument : Nat := 256000

def accessMaterialKeys : List String := Authentication.materialKeys ++ ["client_secret", "key_shares"]

def invalidAccessResponse {α : Type} : Except Error α :=
  .error (.schema "OpenBao returned an invalid access-control response.")

mutual

def normalizeResponseDict (entries : JsonObject) (material : Bool) (depth : Nat) : Except Error JsonObject :=
  match entries with
  | [] => .ok []
  | (key, child) :: rest =>
      if key.length > 500 || key.toList.any Text.control then invalidAccessResponse
      else if material || !accessMaterialKeys.contains (Text.lower key) then do
        let kept ← normalizeResponseValue child material (depth + 1)
        return (key, kept) :: (← normalizeResponseDict rest material depth)
      else normalizeResponseDict rest material depth

def normalizeResponseList (items : List Json) (material : Bool) (depth : Nat) : Except Error (List Json) :=
  match items with
  | [] => .ok []
  | item :: rest => do
      let kept ← normalizeResponseValue item material (depth + 1)
      return kept :: (← normalizeResponseList rest material depth)

def normalizeResponseValue (value : Json) (material : Bool) (depth : Nat) : Except Error Json :=
  if depth > 10 then invalidAccessResponse
  else match value with
    | .dict entries =>
        if entries.length > 1000 then invalidAccessResponse
        else do
          return .dict (← normalizeResponseDict entries material depth)
    | .list items =>
        if items.length > 1000 then invalidAccessResponse
        else do
          return .list (← normalizeResponseList items material depth)
    | .str s => if s.length > maxPolicyDocument || s.toList.contains '\x00' then invalidAccessResponse else .ok (.str s)
    | .float x => if x.isFinite then .ok (.float x) else invalidAccessResponse
    | .null => .ok .null
    | .bool b => .ok (.bool b)
    | .int n => .ok (.int n)

end

/-- A bounded response, without undeclared material unless `material` is wanted. -/
def normalizeAccessResponse (payload : Json) (material : Bool) : Except Error Json :=
  match payload with
  | .dict _ => normalizeResponseValue payload material 0
  | _ => invalidAccessResponse

end Access

end NetboxOpenbao
