import NetboxOpenbao.Administration.Values

/-!
# Bounded JSON bodies

The two checks of a body whose fields are not reviewed one by one: the data that is wrapped, and the body of a mounted
engine's operation. The first takes nodes from a worklist, the second goes down the tree with counters.
-/

namespace NetboxOpenbao

open Python

namespace Finalization

def maxWrappingJsonBytes : Nat := 256000
def maxWrappingJsonDepth : Nat := 12
def maxWrappingJsonMembers : Nat := 2000
def maxWrappingJsonString : Nat := 100000

/-- `raise CapabilitySchemaError(message)`. -/
def refuse {α : Type} (message : String) : Except Error α := .error (.schema message)

def validateJsonText (value : Python.Text) (key : Bool) : Except Error Unit :=
  if value.length > maxWrappingJsonString || value.any fun c => c.val < 32 then
    let label := if key then "object key" else "string"
    refuse s!"The wrapping data contains an invalid {label}."
  else .ok ()

def wrappingEntries (entries : List (Key × Value)) : Except Error (List Value) :=
  match entries with
  | [] => .ok []
  | (.str key, child) :: rest => do
      let _ ← validateJsonText key true
      return child :: (← wrappingEntries rest)
  | (.other _, _) :: _ => refuse "The wrapping data contains an invalid object key."

/-- `list(_wrapping_children(item))`. -/
def wrappingChildren (item : Value) : Except Error (List Value) :=
  match item with
  | .dict entries => wrappingEntries entries
  | .list items => .ok items
  | _ => .ok []

def validateWrappingScalar (item : Value) : Except Error Unit :=
  match item with
  | .str s => validateJsonText s false
  | .float x => if x.isFinite then .ok () else refuse "The wrapping data contains a non-finite number."
  | .tuple _ | .other => refuse "The wrapping data contains an unsupported value."
  | .null | .bool _ | .int _ | .list _ | .dict _ => .ok ()

theorem wrappingEntries_children {entries : List (Key × Value)} {children : List Value}
    (h : wrappingEntries entries = .ok children) : children = entries.map Prod.snd := by
  induction entries generalizing children with
  | nil => exact (Except.ok.inj h).symm
  | cons entry rest ih =>
      obtain ⟨key, child⟩ := entry
      cases key with
      | other written => cases h
      | str text =>
          unfold wrappingEntries at h
          cases htext : validateJsonText text true with
          | error error =>
              rw [htext] at h
              cases h
          | ok u =>
              cases hrest : wrappingEntries rest with
              | error error =>
                  rw [htext, hrest] at h
                  cases h
              | ok others =>
                  rw [htext, hrest] at h
                  rw [List.map_cons, ← ih hrest]
                  exact (Except.ok.inj h).symm

theorem wrappingChildren_children {item : Value} {children : List Value} (h : wrappingChildren item = .ok children) :
    children = item.children := by
  cases item with
  | dict entries => exact wrappingEntries_children h
  | null | bool b | int n | float x | str s | list items | tuple items | other => exact (Except.ok.inj h).symm

/-- The worklist, the node taken next standing first. -/
def wrappingLoop (pending : List (Value × Nat)) (members : Nat) : Except Error Unit :=
  match pending with
  | [] => .ok ()
  | (item, depth) :: rest =>
      if depth > maxWrappingJsonDepth then refuse "The wrapping data is nested too deeply."
      else match _ : wrappingChildren item with
        | .error error => .error error
        | .ok children =>
            let members := members + children.length
            if members > maxWrappingJsonMembers then refuse "The wrapping data contains too many members."
            else match validateWrappingScalar item with
              | .error error => .error error
              | .ok () => wrappingLoop ((children.map fun child => (child, depth + 1)).reverse ++ rest) members
termination_by (pending.map fun entry => entry.1.nodes).sum
decreasing_by
  have hchildren : wrappingChildren item = .ok children := by assumption
  have hnodes : item.nodes = 1 + (children.map fun child => child.nodes).sum :=
    wrappingChildren_children hchildren ▸ item.nodes_eq
  simp only [List.map_append, List.map_reverse, List.map_map, List.sum_append, List.sum_reverse, List.map_cons,
    List.sum_cons, Function.comp_def]
  omega

def validateWrappingJson (value : Value) : Except Error Value :=
  match value with
  | .dict _ => do
      let _ ← wrappingLoop [(value, 0)] 0
      let size ← value.encodedSize
      if size > maxWrappingJsonBytes then refuse "The wrapping data exceeds its reviewed size bound." else return value
  | _ => refuse "The wrapping data must be a JSON object."

end Finalization

namespace Engines

def maxRequestBytes : Nat := 1000000
def maxValueDepth : Nat := 20
def maxValueFields : Nat := 2000
def maxValueItems : Nat := 2000
def maxValueString : Nat := 100000

/-- `raise CapabilitySchemaError(message)`. -/
def refuse {α : Type} (message : String) : Except Error α := .error (.schema message)

def asciiAlphanumeric (c : CodePoint) : Bool := (Char.ofNat c.val).isAlphanum

/-- `_SAFE_KEY_RE`. -/
def safeKeyRe (key : Python.Text) : Bool :=
  match key with
  | [] => false
  | first :: others =>
      asciiAlphanumeric first && others.length ≤ 499 &&
        others.all fun c => asciiAlphanumeric c || (['_', '.', ':', '@', '/', '-'].map codePoint).contains c

/-- `counters`. -/
structure Counters where
  fields : Nat
  items : Nat
  bytes : Nat
deriving DecidableEq, Repr

def validateJsonScalar (value : Value) (counters : Counters) : Except Error Counters :=
  match value with
  | .str s =>
      if s.length > maxValueString || s.contains 0 then
        refuse "The OpenBao request body contains an invalid string."
      else do
        return { counters with bytes := counters.bytes + (← encodedLength s) }
  | .float x =>
      if x.isFinite then .ok counters else refuse "The OpenBao request body contains an unsupported value."
  | .null | .bool _ | .int _ => .ok counters
  | .list _ | .tuple _ | .dict _ | .other => refuse "The OpenBao request body contains an unsupported value."

mutual

def validateJsonEntries (entries : List (Key × Value)) (counters : Counters) (depth : Nat) : Except Error Counters :=
  match entries with
  | [] => .ok counters
  | (.str key, child) :: rest =>
      if !safeKeyRe key then refuse "The OpenBao request body contains an invalid field name."
      else do
        let counters := { counters with bytes := counters.bytes + (← encodedLength key) }
        let counters ← validateJsonValue child counters (depth + 1)
        validateJsonEntries rest counters depth
  | (.other _, _) :: _ => refuse "The OpenBao request body contains an invalid field name."

def validateJsonItems (items : List Value) (counters : Counters) (depth : Nat) : Except Error Counters :=
  match items with
  | [] => .ok counters
  | child :: rest => do
      let counters ← validateJsonValue child counters (depth + 1)
      validateJsonItems rest counters depth

/-- `_validate_json_value`, with `_validate_json_mapping` and `_validate_json_list`. -/
def validateJsonValue (value : Value) (counters : Counters) (depth : Nat) : Except Error Counters :=
  if depth > maxValueDepth then refuse "The OpenBao request body is nested too deeply."
  else match value with
    | .dict entries =>
        let counters := { counters with fields := counters.fields + entries.length }
        if counters.fields > maxValueFields then refuse "The OpenBao request body has too many fields."
        else validateJsonEntries entries counters depth
    | .list items =>
        let counters := { counters with items := counters.items + items.length }
        if counters.items > maxValueItems then refuse "The OpenBao request body has too many list items."
        else validateJsonItems items counters depth
    | _ => validateJsonScalar value counters

end

/-- `set(value) - allowed` is empty. -/
def declared (allowed : List Python.Text) (entries : List (Key × Value)) : Bool :=
  entries.all fun entry =>
    match entry.1 with
    | .str key => allowed.contains key
    | .other _ => false

def validateBoundedJson (value : Value) (allowedTopLevel : Option (List Python.Text)) : Except Error Value :=
  match value with
  | .dict entries =>
      if allowedTopLevel.any fun allowed => !declared allowed entries then
        refuse "The OpenBao request body contains an undeclared field."
      else match value.encodedSize with
        -- the exceptions of the encoder are all caught
        | .error _ => refuse "The OpenBao request body contains an unsupported value."
        | .ok encodedSize =>
            if encodedSize > maxRequestBytes then refuse "The OpenBao request body is too large."
            else do
              let counters ← validateJsonValue value ⟨0, 0, 0⟩ 0
              if counters.bytes > maxRequestBytes then refuse "The OpenBao request body is too large."
              else return value
  | _ => refuse "The OpenBao request body must be an object."

end Engines

end NetboxOpenbao
