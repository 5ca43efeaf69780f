import NetboxOpenbao.Administration.Dumps
import NetboxOpenbao.Effect.Worklist

/-!
# Python values

Any value that a body can be given as, before anything is known of it: strings are sequences of code points, with
surrogates among them, and an object may be of a type that JSON does not have.
-/

namespace NetboxOpenbao

namespace Python

instance codePoints : NeZero (0x110000 : Nat) := ⟨by decide⟩

/-- A code point, which may be one of a surrogate. -/
abbrev CodePoint : Type := Fin 0x110000

/-- A `str`. -/
abbrev Text : Type := List CodePoint

/-- The key of a dict; of one that is not a string, what `json.dumps` writes for it, if it does. -/
inductive Key where
  | str (text : Text)
  | other (written : Option Text)
deriving DecidableEq

/-- A value, as a tree; `other` is any object that `json.dumps` refuses. -/
inductive Value where
  | null
  | bool (b : Bool)
  | int (n : Int)
  | float (x : Double)
  | str (s : Text)
  | list (items : List Value)
  | tuple (items : List Value)
  | dict (entries : List (Key × Value))
  | other

/-- A character as a code point. -/
def codePoint (c : Char) : CodePoint := Fin.ofNat 0x110000 c.toNat

def ascii (s : String) : Text := s.toList.map codePoint

def surrogate (c : CodePoint) : Bool := 0xd800 ≤ c.val && c.val ≤ 0xdfff

/-! ### `json.dumps` and `str.encode` -/

/-- The escapes of one letter. -/
def shortEscape (c : CodePoint) : Option Char :=
  (shortEscapes.find? fun escape => escape.1.toNat == c.val).map Prod.snd

/-- A code point as it stands in a string, with `ensure_ascii=False`. -/
def escaped (c : CodePoint) : Text :=
  match shortEscape c with
  | some letter => [codePoint '\\', codePoint letter]
  | none => if c.val < 32 then ascii "\\u" ++ (hex4 c.val).map codePoint else [c]

def quoted (s : Text) : Text := codePoint '"' :: (s.flatMap escaped ++ [codePoint '"'])

/-- The digits `int.__repr__` writes at most. -/
def maxStrDigits : Nat := 4300

def raised {α : Type} (what : String) : Except Error α := .error (.raised what)

def dumpedNumber (n : Int) : Except Error Text :=
  if (Nat.toDigits 10 n.natAbs).length > maxStrDigits then raised "ValueError"
  else .ok ((dumpedInt n).map codePoint)

/-- The parts with commas between them. -/
def joined : List Text → Text
  | [] => []
  | part :: rest =>
      match rest with
      | [] => part
      | _ :: _ => part ++ codePoint ',' :: joined rest

def dumpedKey (key : Key) : Except Error Text :=
  match key with
  | .str text => .ok (quoted text)
  | .other (some written) => .ok (quoted written)
  | .other none => raised "TypeError"

mutual

/-- `json.dumps(value, ensure_ascii=False, allow_nan=False, separators=(",", ":"))`. -/
def Value.dumps (value : Value) : Except Error Text :=
  match value with
  | .null => .ok (ascii "null")
  | .bool true => .ok (ascii "true")
  | .bool false => .ok (ascii "false")
  | .int n => dumpedNumber n
  | .float x => if x.isFinite then .ok (ascii x.repr) else raised "ValueError"
  | .str s => .ok (quoted s)
  | .list items | .tuple items => do
      let parts ← dumpsItems items
      return codePoint '[' :: (joined parts ++ [codePoint ']'])
  | .dict entries => do
      let parts ← dumpsEntries entries
      return codePoint '{' :: (joined parts ++ [codePoint '}'])
  | .other => raised "TypeError"

def dumpsItems (items : List Value) : Except Error (List Text) :=
  match items with
  | [] => .ok []
  | item :: rest => do
      let part ← item.dumps
      return part :: (← dumpsItems rest)

def dumpsEntries (entries : List (Key × Value)) : Except Error (List Text) :=
  match entries with
  | [] => .ok []
  | (key, value) :: rest => do
      let name ← dumpedKey key
      let part ← value.dumps
      return (name ++ codePoint ':' :: part) :: (← dumpsEntries rest)

end

/-- The bytes of a code point in UTF-8. -/
def utf8Size (c : CodePoint) : Nat :=
  if c.val < 0x80 then 1 else if c.val < 0x800 then 2 else if c.val < 0x10000 then 3 else 4

def textBytes (s : Text) : Nat := (s.map utf8Size).sum

/-- `len(s.encode())`. -/
def encodedLength (s : Text) : Except Error Nat :=
  if s.any surrogate then raised "UnicodeEncodeError" else .ok (textBytes s)

/-- The length of the JSON text of a value in UTF-8. -/
def Value.encodedSize (value : Value) : Except Error Nat := do
  encodedLength (← value.dumps)

/-! ### Trees -/

/-- The values a dict or a list holds. -/
def Value.children : Value → List Value
  | .list items => items
  | .dict entries => entries.map Prod.snd
  | .null | .bool _ | .int _ | .float _ | .str _ | .tuple _ | .other => []

mutual

/-- The nodes of a tree, those of a tuple left out. -/
def Value.nodes : Value → Nat
  | .list items => 1 + itemsNodes items
  | .dict entries => 1 + entriesNodes entries
  | .null | .bool _ | .int _ | .float _ | .str _ | .tuple _ | .other => 1

def itemsNodes : List Value → Nat
  | [] => 0
  | item :: rest => item.nodes + itemsNodes rest

def entriesNodes : List (Key × Value) → Nat
  | [] => 0
  | (_, value) :: rest => value.nodes + entriesNodes rest

end

theorem itemsNodes_eq (items : List Value) : itemsNodes items = (items.map Value.nodes).sum := by
  induction items with
  | nil => rfl
  | cons item rest ih => rw [itemsNodes, List.map_cons, List.sum_cons, ih]

theorem entriesNodes_eq (entries : List (Key × Value)) :
    entriesNodes entries = ((entries.map Prod.snd).map Value.nodes).sum := by
  induction entries with
  | nil => rfl
  | cons entry rest ih => rw [entriesNodes, List.map_cons, List.map_cons, List.sum_cons, ih]

theorem Value.nodes_eq (value : Value) : value.nodes = 1 + (value.children.map Value.nodes).sum := by
  cases value with
  | list items => rw [Value.nodes, itemsNodes_eq, Value.children]
  | dict entries => rw [Value.nodes, entriesNodes_eq, Value.children]
  | null | bool b | int n | float x | str s | tuple items | other => rfl

/-- Values as trees. -/
def rose : Effect.Rose Value := ⟨Value.children, Value.nodes, Value.nodes_eq⟩

end Python

end NetboxOpenbao
