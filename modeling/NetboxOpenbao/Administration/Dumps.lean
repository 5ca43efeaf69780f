import NetboxOpenbao.Administration.Json
import NetboxOpenbao.Coding.Delimited

/-!
# `json.dumps`

The text of a value with the separators `,` and `:`, and a value with the keys of every dict in order.
-/

namespace NetboxOpenbao

/-! ### Scalars -/

/-- The escapes of one letter. -/
def shortEscapes : List (Char × Char) :=
  [('"', '"'), ('\\', '\\'), ('\n', 'n'), ('\r', 'r'), ('\t', 't'), ('\x08', 'b'), ('\x0c', 'f')]

/-- `'{:04x}'.format(n)`. -/
def hex4 (n : Nat) : List Char :=
  [Nat.digitChar (n / 4096 % 16), Nat.digitChar (n / 256 % 16), Nat.digitChar (n / 16 % 16), Nat.digitChar (n % 16)]

/-- What stands after `\u` for `c`: its code, or the two halves of a surrogate pair. -/
def unicodeUnits (c : Char) : List Char :=
  if c.toNat < 0x10000 then hex4 c.toNat
  else hex4 (0xd800 + (c.toNat - 0x10000) / 0x400) ++ '\\' :: 'u' :: hex4 (0xdc00 + (c.toNat - 0x10000) % 0x400)

/-- A character as it stands in a string; `ascii` is `ensure_ascii`. -/
def escapedChar (ascii : Bool) (c : Char) : List Char :=
  match shortEscapes.lookup c with
  | some letter => ['\\', letter]
  | none => if c.toNat < 32 || (ascii && 126 < c.toNat) then '\\' :: 'u' :: unicodeUnits c else [c]

def dumpedString (ascii : Bool) (s : String) : List Char := '"' :: (s.toList.flatMap (escapedChar ascii) ++ ['"'])

/-- `int.__repr__`. -/
def dumpedInt : Int → List Char
  | .ofNat n => Nat.toDigits 10 n
  | .negSucc n => '-' :: Nat.toDigits 10 (n + 1)

def dumpedFloat (x : Double) : List Char :=
  if x.repr == "nan" then ['N', 'a', 'N']
  else if x.repr == "inf" then ['I', 'n', 'f', 'i', 'n', 'i', 't', 'y']
  else if x.repr == "-inf" then ['-', 'I', 'n', 'f', 'i', 'n', 'i', 't', 'y']
  else x.repr.toList

/-! ### Values -/

mutual

/-- `json.dumps(value, separators=(",", ":"), ensure_ascii=ascii)`, on characters. -/
def Json.encode (ascii : Bool) : Json → List Char
  | .null => ['n', 'u', 'l', 'l']
  | .bool true => ['t', 'r', 'u', 'e']
  | .bool false => ['f', 'a', 'l', 's', 'e']
  | .int n => dumpedInt n
  | .float x => dumpedFloat x
  | .str s => dumpedString ascii s
  | .list items => '[' :: (encodeItems ascii items ++ [']'])
  | .dict entries => '{' :: (encodeEntries ascii entries ++ ['}'])

def encodeItems (ascii : Bool) : List Json → List Char
  | [] => []
  | item :: rest =>
      match rest with
      | [] => item.encode ascii
      | _ :: _ => item.encode ascii ++ ',' :: encodeItems ascii rest

def encodeEntries (ascii : Bool) : JsonObject → List Char
  | [] => []
  | (key, value) :: rest =>
      match rest with
      | [] => dumpedString ascii key ++ ':' :: value.encode ascii
      | _ :: _ => (dumpedString ascii key ++ ':' :: value.encode ascii) ++ ',' :: encodeEntries ascii rest

end

def sortedEntries (entries : JsonObject) : JsonObject := entries.mergeSort fun a b => a.1 ≤ b.1

mutual

/-- A value with the entries of every dict in the order of their keys, as `sort_keys=True` writes it. -/
def Json.sorted : Json → Json
  | .list items => .list (sortedItems items)
  | .dict entries => .dict (sortedEntries (sortedValues entries))
  | .null => .null
  | .bool b => .bool b
  | .int n => .int n
  | .float x => .float x
  | .str s => .str s

def sortedItems : List Json → List Json
  | [] => []
  | item :: rest => item.sorted :: sortedItems rest

def sortedValues : JsonObject → JsonObject
  | [] => []
  | (key, value) :: rest => (key, value.sorted) :: sortedValues rest

end

/-- Two values are equal in Python and of the same types throughout: the entries of a dict may stand in any order. -/
def Json.Same (v w : Json) : Prop := v.sorted = w.sorted

/-- `json.dumps(value, separators=(",", ":"), ensure_ascii=ascii)`. -/
def Json.dumps (ascii : Bool) (v : Json) : String := String.ofList (v.encode ascii)

/-- `json.dumps(value, sort_keys=True, separators=(",", ":"), ensure_ascii=True)`. -/
def Json.canonical (v : Json) : String := v.sorted.dumps true

end NetboxOpenbao
