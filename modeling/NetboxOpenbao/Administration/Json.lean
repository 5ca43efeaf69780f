import NetboxOpenbao.Errors

/-!
# JSON values and the text rules of the administration plane

A value as `json.loads` returns it: integers apart from floats, and floats that need not be finite. A dict is the
list of its entries in order; Python's equality of dicts does not look at that order.
-/

namespace NetboxOpenbao

/-- What `repr` writes of a float: digits with a point or an exponent, or one of the three that are not finite. -/
def floatRepr (s : String) : Bool :=
  s == "nan" || s == "inf" || s == "-inf" ||
    (s.toList.all (fun c => c.isDigit || ['.', 'e', '+', '-'].contains c) &&
      s.toList.any fun c => c == '.' || c == 'e')

/-- A Python float, which is told from every other by its `repr`. -/
structure Double where
  repr : String
  isRepr : floatRepr repr = true
deriving DecidableEq, Repr

/-- `math.isfinite(x)`. -/
def Double.isFinite (x : Double) : Bool := x.repr != "nan" && x.repr != "inf" && x.repr != "-inf"

inductive Json where
  | null
  | bool (b : Bool)
  | int (n : Int)
  | float (x : Double)
  | str (s : String)
  | list (items : List Json)
  | dict (entries : List (String × Json))

abbrev JsonObject := List (String × Json)

/-- `value.get(key, default)`. -/
def JsonObject.get (entries : JsonObject) (key : String) (default : Json) : Json :=
  (entries.lookup key).getD default

/-- `data.pop(key)`: the value, and what is left. -/
def JsonObject.pop (entries : JsonObject) (key : String) : Except Error (Json × JsonObject) :=
  match entries.lookup key with
  | some value => .ok (value, entries.filter fun entry => entry.1 != key)
  | none => .error (.keyError key)

/-- `bool(value)`. -/
def Json.truthy : Json → Bool
  | .null => false
  | .bool b => b
  | .int n => n != 0
  | .float x => x.repr != "0.0" && x.repr != "-0.0"
  | .str s => s != ""
  | .list items => !items.isEmpty
  | .dict entries => !entries.isEmpty

/-! ### Text -/

namespace Text

/-- `str.isspace` of one character. -/
def space (c : Char) : Bool :=
  let n := c.toNat
  (9 ≤ n && n ≤ 13) || (28 ≤ n && n ≤ 32) || (8192 ≤ n && n ≤ 8202) ||
    [133, 160, 5760, 8232, 8233, 8239, 8287, 12288].contains n

/-- The characters of `s` without those at either end that `drops` holds of. -/
def trimmed (drops : Char → Bool) (s : String) : List Char :=
  ((s.toList.dropWhile drops).reverse.dropWhile drops).reverse

/-- `s.strip()`. -/
def strip (s : String) : String := String.ofList (trimmed space s)

/-- `s.strip('/')`. -/
def stripSlashes (s : String) : String := String.ofList (trimmed (· == '/') s)

/-- `s.removesuffix('/')`. -/
def removeSlash (s : String) : String :=
  match s.toList.reverse with
  | '/' :: rest => String.ofList rest.reverse
  | _ => s

/-- `s.rstrip('/')`. -/
def rstripSlashes (s : String) : String := String.ofList (s.toList.reverse.dropWhile (· == '/')).reverse

/-- `s.startswith(start)`. -/
def startsWith (s start : String) : Bool := start.toList.isPrefixOf s.toList

/-- `s.lower()`, as far as a comparison with an ASCII name can tell: besides the ASCII letters only the Kelvin sign
has an ASCII letter for its lower case. -/
def lower (s : String) : String := s.map fun c => if c == '\u212a' then 'k' else c.toLower

/-- A full match of `[A-Za-z0-9][A-Za-z0-9…]{0,rest}`, where `extra` holds the characters after the alphanumerics. -/
def token (extra : List Char) (rest : Nat) (s : String) : Bool :=
  match s.toList with
  | [] => false
  | first :: others =>
      first.isAlphanum && others.length ≤ rest && others.all fun c => c.isAlphanum || extra.contains c

/-- `s.split('/')`, on characters. -/
def segments : List Char → List (List Char)
  | [] => [[]]
  | c :: cs =>
      if c == '/' then [] :: segments cs
      else match segments cs with
        | [] => [[c]]
        | first :: others => (c :: first) :: others

/-- `s.replace(old, new)`, on characters: `skip` of them belong to an occurrence that has been replaced. -/
def replaceFrom (old new : List Char) (skip : Nat) : List Char → List Char
  | [] => []
  | c :: cs =>
      match skip with
      | n + 1 => replaceFrom old new n cs
      | 0 => if old.isPrefixOf (c :: cs) then new ++ replaceFrom old new (old.length - 1) cs
          else c :: replaceFrom old new 0 cs

def replace (s old new : String) : String := String.ofList (replaceFrom old.toList new.toList 0 s.toList)

/-- Two upper-case hexadecimal digits. -/
def hexByte (b : UInt8) : List Char :=
  [Nat.digitChar (b.toNat / 16), Nat.digitChar (b.toNat % 16)].map Char.toUpper

/-- `urllib.parse.quote(s, safe=…)`. -/
def quote (safe : List Char) (s : String) : String :=
  String.ofList <| s.toList.flatMap fun c =>
    if c.isAlphanum || ['_', '.', '-', '~'].contains c || safe.contains c then [c]
    else (String.utf8EncodeChar c).flatMap fun b => '%' :: hexByte b

def hexDigit (c : Char) : Bool := c.isDigit || ('a' ≤ c && c ≤ 'f') || ('A' ≤ c && c ≤ 'F')

/-- A full match of five groups of `digit`, of the lengths of a UUID and parted by hyphens. -/
def uuid (digit : Char → Bool) (s : String) : Bool :=
  let groups := (s.toList.splitBy fun a b => a != '-' && b != '-').filter (· != ['-'])
  s.length == 36 && groups.map List.length == [8, 4, 4, 4, 12] && groups.all (·.all digit)

/-- A character below the space. -/
def control (c : Char) : Bool := c.toNat < 32

end Text

end NetboxOpenbao
