import NetboxOpenbao.Administration.Json

/-!
# Templates

Paths with placeholders and texts with replacement fields, as Python writes and fills them.
-/

namespace NetboxOpenbao

namespace Text

/-- `sub in s`, on characters. -/
def occursIn (sub : List Char) : List Char → Bool
  | [] => sub.isEmpty
  | c :: cs => sub.isPrefixOf (c :: cs) || occursIn sub cs

/-- `sub in s`. -/
def contains (s sub : String) : Bool := occursIn sub.toList s.toList

/-- `s.count(sub)`, on characters: `skip` of them belong to an occurrence that has been counted. -/
def countFrom (sub : List Char) (skip : Nat) : List Char → Nat
  | [] => 0
  | c :: cs =>
      match skip with
      | n + 1 => countFrom sub n cs
      | 0 => if sub.isPrefixOf (c :: cs) then countFrom sub (sub.length - 1) cs + 1 else countFrom sub 0 cs

def count (s sub : String) : Nat := countFrom sub.toList 0 s.toList

/-- `template.format(**values)`, on characters; `skip` of them belong to a field that has been replaced. -/
def formatFrom (values : List (String × String)) (skip : Nat) : List Char → List Char
  | [] => []
  | c :: cs =>
      match skip with
      | n + 1 => formatFrom values n cs
      | 0 =>
          if c == '{' then
            let name := cs.takeWhile (· != '}')
            ((values.lookup (String.ofList name)).getD "").toList ++ formatFrom values (name.length + 1) cs
          else c :: formatFrom values 0 cs

def format (template : String) (values : List (String × String)) : String :=
  String.ofList (formatFrom values 0 template.toList)

/-- `_PLACEHOLDER_RE.sub("\x7b\x7d", path)`, on characters. -/
def shapeFrom (skip : Nat) : List Char → List Char
  | [] => []
  | c :: cs =>
      match skip with
      | n + 1 => shapeFrom n cs
      | 0 =>
          let name := cs.takeWhile fun d => d.isAlphanum || d == '_'
          if c == '{' && (name.head?.any Char.isAlpha) && (cs.drop name.length).head? == some '}' then
            '{' :: '}' :: shapeFrom (name.length + 1) cs
          else c :: shapeFrom 0 cs

/-- `s.removesuffix(end)`, on characters. -/
def removeSuffix (s suffix : String) : String :=
  if suffix.toList.isSuffixOf s.toList then String.ofList (s.toList.take (s.toList.length - suffix.toList.length))
  else s

/-- `s.rsplit(separator, 1)[-1]`. -/
def afterLast (separator : Char) (s : String) : String :=
  String.ofList (s.toList.reverse.takeWhile (· != separator)).reverse

end Text

namespace Access

/-- A path with every literal segment, and no names of placeholders. -/
def operationShape (path : String) : String := String.ofList (Text.shapeFrom 0 path.toList)

end Access

/-- `_permission_action(permission)`: the action of a codename for clusters. -/
def permissionAction (permission : String) : String :=
  Text.removeSuffix (Text.afterLast '.' permission) "_openbaocluster"

end NetboxOpenbao
