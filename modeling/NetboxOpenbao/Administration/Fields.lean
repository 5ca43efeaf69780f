import Mathlib.Algebra.Group.Int.Defs
import NetboxOpenbao.Administration.Authentication
import NetboxOpenbao.Administration.Dumps

/-!
# Reviewed request fields

The fields an operation may be given, each with the structural type it has to have, and the validators that admit a
payload. A validator hands an admitted value on as it is.
-/

namespace NetboxOpenbao

inductive FieldKind where
  | text | choice | boolean | integer | positiveInteger | strictPositiveInteger | totpDigits | totpSkew
  | stringList | stringMap | jsonMap | base64Text
  | uuid | uuidList | urlList
  | boundedJsonMap | duration | headerValues
deriving DecidableEq, Repr

/-- One reviewed request field and its bounded structural type. -/
structure FieldRule where
  kind : FieldKind
  required : Bool := false
  maximum : Nat := Authentication.maxAuthString
  choices : List String := []
  material : Bool := false
deriving DecidableEq, Repr

abbrev FieldRules := List (String × FieldRule)

def JsonObject.keys (entries : JsonObject) : List String := entries.map Prod.fst

/-! ### The fields of the authentication plane -/

namespace Authentication

def invalidField {α : Type} : Except Error α := .error (.schema "OpenBao authentication field is invalid.")

def safeKeyRe (s : String) : Bool :=
  match s.toList with
  | [] => false
  | first :: others =>
      first.isAlpha && others.length ≤ 199 && others.all fun c => c.isAlphanum || ['_', '.', ':', '-'].contains c

def validateStringList (value : Json) (rule : FieldRule) : Except Error Json :=
  match value with
  | .list items =>
      if items.length > maxAuthList then invalidField
      else do
        return .list (← items.mapM fun item => return .str (← boundedText item rule.maximum true))
  | _ => invalidField

def validateStringMap (value : Json) (rule : FieldRule) : Except Error Json :=
  match value with
  | .dict entries =>
      if entries.length > maxAuthList then invalidField
      else do
        return .dict (← entries.mapM fun entry =>
          if !safeKeyRe entry.1 then invalidField
          else return (entry.1, .str (← boundedText entry.2 rule.maximum true)))
  | _ => invalidField

mutual

def validateJsonMapping (entries : JsonObject) (depth : Nat) : Except Error JsonObject :=
  match entries with
  | [] => .ok []
  | (key, item) :: rest =>
      if !safeKeyRe key then invalidField
      else do
        let kept ← validateJsonValue item (depth + 1)
        return (key, kept) :: (← validateJsonMapping rest depth)

def validateJsonSequence (items : List Json) (depth : Nat) : Except Error (List Json) :=
  match items with
  | [] => .ok []
  | item :: rest => do
      let kept ← validateJsonValue item (depth + 1)
      return kept :: (← validateJsonSequence rest depth)

def validateJsonValue (value : Json) (depth : Nat) : Except Error Json :=
  if depth > 4 then .error (.schema "OpenBao authentication field is nested too deeply.")
  else match value with
    | .dict entries =>
        if entries.length > maxAuthList then invalidField
        else do
          return .dict (← validateJsonMapping entries depth)
    | .list items =>
        if items.length > maxAuthList then invalidField
        else do
          return .list (← validateJsonSequence items depth)
    | .str s => do
        return .str (← boundedText (.str s) 5000 true)
    | .null => .ok .null
    | .bool b => .ok (.bool b)
    | .int n => .ok (.int n)
    | .float _ => invalidField

end

def validateTextField (value : Json) (rule : FieldRule) : Except Error Json := do
  let result ← boundedText value rule.maximum (!rule.required)
  if !rule.choices.isEmpty && !rule.choices.contains result then invalidField else return .str result

def validateBooleanField (value : Json) : Except Error Json :=
  match value with
  | .bool b => .ok (.bool b)
  | _ => invalidField

/-- What `base64.b64decode(s, validate=True)` accepts: digits of the alphabet, padded to a multiple of four. -/
def base64Text (s : String) : Bool :=
  let digits := s.toList.takeWhile fun c => c.isAlphanum || c == '+' || c == '/'
  let padding := s.toList.drop digits.length
  padding.all (· == '=') && padding.length ≤ 2 && (digits.length + padding.length) % 4 == 0

def validateBase64TextField (value : Json) (rule : FieldRule) : Except Error Json := do
  let result ← validateTextField value rule
  match result with
  | .str s => if base64Text s then return .str s else invalidField
  | _ => invalidField

def validateIntegerField (value : Json) (rule : FieldRule) : Except Error Json :=
  match value with
  | .int n =>
      let minimum : Int := match rule.kind with
        | .strictPositiveInteger => 1
        | .positiveInteger => 0
        | _ => -(2 ^ 31)
      if n < minimum || n > 2 ^ 31 - 1 then invalidField
      else if rule.kind == .totpDigits && !(n == 6 || n == 8) then invalidField
      else if rule.kind == .totpSkew && !(n == 0 || n == 1) then invalidField
      else .ok (.int n)
  | _ => invalidField

def validateJsonMapField (value : Json) : Except Error Json :=
  match value with
  | .dict _ => validateJsonValue value 0
  | _ => invalidField

/-- `_FIELD_VALIDATORS[rule.kind](value, rule)`. -/
def validateField (value : Json) (rule : FieldRule) : Except Error Json :=
  match rule.kind with
  | .text | .choice => validateTextField value rule
  | .boolean => validateBooleanField value
  | .base64Text => validateBase64TextField value rule
  | .integer | .positiveInteger | .strictPositiveInteger | .totpDigits | .totpSkew => validateIntegerField value rule
  | .stringList => validateStringList value rule
  | .stringMap => validateStringMap value rule
  | .jsonMap => validateJsonMapField value
  | .uuid | .uuidList | .urlList | .boundedJsonMap | .duration | .headerValues => invalidField

/-- The required fields that a payload omits. -/
def missingFields (payload : JsonObject) (fields : FieldRules) : List String :=
  (fields.filter fun entry => entry.2.required && !payload.keys.contains entry.1).map Prod.fst

/-- Only named reviewed fields, each of its type. -/
def validateReviewedPayload (payload : JsonObject) (fields : FieldRules) : Except Error JsonObject :=
  if payload.length > fields.length then .error (.schema "OpenBao authentication payload is invalid.")
  else if !payload.keys.all (fields.map Prod.fst).contains || !(missingFields payload fields).isEmpty then
    .error (.schema "OpenBao authentication payload contains unsupported fields.")
  else payload.mapM fun entry =>
    match fields.lookup entry.1 with
    | some rule => return (entry.1, ← validateField entry.2 rule)
    | none => .error (.keyError entry.1)

end Authentication

/-! ### The fields of the access-control plane -/

namespace Access

inductive IdentifierKind where
  | name | uuid | accessor | namespaceSegment
deriving DecidableEq, Repr

def nameRe (s : String) : Bool := Text.token ['_', '.', '@', '+', '-'] 199 s
def uuidRe (s : String) : Bool := Text.uuid (fun c => c.isDigit || ('a' ≤ c && c ≤ 'f')) s
def accessorRe (s : String) : Bool := Text.token ['_', '.', '-'] 255 s
def namespaceSegmentRe (s : String) : Bool := Text.token ['_', '.', '-'] 127 s

def normalizeIdentifier (value : Json) (kind : IdentifierKind) : Except Error String :=
  match value with
  | .str s =>
      let matched := match kind with
        | .uuid => uuidRe s
        | .name => nameRe s
        | .accessor => accessorRe s
        | .namespaceSegment => namespaceSegmentRe s
      if s == Text.strip s && matched then .ok s else .error (.schema "The resource identifier is invalid.")
  | _ => .error (.schema "The resource identifier is invalid.")

def normalizeUrlList (value : Json) (rule : FieldRule) : Except Error Json :=
  match value with
  | .list items =>
      if items.length > rule.maximum then
        .error (.schema "The access-control payload contains an invalid list.")
      else do
        return .list (← items.mapM fun item => match item with
          | .str s =>
              if s.length > 4096 || !(Text.startsWith s "https://" || Text.startsWith s "http://") ||
                  s.toList.any Text.control then
                .error (.schema "The access-control payload contains an invalid URL.")
              else .ok (.str s)
          | _ => .error (.schema "The access-control payload contains an invalid URL."))
  | _ => .error (.schema "The access-control payload contains an invalid list.")

def FieldKind.extended (kind : FieldKind) : Bool := kind == .uuid || kind == .uuidList || kind == .urlList

def normalizeExtendedField (value : Json) (rule : FieldRule) : Except Error Json :=
  if rule.kind == .uuid then do
    return .str (← normalizeIdentifier value .uuid)
  else if rule.kind == .urlList then normalizeUrlList value rule
  else match value with
    | .list items =>
        if items.length > rule.maximum then
          .error (.schema "The access-control payload contains an invalid list.")
        else do
          return .list (← items.mapM fun item => return .str (← normalizeIdentifier item .uuid))
    | _ => .error (.schema "The access-control payload contains an invalid list.")

/-- The fields of the authentication plane, and UUIDs and URLs. -/
def validateAccessPayload (payload : Json) (fields : FieldRules) : Except Error JsonObject :=
  match payload with
  | .dict entries =>
      if entries.length > fields.length then .error (.schema "The access-control payload is invalid.")
      else if !(JsonObject.keys entries).all (fields.map Prod.fst).contains ||
          !(Authentication.missingFields entries fields).isEmpty then
        .error (.schema "The access-control payload contains unsupported fields.")
      else do
        let ordinary := fields.filter fun entry => !FieldKind.extended entry.2.kind
        let result ← Authentication.validateReviewedPayload
          (entries.filter fun entry => (ordinary.map Prod.fst).contains entry.1) ordinary
        let given := fields.filter fun entry =>
          FieldKind.extended entry.2.kind && (JsonObject.keys entries).contains entry.1
        let others ← given.mapM fun entry =>
          return (entry.1, ← normalizeExtendedField (JsonObject.get entries entry.1 .null) entry.2)
        return result ++ others
  | _ => .error (.schema "The access-control payload is invalid.")

end Access

end NetboxOpenbao
