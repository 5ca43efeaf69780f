import Mathlib.Data.List.Sort
import NetboxOpenbao.Administration.Capabilities
import NetboxOpenbao.Administration.JourneyRegistry

/-!
# First-class engine journeys

The operation a journey stands for on a live mount, in what the server advertises now. A mount whose name gives the
same parameter as another's is left out.
-/

namespace NetboxOpenbao

namespace EngineJourneys

open Engines

def mountSupports (mount : SecretEngineMount) (journey : EngineJourney) : Bool :=
  mount.engineType == journey.engineType && (journey.kvVersions.isEmpty || journey.kvVersions.contains mount.kvVersion)

/-- The executable operation of a journey under a mount parameter; of several the last one counts. -/
def operationFor (document : CapabilityDocument) (parameter : String) (journey : EngineJourney) :
    Option ExplorerOperation :=
  (classifyExplorerOperations document).reverse.find? fun operation =>
    operation.executable && operation.mountParameter == parameter && operation.operationId == journey.operationId &&
      operation.method == journey.method && operation.pathTemplate == journey.pathTemplate

/-- The parameters that more than one of the mounts has. -/
def ambiguousMountParameters (mounts : List SecretEngineMount) : Except Error (List String) := do
  let parameters ← mounts.mapM fun mount => mountParameterForPath mount.path
  return parameters.filter fun parameter => 1 < parameters.count parameter

def journeyUnavailable {α : Type} : Except Error α :=
  .error (.schema "The selected first-class engine journey is unavailable.")

def resolveEngineJourney (document : CapabilityDocument) (mounts : List SecretEngineMount)
    (mountPath journeyId : String) : Except Error (EngineJourney × ExplorerOperation) := do
  let ambiguous ← ambiguousMountParameters mounts
  match engineJourneys.find? fun journey => journey.journeyId == journeyId,
      mounts.find? fun mount => mount.path == mountPath with
  | some journey, some mount => do
      let parameter ← mountParameterForPath mount.path
      if ambiguous.contains parameter || !mountSupports mount journey then journeyUnavailable
      else match operationFor document parameter journey with
        | some operation => return (journey, operation)
        | none => .error (.schema "OpenBao does not advertise the reviewed first-class engine journey.")
  | _, _ => journeyUnavailable

/-- What the catalog shows of a journey on a mount: the journey, and the operation that stands for it now. -/
structure CatalogItem where
  journey : EngineJourney
  mountPath : String
  operationKey : String
  queryParameters : List String
  requiredQueryParameters : List String
  queryParameterTypes : List (String × String)
  pathParameters : List String
  requiredPathParameters : List String
  pathParameterTypes : List (String × String)
  bodyFields : List String
  requiredBodyFields : List String
  bodyFieldTypes : List (String × String)
deriving DecidableEq, Repr

def catalogItem (mountPath : String) (journey : EngineJourney) (operation : ExplorerOperation) : CatalogItem where
  journey
  mountPath
  operationKey := operation.operationKey
  queryParameters := operation.queryParameters
  requiredQueryParameters := operation.requiredQueryParameters
  queryParameterTypes := operation.queryParameterTypes
  pathParameters := operation.pathParameters
  requiredPathParameters := operation.requiredPathParameters
  pathParameterTypes := operation.pathParameterTypes
  bodyFields := operation.bodyFields
  requiredBodyFields := operation.requiredBodyFields
  bodyFieldTypes := operation.bodyFieldTypes

def catalogOrder (a b : CatalogItem) : Bool :=
  if a.journey.engineType != b.journey.engineType then a.journey.engineType < b.journey.engineType
  else if a.journey.group != b.journey.group then a.journey.group < b.journey.group
  else if a.journey.label != b.journey.label then a.journey.label < b.journey.label
  else a.mountPath ≤ b.mountPath

/-- The items of one mount, for the journeys it supports and the server advertises. -/
def mountItems (document : CapabilityDocument) (ambiguous : List String) (mount : SecretEngineMount) :
    Except Error (List CatalogItem) := do
  let parameter ← mountParameterForPath mount.path
  if ambiguous.contains parameter then return []
  else return engineJourneys.filterMap fun journey =>
    if mountSupports mount journey then
      (operationFor document parameter journey).map (catalogItem mount.path journey)
    else none

/-- Only journeys that the document proves for a live mount. -/
def engineJourneyCatalog (document : CapabilityDocument) (mounts : List SecretEngineMount) :
    Except Error (List CatalogItem) := do
  let ambiguous ← ambiguousMountParameters mounts
  let items ← mounts.mapM (mountItems document ambiguous)
  return items.flatten.insertionSort fun a b => catalogOrder a b

/-- `[0-9A-Fa-f]+(?:(?:-|:)[0-9A-Fa-f]+)*`. -/
def pkiSerialRe (s : String) : Bool :=
  (Text.segments (s.toList.map fun c => if c == '-' || c == ':' then '/' else if c == '/' then '-' else c)).all
    fun group => !group.isEmpty && group.all Text.hexDigit

def normalizeJourneyPathParameters (journey : EngineJourney) (values : JsonObject) : Except Error JsonObject := do
  let choices := journey.pathParameterChoices.reverse
  let admitted := fun name : String => match values.lookup name, choices.lookup name with
    | some (.str s), some allowed => allowed.contains s
    | some _, some _ => false
    | _, _ => true
  match (journey.pathParameterChoices.map Prod.fst).find? fun name => !admitted name with
  | some name =>
      .error (.schema s!"The {name} path parameter is outside the reviewed choices.")
  | none =>
      if journey.engineType == "pki" then
        values.mapM fun entry =>
          if entry.1 == "serial" then
            match entry.2 with
            | .str serial =>
                if pkiSerialRe serial then
                  .ok (entry.1, .str (Text.lower (String.ofList (serial.toList.map fun c => if c == ':' then '-' else c))))
                else .error (.schema "The PKI certificate serial is invalid.")
            | _ => .error (.schema "The PKI certificate serial is invalid.")
          else .ok entry
      else .ok values

end EngineJourneys

end NetboxOpenbao
