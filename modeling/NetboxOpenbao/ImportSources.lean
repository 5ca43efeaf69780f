import Mathlib.Algebra.Ring.Nat
import Mathlib.Data.List.Dedup
import Mathlib.Data.List.Sort
import Mathlib.Logic.Function.Basic
import NetboxOpenbao.Effect.Fresh

/-!
# Unique provenance markers

The data step of the migration that constrains `import_source`: the oldest row of each value that several rows hold
keeps it, the later ones get a suffix that no row holds.
-/

namespace NetboxOpenbao.Migration

open Effect

/-- The credentials, as far as the step reads and writes them: their primary keys, which are 64-bit numbers, and the
`import_source` column. -/
structure Credentials where
  pks : List Nat
  importSource : Nat → String
  distinct : pks.Nodup
  bounded : ∀ pk ∈ pks, pk < 2 ^ 63

namespace Credentials

/-- The values of the rows that are not blank; `occupied` starts as these. -/
def sources (table : Credentials) : List String := (table.pks.map table.importSource).filter fun value => value != ""

/-- The values that several rows hold, in some order. -/
def duplicated (table : Credentials) : List String :=
  table.sources.dedup.filter fun value => decide (1 < table.sources.count value)

/-- `Credential.objects.filter(import_source=value).order_by('pk')`. -/
def rows (table : Credentials) (value : String) : List Nat :=
  (table.pks.filter fun pk => table.importSource pk == value).insertionSort (· ≤ ·)

/-- `row.import_source = value` and `row.save(update_fields=['import_source'])`. -/
def save (table : Credentials) (pk : Nat) (value : String) : Credentials :=
  { table with importSource := Function.update table.importSource pk value }

end Credentials

/-- `value[:bound]`. -/
def slice (value : String) (bound : Int) : List Char :=
  if bound < 0 then value.toList.take (value.length - bound.natAbs) else value.toList.take bound.natAbs

/-- The suffix of an attempt. -/
def suffix (pk attempt : Nat) : List Char :=
  "#duplicate-".toList ++ Nat.toDigits 10 pk ++ if attempt = 0 then [] else '-' :: Nat.toDigits 10 attempt

def candidate (value : String) (pk attempt : Nat) : String :=
  String.ofList (slice value (200 - (suffix pk attempt).length) ++ suffix pk attempt)

/-- `_unused_value`. Its loop has no bound; here it gives up after one attempt more than there are values to avoid. -/
def unusedValue (value : String) (pk : Nat) (occupied : List String) : Option String :=
  Fresh.search (candidate value pk) occupied (occupied.length + 1) 0

/-- What one later row of a value is given, and `occupied.add`. -/
def rename (value : String) (state : Credentials × List String) (pk : Nat) : Option (Credentials × List String) := do
  let unused ← unusedValue value pk state.2
  some (state.1.save pk unused, unused :: state.2)

/-- One value that several rows hold. -/
def disambiguate (state : Credentials × List String) (value : String) : Option (Credentials × List String) :=
  ((state.1.rows value).drop 1).foldlM (rename value) state

/-- `disambiguate_duplicate_import_sources`, for the order in which the database gives the duplicated values. -/
def disambiguateDuplicateImportSources (order : List String) (table : Credentials) : Option Credentials := do
  let (after, _) ← order.foldlM disambiguate (table, table.sources)
  some after

end NetboxOpenbao.Migration
