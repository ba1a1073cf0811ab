import SchemaEvolution.Decimal.Positional
import SchemaEvolution.Options
import SchemaEvolution.Toml.Document

/-! # Settings
The options of table matching can be set in the table `diff` of a TOML document. What the document
leaves out keeps its standard value, and what it says besides is passed over. -/

namespace SchemaEvolution

/-- Why settings are refused. -/
inductive SettingsError where
  /-- The text is no TOML document, or a value has the wrong type. -/
  | malformed
  /-- A ratio does not lie between 0 and 1. -/
  | outOfRange (cause : MatchOptions.OutOfRange)

/-- The text shown for refused settings. -/
def SettingsError.message : SettingsError → String
  | .malformed => "Configuration error: TOML parse error"
  | .outOfRange cause =>
    "Configuration error: " ++ cause.key ++ " must be between 0 and 1, got " ++
      positional .bare cause.value

namespace Toml.Value

/-- A number as a floating-point number. -/
def float? : Value → Option Float
  | .integer n => some (Float.ofInt n)
  | .float x => some x
  | _ => none

/-- A count. -/
def count? : Value → Option Nat
  | .integer n => if 0 ≤ n then some n.toNat else none
  | _ => none

/-- What a reading makes of an optional value; the standard value where there is none. -/
def orStandard {α : Type} (read : Value → Option α) (standard : α) : Option Value → Option α
  | some value => read value
  | none => some standard

/-- The options that a lookup of values by key or by place gives. -/
def optionsBy (find : String → Nat → Option Value) : Option MatchOptions := do
  let standard := MatchOptions.standard
  let rename ← orStandard float? standard.renameThreshold (find "rename_threshold" 0)
  let replacement ← orStandard float? standard.replacementThreshold (find "replacement_threshold" 1)
  let shared ← orStandard count? standard.minSharedColumns (find "min_shared_columns" 2)
  let overlap ← orStandard float? standard.minOverlapRatio (find "min_overlap_ratio" 3)
  return ⟨rename, replacement, shared, overlap⟩

/-- The options that a value states: a table names them, a list gives them in order, and a date
states none. -/
def options? : Value → Option MatchOptions
  | .table _ entries => optionsBy fun key _ => Catalog.lookup key entries
  | .array items => optionsBy fun _ place => items[place]?
  | .tables items => optionsBy fun _ place => items[place]?
  | .moment => optionsBy fun _ _ => none
  | _ => none

/-- The options that a document states in its table `diff`. -/
def documentOptions? : Value → Option MatchOptions
  | .table _ entries => orStandard options? MatchOptions.standard (Catalog.lookup "diff" entries)
  | _ => none

end Toml.Value

/-- The **options that a settings text states**. -/
def MatchOptions.ofSettings (text : String) : Except SettingsError MatchOptions :=
  match (Toml.Document.read? text).bind Toml.Value.documentOptions? with
  | none => .error .malformed
  | some options => options.check.mapError .outOfRange

end SchemaEvolution
