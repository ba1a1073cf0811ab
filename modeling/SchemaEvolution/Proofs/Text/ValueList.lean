import SchemaEvolution.Plan.Step
import SchemaEvolution.Proofs.Text.Literal

/-! # The values of an enumeration as they are written
The statement that declares an enumeration lists its values as literals, a comma and a space apart.
Whatever the values hold, quotes, commas and blanks included, the list is read back as the values.
-/

namespace SchemaEvolution

/-- The characters of a list of literals. -/
theorem toList_commaList_quote (values : List String) :
    (Step.commaList (values.map quote)).toList =
      joinWith [',', ' '] ((values.map String.toList).map literal) := by
  have hquoted : (values.map quote).map String.toList = (values.map String.toList).map literal := by
    simp [toList_quote]
  rw [Step.commaList, String.toList_intercalate, hquoted, joinWith_eq_intercalate]
  rfl

/-- The values that a text lists. -/
def listedValues (text : String) : List String := (literalValues text.toList).map String.ofList

/-- **The values of a list are read back**, but for those that are empty: these are dropped. -/
theorem listedValues_commaList_quote (values : List String) :
    listedValues (Step.commaList (values.map quote)) = values.filter fun value => value ≠ "" := by
  have hempty (value : String) : value.toList.isEmpty = decide (value = "") := by
    rw [Bool.eq_iff_iff, List.isEmpty_iff, String.toList_eq_nil_iff, decide_eq_true_iff]
  rw [listedValues, toList_commaList_quote, literalValues_joinWith, List.filter_map, List.map_map]
  simp [Function.comp_def, hempty]

/-- **A list of values is read back as it was** exactly when none of the values is empty. -/
theorem listedValues_quoted_eq_iff (values : List String) :
    listedValues (Step.commaList (values.map quote)) = values ↔ ∀ value ∈ values, value ≠ "" := by
  rw [listedValues_commaList_quote, List.filter_eq_self]
  simp

/-- Quotes at the ends of values and next to commas are kept, and so are blanks at the ends. -/
example : listedValues (Step.commaList (["'", "a',''", " (b,\n", "''''"].map quote)) =
    ["'", "a',''", " (b,\n", "''''"] := by
  decide +kernel

end SchemaEvolution
