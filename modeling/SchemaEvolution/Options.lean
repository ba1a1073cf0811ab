/-! # Options of table matching
Two thresholds say how similar two tables must be, and two guards say when a likeness is believed at
all. The three ratios are meant to lie between 0 and 1; `check` names the first one that does
not. -/

namespace SchemaEvolution

/-- How tables without a partner of the same name are matched. -/
structure MatchOptions where
  /-- The least similarity at which a missing table counts as renamed. -/
  renameThreshold : Float
  /-- The least similarity at which a new table is taken to replace a missing one. -/
  replacementThreshold : Float
  /-- The number of shared columns from which on a likeness is believed. -/
  minSharedColumns : Nat
  /-- The share of common columns from which on a likeness is believed. -/
  minOverlapRatio : Float

namespace MatchOptions

/-- The options that hold where nothing else is said. -/
def standard : MatchOptions := ⟨0.5, 0.3, 3, 0.7⟩

instance : Inhabited MatchOptions := ⟨standard⟩

/-- An option whose value is no ratio. -/
structure OutOfRange where
  /-- The name of the option. -/
  key : String
  /-- Its value. -/
  value : Float

/-- Whether a number lies between 0 and 1, both included. -/
def isRatio (value : Float) : Bool := 0.0 ≤ value && value ≤ 1.0

/-- The options that are ratios, with their names. -/
def ratios (options : MatchOptions) : List (String × Float) :=
  [("rename_threshold", options.renameThreshold),
    ("replacement_threshold", options.replacementThreshold),
    ("min_overlap_ratio", options.minOverlapRatio)]

/-- The options, unless one of their ratios is out of range; the first such one is reported. -/
def check (options : MatchOptions) : Except OutOfRange MatchOptions :=
  match options.ratios.find? fun ratio => !isRatio ratio.2 with
  | some (key, value) => .error ⟨key, value⟩
  | none => .ok options

end MatchOptions

end SchemaEvolution
