import SchemaEvolution.Column
import SchemaEvolution.Options

/-! # Similarity of tables
The **similarity** of two tables is the number of column names they share divided by the number of
names that either has. A likeness that rests on few names and on a small share of them counts as
zero. -/

namespace SchemaEvolution

/-- The names of the columns of a list, each once. -/
def columnNames (columns : List Column) : List String := (columns.map Column.name).eraseDups

/-- The number of names that two lists of columns share. -/
def sharedCount (old new : List Column) : Nat :=
  ((columnNames old).filter fun name => (columnNames new).contains name).length

/-- The number of names that one of two lists of columns has. -/
def unionCount (old new : List Column) : Nat := (columnNames (old ++ new)).length

/-- A count as a double. Counts are 64-bit numbers, which no list in memory exceeds. -/
def countValue (count : Nat) : Float := (UInt64.ofNatClamp count).toFloat

/-- The shared names as a share of all names. -/
def overlapRatio (old new : List Column) : Float :=
  countValue (sharedCount old new) / countValue (unionCount old new)

/-- Whether two tables have enough in common for their likeness to be believed. -/
def isCredible (options : MatchOptions) (old new : List Column) : Bool :=
  options.minSharedColumns ≤ sharedCount old new ||
    overlapRatio old new ≥ options.minOverlapRatio

/-- The **similarity** of two lists of columns, between 0 and 1. -/
def similarity (options : MatchOptions) (old new : List Column) : Float :=
  match old, new with
  | [], [] => 1.0
  | [], _ :: _ => 0.0
  | _ :: _, [] => 0.0
  | _ :: _, _ :: _ => if isCredible options old new then overlapRatio old new else 0.0

end SchemaEvolution
