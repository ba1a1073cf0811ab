import SchemaEvolution.Declaration.Reader
import SchemaEvolution.Plan.Basic

/-! # Migrations between schema texts
The lines of a migration from one schema text to another. What stands in the way of a plan becomes
the only line, marked as an error. -/

namespace SchemaEvolution

/-- The side of a comparison. -/
inductive Side where
  /-- The schema as it is. -/
  | old
  /-- The schema as it is to be. -/
  | new
  deriving DecidableEq, Repr

/-- The word for a side. -/
def Side.label : Side → String
  | .old => "old"
  | .new => "new"

/-- What can stand in the way of a plan between two texts. -/
inductive Obstacle where
  /-- A text cannot be read. -/
  | unreadable (cause : ReadError)
  /-- A text says something, but declares no type and no table. -/
  | nothingDeclared (side : Side)
  /-- A new column cannot be filled. -/
  | unfillable (cause : UnfillableColumn)
  deriving DecidableEq, Repr

/-- The text shown for an obstacle. -/
def Obstacle.message : Obstacle → String
  | .unreadable cause => cause.message
  | .nothingDeclared side =>
    "No valid CREATE TYPE or CREATE TABLE statements found in " ++ side.label ++ " schema"
  | .unfillable cause => cause.message

/-- The two schemas of a pair of texts; the old text is read first. -/
def readBoth (oldText newText : String) : Except ReadError (Schema × Schema) := do
  let old ← Schema.ofText oldText
  let new ← Schema.ofText newText
  return (old, new)

/-- Whether a text says something and yet declares nothing. -/
def declaresNothing (text : String) (schema : Schema) : Bool :=
  schema.isEmpty && !(clean text.toList).isEmpty

/-- The plan between the schemas of two texts. -/
def planBetween (options : MatchOptions) (oldText newText : String) :
    Except Obstacle (List Step) := do
  let (old, new) ← (readBoth oldText newText).mapError .unreadable
  if declaresNothing oldText old then throw (.nothingDeclared .old)
  if declaresNothing newText new then throw (.nothingDeclared .new)
  (plan options old new).mapError .unfillable

/-- The **lines** of the migration between two schema texts. -/
def migrationLines (options : MatchOptions) (oldText newText : String) : List String :=
  match planBetween options oldText newText with
  | .ok steps => steps.map Step.sql
  | .error obstacle => [(Step.error obstacle.message).sql]

end SchemaEvolution
