import SchemaEvolution.Decimal.Positional
import SchemaEvolution.Log.Event
import SchemaEvolution.Plan.Generation

/-! # Events of a comparison
The events of reading two schema texts and planning the migration between them, in the order in
which the work is done. -/

namespace SchemaEvolution

/-- The target of events of the whole program. -/
def programTarget : String := "schemashift"

/-- The target of events of one part of the program. -/
def partTarget (name : String) : String := programTarget ++ "::" ++ name

/-- The events of reading a schema text: one for each statement that is looked at. -/
def readingEvents (text : String) : List LogEvent :=
  (visitedStatements text).map fun statement =>
    ⟨.trace, partTarget "parser", "parsing statement", [("statement", statement)]⟩

/-- The event of comparing an old table with a candidate. -/
def scoreEvent (score : String × Float) : LogEvent :=
  ⟨.trace, partTarget "diff", "table similarity",
    [("candidate", LogEvent.quotedField score.1), ("score", positional .pointed score.2)]⟩

/-- The event of a detected rename. -/
def renameEvent (source target : String) : LogEvent :=
  ⟨.debug, partTarget "diff", "detected table rename",
    [("from", source), ("to", LogEvent.quotedField target)]⟩

/-- The event of a detected replacement. -/
def replacementEvent (source target : String) : LogEvent :=
  ⟨.debug, partTarget "diff", "detected likely table replacement",
    [("old", source), ("new", LogEvent.quotedField target)]⟩

/-- The events of a round: one for each candidate, and one for the choice. -/
def roundEvents (chosen : String → String → LogEvent) (round : Round) : List LogEvent :=
  round.scores.map scoreEvent ++
    match round.choice with
    | some target => [chosen round.source target]
    | none => []

/-- The event of leaving a composite type to be declared by hand. -/
def skippedType? (entry : String × TypeDefinition) : Option LogEvent :=
  match entry.2 with
  | .composite _ =>
    some ⟨.debug, partTarget "diff", "skipping creation of composite type",
      [("type_name", entry.1)]⟩
  | .enumeration _ => none

/-- The events of planning the migration between two schemas. A plan that fails does so after the
renames are known. -/
def planningEvents (options : MatchOptions) (old new : Schema) : List LogEvent :=
  let matching := Matching.ofSchemas options old new
  let renames := matching.renameRounds.flatMap (roundEvents renameEvent)
  match plan options old new with
  | .error _ => renames
  | .ok _ =>
    renames ++ (addedTypes old new).filterMap skippedType? ++
      matching.replacementRounds.flatMap (roundEvents replacementEvent)

/-- The event of an obstacle. That a text declares nothing is no event. -/
def obstacleEvents : Obstacle → List LogEvent
  | .nothingDeclared _ => []
  | obstacle => [⟨.warn, programTarget, "schema diff failed", [("error", obstacle.message)]⟩]

/-- The events of planning between two texts that can be read. -/
def plannedEvents (options : MatchOptions) (oldText newText : String) (old new : Schema) :
    List LogEvent :=
  if declaresNothing oldText old || declaresNothing newText new then []
  else planningEvents options old new

/-- The **events of a comparison** of two schema texts. -/
def comparisonEvents (options : MatchOptions) (oldText newText : String) : List LogEvent :=
  let work :=
    match Schema.ofText oldText with
    | .error _ => readingEvents oldText
    | .ok old =>
      readingEvents oldText ++ readingEvents newText ++
        match Schema.ofText newText with
        | .error _ => []
        | .ok new => plannedEvents options oldText newText old new
  match planBetween options oldText newText with
  | .ok _ => work
  | .error obstacle => work ++ obstacleEvents obstacle

end SchemaEvolution
