import SchemaEvolution.Plan.Similarity
import SchemaEvolution.Schema

/-! # Matching tables in rounds
Tables of the old schema that have no partner of the same name are gone through one after the other.
In its **round** a table is compared with every candidate that is left and takes the best one, if
that is good enough; of equally good candidates it takes the first. -/

namespace SchemaEvolution

/-- A table with its columns. -/
abbrev NamedTable := String × List Column

/-- What happened when an old table looked for a partner. -/
structure Round where
  /-- The old table. -/
  source : String
  /-- The candidates that were left, each with its similarity. -/
  scores : List (String × Float)
  /-- The candidate that was taken, if any. -/
  choice : Option String

namespace Round

/-- The better of the best candidate so far and the next one, which must reach the threshold and
beat the best one strictly. -/
def better (threshold : Float) (best : Option (String × Float)) (next : String × Float) :
    Option (String × Float) :=
  if next.2 < threshold then best
  else
    match best with
    | some leader => if leader.2 ≥ next.2 then some leader else some next
    | none => some next

/-- The first candidate of highest similarity among those that reach the threshold. -/
def best (threshold : Float) (scores : List (String × Float)) : Option String :=
  (scores.foldl (better threshold) none).map Prod.fst

/-- The round of an old table among candidates. -/
def play (options : MatchOptions) (threshold : Float) (table : NamedTable)
    (candidates : List NamedTable) : Round :=
  let scores := candidates.map fun candidate =>
    (candidate.1, similarity options table.2 candidate.2)
  ⟨table.1, scores, best threshold scores⟩

/-- The candidates that are left after a round. -/
def remaining (round : Round) (candidates : List NamedTable) : List NamedTable :=
  candidates.filter fun candidate => round.choice != some candidate.1

/-- The rounds of a list of old tables, in order. -/
def playAll (options : MatchOptions) (threshold : Float) :
    List NamedTable → List NamedTable → List Round
  | [], _ => []
  | table :: tables, candidates =>
    let round := play options threshold table candidates
    round :: playAll options threshold tables (round.remaining candidates)

/-- Without tables no round is played. -/
@[simp] theorem playAll_nil (options : MatchOptions) (threshold : Float)
    (candidates : List NamedTable) : playAll options threshold [] candidates = [] := rfl

/-- The first table chooses among all candidates, and the others among those it leaves. -/
@[simp] theorem playAll_cons (options : MatchOptions) (threshold : Float) (table : NamedTable)
    (tables candidates : List NamedTable) :
    playAll options threshold (table :: tables) candidates =
      play options threshold table candidates ::
        playAll options threshold tables
          ((play options threshold table candidates).remaining candidates) := rfl

/-- Among no candidates there is no best one. -/
@[simp] theorem best_nil (threshold : Float) : best threshold [] = none := rfl

/-- The pairs that were matched in a list of rounds. -/
def pairs (rounds : List Round) : List (String × String) :=
  rounds.filterMap fun round => round.choice.map fun target => (round.source, target)

end Round

/-- The rounds of a comparison: first for renamed tables, then for replaced ones. -/
structure Matching where
  /-- The rounds in which renamed tables were looked for. -/
  renameRounds : List Round
  /-- The rounds in which replacements of dropped tables were looked for. -/
  replacementRounds : List Round

namespace Matching

/-- The tables of a schema whose names another schema lacks. -/
def missingFrom (schema other : Schema) : List NamedTable :=
  schema.tables.entries.filter fun table => !other.tables.contains table.1

/-- The pairs of an old table and the new name it is renamed to. -/
def renames (matching : Matching) : List (String × String) := Round.pairs matching.renameRounds

/-- The pairs of a dropped table and the new table that replaces it. -/
def replacements (matching : Matching) : List (String × String) :=
  Round.pairs matching.replacementRounds

/-- The old table that is renamed to a given name. -/
def renamedFrom? (matching : Matching) (target : String) : Option String :=
  (matching.renames.find? fun pair => pair.2 == target).map Prod.fst

/-- The dropped table that a given new table replaces. -/
def replacedBy? (matching : Matching) (target : String) : Option String :=
  (matching.replacements.find? fun pair => pair.2 == target).map Prod.fst

/-- The rounds in which the tables of two schemas are matched. Who is renamed does not take part in
the rounds for replacements. -/
def ofSchemas (options : MatchOptions) (old new : Schema) : Matching :=
  let lost := missingFrom old new
  let gained := missingFrom new old
  let renameRounds := Round.playAll options options.renameThreshold lost gained
  let renamed := Round.pairs renameRounds
  let dropped := lost.filter fun table => !renamed.any fun pair => pair.1 == table.1
  let created := gained.filter fun table => !renamed.any fun pair => pair.2 == table.1
  ⟨renameRounds, Round.playAll options options.replacementThreshold dropped created⟩

end Matching

end SchemaEvolution
