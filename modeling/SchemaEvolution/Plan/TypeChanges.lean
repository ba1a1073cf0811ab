import SchemaEvolution.Plan.Step
import SchemaEvolution.Schema

/-! # Changes of types
An enumeration can only grow at its end. Every other change of a type that both schemas declare is a
**conflict**, reported and not executed. A changed composite type ends the comparison of types. -/

namespace SchemaEvolution

/-- A change of a type that no statement can make. -/
inductive TypeConflict where
  /-- An enumeration has another value at the place of an old one. -/
  | changedValue (typeName old new : String)
  /-- An enumeration lacks an old value at its end. -/
  | removedValue (typeName value : String)
  /-- A composite type has another definition. -/
  | changedComposite (typeName : String)
  /-- A type has become one of another kind. -/
  | changedKind (typeName : String) (old new : TypeDefinition)
  deriving DecidableEq, Repr

namespace TypeConflict

/-- The text shown for a conflict. -/
def message : TypeConflict → String
  | .changedValue typeName old new =>
    "Cannot modify existing enum value in " ++ typeName ++ " ('" ++ old ++ "' -> '" ++ new ++ "')"
  | .removedValue typeName value =>
    "Cannot remove existing enum value in " ++ typeName ++ " ('" ++ value ++ "')"
  | .changedComposite typeName =>
    "Cannot modify composite type " ++ typeName ++ "; drop and recreate it manually"
  | .changedKind typeName old new =>
    "Cannot change type " ++ typeName ++ " between " ++ old.kindName ++ " and " ++ new.kindName

/-- The step that reports a conflict. -/
def step (conflict : TypeConflict) : Step := .error conflict.message

end TypeConflict

/-- The conflicts between the values that two lists have at the same places. -/
def valueConflicts (typeName : String) : List String → List String → List Step
  | old :: olds, new :: news =>
    if old = new then valueConflicts typeName olds news
    else (TypeConflict.changedValue typeName old new).step :: valueConflicts typeName olds news
  | [], _ => []
  | _ :: _, [] => []

/-- The steps from one list of enumeration values to another: changed values, then removed ones,
then added ones. -/
def enumerationChanges (typeName : String) (old new : List String) : List Step :=
  valueConflicts typeName old new ++
    (old.drop new.length).map (fun value => (TypeConflict.removedValue typeName value).step) ++
    (new.drop old.length).map (.addEnumValue typeName)

/-- The steps for the types of a list that an old catalog also declares. -/
def typeChanges (old : Catalog TypeDefinition) : List (String × TypeDefinition) → List Step
  | [] => []
  | (name, definition) :: rest =>
    match old.get? name with
    | none => typeChanges old rest
    | some former =>
      match former, definition with
      | .enumeration oldValues, .enumeration newValues =>
        enumerationChanges name oldValues newValues ++ typeChanges old rest
      | .composite oldText, .composite newText =>
        if oldText = newText then typeChanges old rest
        else [(TypeConflict.changedComposite name).step]
      | former, definition =>
        (TypeConflict.changedKind name former definition).step :: typeChanges old rest

/-- The types of a schema that another one lacks. -/
def addedTypes (old new : Schema) : List (String × TypeDefinition) :=
  new.types.entries.filter fun entry => !old.types.contains entry.1

/-- The step that declares a new type. A composite type is left to be declared by hand. -/
def createType? (entry : String × TypeDefinition) : Option Step :=
  match entry.2 with
  | .enumeration values => some (.createEnum entry.1 values)
  | .composite _ => none

/-- The steps that declare the new enumerations. -/
def typeCreations (old new : Schema) : List Step := (addedTypes old new).filterMap createType?

end SchemaEvolution
