import SchemaEvolution.Column
import SchemaEvolution.Declaration.Error
import SchemaEvolution.Text.Alphanumeric

/-! # Column clauses
The words of a column clause are its name, the words of its type up to the first qualifier word, and
the qualifiers. `NOT NULL` forbids null, `DEFAULT` takes all words after it, and any other qualifier
is passed over. A clause that starts like a constraint on the table declares no column. -/

namespace SchemaEvolution

/-! ## Constraints on a table -/

/-- The letters, digits and underscores at the start of a text. -/
def leadingWord (cs : List Char) : List Char :=
  cs.takeWhile fun c => isAlphanumeric c || c == '_'

/-- Whether a clause of a table declares a constraint on the table and not a column. -/
def isTableConstraint (clause : List Char) : Bool :=
  let first := leadingWord clause
  isAnyKeyword ["CONSTRAINT", "UNIQUE", "CHECK", "EXCLUDE"] first ||
    (isAnyKeyword ["PRIMARY", "FOREIGN"] first &&
      isKeyword "KEY" (leadingWord (trimStart (clause.drop first.length))))

/-! ## Columns -/

/-- Whether a word ends the type of a column. -/
def isQualifierWord (word : List Char) : Bool :=
  isAnyKeyword ["DEFAULT", "NOT", "NULL", "CHECK"] word

/-- What the words after a type say. -/
structure Qualifiers where
  /-- Whether null is forbidden. -/
  notNull : Bool
  /-- The words of the default expression, if a default is announced. -/
  defaultWords : Option (List (List Char))
  deriving DecidableEq, Repr

/-- The qualifiers that a list of words states, read from left to right up to the default. -/
def Qualifiers.ofWords : List (List Char) → Qualifiers
  | [] => ⟨false, none⟩
  | [word] => ⟨false, if isKeyword "DEFAULT" word then some [] else none⟩
  | word :: next :: rest =>
    if isKeyword "NOT" word && isKeyword "NULL" next then
      { Qualifiers.ofWords rest with notNull := true }
    else if isKeyword "DEFAULT" word then ⟨false, some (next :: rest)⟩
    else Qualifiers.ofWords (next :: rest)

/-- The text of a list of words, one space apart. -/
def wordText (ws : List (List Char)) : String := String.ofList (unwords ws)

/-- The column that a clause of a table declares. -/
def Column.ofClause (table : String) (clause : List Char) : Except ReadError Column :=
  match words clause with
  | name :: next :: rest =>
    let typeWords := (next :: rest).takeWhile fun word => !isQualifierWord word
    let qualifierWords := (next :: rest).dropWhile fun word => !isQualifierWord word
    if typeWords.isEmpty then .error (.missingType table (String.ofList name))
    else
      match Qualifiers.ofWords qualifierWords with
      | ⟨_, some []⟩ => .error (.missingDefault table (String.ofList name))
      | ⟨notNull, defaultWords⟩ =>
        .ok ⟨String.ofList name, wordText typeWords, notNull, defaultWords.map wordText⟩
  | _ => .error (.malformedColumn table (String.ofList clause))

end SchemaEvolution
