import SchemaEvolution.Declaration.Cleaning
import SchemaEvolution.Declaration.Statement

/-! # Reading a schema text
The text is cleaned, its parentheses are counted, it is cut into statements at the semicolons
outside parentheses, and the statements are taken one after the other. The first cause of refusal
counts. -/

namespace SchemaEvolution

/-- The statements of a cleaned text, with their words one space apart. -/
def statementTexts (cleaned : List Char) : List (List Char) :=
  (splitOutside ';' cleaned).map collapse

/-- The schema after the statements of a list, from the schema before them. -/
def Schema.declareAll (schema : Schema) (statements : List (List Char)) : Except ReadError Schema :=
  statements.foldlM (fun schema statement => schema.declare <$> Statement.ofText statement) schema

/-- The cleaned text of a schema, if as many parentheses are opened in it as are closed. -/
def balancedText (text : String) : Except ReadError (List Char) :=
  let cleaned := clean text.toList
  let opening := cleaned.count '('
  let closing := cleaned.count ')'
  if opening = closing then .ok cleaned else .error (.unbalanced opening closing)

/-- The **schema of a text**. -/
def Schema.ofText (text : String) : Except ReadError Schema :=
  (balancedText text).bind fun cleaned => Schema.empty.declareAll (statementTexts cleaned)

/-- A text whose parentheses balance is read statement by statement, and any other is refused. -/
theorem Schema.ofText_eq (text : String) :
    Schema.ofText text =
      if (clean text.toList).count '(' = (clean text.toList).count ')' then
        Schema.empty.declareAll (statementTexts (clean text.toList))
      else
        .error (.unbalanced ((clean text.toList).count '(') ((clean text.toList).count ')')) := by
  rw [Schema.ofText, balancedText]
  generalize clean text.toList = cleaned
  by_cases h : cleaned.count '(' = cleaned.count ')'
  · simp only [if_pos h, Except.bind]
  · simp only [if_neg h, Except.bind]

/-- The statements of a text that are looked at: all of them, or those up to the first refused
one. -/
def visitedStatements (text : String) : List String :=
  match balancedText text with
  | .error _ => []
  | .ok cleaned =>
    let statements := statementTexts cleaned
    let accepted := statements.takeWhile fun statement => (Statement.ofText statement).isOk
    (statements.take (accepted.length + 1)).map String.ofList

end SchemaEvolution
