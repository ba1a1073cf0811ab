import SchemaEvolution.Plan.Step
import SchemaEvolution.Text.Blank

/-! # Lines of a migration
A line is a command, or a comment that reports an error, warns of the command after it, or only
notes something. -/

namespace SchemaEvolution

/-- The kinds of lines. -/
inductive LineKind where
  /-- A statement to execute. -/
  | command
  /-- A reported problem. -/
  | error
  /-- A warning before a statement that destroys data. -/
  | caution
  /-- Any other comment. -/
  | note
  deriving DecidableEq, Repr

/-- The word for a kind of line. -/
def LineKind.label : LineKind → String
  | .command => "command"
  | .error => "error"
  | .caution => "caution"
  | .note => "note"

/-- The kind of a comment, from what follows its mark. -/
def commentKind (cs : List Char) : LineKind :=
  let text := trimStart cs
  if "ERROR:".toList.isPrefixOf text then .error
  else if "CAUTION:".toList.isPrefixOf text then .caution
  else .note

/-- The **kind of a line**. Blanks before the comment mark and after it do not count. -/
def classify (line : String) : LineKind :=
  let text := trimStart line.toList
  if commentMark.toList.isPrefixOf text then commentKind (text.drop commentMark.toList.length)
  else .command

/-- Whether a list of lines reports an error. -/
def hasErrors (lines : List String) : Bool := lines.any fun line => classify line == .error

/-- No lines report no error. -/
@[simp] theorem hasErrors_nil : hasErrors [] = false := rfl

/-- Lines report an error when the first one does or the others do. -/
@[simp] theorem hasErrors_cons (line : String) (lines : List String) :
    hasErrors (line :: lines) = (classify line == .error || hasErrors lines) := rfl

end SchemaEvolution
