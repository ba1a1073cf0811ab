/-! # Keywords
Keywords are compared without regard to the case of ASCII letters; all other characters must agree
exactly. `upper` is the representative of a text in that comparison. -/

namespace SchemaEvolution

/-- A text with its ASCII letters in upper case. -/
def upper (cs : List Char) : List Char := cs.map Char.toUpper

/-- An empty text has no letters. -/
@[simp] theorem upper_nil : upper [] = [] := rfl

/-- Characters are put in upper case one by one. -/
@[simp] theorem upper_cons (c : Char) (cs : List Char) :
    upper (c :: cs) = c.toUpper :: upper cs := rfl

/-- The two parts of a text are put in upper case separately. -/
@[simp] theorem upper_append (cs ds : List Char) : upper (cs ++ ds) = upper cs ++ upper ds := by
  simp [upper]

/-- Upper case keeps the length of a text. -/
@[simp] theorem length_upper (cs : List Char) : (upper cs).length = cs.length := by simp [upper]

/-- Whether a text is the given **keyword**, up to the case of ASCII letters. -/
def isKeyword (keyword : String) (cs : List Char) : Bool := upper cs == upper keyword.toList

/-- Whether a text is one of the given keywords. -/
def isAnyKeyword (keywords : List String) (cs : List Char) : Bool :=
  keywords.any fun keyword => isKeyword keyword cs

/-- What follows a keyword at the front of a text; `none` when the text does not start with it. -/
def afterKeyword? (keyword : String) (cs : List Char) : Option (List Char) :=
  let n := keyword.toList.length
  if isKeyword keyword (cs.take n) then some (cs.drop n) else none

/-- Whether the words of a statement start with the given keywords. -/
def startsWithKeywords : List String → List (List Char) → Bool
  | [], _ => true
  | _ :: _, [] => false
  | keyword :: keywords, word :: rest => isKeyword keyword word && startsWithKeywords keywords rest

/-- Every statement starts with no keywords. -/
@[simp] theorem startsWithKeywords_nil (ws : List (List Char)) :
    startsWithKeywords [] ws = true := by
  cases ws <;> rfl

/-- The first keyword is compared with the first word, and the others with the rest. -/
@[simp] theorem startsWithKeywords_cons_cons (keyword : String) (keywords : List String)
    (word : List Char) (rest : List (List Char)) :
    startsWithKeywords (keyword :: keywords) (word :: rest) =
      (isKeyword keyword word && startsWithKeywords keywords rest) := rfl

end SchemaEvolution
