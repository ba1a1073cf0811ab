import SchemaEvolution.Proofs.Catalog.Override
import SchemaEvolution.Proofs.Declaration.Cleaning
import SchemaEvolution.Proofs.Result

/-! # Reading one text after another
Two texts with a line between them that holds a semicolon only are read as one text. Comments end at
line breaks, so each text is cleaned for itself; a first text that is well nested leaves no
parenthesis open, so the semicolon separates its statements from those of the second; and the schema
of the whole is the schema of the first text, overridden by that of the second. -/

namespace SchemaEvolution

/-! ## Cleaning -/

/-- The line that stands between two texts. -/
def statementBreak : String := "\n;\n"

/-- Two texts with a semicolon on a line of its own between them. -/
theorem strip_statementBreak (first second : String) :
    strip (first ++ statementBreak ++ second).toList =
      strip first.toList ++ '\n' :: ';' :: '\n' :: strip second.toList := by
  have hsemicolon : strip [';'] = [';'] := by decide
  have hbreak : (first ++ statementBreak ++ second).toList =
      first.toList ++ '\n' :: ([';'] ++ '\n' :: second.toList) := by
    simp [statementBreak, String.toList_append]
  rw [hbreak, strip_append_cons, strip_append_cons, hsemicolon, List.singleton_append]

/-! ## Statements -/

/-- **The statements of two texts** are those of the first and then those of the second. -/
theorem statementTexts_statementBreak {first : String} (h : WellNested (clean first.toList))
    (second : String) :
    statementTexts (clean (first ++ statementBreak ++ second).toList) =
      statementTexts (clean first.toList) ++ statementTexts (clean second.toList) := by
  have hfeed : WellNested ['\n'] := by decide
  have hnested : WellNested (strip first.toList ++ ['\n']) :=
    ((wellNested_iff_of_words_eq (words_clean _)).mp h).append hfeed
  rw [statementTexts_clean, statementTexts_clean, statementTexts_clean, strip_statementBreak,
    statementTexts, statementTexts, statementTexts, List.append_cons,
    hnested.splitOutside_append_cons (by decide),
    splitOutside_cons_of_blank (by decide) (by decide),
    splitOutside_concat_of_blank (by decide) (by decide), List.map_append]

/-! ## Schemas -/

/-- Statements after overriding are statements of the later schema. -/
theorem declareAll_override (former later : Schema) (statements : List (List Char)) :
    (former.override later).declareAll statements =
      (former.override ·) <$> later.declareAll statements := by
  induction statements generalizing later with
  | nil => rfl
  | cons statement rest ih =>
    rw [Schema.declareAll, List.foldlM_cons, Schema.declareAll, List.foldlM_cons]
    cases Statement.ofText statement with
    | error cause => rfl
    | ok declared =>
      show ((former.override later).declare declared).declareAll rest =
        (former.override ·) <$> (later.declare declared).declareAll rest
      rw [Schema.declare_override, ih]

/-- Statements are taken in two parts. -/
theorem declareAll_append (schema : Schema) (statements others : List (List Char)) :
    schema.declareAll (statements ++ others) =
      (do (← schema.declareAll statements).declareAll others) :=
  List.foldlM_append

/-- A statement is **unsupported** when it starts neither like the declaration of a type nor like
that of a table. -/
def IsUnsupported (statement : List Char) : Prop :=
  startsWithKeywords ["CREATE", "TYPE"] (words statement) = false ∧
    startsWithKeywords ["CREATE", "TABLE"] (words statement) = false

instance (statement : List Char) : Decidable (IsUnsupported statement) :=
  inferInstanceAs (Decidable (_ ∧ _))

/-- Unsupported statements declare nothing. -/
theorem declareAll_of_unsupported {statements : List (List Char)}
    (h : ∀ statement ∈ statements, IsUnsupported statement) (schema : Schema) :
    schema.declareAll statements = .ok schema := by
  induction statements with
  | nil => rfl
  | cons statement rest ih =>
    rw [List.forall_mem_cons] at h
    have hother : Statement.ofText statement = .ok .other := by
      rw [Statement.ofText, h.1.1, h.1.2]
      rfl
    rw [Schema.declareAll, List.foldlM_cons, hother]
    exact ih h.2

/-- **Reading is compositional.** A text that is well nested and a text whose parentheses balance,
with a semicolon on a line of its own between them, are read as the schema of the first overridden
by that of the second; if one of them is refused, so is the whole, for the cause of the first that
is refused. Overriding keeps the places of names and takes the later contents entirely. A second
text of unsupported statements changes nothing. -/
theorem ofText_statementBreak (first second : String) (hfirst : WellNested (clean first.toList))
    (hsecond : (clean second.toList).count '(' = (clean second.toList).count ')') :
    Schema.ofText (first ++ statementBreak ++ second) =
        (do
          let former ← Schema.ofText first
          let later ← Schema.ofText second
          return former.override later) ∧
      (∀ former later : Schema,
        Catalog.Overrides former.types later.types (former.override later).types ∧
          Catalog.Overrides former.tables later.tables (former.override later).tables) ∧
      ((∀ statement ∈ statementTexts (clean second.toList), IsUnsupported statement) →
        Schema.ofText (first ++ statementBreak ++ second) = Schema.ofText first) := by
  have hbalanced : (clean (first ++ statementBreak ++ second).toList).count '(' =
      (clean (first ++ statementBreak ++ second).toList).count ')' := by
    have hcount := hfirst.count_eq
    rw [count_clean (by decide), count_clean (by decide)] at hcount hsecond
    rw [count_clean (by decide), count_clean (by decide), strip_statementBreak]
    simp [List.count_append, hcount, hsecond]
  have hread : Schema.ofText (first ++ statementBreak ++ second) = (do
      (← Schema.ofText first).declareAll (statementTexts (clean second.toList))) := by
    rw [ofText_of_count_eq hbalanced, statementTexts_statementBreak hfirst, declareAll_append,
      ofText_of_count_eq hfirst.count_eq]
  refine ⟨?_, fun former later =>
    ⟨Catalog.overrides_override _ _, Catalog.overrides_override _ _⟩, fun hunsupported => ?_⟩
  · rw [hread, ofText_of_count_eq hsecond]
    -- reading on from the first schema is overriding it by what is read from nothing
    refine bind_congr fun former => ?_
    generalize statementTexts (clean second.toList) = statements
    have hlater := declareAll_override former .empty statements
    rw [Schema.override_empty] at hlater
    rw [hlater, map_eq_pure_bind]
  · rw [hread]
    cases Schema.ofText first with
    | error cause => rfl
    | ok former =>
      exact (bind_eq_ok_iff _ _ _).mpr
        ⟨former, rfl, declareAll_of_unsupported hunsupported former⟩

namespace Sample

/-- A text that ends in a comment and has comments with parentheses and semicolons. -/
def formerText : String :=
  "CREATE TYPE mood AS ENUM ('ok'); -- one (of many;\n" ++
    "CREATE TABLE tag (id INT, price NUMERIC(10, 2)) -- no semicolon"

/-- A text that declares a table anew. -/
def laterText : String :=
  "DROP TABLE tag; CREATE TABLE note (id INT); CREATE TABLE tag (label \x22TEXT\x22)"

/-- The schema of the two texts. -/
def inSequence : Schema where
  types := .ofList [("mood", .enumeration ["ok"])]
  tables := .ofList
    [("tag", [⟨"label", "TEXT", false, none⟩]), ("note", [⟨"id", "INT", false, none⟩])]

end Sample

/-- In the sample the table that is declared anew stays first and keeps none of its columns. -/
theorem sample_texts_in_sequence :
    WellNested (clean Sample.formerText.toList) ∧
      (clean Sample.laterText.toList).count '(' = (clean Sample.laterText.toList).count ')' ∧
      Schema.ofText (Sample.formerText ++ statementBreak ++ Sample.laterText) =
        .ok Sample.inSequence := by
  have hnested : WellNested (clean Sample.formerText.toList) := by decide +kernel
  have hcount : (clean Sample.laterText.toList).count '(' =
      (clean Sample.laterText.toList).count ')' := by decide +kernel
  have hsequence : (do
      let former ← Schema.ofText Sample.formerText
      let later ← Schema.ofText Sample.laterText
      return former.override later) = .ok Sample.inSequence := by decide +kernel
  exact ⟨hnested, hcount, (ofText_statementBreak _ _ hnested hcount).1.trans hsequence⟩

end SchemaEvolution
