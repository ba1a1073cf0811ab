import SchemaEvolution.Proofs.Declaration.RoundTrip
import SchemaEvolution.Proofs.Declaration.Sequence
import SchemaEvolution.Proofs.Text.Layout

/-! # What follows the columns of a table
The statement of a table may go on behind the parenthesis that closes its columns. A reader goes
three times through such a statement: it is cut out at a semicolon, its words are put one space
apart, and the partner of the opening parenthesis is looked for. Each time the text in the
parentheses is passed over as a whole, because it is well nested, so all three agree on where the
columns end. -/

namespace SchemaEvolution

/-! ## A single statement -/

/-- A quiet text without semicolons outside parentheses is one statement. -/
theorem ofText_of_uncut {text : String} {cs : List Char} (htext : text.toList = cs)
    (hquiet : Quiet cs) (huncut : hasOutside ';' 0 cs = false) (hne : words cs ≠ []) :
    Schema.ofText text = Schema.empty.declare <$> Statement.ofText (collapse cs) := by
  subst htext
  have htrim : trim text.toList ≠ [] := mt (trim_eq_nil_iff _).mp hne
  have hstatements : statementTexts text.toList = [collapse text.toList] := by
    rw [statementTexts, splitOutside_eq_singleton huncut htrim, List.map_singleton, collapse,
      words_trim, collapse]
  rw [ofText_of_quiet hquiet, hstatements]
  exact bind_pure _

/-! ## Collapsed statements -/

/-- What is written behind a text and a space is collapsed behind it. -/
theorem exists_collapse_append {cs : List Char} (hcs : words cs ≠ []) (ds : List Char) :
    ∃ rest, collapse (cs ++ ' ' :: ds) = collapse cs ++ rest := by
  rw [collapse, words_append_cons_of_blank (by decide)]
  by_cases hds : words ds = []
  · exact ⟨[], by rw [hds, List.append_nil, List.append_nil, collapse]⟩
  · exact ⟨' ' :: unwords (words ds), by rw [unwords_append hcs hds, collapse]⟩

/-- A header and a well-nested text in parentheses stay so when they are collapsed. -/
theorem IsHeader.exists_collapse_headed {ws : List (List Char)} (h : IsHeader ws)
    {body : List Char} (hbody : WellNested body) :
    ∃ inner, WellNested inner ∧ collapse (headed ws body) = headed ws inner := by
  obtain ⟨inner, hinner, hcollapse⟩ := hbody.exists_collapse_enclosed
  have hwords : words (headed ws body) = ws ++ words ('(' :: (body ++ [')'])) := by
    rw [headed, words_append_cons_of_blank (by decide), words_unwords fun w hw => (h.2 w hw).1]
  have hne : words ('(' :: (body ++ [')'])) ≠ [] := words_cons_ne_nil (by decide) _
  refine ⟨inner, hinner, ?_⟩
  rw [collapse, hwords, unwords_append h.1 hne, ← collapse, hcollapse, headed]

/-! ## Statements that go on -/

/-- The text that declares a table. -/
def tableText (name body : String) : String := "CREATE TABLE " ++ name ++ " (" ++ body ++ ")"

/-- The text that declares a table is a header and its columns in parentheses. -/
theorem toList_tableText (name body : String) :
    (tableText name body).toList = headed (tableWords name.toList) body.toList := by
  show ("CREATE TABLE " ++ name ++ " (" ++ body ++ ")").toList = _
  simp [headed_tableWords]

/-- A quiet fragment and a quiet text behind it, a space between them, are quiet and not cut. -/
theorem IsFragment.append_space {cs ds : List Char} (hcs : IsFragment ';' cs) (hquiet : Quiet cs)
    (hds : Quiet ds) (huncut : hasOutside ';' 0 ds = false) :
    Quiet (cs ++ ' ' :: ds) ∧ hasOutside ';' 0 (cs ++ ' ' :: ds) = false := by
  have hneutral : isNeutral ' ' = true := by decide
  have hblank : [' '].all isNeutral = true := by decide
  have hspace : Quiet (' ' :: ds) := Quiet.neutral_append hblank hds
  refine ⟨hquiet.append hspace (.inr (by simpa using hneutral)), ?_⟩
  rw [hasOutside_append, hcs.uncut, hcs.nested.foldl_depthAfter, Bool.false_or]
  exact huncut

/-- **Whatever follows the columns of a table is ignored.** A text that declares a table and goes on
behind the columns is read like the text that ends there, as the same schema or refused for the same
cause. -/
theorem ofText_tableText_append (name body trailing : String) (hname : IsName name.toList)
    (hbody : Quiet body.toList) (htrailing : Quiet trailing.toList)
    (huncut : hasOutside ';' 0 trailing.toList = false) :
    Schema.ofText (tableText name body ++ " " ++ trailing) =
      Schema.ofText (tableText name body) := by
  have hheader : IsHeader (tableWords name.toList) := isHeader_tableWords hname
  have hquiet := hheader.quiet_headed hbody
  have hfragment := hheader.isFragment_headed hbody
  have hwords : words (headed (tableWords name.toList) body.toList) ≠ [] := fun h =>
    hfragment.ne_nil (hfragment.trimmed ▸ (trim_eq_nil_iff _).mpr h)
  have htext : (tableText name body ++ " " ++ trailing).toList =
      headed (tableWords name.toList) body.toList ++ ' ' :: trailing.toList := by
    simp [toList_tableText]
  obtain ⟨hlong, hone⟩ := hfragment.append_space hquiet htrailing huncut
  have hlongWords : words (headed (tableWords name.toList) body.toList ++ ' ' :: trailing.toList) ≠
      [] := by
    rw [words_append_cons_of_blank (by decide)]
    simp [hwords]
  -- each text is one statement, and the two start with the same parentheses
  obtain ⟨inner, hinner, hcollapse⟩ := hheader.exists_collapse_headed hbody.nested
  obtain ⟨rest, hrest⟩ := exists_collapse_append hwords trailing.toList
  have hread := Statement.ofText_headed_append hname hinner
  have hshort := hread []
  rw [List.append_nil] at hshort
  rw [ofText_of_uncut htext hlong hone hlongWords, hrest, hcollapse, hread,
    ofText_of_uncut (toList_tableText name body) hquiet hfragment.uncut hwords, hcollapse, hshort]

namespace Sample

/-- Columns with parentheses, commas and a semicolon between them. -/
def nestedBody : String :=
  "id INT, price NUMERIC(10, 2) DEFAULT round(1.5, 1),\n  CHECK (id > (0;1))"

/-- Storage clauses with parentheses, commas, a semicolon and the words of another statement. -/
def storageClauses : String :=
  "PARTITION BY RANGE (id, (price)) WITH (fillfactor = 70;)\n  CREATE TABLE (note INT)"

/-- The schema of the columns. -/
def priced : Schema where
  types := .empty
  tables := .ofList
    [("tag", [⟨"id", "INT", false, none⟩,
      ⟨"price", "NUMERIC(10, 2)", false, some "round(1.5, 1)"⟩])]

end Sample

/-- In the sample the columns are read as if no storage clauses followed them. -/
theorem sample_storage_ignored :
    IsName "tag".toList ∧ Quiet Sample.nestedBody.toList ∧ Quiet Sample.storageClauses.toList ∧
      hasOutside ';' 0 Sample.storageClauses.toList = false ∧
      Schema.ofText (tableText "tag" Sample.nestedBody ++ " " ++ Sample.storageClauses) =
        .ok Sample.priced := by
  have hname : IsName "tag".toList := by decide
  have hbody : Quiet Sample.nestedBody.toList := by decide +kernel
  have htrailing : Quiet Sample.storageClauses.toList := by decide +kernel
  have huncut : hasOutside ';' 0 Sample.storageClauses.toList = false := by decide +kernel
  have hread : Schema.ofText (tableText "tag" Sample.nestedBody) = .ok Sample.priced := by
    decide +kernel
  exact ⟨hname, hbody, htrailing, huncut,
    (ofText_tableText_append _ _ _ hname hbody htrailing huncut).trans hread⟩

end SchemaEvolution
