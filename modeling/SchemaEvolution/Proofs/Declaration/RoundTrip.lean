import SchemaEvolution.Proofs.Declaration.Reader
import SchemaEvolution.Proofs.Declaration.Statement
import SchemaEvolution.Proofs.Plan.Phases
import SchemaEvolution.Proofs.Text.ValueList

/-! # Writing a schema and reading it back
The plan from nothing to a plain schema declares its types and then its tables. Its text is read
back as the schema itself, except that a column with a default and a ban on null comes back with the
ban as a part of its default. Layout does not survive reading: the statement of a table has a line
for each column, and its words are read one space apart. -/

namespace SchemaEvolution

/-! ## Statements with a header -/

/-- Words that can stand in front of a parenthesis: they have no semicolon and are neutral. -/
def IsHeader (ws : List (List Char)) : Prop :=
  ws ≠ [] ∧ ∀ w ∈ ws, IsWord w ∧ w.all isNeutral = true ∧ ';' ∉ w

namespace IsHeader

variable {ws : List (List Char)} {inner : List Char}

/-- A header is neutral, the space behind it included. -/
theorem neutral (h : IsHeader ws) : (unwords ws ++ [' ']).all isNeutral = true := by
  refine List.all_eq_true.mpr fun c hc => ?_
  rw [List.mem_append, List.mem_singleton] at hc
  rcases hc with hc | rfl
  · rcases mem_unwords hc with rfl | ⟨w, hw, hmem⟩
    · decide
    · exact List.all_eq_true.mp (h.2 w hw).2.1 c hmem
  · decide

/-- A header has no semicolon, and neither has the space behind it. -/
theorem semicolon_not_mem (h : IsHeader ws) : ';' ∉ unwords ws ++ [' '] := by
  intro hmem
  rw [List.mem_append, List.mem_singleton] at hmem
  rcases hmem with hmem | hspace
  · rcases mem_unwords hmem with hspace | ⟨w, hw, hsemicolon⟩
    · exact absurd hspace (by decide)
    · exact (h.2 w hw).2.2 hsemicolon
  · exact absurd hspace (by decide)

/-- A header is tidy. -/
theorem tidy_unwords (h : IsHeader ws) : Tidy (unwords ws) :=
  SchemaEvolution.tidy_unwords fun w hw => (h.2 w hw).1

/-- A header is not empty. -/
theorem unwords_ne_nil (h : IsHeader ws) : unwords ws ≠ [] :=
  joinWith_ne_nil _ h.1 fun w hw => (h.2 w hw).1.1

/-- A headed text is its header with a space, and the text in parentheses. -/
theorem headed_eq (ws : List (List Char)) (inner : List Char) :
    headed ws inner = (unwords ws ++ [' ']) ++ '(' :: (inner ++ [')']) := by
  simp [headed]

/-- A header and a quiet text in parentheses are quiet. -/
theorem quiet_headed (h : IsHeader ws) (hinner : Quiet inner) : Quiet (headed ws inner) := by
  rw [headed_eq]
  exact .neutral_append h.neutral hinner.enclosed

/-- A header and a text in parentheses are not cut at semicolons. -/
theorem isFragment_headed (h : IsHeader ws) (hinner : Quiet inner) :
    IsFragment ';' (headed ws inner) where
  ne_nil := by simp [headed]
  trimmed := by
    rw [headed, trim_eq_self_iff, List.head?_append_of_ne_nil _ h.unwords_ne_nil]
    refine ⟨h.tidy_unwords.head, ?_⟩
    have hclose : isBlank ')' = false := by decide
    rw [← List.cons_append, ← List.cons_append, ← List.append_assoc, List.getLast?_concat]
    simp [hclose]
  nested := (h.quiet_headed hinner).nested
  uncut := by
    have hheader : Quiet (unwords ws ++ [' ']) := .of_neutral h.neutral
    rw [headed_eq, hasOutside_append, hasOutside_of_not_mem h.semicolon_not_mem,
      hheader.nested.foldl_depthAfter, hinner.nested.hasOutside_enclosed (by decide)]
    rfl

/-- A header and a tidy text in parentheses are tidy. -/
theorem tidy_headed (h : IsHeader ws) (hinner : Tidy inner) : Tidy (headed ws inner) := by
  have hopen : Tidy ['('] := .of_isWord (by decide)
  have hclose : Tidy [')'] := .of_isWord (by decide)
  exact h.tidy_unwords.append_space (hopen.append (hinner.append hclose)) h.unwords_ne_nil (by simp)

end IsHeader

/-- A name can stand in a header. -/
theorem IsName.header {name : List Char} (h : IsName name) :
    IsWord name ∧ name.all isNeutral = true ∧ ';' ∉ name := by
  have hsemicolon : Statement.isNameChar ';' = false := by decide
  exact ⟨h.isWord, h.neutral, fun hmem => absurd (h.2 ';' hmem) (by simp [hsemicolon])⟩

/-- The words before the values of an enumeration are a header. -/
theorem isHeader_enumerationWords {name : List Char} (h : IsName name) :
    IsHeader (enumerationWords name) := by
  refine ⟨by simp [enumerationWords], ?_⟩
  simp only [enumerationWords, List.forall_mem_cons, List.not_mem_nil, false_imp_iff, implies_true,
    and_true]
  exact ⟨by decide, by decide, h.header, by decide, by decide⟩

/-- The words before the columns of a table are a header. -/
theorem isHeader_tableWords {name : List Char} (h : IsName name) : IsHeader (tableWords name) := by
  refine ⟨by simp [tableWords], ?_⟩
  simp only [tableWords, List.forall_mem_cons, List.not_mem_nil, false_imp_iff, implies_true,
    and_true]
  exact ⟨by decide, by decide, h.header⟩

/-! ## Enumerations -/

/-- The characters of the values of an enumeration. -/
def valueList (values : List String) : List Char :=
  joinWith [',', ' '] ((values.map String.toList).map literal)

/-- The statement that creates an enumeration is its header, its values and a semicolon. -/
theorem toList_sql_createEnum (name : String) (values : List String) :
    (Step.createEnum name values).sql.toList =
      terminated (headed (enumerationWords name.toList) (valueList values)) := by
  show ("CREATE TYPE " ++ name ++ " AS ENUM (" ++ Step.commaList (values.map quote) ++ ");").toList
    = _
  simp only [String.toList_append, toList_commaList_quote]
  simp [terminated, headed, enumerationWords, unwords, valueList]

/-- **An enumeration with plain values declares itself.** -/
theorem declares_enumeration {name : String} (hname : IsName name.toList) {values : List String}
    (hvalues : values ≠ [])
    (hplain : ∀ value ∈ values, value.toList ≠ [] ∧ PlainText value.toList) :
    Declares (headed (enumerationWords name.toList) (valueList values))
      (.createType name (.enumeration values)) := by
  have hheader := isHeader_enumerationWords hname
  have hquiet : Quiet (valueList values) := by
    refine .joined (by decide) (by simp) fun piece hpiece => ?_
    obtain ⟨value, hvalue, rfl⟩ := List.mem_map.mp (List.map_map ▸ hpiece)
    exact (hplain value hvalue).2.toQuiet.literal
  have htidy : Tidy (valueList values) := by
    refine .joined fun piece hpiece => ?_
    obtain ⟨value, hvalue, rfl⟩ := List.mem_map.mp (List.map_map ▸ hpiece)
    have hvalue := (hplain value hvalue).2
    exact ⟨literal_ne_nil _, tidy_literal hvalue.spaces hvalue.single⟩
  have hne : ∀ value ∈ values.map String.toList, value ≠ [] := by
    simpa using fun value hvalue => (hplain value hvalue).1
  refine ⟨hheader.quiet_headed hquiet, hheader.isFragment_headed hquiet, ?_⟩
  rw [(hheader.tidy_headed htidy).collapse, valueList,
    Statement.ofText_enumeration hname (by simpa using hvalues) hne]
  simp

/-! ## Tables -/

/-- The characters between the parentheses of a table, a line for each clause. -/
def clauseLines (clauses : List (List Char)) : List Char :=
  '\n' :: (joinWith [',', '\n'] (clauses.map fun clause => ' ' :: ' ' :: clause) ++ ['\n'])

/-- The statement that creates a table is its header, its columns and a semicolon. -/
theorem toList_sql_createTable (name : String) (columns : List Column) :
    (Step.createTable name columns).sql.toList =
      terminated (headed (tableWords name.toList)
        (clauseLines (columns.map fun column => column.definition.toList))) := by
  have hclauses : (columns.map fun column => "  " ++ column.definition).map String.toList =
      (columns.map fun column => column.definition.toList).map fun clause =>
        ' ' :: ' ' :: clause := by
    simp
  show ("CREATE TABLE " ++ name ++ " (\n" ++ String.intercalate ",\n"
    (columns.map fun column => "  " ++ column.definition) ++ "\n);").toList = _
  simp only [String.toList_append, String.toList_intercalate, hclauses, ← joinWith_eq_intercalate]
  simp [terminated, headed, tableWords, unwords, clauseLines]

/-- The lines of clauses have the words of the clauses with a comma and a space between them. -/
theorem words_clauseLines (clauses : List (List Char)) :
    words (joinWith [',', '\n'] (clauses.map fun clause => ' ' :: ' ' :: clause)) =
      words (joinWith [',', ' '] clauses) := by
  induction clauses with
  | nil => rfl
  | cons clause clauses ih =>
    cases clauses with
    | nil =>
      rw [List.map_singleton, joinWith_singleton, joinWith_singleton,
        words_cons_of_blank (by decide), words_cons_of_blank (by decide)]
    | cons next rest =>
      rw [List.map_cons, words_joinWith_cons (by decide) _ (by simp),
        words_joinWith_cons (by decide) _ (by simp), ih, List.cons_append, List.cons_append,
        words_cons_of_blank (by decide), words_cons_of_blank (by decide)]

/-- Blanks inside the parentheses separate what is in them from the header. -/
theorem words_headed {c d : Char} (hc : isBlank c = true) (hd : isBlank d = true)
    (ws : List (List Char)) (inner : List Char) :
    words (headed ws (c :: (inner ++ [d]))) =
      words (unwords ws ++ [' ', '(']) ++ (words inner ++ words [')']) := by
  have htext : headed ws (c :: (inner ++ [d])) =
      (unwords ws ++ [' ', '(']) ++ c :: (inner ++ d :: [')']) := by
    simp [headed]
  rw [htext, words_append_cons_of_blank hc, words_append_cons_of_blank hd]

/-- A reader sees the clauses of a table on one line, a space behind the opening parenthesis and one
before the closing one. -/
theorem collapse_headed_clauseLines {ws clauses : List (List Char)} (hws : IsHeader ws)
    (hne : clauses ≠ []) (hclauses : ∀ clause ∈ clauses, clause ≠ [] ∧ Tidy clause) :
    collapse (headed ws (clauseLines clauses)) =
      headed ws (' ' :: (joinWith [',', ' '] clauses ++ [' '])) := by
  have hopen : Tidy ['('] := .of_isWord (by decide)
  have hclose : Tidy [')'] := .of_isWord (by decide)
  have hnil : joinWith [',', ' '] clauses ≠ [] :=
    joinWith_ne_nil _ hne fun clause hclause => (hclauses clause hclause).1
  -- on one line the text is tidy, so collapsing keeps it; both texts have the same words
  have hinner : Tidy (['('] ++ ' ' :: (joinWith [',', ' '] clauses ++ ' ' :: [')'])) :=
    hopen.append_space ((Tidy.joined hclauses).append_space hclose hnil (by simp)) (by simp)
      (by simp)
  have htidy : Tidy (headed ws (' ' :: (joinWith [',', ' '] clauses ++ [' ']))) := by
    simpa [headed] using hws.tidy_unwords.append_space hinner hws.unwords_ne_nil (by simp)
  rw [← htidy.collapse, collapse, collapse, clauseLines, words_headed (by decide) (by decide),
    words_headed (by decide) (by decide), words_clauseLines]

/-- **A table with plain columns declares itself**, with its columns as they are read back. -/
theorem declares_table {name : String} (hname : IsName name.toList) {columns : List Column}
    (hne : columns ≠ []) (hplain : ∀ column ∈ columns, column.Plain) :
    Declares (headed (tableWords name.toList)
        (clauseLines (columns.map fun column => column.definition.toList)))
      (.createTable name (columns.map Column.asRead)) := by
  have hheader := isHeader_tableWords hname
  have hclauses : ∀ clause ∈ columns.map fun column => column.definition.toList,
      IsFragment ',' clause ∧ isTableConstraint clause = false := by
    intro clause hclause
    obtain ⟨column, hcolumn, rfl⟩ := List.mem_map.mp hclause
    exact ⟨(hplain column hcolumn).isFragment_definition, (hplain column hcolumn).clause_column⟩
  have hquiet : ∀ clause ∈ columns.map fun column => column.definition.toList, Quiet clause := by
    intro clause hclause
    obtain ⟨column, hcolumn, rfl⟩ := List.mem_map.mp hclause
    exact (hplain column hcolumn).quiet_definition
  have htidy : ∀ clause ∈ columns.map fun column => column.definition.toList,
      clause ≠ [] ∧ Tidy clause := by
    intro clause hclause
    obtain ⟨column, hcolumn, rfl⟩ := List.mem_map.mp hclause
    exact ⟨(hclauses _ hclause).1.ne_nil, (hplain column hcolumn).tidy_definition⟩
  -- line breaks and indentation are neutral
  have hlines : Quiet (clauseLines (columns.map fun column => column.definition.toList)) := by
    have hspaces : [' ', ' '].all isNeutral = true := by decide
    have hbreak : ['\n'].all isNeutral = true := by decide
    refine .neutral_append hbreak (.append_neutral (.joined (by decide) (by simp) ?_) hbreak)
    intro line hline
    obtain ⟨clause, hclause, rfl⟩ := List.mem_map.mp hline
    exact .neutral_append hspaces (hquiet clause hclause)
  have hread : (columns.map fun column => column.definition.toList).mapM
      (Column.ofClause name) = .ok (columns.map Column.asRead) := by
    rw [List.mapM_map]
    exact mapM_eq_ok_map fun column hcolumn => (hplain column hcolumn).ofClause_definition name
  refine ⟨hheader.quiet_headed hlines, hheader.isFragment_headed hlines, ?_⟩
  rw [collapse_headed_clauseLines hheader (by simpa using hne) htidy,
    Statement.ofText_table hname (by simpa using hne) hclauses
      (Quiet.joined (by decide) (by simp) hquiet).nested, String.ofList_toList, hread]
  rfl

/-! ## The statements of a schema -/

/-- A function changes nothing in a list exactly when it changes none of its elements. -/
private theorem map_eq_self_iff {α : Type} (f : α → α) (xs : List α) :
    xs.map f = xs ↔ ∀ x ∈ xs, f x = x := by
  rw [← List.map_inj_left, List.map_id']

namespace Schema

variable {schema : Schema}

/-- The **statements** that declare a schema: its types and then its tables. -/
def statements (schema : Schema) : List Statement :=
  (schema.types.entries.map fun entry => .createType entry.1 entry.2) ++
    schema.tables.entries.map fun entry => .createTable entry.1 entry.2

/-- Declaring the statements of a schema gives the schema. -/
theorem foldl_declare_statements (schema : Schema) :
    schema.statements.foldl declare .empty = schema := by
  -- types and tables go into catalogs of their own
  have htypes : ∀ (entries : List (String × TypeDefinition)) (start : Schema),
      (entries.map fun entry => Statement.createType entry.1 entry.2).foldl declare start =
        ⟨entries.foldl (fun catalog entry => catalog.insert entry.1 entry.2) start.types,
          start.tables⟩ := by
    intro entries
    induction entries with
    | nil => exact fun _ => rfl
    | cons entry rest ih => exact fun start => ih (start.addType entry.1 entry.2)
  have htables : ∀ (entries : List (String × List Column)) (start : Schema),
      (entries.map fun entry => Statement.createTable entry.1 entry.2).foldl declare start =
        ⟨start.types,
          entries.foldl (fun catalog entry => catalog.insert entry.1 entry.2) start.tables⟩ := by
    intro entries
    induction entries with
    | nil => exact fun _ => rfl
    | cons entry rest ih => exact fun start => ih (start.addTable entry.1 entry.2)
  rw [statements, List.foldl_append, htypes, htables]
  show Schema.mk (schema.types.entries.foldl _ .empty) (schema.tables.entries.foldl _ .empty) = _
  rw [Catalog.foldl_insert_entries, Catalog.foldl_insert_entries]

/-- The schema as it is **read back** from its text. -/
def asRead (schema : Schema) : Schema :=
  ⟨schema.types, schema.tables.mapValues (List.map Column.asRead)⟩

/-- A schema is read back as it is exactly when no column has a default and a ban on null. -/
theorem asRead_eq_self_iff (schema : Schema) :
    schema.asRead = schema ↔ ∀ table ∈ schema.tables.entries, ∀ column ∈ table.2,
      ¬(column.defaultValue.isSome = true ∧ column.notNull = true) := by
  have htables : schema.asRead = schema ↔
      schema.tables.entries.map (fun table => (table.1, table.2.map Column.asRead)) =
        schema.tables.entries :=
    ⟨fun h => congrArg (fun read => read.tables.entries) h,
      fun h => congrArg (Schema.mk schema.types) (Catalog.ext_entries h)⟩
  rw [htables]
  simp only [map_eq_self_iff, Prod.ext_iff, true_and, Column.asRead_eq_self_iff]

end Schema

/-! ## The plan from nothing -/

/-- The steps that declare a schema where there is none. -/
def creationSteps (schema : Schema) : List Step :=
  schema.types.entries.filterMap createType? ++
    schema.tables.entries.map fun table => .createTable table.1 table.2

/-- Where there is no schema, a plan creates everything. -/
theorem plan_empty (options : MatchOptions) (schema : Schema) :
    plan options .empty schema = .ok (creationSteps schema) := by
  have hmatching : Matching.ofSchemas options .empty schema = ⟨[], []⟩ := rfl
  have hformer : ∀ table, formerColumns? ⟨[], []⟩ .empty table = none := fun _ => rfl
  -- nothing is there to be changed, renamed or dropped
  have htypes : ∀ types, typeChanges Schema.empty.types types = [] := by
    intro types
    induction types with
    | nil => rfl
    | cons entry rest ih => exact ih
  rw [plan_eq_ok_iff, hmatching]
  refine ⟨fun table _ former h => absurd h (by simp [hformer]), ?_⟩
  have hkept : schema.tables.entries.flatMap (keptSteps ⟨[], []⟩ .empty) = [] :=
    List.flatMap_eq_nil_iff.mpr fun table _ => by rw [keptSteps, hformer]
  have hcreations : typeCreations .empty schema = schema.types.entries.filterMap createType? := by
    have hadded : addedTypes .empty schema = schema.types.entries :=
      List.filter_eq_self.mpr fun _ _ => rfl
    rw [typeCreations, hadded]
  have htables : tableCreations ⟨[], []⟩ .empty schema =
      schema.tables.entries.map fun table => .createTable table.1 table.2 := by
    have hall : schema.tables.entries.filter (fun table =>
        (formerColumns? ⟨[], []⟩ .empty table.1).isNone) = schema.tables.entries :=
      List.filter_eq_self.mpr fun table _ => by rw [hformer, Option.isNone_none]
    have hcreation : tableCreation ⟨[], []⟩ .empty =
        fun table => [.createTable table.1 table.2] := rfl
    rw [tableCreations, hall, hcreation, List.map_eq_flatMap]
  have hrenames : renameSteps ⟨[], []⟩ = [] := rfl
  have hdrops : tableDrops ⟨[], []⟩ .empty schema = [] := rfl
  rw [planSteps, htypes, hrenames, hkept, hcreations, htables, hdrops, creationSteps,
    List.append_nil, List.nil_append, List.nil_append, List.nil_append]

/-! ## The text of a plan -/

/-- The text of a step that declares something, without its semicolon, and the statement that it is
read as. -/
def Step.declaration : Step → List Char × Statement
  | .createEnum name values =>
    (headed (enumerationWords name.toList) (valueList values),
      .createType name (.enumeration values))
  | .createTable name columns =>
    (headed (tableWords name.toList)
        (clauseLines (columns.map fun column => column.definition.toList)),
      .createTable name (columns.map Column.asRead))
  | _ => ([], .other)

/-- The steps that create a plain schema declare what they are read as. -/
theorem Schema.Plain.declares_declaration {schema : Schema} (h : schema.Plain) {step : Step}
    (hstep : step ∈ creationSteps schema) :
    step.sql.toList = terminated step.declaration.1 ∧
      Declares step.declaration.1 step.declaration.2 := by
  rcases List.mem_append.mp hstep with htype | htable
  · obtain ⟨⟨name, definition⟩, hentry, hcreate⟩ := List.mem_filterMap.mp htype
    obtain ⟨hname, hplain⟩ := h.types _ hentry
    cases definition with
    | composite text => exact absurd hplain id
    | enumeration values =>
      obtain rfl := Option.some.inj hcreate
      exact ⟨toList_sql_createEnum name values, declares_enumeration hname hplain.1 hplain.2⟩
  · obtain ⟨⟨name, columns⟩, hentry, rfl⟩ := List.mem_map.mp htable
    obtain ⟨hname, hne, hplain⟩ := h.tables _ hentry
    exact ⟨toList_sql_createTable name columns, declares_table hname hne hplain⟩

/-- The steps that create a plain schema are read as the statements of the schema as it is read
back. -/
theorem Schema.Plain.map_declaration {schema : Schema} (h : schema.Plain) :
    (creationSteps schema).map (fun step => step.declaration.2) = schema.asRead.statements := by
  have htypes : ∀ entries : List (String × TypeDefinition), (∀ entry ∈ entries, entry.2.Plain) →
      (entries.filterMap createType?).map (fun step => step.declaration.2) =
        entries.map fun entry => .createType entry.1 entry.2 := by
    -- a plain schema has no composite type, so every entry is created
    intro entries hplain
    induction entries with
    | nil => rfl
    | cons entry rest ih =>
      obtain ⟨name, definition⟩ := entry
      rw [List.forall_mem_cons] at hplain
      cases definition with
      | composite text => exact absurd hplain.1 id
      | enumeration values => exact congrArg (_ :: ·) (ih hplain.2)
  rw [creationSteps, List.map_append, htypes _ fun entry hentry => (h.types entry hentry).2,
    List.map_map]
  simp [statements, asRead, Catalog.mapValues, Function.comp_def, Step.declaration]

/-- **Writing a plain schema and reading it back** always succeeds. What is read is the schema
itself, up to the bans on null that stand behind a default, so it is the same schema exactly when no
column has a default and a ban on null. -/
theorem ofText_plan_empty (options : MatchOptions) (schema : Schema) (hplain : schema.Plain) :
    ∃ steps, plan options .empty schema = .ok steps ∧
      Schema.ofText (String.intercalate "\n" (steps.map Step.sql)) = .ok schema.asRead ∧
      (Schema.ofText (String.intercalate "\n" (steps.map Step.sql)) = .ok schema ↔
        ∀ table ∈ schema.tables.entries, ∀ column ∈ table.2,
          ¬(column.defaultValue.isSome = true ∧ column.notNull = true)) := by
  have htext : (String.intercalate "\n" ((creationSteps schema).map Step.sql)).toList =
      joinWith ['\n'] (((creationSteps schema).map Step.declaration).map
        fun item => terminated item.1) := by
    rw [String.toList_intercalate, ← joinWith_eq_intercalate, List.map_map, List.map_map]
    exact congrArg (joinWith ['\n']) (List.map_congr_left fun step hstep =>
      (hplain.declares_declaration hstep).1)
  -- the text of the plan is a sequence of statements that are read one by one
  have hdeclares : ∀ item ∈ (creationSteps schema).map Step.declaration,
      Declares item.1 item.2 := by
    intro item hitem
    obtain ⟨step, hstep, rfl⟩ := List.mem_map.mp hitem
    exact (hplain.declares_declaration hstep).2
  have hread : Schema.ofText (String.intercalate "\n" ((creationSteps schema).map Step.sql)) =
      .ok schema.asRead := by
    have hstatements : ((creationSteps schema).map Step.declaration).map Prod.snd =
        schema.asRead.statements := by
      rw [List.map_map]
      exact hplain.map_declaration
    rw [ofText_terminated hdeclares htext, hstatements, Schema.foldl_declare_statements]
  refine ⟨creationSteps schema, plan_empty options schema, hread, ?_⟩
  rw [hread, Except.ok.injEq, Schema.asRead_eq_self_iff]

/-- A plain schema: a value with quotes, a comma and a space at its end, a table named `if`, a name
with a dollar sign, a comma inside parentheses, keywords in a default, and a column with a default
and a ban on null. -/
def Sample.declared : Schema where
  types := .ofList [("app.mood", .enumeration ["ok", "it's (so, so) "])]
  tables := .ofList
    [("if", [⟨"id", "SERIAL PRIMARY KEY", false, none⟩, ⟨"mood", "app.mood", true, none⟩]),
    ("prices$eu", [⟨"price", "NUMERIC(10, 2)", true, some "round(0.5, 1)"⟩,
      ⟨"since", "timestamp with time zone", false, some "now() check null"⟩])]

/-- The sample is plain, and it is read back with another default. -/
theorem sample_declared_read_back :
    Sample.declared.Plain ∧ Sample.declared.asRead ≠ Sample.declared ∧
      ∃ steps, plan .standard .empty Sample.declared = .ok steps ∧
        Schema.ofText (String.intercalate "\n" (steps.map Step.sql)) = .ok Sample.declared.asRead ∧
        (Schema.ofText (String.intercalate "\n" (steps.map Step.sql)) = .ok Sample.declared ↔
          ∀ table ∈ Sample.declared.tables.entries, ∀ column ∈ table.2,
            ¬(column.defaultValue.isSome = true ∧ column.notNull = true)) :=
  ⟨by decide +kernel, by decide +kernel,
    ofText_plan_empty .standard Sample.declared (by decide +kernel)⟩

end SchemaEvolution
