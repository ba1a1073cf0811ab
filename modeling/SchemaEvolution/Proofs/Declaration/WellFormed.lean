import SchemaEvolution.Proofs.Declaration.Plain
import SchemaEvolution.Proofs.Declaration.Texts
import SchemaEvolution.Proofs.Result

/-! # Schemas that are read are well formed
Whatever a text holds, a schema that is read from it is **well formed**: its names are names, its
enumerations list values, its composite types stand in parentheses, its tables have columns, and its
columns have a type that is free of qualifiers. What is shown of a statement holds of a schema
because each statement adds one entry. All texts of the schema are **regular**, which is a
hereditary property of the statements that they are read from. -/

namespace SchemaEvolution

/-! ## Regular texts -/

/-- A text is **regular** when it has no name delimiters and its blanks are single spaces. -/
structure RegularText (cs : List Char) : Prop where
  /-- The text has no double quote and no backtick. -/
  undelimited : ∀ c ∈ cs, isNameDelimiter c = false
  /-- Every blank is a space. -/
  spaces : ∀ c ∈ cs, isBlank c = true → c = ' '
  /-- No two spaces are neighbours. -/
  single : Apart isBlank cs

/-- Reading a regular text gives regular texts. -/
theorem hereditary_regularText : Hereditary RegularText where
  infix_of hpart h :=
    ⟨fun c hc => h.undelimited c (hpart.subset hc), fun c hc => h.spaces c (hpart.subset hc),
      h.single.of_infix hpart⟩
  halve h :=
    ⟨fun c hc => h.undelimited c (mem_of_mem_halveQuotes hc),
      fun c hc => h.spaces c (mem_of_mem_halveQuotes hc), h.single.halveQuotes (by decide)⟩
  join {ws} hws := by
    have htidy : Tidy (unwords ws) := tidy_unwords fun w hw => (hws w hw).1
    refine ⟨fun c hc => ?_, htidy.spaces, htidy.apart⟩
    rcases mem_unwords hc with rfl | ⟨w, hw, hmem⟩
    · decide
    · exact (hws w hw).2.undelimited c hmem

/-- A cleaned text has no name delimiters. -/
theorem isNameDelimiter_of_mem_clean {cs : List Char} {c : Char} (h : c ∈ clean cs) :
    isNameDelimiter c = false := by
  have hkept := (infix_trim _).subset h
  simpa using (List.mem_filter.mp hkept).2

/-- The statements of a cleaned text are regular. -/
theorem regularText_of_mem_statementTexts {cs statement : List Char}
    (h : statement ∈ statementTexts (clean cs)) : RegularText statement := by
  obtain ⟨piece, hpiece, rfl⟩ := List.mem_map.mp h
  have htidy := tidy_collapse piece
  refine ⟨fun c hc => ?_, htidy.spaces, htidy.apart⟩
  rcases mem_unwords hc with rfl | ⟨w, hw, hmem⟩
  · decide
  · exact isNameDelimiter_of_mem_clean
      ((infix_of_mem_splitOutside hpiece).subset ((infix_of_mem_words hw).subset hmem))

/-- Whatever a text holds, the schema that is read from it, or the cause for which it is refused,
has regular texts only. -/
theorem handsOn_regularText (text : String) :
    HandsOn RegularText Schema.texts (Schema.ofText text) :=
  hereditary_regularText.handsOn_schema fun _ => regularText_of_mem_statementTexts

/-! ## Well-formed declarations -/

/-- A column is **well formed** when its name is a word, it has a type without qualifiers, and its
default, if there is one, is not empty. -/
structure Column.WellFormed (column : Column) : Prop where
  /-- The name is not empty and has no blank. -/
  name_word : IsWord column.name.toList
  /-- The type is not empty. -/
  type_ne_empty : column.dataType ≠ ""
  /-- No word of the type is a qualifier. -/
  type_unqualified : ∀ word ∈ words column.dataType.toList, isQualifierWord word = false
  /-- A default is not empty. -/
  default_ne_empty : column.defaultValue ≠ some ""

/-- A type is **well formed** when it is an enumeration of at least one value, none of them empty,
or a composite type whose definition stands in parentheses. -/
def TypeDefinition.WellFormed : TypeDefinition → Prop
  | .enumeration values => values ≠ [] ∧ "" ∉ values
  | .composite definition =>
    definition.toList.head? = some '(' ∧ definition.toList.getLast? = some ')'

/-- A statement is **well formed** when what it declares is. -/
def Statement.WellFormed : Statement → Prop
  | .createType name definition => IsName name.toList ∧ definition.WellFormed
  | .createTable name columns =>
    IsName name.toList ∧ columns ≠ [] ∧ ∀ column ∈ columns, column.WellFormed
  | .other => True

/-! ## Reading declarations -/

/-- Words that are joined are no empty text. -/
theorem wordText_ne_empty {ws : List (List Char)} (hne : ws ≠ []) (hws : ∀ w ∈ ws, IsWord w) :
    wordText ws ≠ "" := by
  intro h
  refine joinWith_ne_nil [' '] hne (fun w hw => (hws w hw).1) ?_
  rw [← String.toList_eq_nil_iff, wordText, String.toList_ofList] at h
  exact h

/-- **A column clause declares a well-formed column**, or is refused. -/
theorem Column.wellFormed_of_ofClause {table : String} {clause : List Char} {column : Column}
    (h : ofClause table clause = .ok column) : column.WellFormed := by
  have hwords : ∀ w ∈ words clause, IsWord w := fun w => isWord_of_mem_words
  unfold ofClause at h
  split at h
  · next name next rest hclause =>
    rw [hclause, List.forall_mem_cons] at hwords
    dsimp only at h
    split at h
    · cases h
    · next htype =>
      split at h
      · cases h
      · next notNull defaultWords hdefault hqualifiers =>
        obtain rfl := Except.ok.inj h
        have htypeWords : ∀ w ∈ (next :: rest).takeWhile fun word => !isQualifierWord word,
            IsWord w := fun w hw => hwords.2 w ((List.takeWhile_prefix _).subset hw)
        refine ⟨?_, wordText_ne_empty (by simpa using htype) htypeWords, ?_, ?_⟩
        · rw [String.toList_ofList]
          exact hwords.1
        · rw [wordText, String.toList_ofList, words_unwords htypeWords]
          intro w hw
          simpa using List.all_eq_true.mp List.all_takeWhile w hw
        · -- the words of the default are words of the clause, and there is one
          rw [Ne, Option.map_eq_some_iff]
          rintro ⟨ds, rfl, hempty⟩
          have hsuffix := Qualifiers.suffix_of_defaultWords
            (congrArg Qualifiers.defaultWords hqualifiers)
          have hds : ∀ w ∈ ds, IsWord w := fun w hw =>
            hwords.2 w ((List.dropWhile_suffix _).subset (hsuffix.subset hw))
          refine wordText_ne_empty ?_ hds hempty
          rintro rfl
          exact hdefault rfl
  · cases h

namespace Statement

/-- What is read as a name is a name. -/
theorem isName_of_name? {cs name rest : List Char} (h : name? cs = some (name, rest)) :
    IsName name := by
  rw [name?, Option.ite_none_left_eq_some, Option.some.injEq, Prod.mk.injEq] at h
  obtain ⟨hne, rfl, -⟩ := h
  exact ⟨by simpa using hne, List.all_eq_true.mp List.all_takeWhile⟩

/-- The header of a type has a name. -/
theorem isName_of_typeHeader? {statement name rest : List Char}
    (h : typeHeader? statement = some (name, rest)) : IsName name := by
  simp only [typeHeader?, Option.bind_eq_bind, Option.bind_eq_some_iff, Option.pure_def,
    Option.some.injEq, Prod.mk.injEq, Prod.exists] at h
  obtain ⟨front, -, behind, -, found, tail, hname, gap, -, after, -, rfl, -⟩ := h
  exact isName_of_name? hname

/-- The header of a table has a name. -/
theorem isName_of_tableHeader? {statement name rest : List Char}
    (h : tableHeader? statement = some (name, rest)) : IsName name := by
  simp only [tableHeader?, Option.bind_eq_bind, Option.bind_eq_some_iff, Option.pure_def,
    Option.some.injEq, Prod.mk.injEq, Prod.exists] at h
  obtain ⟨front, -, behind, -, found, tail, hname, after, -, rfl, -⟩ := h
  exact isName_of_name? hname

/-- The declaration of a type is well formed. -/
theorem wellFormed_of_ofTypeText {statement : List Char} {declared : Statement}
    (h : ofTypeText statement = .ok declared) : declared.WellFormed := by
  unfold ofTypeText at h
  split at h
  · cases h
  · next name rest hheader =>
    have hname : IsName (String.ofList name).toList := by
      rw [String.toList_ofList]
      exact isName_of_typeHeader? hheader
    split at h
    · split at h
      · cases h
      · next items _ =>
        split at h
        · cases h
        · next values hvalues =>
          obtain rfl := Except.ok.inj h
          refine ⟨hname, hvalues, fun hempty => ?_⟩
          -- empty values are dropped
          obtain ⟨value, hvalue, heq⟩ := List.mem_map.mp hempty
          have hkept := (List.mem_filter.mp hvalue).2
          rw [← String.toList_eq_nil_iff, String.toList_ofList] at heq
          simp [heq] at hkept
    · dsimp only at h
      split at h
      · next hparens =>
        obtain rfl := Except.ok.inj h
        refine ⟨hname, ?_⟩
        rw [TypeDefinition.WellFormed, String.toList_ofList]
        exact hparens
      · cases h

/-- What stands between the parentheses of a table declares columns, or is refused. -/
theorem wellFormed_of_columnsOf {table : String} {body : List Char} {columns : List Column}
    (h : columnsOf table body = .ok columns) :
    columns ≠ [] ∧ ∀ column ∈ columns, column.WellFormed := by
  unfold columnsOf at h
  split at h
  · cases h
  · split at h
    · cases h
    · next clauses hne =>
      -- each clause that is left declares a column
      have hlength := length_of_mapM_eq_ok h
      refine ⟨?_, fun column hcolumn => ?_⟩
      · rintro rfl
        exact hne (List.length_eq_zero_iff.mp hlength.symm)
      · obtain ⟨clause, -, hclause⟩ := exists_of_mem_of_mapM_eq_ok h hcolumn
        exact Column.wellFormed_of_ofClause hclause

/-- The declaration of a table is well formed. -/
theorem wellFormed_of_ofTableText {statement : List Char} {declared : Statement}
    (h : ofTableText statement = .ok declared) : declared.WellFormed := by
  unfold ofTableText at h
  split at h
  · cases h
  · next name rest hheader =>
    split at h
    · cases h
    · next body _ =>
      dsimp only at h
      cases hcolumns : columnsOf (String.ofList name) body with
      | error cause =>
        rw [hcolumns] at h
        cases h
      | ok columns =>
        rw [hcolumns] at h
        obtain rfl := Except.ok.inj h
        refine ⟨?_, wellFormed_of_columnsOf hcolumns⟩
        rw [String.toList_ofList]
        exact isName_of_tableHeader? hheader

/-- **A statement that is read is well formed.** -/
theorem wellFormed_of_ofText {statement : List Char} {declared : Statement}
    (h : ofText statement = .ok declared) : declared.WellFormed := by
  unfold ofText at h
  split at h
  · exact wellFormed_of_ofTypeText h
  · split at h
    · exact wellFormed_of_ofTableText h
    · obtain rfl := Except.ok.inj h
      trivial

end Statement

/-! ## Reading schemas -/

namespace Schema

/-- The entries of a schema are **well formed** when its types and tables have names and are well
formed. -/
structure EntriesWellFormed (schema : Schema) : Prop where
  /-- The types have names and are well formed. -/
  types : ∀ entry ∈ schema.types.entries, IsName entry.1.toList ∧ entry.2.WellFormed
  /-- The tables have names and columns, all of them well formed. -/
  tables : ∀ entry ∈ schema.tables.entries,
    IsName entry.1.toList ∧ entry.2 ≠ [] ∧ ∀ column ∈ entry.2, column.WellFormed

/-- A schema is **well formed** when its entries are and all its texts are regular. -/
structure WellFormed (schema : Schema) : Prop extends EntriesWellFormed schema where
  /-- All texts are regular. -/
  texts : ∀ text ∈ schema.texts, RegularText text

/-- A well-formed statement keeps entries well formed. -/
theorem EntriesWellFormed.declare {schema : Schema} (h : schema.EntriesWellFormed)
    {statement : Statement} (hstatement : statement.WellFormed) :
    (schema.declare statement).EntriesWellFormed := by
  cases statement with
  | createType name definition =>
    refine ⟨fun entry hentry => ?_, h.tables⟩
    rcases Catalog.mem_insert hentry with rfl | hold
    · exact hstatement
    · exact h.types entry hold
  | createTable name columns =>
    refine ⟨h.types, fun entry hentry => ?_⟩
    rcases Catalog.mem_insert hentry with rfl | hold
    · exact hstatement
    · exact h.tables entry hold
  | other => exact h

/-- Statements that are taken one after the other keep entries well formed. -/
theorem EntriesWellFormed.declareAll {statements : List (List Char)} {schema final : Schema}
    (hschema : schema.EntriesWellFormed) (h : schema.declareAll statements = .ok final) :
    final.EntriesWellFormed := by
  induction statements generalizing schema with
  | nil => exact Except.ok.inj h ▸ hschema
  | cons statement rest ih =>
    rw [Schema.declareAll, List.foldlM_cons, bind_eq_ok_iff] at h
    obtain ⟨next, hnext, hrest⟩ := h
    refine ih ?_ hrest
    cases hstatement : Statement.ofText statement with
    | error cause =>
      rw [hstatement] at hnext
      cases hnext
    | ok declared =>
      rw [hstatement] at hnext
      obtain rfl := Except.ok.inj hnext
      exact hschema.declare (Statement.wellFormed_of_ofText hstatement)

/-- The entries of a schema that is read are well formed. -/
theorem entriesWellFormed_of_ofText {text : String} {schema : Schema}
    (h : ofText text = .ok schema) : schema.EntriesWellFormed := by
  obtain ⟨cleaned, -, hread⟩ := (bind_eq_ok_iff _ _ schema).mp h
  refine EntriesWellFormed.declareAll ⟨?_, ?_⟩ hread <;>
    · intro entry hentry
      cases hentry

end Schema

/-- **Every schema that is read is well formed.** -/
theorem read_schema_wellFormed (text : String) (schema : Schema)
    (h : Schema.ofText text = .ok schema) : schema.WellFormed where
  toEntriesWellFormed := Schema.entriesWellFormed_of_ofText h
  texts := (handsOn_regularText text).of_eq_ok h

namespace Sample

/-- A text with blanks of many kinds, with name delimiters in and around names, with an empty value
and a comment, with a dollar sign in a name, and with types that end at a check and at a null. -/
def unruly : String :=
  "CREATE\tTYPE \x60mood\x60 AS  ENUM (' it''s  ', '', sad) ; -- (\n" ++
    "create\u3000TYPE pair AS (\u00a0x int);CREATE TABLE t$ (\x22id\x22 INT\r\nPRIMARY\x0bKEY " ++
    "check\u2028NOT  NULL DEFAULT next( ), at DATE null, UNIQUE (id))"

/-- The schema of that text. -/
def ruled : Schema where
  types := .ofList [("mood", .enumeration [" it's ", "sad"]), ("pair", .composite "( x int)")]
  tables := .ofList
    [("t$", [⟨"id", "INT PRIMARY KEY", true, some "next( )"⟩, ⟨"at", "DATE", false, none⟩])]

end Sample

/-- The sample text is read, so its schema is well formed. -/
theorem sample_ruled_wellFormed :
    Schema.ofText Sample.unruly = .ok Sample.ruled ∧ Sample.ruled.WellFormed := by
  have hread : Schema.ofText Sample.unruly = .ok Sample.ruled := by decide +kernel
  exact ⟨hread, read_schema_wellFormed Sample.unruly Sample.ruled hread⟩

end SchemaEvolution
