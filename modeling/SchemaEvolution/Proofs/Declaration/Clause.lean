import SchemaEvolution.Proofs.Declaration.Plain

/-! # Reading column clauses back
The clause of a plain column is its words one space apart: the name, the words of the type, the
default and the ban on null. A reader finds these words again, but a default takes all words after
it. A column with a default and a ban on null is therefore read back with the ban as a part of its
default; every other column is read back as it is. -/

namespace SchemaEvolution

/-! ## Reading words -/

/-- The column of a clause that is cut into its name, its type and its qualifiers. -/
def Column.ofParts (table : String) (name : List Char) (typeWords : List (List Char)) :
    Qualifiers → Except ReadError Column
  | ⟨_, some []⟩ => .error (.missingDefault table (String.ofList name))
  | ⟨notNull, defaultWords⟩ =>
    .ok ⟨String.ofList name, wordText typeWords, notNull, defaultWords.map wordText⟩

/-- What a reader makes of a clause with a type and qualifiers behind it. -/
theorem Column.ofClause_eq (table : String) {clause name : List Char}
    {typeWords qualifierWords : List (List Char)}
    (hwords : words clause = name :: (typeWords ++ qualifierWords)) (htype : typeWords ≠ [])
    (hunqualified : ∀ word ∈ typeWords, isQualifierWord word = false)
    (hqualifier : ∀ word ∈ qualifierWords.head?, isQualifierWord word = true) :
    Column.ofClause table clause =
      Column.ofParts table name typeWords (Qualifiers.ofWords qualifierWords) := by
  have hpass : ∀ word ∈ typeWords, (!isQualifierWord word) = true := by simpa using hunqualified
  have hstop : ∀ word ∈ qualifierWords.head?, (!isQualifierWord word) = false := by
    simpa using hqualifier
  have htaken := takeWhile_append_eq_left hpass hstop
  have hleft := dropWhile_append_eq_right hpass hstop
  obtain ⟨next, rest, rfl⟩ := List.exists_cons_of_ne_nil htype
  rw [List.cons_append] at hwords htaken hleft
  rw [Column.ofClause, hwords]
  simp only [htaken, hleft, List.isEmpty_cons, Bool.false_eq_true, if_false]
  rfl

/-- The text of the words of a collapsed text is that text. -/
theorem wordText_words {text : String} (h : collapse text.toList = text.toList) :
    wordText (words text.toList) = text := by
  rw [wordText, ← collapse, h, String.ofList_toList]

namespace Column

variable {column : Column}

/-! ## The parts of a clause -/

/-- The words that state the default. -/
def defaultClause (column : Column) : List (List Char) :=
  match column.defaultValue with
  | some value => "DEFAULT".toList :: words value.toList
  | none => []

/-- The words that ban null. -/
def nullClause (column : Column) : List (List Char) :=
  if column.notNull then ["NOT".toList, "NULL".toList] else []

/-- The words of the clause that declares a column. -/
def clauseWords (column : Column) : List (List Char) :=
  column.name.toList :: words column.dataType.toList ++ column.defaultClause ++ column.nullClause

/-- The characters that state the default. -/
def defaultText (column : Column) : List Char :=
  match column.defaultValue with
  | some value => " DEFAULT ".toList ++ value.toList
  | none => []

/-- The characters that ban null. -/
def nullText (column : Column) : List Char := if column.notNull then " NOT NULL".toList else []

/-- The clause of a column is its name, its type, its default and its ban on null. -/
theorem toList_definition (column : Column) :
    column.definition.toList =
      column.name.toList ++ ' ' :: column.dataType.toList ++ column.defaultText ++
        column.nullText := by
  unfold definition defaultText nullText
  cases column.defaultValue <;> cases column.notNull <;> simp

/-- A default is stated in words behind other words. -/
theorem Plain.unwords_append_defaultClause (h : column.Plain) {ws : List (List Char)}
    (hws : ws ≠ []) : unwords (ws ++ column.defaultClause) = unwords ws ++ column.defaultText := by
  unfold defaultClause defaultText
  cases hdefault : column.defaultValue with
  | none => rw [List.append_nil, List.append_nil]
  | some value =>
    have hphrase := h.default_phrase value hdefault
    have hvalue : unwords (words value.toList) = value.toList := hphrase.collapsed
    have hkeyword : " DEFAULT ".toList = ' ' :: ("DEFAULT".toList ++ [' ']) := by decide
    simp only [unwords_append hws (List.cons_ne_nil _ _), unwords_cons _ hphrase.words_ne_nil,
      hvalue, hkeyword, List.cons_append, List.append_assoc, List.nil_append]

/-- The ban on null is stated in words behind other words. -/
theorem unwords_append_nullClause (column : Column) {ws : List (List Char)} (hws : ws ≠ []) :
    unwords (ws ++ column.nullClause) = unwords ws ++ column.nullText := by
  unfold nullClause nullText
  cases column.notNull with
  | false => simp
  | true =>
    have hban : ' ' :: unwords ["NOT".toList, "NULL".toList] = " NOT NULL".toList := by decide
    rw [if_pos rfl, if_pos rfl, unwords_append hws (List.cons_ne_nil _ _), hban]

/-! ## The words of a clause -/

/-- **The clause of a plain column** is its words one space apart. -/
theorem Plain.definition_eq_unwords (h : column.Plain) :
    column.definition.toList = unwords column.clauseWords := by
  have htype : unwords (words column.dataType.toList) = column.dataType.toList :=
    h.type_phrase.collapsed
  rw [toList_definition, clauseWords, column.unwords_append_nullClause (by simp),
    h.unwords_append_defaultClause (List.cons_ne_nil _ _),
    unwords_cons _ h.type_phrase.words_ne_nil, htype]

/-- The words of the clause of a plain column are words. -/
theorem Plain.isWord_of_mem_clauseWords (h : column.Plain) :
    ∀ word ∈ column.clauseWords, IsWord word := by
  have hdefault : ∀ word ∈ column.defaultClause, IsWord word := by
    unfold defaultClause
    cases column.defaultValue with
    | none => simp
    | some value =>
      rw [List.forall_mem_cons]
      exact ⟨by decide, fun word => isWord_of_mem_words⟩
  have hnull : ∀ word ∈ column.nullClause, IsWord word := by
    unfold nullClause
    cases column.notNull <;> decide
  rw [clauseWords, List.forall_mem_append, List.forall_mem_append, List.forall_mem_cons]
  exact ⟨⟨⟨h.name_word, fun word => isWord_of_mem_words⟩, hdefault⟩, hnull⟩

/-- A reader finds the words of a clause again. -/
theorem Plain.words_definition (h : column.Plain) :
    words column.definition.toList = column.clauseWords := by
  rw [h.definition_eq_unwords, words_unwords h.isWord_of_mem_clauseWords]

/-- The clause of a plain column is tidy. -/
theorem Plain.tidy_definition (h : column.Plain) : Tidy column.definition.toList := by
  rw [h.definition_eq_unwords]
  exact tidy_unwords h.isWord_of_mem_clauseWords

/-! ## The characters of a clause -/

/-- The clause of a plain column is quiet. -/
theorem Plain.quiet_definition (h : column.Plain) : Quiet column.definition.toList := by
  have hdefault : Quiet column.defaultText ∧
      ∀ c ∈ column.defaultText.head?, isNeutral c = true := by
    unfold defaultText
    cases hdefault : column.defaultValue with
    | none => exact ⟨.of_neutral rfl, by simp⟩
    | some value =>
      exact ⟨.neutral_append (by decide) (h.default_phrase value hdefault).toQuiet,
        by simp [isNeutral, isNameDelimiter]⟩
  have hnull : column.nullText.all isNeutral = true := by
    unfold nullText
    cases column.notNull <;> decide
  -- a space stands at each joint of the parts, so no two dashes meet there
  have hspace : [' '].all isNeutral = true := by decide
  have hname : Quiet (column.name.toList ++ ' ' :: column.dataType.toList) := by
    rw [List.append_cons]
    exact (h.name_phrase.toQuiet.append_neutral hspace).append h.type_phrase.toQuiet
      (.inl (by simp [isNeutral, isNameDelimiter]))
  rw [toList_definition]
  exact (hname.append hdefault.1 (.inr hdefault.2)).append_neutral hnull

/-- The clause of a plain column has no comma outside parentheses. -/
theorem Plain.uncut_definition (h : column.Plain) :
    hasOutside ',' 0 column.definition.toList = false := by
  have hdefault : hasOutside ',' 0 column.defaultText = false ∧ WellNested column.defaultText := by
    unfold defaultText
    cases hdefault : column.defaultValue with
    | none => exact ⟨rfl, .nil⟩
    | some value =>
      have hphrase := h.default_phrase value hdefault
      have hkeyword : WellNested " DEFAULT ".toList := by decide
      refine ⟨?_, hkeyword.append hphrase.nested⟩
      rw [hasOutside_append, hkeyword.foldl_depthAfter, hphrase.uncut, Bool.or_false]
      decide
  have hnull : hasOutside ',' 0 column.nullText = false := by
    unfold nullText
    cases column.notNull <;> decide
  have htype : hasOutside ',' 0 (' ' :: column.dataType.toList) = false := h.type_phrase.uncut
  have htypeNested : WellNested (' ' :: column.dataType.toList) :=
    h.type_phrase.nested.cons (by decide) (by decide)
  rw [toList_definition]
  -- each part is well nested, so no parenthesis is open where the next one starts
  simp only [hasOutside_append, List.foldl_append, h.name_phrase.nested.foldl_depthAfter,
    htypeNested.foldl_depthAfter, hdefault.2.foldl_depthAfter, h.name_phrase.uncut, htype,
    hdefault.1, hnull, Bool.or_false]

/-- The clause of a plain column is what cutting at commas leaves whole. -/
theorem Plain.isFragment_definition (h : column.Plain) :
    IsFragment ',' column.definition.toList where
  ne_nil := by simp [toList_definition]
  trimmed := h.tidy_definition.trim
  nested := h.quiet_definition.nested
  uncut := h.uncut_definition

/-! ## The column that is read back -/

/-- The column as it is **read back** from its clause: a default takes the ban on null that is
written behind it. -/
def asRead (column : Column) : Column :=
  match column.defaultValue with
  | none => column
  | some value =>
    { column with
      notNull := false
      defaultValue := some (if column.notNull then value ++ " NOT NULL" else value) }

/-- A column is read back as it is unless it has a default and a ban on null. -/
theorem asRead_eq_self_iff (column : Column) :
    column.asRead = column ↔ ¬(column.defaultValue.isSome = true ∧ column.notNull = true) := by
  obtain ⟨name, dataType, notNull, defaultValue⟩ := column
  cases defaultValue <;> cases notNull <;> simp [asRead]

/-- What the qualifiers of a clause say to a reader. -/
theorem Plain.ofWords_qualifiers (h : column.Plain) :
    Qualifiers.ofWords (column.defaultClause ++ column.nullClause) =
      match column.defaultValue with
      | none => ⟨column.notNull, none⟩
      | some value => ⟨false, some (words value.toList ++ column.nullClause)⟩ := by
  unfold defaultClause nullClause
  cases hdefault : column.defaultValue with
  | none => cases column.notNull <;> decide
  | some value =>
    obtain ⟨word, rest, hwords⟩ :=
      List.exists_cons_of_ne_nil (h.default_phrase value hdefault).words_ne_nil
    have hnot : isKeyword "NOT" "DEFAULT".toList = false := by decide
    have hkeyword : isKeyword "DEFAULT" "DEFAULT".toList = true := by decide
    simp only [hwords, List.cons_append, Qualifiers.ofWords, hnot, hkeyword, Bool.false_and,
      Bool.false_eq_true, if_false, if_true]

/-- **A column is read back from its clause.** -/
theorem Plain.ofClause_definition (h : column.Plain) (table : String) :
    Column.ofClause table column.definition.toList = .ok column.asRead := by
  have hwords : words column.definition.toList = column.name.toList ::
      (words column.dataType.toList ++ (column.defaultClause ++ column.nullClause)) := by
    rw [h.words_definition, clauseWords, List.cons_append, List.cons_append, List.append_assoc]
  -- the type ends where the default or the ban on null begins
  have hqualifier : ∀ word ∈ (column.defaultClause ++ column.nullClause).head?,
      isQualifierWord word = true := by
    intro word hword
    unfold defaultClause nullClause at hword
    cases hdefault : column.defaultValue with
    | some value =>
      rw [hdefault] at hword
      obtain rfl : "DEFAULT".toList = word := Option.some.inj hword
      decide
    | none =>
      cases hnull : column.notNull with
      | false => simp [hdefault, hnull] at hword
      | true =>
        rw [hdefault, hnull] at hword
        obtain rfl : "NOT".toList = word := Option.some.inj hword
        decide
  rw [ofClause_eq table hwords h.type_phrase.words_ne_nil h.type_unqualified hqualifier,
    h.ofWords_qualifiers]
  have htype := wordText_words h.type_phrase.collapsed
  cases hdefault : column.defaultValue with
  | none =>
    simp only [ofParts, asRead, hdefault, htype, String.ofList_toList, Option.map_none]
    rw [← hdefault]
  | some value =>
    -- the words of the default and those of the ban are read as one text
    have hphrase := h.default_phrase value hdefault
    obtain ⟨word, rest, hvalue⟩ := List.exists_cons_of_ne_nil hphrase.words_ne_nil
    have htext : wordText (words value.toList ++ column.nullClause) =
        if column.notNull then value ++ " NOT NULL" else value := by
      rw [wordText, column.unwords_append_nullClause hphrase.words_ne_nil, ← collapse,
        hphrase.collapsed, nullText]
      cases column.notNull <;> simp
    rw [hvalue, List.cons_append] at htext
    simp only [hvalue, List.cons_append, ofParts, asRead, hdefault, htype, htext,
      String.ofList_toList, Option.map_some]

end Column

end SchemaEvolution
