import SchemaEvolution.Declaration.Reader
import SchemaEvolution.Proofs.Catalog
import SchemaEvolution.Proofs.Text.Parts

/-! # The texts that a schema is read from
All texts in a schema that is read, and all texts in the message when it is refused, come from the
statements. `HandsOn` says that a reading hands a property of its text on to whatever it gives, and
`handsOn_ofText` that this is so for schemas and every hereditary property. -/

namespace SchemaEvolution

/-! ## The texts of what is read -/

namespace Column

/-- The texts of a column: its name, its type and its default. -/
def texts (column : Column) : List (List Char) :=
  column.name.toList :: column.dataType.toList :: (column.defaultValue.map String.toList).toList

end Column

/-- The texts of a type: its values or its definition. -/
def TypeDefinition.texts : TypeDefinition → List (List Char)
  | .enumeration values => values.map String.toList
  | .composite definition => [definition.toList]

/-- The texts of a statement. -/
def Statement.texts : Statement → List (List Char)
  | .createType name definition => name.toList :: definition.texts
  | .createTable name columns => name.toList :: columns.flatMap Column.texts
  | .other => []

/-- The texts of a schema. -/
def Schema.texts (schema : Schema) : List (List Char) :=
  schema.types.entries.flatMap (fun entry => entry.1.toList :: entry.2.texts) ++
    schema.tables.entries.flatMap fun table => table.1.toList :: table.2.flatMap Column.texts

/-- The texts that a cause of refusal repeats. -/
def ReadError.texts : ReadError → List (List Char)
  | .unbalanced _ _ => []
  | .malformedType statement => [statement]
  | .emptyEnumeration name => [name.toList]
  | .malformedTable statement => [statement]
  | .noColumns table => [table.toList]
  | .onlyConstraints table => [table.toList]
  | .malformedColumn table clause => [table.toList, clause.toList]
  | .missingType table column => [table.toList, column.toList]
  | .missingDefault table column => [table.toList, column.toList]

/-- A reading **hands on** a property when all texts of its result have it, be it a value or a cause
of refusal. -/
def HandsOn (P : List Char → Prop) {α : Type} (texts : α → List (List Char)) :
    Except ReadError α → Prop
  | .ok value => ∀ text ∈ texts value, P text
  | .error cause => ∀ text ∈ cause.texts, P text

/-! ## Headers -/

namespace Statement

variable {cs rest name statement : List Char}

/-- What follows blanks is an end of the text. -/
theorem suffix_of_afterBlanks? (h : afterBlanks? cs = some rest) : rest <:+ cs := by
  cases cs with
  | nil => cases h
  | cons c cs =>
    rw [afterBlanks?, Option.ite_none_right_eq_some, Option.some.injEq] at h
    exact h.2 ▸ (suffix_trimStart cs).trans (List.suffix_cons c cs)

/-- What follows a keyword is an end of the text. -/
theorem suffix_of_afterKeyword? {keyword : String} (h : afterKeyword? keyword cs = some rest) :
    rest <:+ cs := by
  rw [afterKeyword?, Option.ite_none_right_eq_some, Option.some.injEq] at h
  exact h.2 ▸ List.drop_suffix _ cs

/-- What follows a keyword and blanks is an end of the text. -/
theorem suffix_of_afterWord? {keyword : String} (h : afterWord? keyword cs = some rest) :
    rest <:+ cs := by
  obtain ⟨middle, hword, hblanks⟩ := Option.bind_eq_some_iff.mp h
  exact (suffix_of_afterBlanks? hblanks).trans (suffix_of_afterKeyword? hword)

/-- What follows an opening parenthesis is an end of the text. -/
theorem suffix_of_afterOpening? (h : afterOpening? cs = some rest) : rest <:+ cs := by
  unfold afterOpening? at h
  split at h
  · cases h
  · next c after htrim =>
    rw [Option.ite_none_right_eq_some, Option.some.injEq] at h
    have hsuffix := suffix_trimStart cs
    rw [htrim] at hsuffix
    exact h.2 ▸ (List.suffix_cons c after).trans hsuffix

/-- A name stands at the front of the text and the rest follows it. -/
theorem parts_of_name? (h : name? cs = some (name, rest)) : name <+: cs ∧ rest <:+ cs := by
  rw [name?, Option.ite_none_left_eq_some, Option.some.injEq, Prod.mk.injEq] at h
  exact ⟨h.2.1 ▸ List.takeWhile_prefix _, h.2.2 ▸ List.dropWhile_suffix _⟩

/-- The name of a type and what follows its header are parts of the statement. -/
theorem parts_of_typeHeader? (h : typeHeader? statement = some (name, rest)) :
    name <:+: statement ∧ rest <:+: statement := by
  simp only [typeHeader?, Option.bind_eq_bind, Option.bind_eq_some_iff, Option.pure_def,
    Option.some.injEq, Prod.mk.injEq, Prod.exists] at h
  obtain ⟨front, hcreate, behind, htype, found, tail, hname, gap, hgap, after, has, rfl, rfl⟩ := h
  have hbehind := (suffix_of_afterWord? htype).trans (suffix_of_afterWord? hcreate)
  obtain ⟨hfound, htail⟩ := parts_of_name? hname
  have hafter := (suffix_of_afterKeyword? has).trans (suffix_of_afterBlanks? hgap)
  exact ⟨hfound.isInfix.trans hbehind.isInfix, ((hafter.trans htail).trans hbehind).isInfix⟩

/-- What follows an existence test, or the text itself where there is none. -/
theorem suffix_getD_afterExistenceTest? (cs : List Char) :
    (afterExistenceTest? cs).getD cs <:+ cs := by
  cases h : afterExistenceTest? cs with
  | none => exact List.suffix_refl cs
  | some rest =>
    simp only [afterExistenceTest?, Option.bind_eq_bind, Option.bind_eq_some_iff] at h
    obtain ⟨first, hif, second, hnot, hexists⟩ := h
    exact ((suffix_of_afterWord? hexists).trans (suffix_of_afterWord? hnot)).trans
      (suffix_of_afterWord? hif)

/-- The name of a table and what follows its header are parts of the statement. -/
theorem parts_of_tableHeader? (h : tableHeader? statement = some (name, rest)) :
    name <:+: statement ∧ rest <:+: statement := by
  simp only [tableHeader?, Option.bind_eq_bind, Option.bind_eq_some_iff, Option.pure_def,
    Option.some.injEq, Prod.mk.injEq, Prod.exists] at h
  obtain ⟨front, hcreate, behind, htable, found, tail, hname, after, hopening, rfl, rfl⟩ := h
  have hbehind := ((suffix_getD_afterExistenceTest? behind).trans
    (suffix_of_afterWord? htable)).trans (suffix_of_afterWord? hcreate)
  obtain ⟨hfound, htail⟩ := parts_of_name? hname
  exact ⟨hfound.isInfix.trans hbehind.isInfix,
    (((suffix_of_afterOpening? hopening).trans htail).trans hbehind).isInfix⟩

/-- What follows the words of an enumeration is an end of the text. -/
theorem suffix_of_afterEnumeration? (h : afterEnumeration? cs = some rest) : rest <:+ cs := by
  obtain ⟨middle, hword, hopening⟩ := Option.bind_eq_some_iff.mp h
  exact ((suffix_of_afterOpening? hopening).trans (suffix_of_afterKeyword? hword)).trans
    (suffix_trimStart cs)

/-- What precedes the closing parenthesis is a start of the text. -/
theorem prefix_of_beforeClosing? {items : List Char} (h : beforeClosing? cs = some items) :
    items <+: cs := by
  rw [beforeClosing?, Option.ite_none_right_eq_some, Option.some.injEq] at h
  exact h.2 ▸ (List.dropLast_prefix _).trans (prefix_trimEnd cs)

end Statement

/-! ## What is read of a statement -/

variable {P : List Char → Prop}

/-- The words of a default are the last words of the list that it is read from. -/
theorem Qualifiers.suffix_of_defaultWords {ws ds : List (List Char)}
    (h : (Qualifiers.ofWords ws).defaultWords = some ds) : ds <:+ ws := by
  fun_induction Qualifiers.ofWords ws with
  | case1 => cases h
  | case2 word =>
    rw [Option.ite_none_right_eq_some, Option.some.injEq] at h
    exact h.2 ▸ List.nil_suffix
  | case3 word next rest _ _ ih =>
    exact ((ih h).trans (List.suffix_cons next rest)).trans (List.suffix_cons word _)
  | case4 word next rest _ _ => exact Option.some.inj h ▸ List.suffix_cons ..
  | case5 word next rest _ _ ih => exact (ih h).trans (List.suffix_cons ..)

/-- **A column clause hands its properties on** to the column that it declares. -/
theorem Hereditary.handsOn_ofClause (h : Hereditary P) {table : String} {clause : List Char}
    (htable : P table.toList) (hclause : P clause) :
    HandsOn P Column.texts (Column.ofClause table clause) := by
  have hword : ∀ w ∈ words clause, P w := fun w hw => h.infix_of (infix_of_mem_words hw) hclause
  unfold Column.ofClause
  split
  · next name next rest hwords =>
    rw [hwords, List.forall_mem_cons] at hword
    have hsubset : next :: rest ⊆ words clause := hwords ▸ List.subset_cons_self name _
    have htype : P (unwords ((next :: rest).takeWhile fun word => !isQualifierWord word)) :=
      h.unwords_of_subset hclause fun w hw => hsubset ((List.takeWhile_prefix _).subset hw)
    dsimp only
    split
    · simp [HandsOn, ReadError.texts, htable, hword.1]
    · split
      · simp [HandsOn, ReadError.texts, htable, hword.1]
      · next notNull defaultWords _ hqualifiers =>
        simp only [HandsOn, Column.texts, wordText, List.forall_mem_cons, String.toList_ofList]
        refine ⟨hword.1, htype, fun text htext => ?_⟩
        -- the words of the default are among the qualifiers
        simp only [Option.map_map, Option.mem_toList, Option.map_eq_some_iff] at htext
        obtain ⟨ds, rfl, rfl⟩ := htext
        have hdefault := congrArg Qualifiers.defaultWords hqualifiers
        have hsuffix := Qualifiers.suffix_of_defaultWords hdefault
        have hds : ds ⊆ words clause := fun w hw =>
          hsubset ((List.dropWhile_suffix _).subset (hsuffix.subset hw))
        simpa [wordText] using h.unwords_of_subset hclause hds
  · simp [HandsOn, ReadError.texts, htable, hclause]

/-- Readings of the elements of a list hand a property on when each of them does. -/
theorem HandsOn.mapM {α : Type} {f : List Char → Except ReadError α}
    {texts : α → List (List Char)} {xs : List (List Char)} (h : ∀ x ∈ xs, HandsOn P texts (f x)) :
    HandsOn P (List.flatMap texts) (xs.mapM f) := by
  induction xs with
  | nil => simp [HandsOn, pure, Except.pure]
  | cons x xs ih =>
    rw [List.forall_mem_cons] at h
    obtain ⟨hfirst, hrest⟩ := h
    have hrest := ih hrest
    rw [List.mapM_cons]
    cases hx : f x with
    | error cause =>
      rw [hx] at hfirst
      exact hfirst
    | ok value =>
      rw [hx] at hfirst
      cases hxs : xs.mapM f with
      | error cause =>
        rw [hxs] at hrest
        exact hrest
      | ok values =>
        rw [hxs] at hrest
        change ∀ text ∈ texts value ++ values.flatMap texts, P text
        exact List.forall_mem_append.mpr ⟨hfirst, hrest⟩

/-- The clauses of a table hand their properties on to its columns. -/
theorem Hereditary.handsOn_columnsOf (h : Hereditary P) {table : String} {body : List Char}
    (htable : P table.toList) (hbody : P body) :
    HandsOn P (List.flatMap Column.texts) (Statement.columnsOf table body) := by
  unfold Statement.columnsOf
  split
  · simp [HandsOn, ReadError.texts, htable]
  · split
    · simp [HandsOn, ReadError.texts, htable]
    · next clauses hclauses =>
      refine HandsOn.mapM fun clause hclause => h.handsOn_ofClause htable ?_
      have hmem : clause ∈ splitOutside ',' body := List.mem_of_mem_filter hclause
      exact h.infix_of (infix_of_mem_splitOutside hmem) hbody

/-- The declaration of a type hands its properties on. -/
theorem Hereditary.handsOn_ofTypeText (h : Hereditary P) {statement : List Char}
    (hstatement : P statement) : HandsOn P Statement.texts (Statement.ofTypeText statement) := by
  have hmalformed : HandsOn P Statement.texts (.error (.malformedType statement)) := by
    simp [HandsOn, ReadError.texts, hstatement]
  unfold Statement.ofTypeText
  split
  · exact hmalformed
  · next name rest hheader =>
    obtain ⟨hname, hrest⟩ := Statement.parts_of_typeHeader? hheader
    have hname := h.infix_of hname hstatement
    split
    · next body hbody =>
      split
      · exact hmalformed
      · next items hitems =>
        have hpart : items <:+: statement :=
          ((Statement.prefix_of_beforeClosing? hitems).isInfix.trans
            (Statement.suffix_of_afterEnumeration? hbody).isInfix).trans hrest
        split
        · simp [HandsOn, ReadError.texts, hname]
        · -- the values are those between the parentheses
          simp only [HandsOn, Statement.texts, TypeDefinition.texts, List.forall_mem_cons,
            String.toList_ofList, List.forall_mem_map]
          exact ⟨hname, fun value hvalue =>
            h.of_mem_literalValues (h.infix_of hpart hstatement) hvalue⟩
    · dsimp only
      split
      · have hdefinition := h.infix_of ((infix_trim rest).trans hrest) hstatement
        simp [HandsOn, Statement.texts, TypeDefinition.texts, hname, hdefinition]
      · exact hmalformed

/-- The declaration of a table hands its properties on. -/
theorem Hereditary.handsOn_ofTableText (h : Hereditary P) {statement : List Char}
    (hstatement : P statement) : HandsOn P Statement.texts (Statement.ofTableText statement) := by
  have hmalformed : HandsOn P Statement.texts (.error (.malformedTable statement)) := by
    simp [HandsOn, ReadError.texts, hstatement]
  unfold Statement.ofTableText
  split
  · exact hmalformed
  · next name rest hheader =>
    -- the name and the columns are parts of the statement, so they have what it has
    obtain ⟨hname, hrest⟩ := Statement.parts_of_tableHeader? hheader
    have hname := h.infix_of hname hstatement
    split
    · exact hmalformed
    · next body hbody =>
      have hbody := h.infix_of ((prefix_of_insideParens? hbody).isInfix.trans hrest) hstatement
      have hcolumns : HandsOn P (List.flatMap Column.texts)
          (Statement.columnsOf (String.ofList name) body) :=
        h.handsOn_columnsOf (by rwa [String.toList_ofList]) hbody
      dsimp only
      cases hresult : Statement.columnsOf (String.ofList name) body with
      | error cause =>
        rw [hresult] at hcolumns
        exact hcolumns
      | ok columns =>
        rw [hresult] at hcolumns
        change ∀ text ∈ (String.ofList name).toList :: columns.flatMap Column.texts, P text
        rw [List.forall_mem_cons, String.toList_ofList]
        exact ⟨hname, hcolumns⟩

/-- **A statement hands its properties on** to what it declares. -/
theorem Hereditary.handsOn_ofText (h : Hereditary P) {statement : List Char}
    (hstatement : P statement) : HandsOn P Statement.texts (Statement.ofText statement) := by
  unfold Statement.ofText
  split
  · exact h.handsOn_ofTypeText hstatement
  · split
    · exact h.handsOn_ofTableText hstatement
    · simp [HandsOn, Statement.texts]

/-! ## What is read of a text -/

/-- An entry after a declaration is the declared one or was there before. -/
theorem Catalog.mem_insert {α : Type} {catalog : Catalog α} {name : String} {value : α}
    {entry : String × α} (h : entry ∈ (catalog.insert name value).entries) :
    entry = (name, value) ∨ entry ∈ catalog.entries := by
  have hinsert : ∀ entries : List (String × α), entry ∈ insertEntry name value entries →
      entry = (name, value) ∨ entry ∈ entries := by
    intro entries hmem
    induction entries with
    | nil => exact .inl (List.mem_singleton.mp hmem)
    | cons first rest ih =>
      rw [insertEntry_cons] at hmem
      split at hmem
      · exact (List.mem_cons.mp hmem).imp_right (List.mem_cons_of_mem first)
      · rcases List.mem_cons.mp hmem with rfl | hrest
        · exact .inr List.mem_cons_self
        · exact (ih hrest).imp_right (List.mem_cons_of_mem first)
  exact hinsert catalog.entries h

/-- The texts after a statement are those of the schema before it and of the statement. -/
theorem Schema.texts_declare {schema : Schema} {statement : Statement} {text : List Char}
    (h : text ∈ (schema.declare statement).texts) :
    text ∈ schema.texts ∨ text ∈ statement.texts := by
  -- an entry of the new catalog is the declared one or was there before
  cases statement with
  | other => exact .inl h
  | createType name definition =>
    rcases List.mem_append.mp h with htype | htable
    · obtain ⟨entry, hentry, htext⟩ := List.mem_flatMap.mp htype
      rcases Catalog.mem_insert hentry with rfl | hold
      · exact .inr htext
      · exact .inl (List.mem_append_left _ (List.mem_flatMap.mpr ⟨entry, hold, htext⟩))
    · exact .inl (List.mem_append_right _ htable)
  | createTable name columns =>
    rcases List.mem_append.mp h with htype | htable
    · exact .inl (List.mem_append_left _ htype)
    · obtain ⟨table, hentry, htext⟩ := List.mem_flatMap.mp htable
      rcases Catalog.mem_insert hentry with rfl | hold
      · exact .inr htext
      · exact .inl (List.mem_append_right _ (List.mem_flatMap.mpr ⟨table, hold, htext⟩))

/-- Statements that are taken one after the other hand their properties on to the schema. -/
theorem Hereditary.handsOn_declareAll (h : Hereditary P) {statements : List (List Char)}
    (hstatements : ∀ statement ∈ statements, P statement) (schema : Schema)
    (hschema : ∀ text ∈ schema.texts, P text) :
    HandsOn P Schema.texts (schema.declareAll statements) := by
  induction statements generalizing schema with
  | nil => exact hschema
  | cons statement rest ih =>
    rw [List.forall_mem_cons] at hstatements
    have hfirst := h.handsOn_ofText hstatements.1
    rw [Schema.declareAll, List.foldlM_cons]
    cases hresult : Statement.ofText statement with
    | error cause =>
      rw [hresult] at hfirst
      exact hfirst
    | ok declared =>
      rw [hresult] at hfirst
      refine ih hstatements.2 (schema.declare declared) fun text htext => ?_
      rcases Schema.texts_declare htext with hold | hnew
      · exact hschema text hold
      · exact hfirst text hnew

/-- The statements of a text inherit the property from it. -/
theorem Hereditary.of_mem_statementTexts (h : Hereditary P) {cs statement : List Char} (hcs : P cs)
    (hstatement : statement ∈ statementTexts cs) : P statement := by
  obtain ⟨piece, hpiece, rfl⟩ := List.mem_map.mp hstatement
  exact h.unwords_of_subset (h.infix_of (infix_of_mem_splitOutside hpiece) hcs)
    (List.Subset.refl _)

/-- What a reading that succeeds gives has a property that is handed on. -/
theorem HandsOn.of_eq_ok {α : Type} {texts : α → List (List Char)} {reading : Except ReadError α}
    (h : HandsOn P texts reading) {value : α} (hread : reading = .ok value) :
    ∀ text ∈ texts value, P text := by
  subst hread
  exact h

/-- The cause that a reading fails with has a property that is handed on. -/
theorem HandsOn.of_eq_error {α : Type} {texts : α → List (List Char)}
    {reading : Except ReadError α} (h : HandsOn P texts reading) {cause : ReadError}
    (hread : reading = .error cause) : ∀ text ∈ cause.texts, P text := by
  subst hread
  exact h

/-- A count of parentheses repeats no text. -/
theorem handsOn_unbalanced (P : List Char → Prop) (opening closing : Nat) :
    HandsOn P Schema.texts (.error (.unbalanced opening closing)) := by
  simp [HandsOn, ReadError.texts]

-- a reading of a whole text is never to be run in order to see what `HandsOn` says of it
attribute [irreducible] HandsOn

/-- **A schema text hands the properties of its statements on** to the schema that is read, or to
the cause for which it is refused. -/
theorem Hereditary.handsOn_schema (h : Hereditary P) {text : String}
    (hstatements : ∀ statement ∈ statementTexts (clean text.toList), P statement) :
    HandsOn P Schema.texts (Schema.ofText text) := by
  rw [Schema.ofText_eq]
  split
  · exact h.handsOn_declareAll hstatements .empty fun _ hmem => by cases hmem
  · exact handsOn_unbalanced P _ _

end SchemaEvolution
