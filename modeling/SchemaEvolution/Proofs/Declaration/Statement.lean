import SchemaEvolution.Proofs.Declaration.Clause
import SchemaEvolution.Proofs.Text.Fragments

/-! # Reading statements back
A statement that declares an enumeration or a table is read back from its words one space apart. The
header is passed over keyword by keyword; a table may even be named `IF`, because what follows its
name is not `NOT EXISTS`. -/

namespace SchemaEvolution

/-! ## Keywords -/

/-- A text is a keyword when the two agree in upper case. -/
theorem isKeyword_iff (keyword : String) (cs : List Char) :
    isKeyword keyword cs = true ↔ upper cs = upper keyword.toList :=
  beq_iff_eq

/-- A text of another length is not the keyword. -/
theorem length_of_isKeyword {keyword : String} {cs : List Char} (h : isKeyword keyword cs = true) :
    cs.length = keyword.toList.length := by
  rw [← length_upper cs, (isKeyword_iff keyword cs).mp h, length_upper]

/-- A keyword at the front of a text is passed over. -/
theorem afterKeyword?_append {keyword : String} {w : List Char} (h : isKeyword keyword w = true)
    (cs : List Char) : afterKeyword? keyword (w ++ cs) = some cs := by
  rw [afterKeyword?, ← length_of_isKeyword h, List.take_left, List.drop_left, if_pos h]

/-! ## Headers -/

/-- Words one space apart in front of a text in parentheses. -/
def headed (ws : List (List Char)) (inner : List Char) : List Char :=
  unwords ws ++ ' ' :: '(' :: (inner ++ [')'])

/-- The words in front of the values of an enumeration. -/
def enumerationWords (name : List Char) : List (List Char) :=
  ["CREATE".toList, "TYPE".toList, name, "AS".toList, "ENUM".toList]

/-- The words in front of the clauses of a table. -/
def tableWords (name : List Char) : List (List Char) := ["CREATE".toList, "TABLE".toList, name]

/-- The declaration of an enumeration, word by word. -/
theorem headed_enumerationWords (name inner : List Char) :
    headed (enumerationWords name) inner =
      "CREATE".toList ++ ' ' :: ("TYPE".toList ++ ' ' :: (name ++ ' ' ::
        ("AS".toList ++ ' ' :: ("ENUM".toList ++ ' ' :: '(' :: (inner ++ [')']))))) := by
  simp [headed, enumerationWords, unwords]

/-- The declaration of a table, word by word. -/
theorem headed_tableWords (name inner : List Char) :
    headed (tableWords name) inner =
      "CREATE".toList ++ ' ' :: ("TABLE".toList ++ ' ' :: (name ++ ' ' :: '(' ::
        (inner ++ [')']))) := by
  simp [headed, tableWords, unwords]

namespace Statement

/-- A keyword and a space are passed over. -/
theorem afterWord?_append {keyword : String} {w : List Char} (h : isKeyword keyword w = true)
    (cs : List Char) : afterWord? keyword (w ++ ' ' :: cs) = some (trimStart cs) := by
  rw [afterWord?, afterKeyword?_append h]
  rfl

/-- **Another word is not the keyword**, even if one of the two starts with the other. -/
theorem afterWord?_eq_none {keyword : String} {w : List Char} (hw : ∀ c ∈ w, isBlank c = false)
    (hkeyword : ' ' ∉ upper keyword.toList) (h : isKeyword keyword w = false) (cs : List Char) :
    afterWord? keyword (w ++ ' ' :: cs) = none := by
  rw [afterWord?, afterKeyword?]
  by_cases htaken : isKeyword keyword ((w ++ ' ' :: cs).take keyword.toList.length) = true
  · rw [if_pos htaken, Option.bind_some]
    rcases Nat.lt_trichotomy w.length keyword.toList.length with hshort | hsame | hlong
    · -- the space behind the word would belong to the keyword
      obtain ⟨k, hk⟩ := Nat.exists_eq_add_of_lt hshort
      have hspace : ' ' ∈ (w ++ ' ' :: cs).take keyword.toList.length := by
        rw [hk, Nat.add_assoc, List.take_length_add_append]
        exact List.mem_append_right _ List.mem_cons_self
      have hupper : ' ' ∈ upper ((w ++ ' ' :: cs).take keyword.toList.length) :=
        List.mem_map.mpr ⟨' ', hspace, rfl⟩
      rw [(isKeyword_iff _ _).mp htaken] at hupper
      exact absurd hupper hkeyword
    · -- the word itself would be the keyword
      rw [← hsame, List.take_left] at htaken
      exact absurd htaken (by simp [h])
    · -- the word goes on behind the keyword
      rw [List.drop_append_of_le_length hlong.le]
      cases hrest : w.drop keyword.toList.length with
      | nil => exact absurd (List.drop_eq_nil_iff.mp hrest) (Nat.not_le.mpr hlong)
      | cons c rest =>
        have hc : isBlank c = false :=
          hw c (List.mem_of_mem_drop (hrest ▸ List.mem_cons_self))
        simp [afterBlanks?, hc]
  · rw [if_neg htaken]
    rfl

/-- A name is read up to the first character that names cannot have. -/
theorem name?_append {name : List Char} (h : IsName name) {c : Char} (hc : isNameChar c = false)
    (cs : List Char) : name? (name ++ c :: cs) = some (name, c :: cs) := by
  have hstop : ∀ d ∈ (c :: cs).head?, isNameChar d = false := by simpa using hc
  rw [name?, takeWhile_append_eq_left h.2 hstop, dropWhile_append_eq_right h.2 hstop]
  simp [h.1]

/-- The start of a name is no blank. -/
theorem trimStart_name_append {name : List Char} (h : IsName name) (cs : List Char) :
    trimStart (name ++ cs) = name ++ cs := by
  refine trimStart_eq_self fun c hc => ?_
  rw [List.head?_append_of_ne_nil _ h.1] at hc
  exact h.isWord.2 c (List.mem_of_mem_head? hc)

/-- The name in the header of a type. -/
theorem typeHeader?_eq {name : List Char} (h : IsName name) (cs : List Char) :
    typeHeader? ("CREATE".toList ++ ' ' :: ("TYPE".toList ++ ' ' :: (name ++ ' ' ::
      ("AS".toList ++ cs)))) = some (name, cs) := by
  have hcreate : isKeyword "CREATE" "CREATE".toList = true := by decide
  have htype : isKeyword "TYPE" "TYPE".toList = true := by decide
  have has : isKeyword "AS" "AS".toList = true := by decide
  have hspace : isNameChar ' ' = false := by decide
  have htypeStart : ∀ ds, trimStart ("TYPE".toList ++ ds) = "TYPE".toList ++ ds := fun _ => rfl
  have hasStart : ∀ ds, afterBlanks? (' ' :: ("AS".toList ++ ds)) = some ("AS".toList ++ ds) :=
    fun _ => rfl
  simp only [typeHeader?, afterWord?_append hcreate, htypeStart, afterWord?_append htype,
    trimStart_name_append h, name?_append h hspace, hasStart, afterKeyword?_append has,
    Option.bind_eq_bind, Option.bind_some, Option.pure_def]

/-- No existence test stands between a name and a parenthesis. -/
theorem afterExistenceTest?_name {name : List Char} (h : IsName name) (cs : List Char) :
    afterExistenceTest? (name ++ ' ' :: '(' :: cs) = none := by
  rw [afterExistenceTest?]
  by_cases hif : isKeyword "IF" name = true
  · -- the table is named like the keyword, but no `NOT` follows
    have hnot : afterWord? "NOT" (trimStart ('(' :: cs)) = none := by
      simp [trimStart, afterWord?, afterKeyword?, isKeyword, isBlank]
    rw [afterWord?_append hif, Option.bind_eq_bind, Option.bind_some, hnot]
    rfl
  · rw [afterWord?_eq_none h.isWord.2 (by decide) (by simpa using hif)]
    rfl

/-- The name in the header of a table. -/
theorem tableHeader?_eq {name : List Char} (h : IsName name) (cs : List Char) :
    tableHeader? ("CREATE".toList ++ ' ' :: ("TABLE".toList ++ ' ' :: (name ++ ' ' :: '(' :: cs))) =
      some (name, cs) := by
  have hcreate : isKeyword "CREATE" "CREATE".toList = true := by decide
  have htable : isKeyword "TABLE" "TABLE".toList = true := by decide
  have hspace : isNameChar ' ' = false := by decide
  have htableStart : ∀ ds, trimStart ("TABLE".toList ++ ds) = "TABLE".toList ++ ds := fun _ => rfl
  have hopening : afterOpening? (' ' :: '(' :: cs) = some cs := rfl
  simp only [tableHeader?, afterWord?_append hcreate, htableStart, afterWord?_append htable,
    trimStart_name_append h, afterExistenceTest?_name h, Option.getD_none, name?_append h hspace,
    hopening, Option.bind_eq_bind, Option.bind_some, Option.pure_def]

/-! ## Enumerations -/

/-- A text before the parenthesis at its end. -/
theorem beforeClosing?_append (cs : List Char) : beforeClosing? (cs ++ [')']) = some cs := by
  have hend : trimEnd (cs ++ [')']) = cs ++ [')'] := by
    rw [trimEnd_concat, if_neg (by decide)]
  rw [beforeClosing?, hend, List.getLast?_concat, if_pos rfl, List.dropLast_concat]

/-- **An enumeration is read back** from its values. -/
theorem ofText_enumeration {name : List Char} (hname : IsName name)
    {values : List (List Char)} (hvalues : values ≠ []) (hne : ∀ value ∈ values, value ≠ []) :
    ofText (headed (enumerationWords name) (joinWith [',', ' '] (values.map literal))) =
      .ok (.createType (String.ofList name) (.enumeration (values.map String.ofList))) := by
  have hcreate : IsWord "CREATE".toList := by decide
  have htype : IsWord "TYPE".toList := by decide
  have hstart : ∀ ws, startsWithKeywords ["CREATE", "TYPE"]
      ("CREATE".toList :: "TYPE".toList :: ws) = true := fun ws => by
    rw [startsWithKeywords_cons_cons, startsWithKeywords_cons_cons, startsWithKeywords_nil]
    decide
  have henum : ∀ cs, afterEnumeration? (' ' :: ("ENUM".toList ++ ' ' :: '(' :: cs)) = some cs :=
    fun _ => rfl
  obtain ⟨first, rest, hfirst⟩ : ∃ first rest, values.map String.ofList = first :: rest :=
    List.exists_cons_of_ne_nil (by simpa using hvalues)
  have hread : literalValues (joinWith [',', ' '] (values.map literal)) = values := by
    rw [literalValues_joinWith, List.filter_eq_self.mpr (by simpa using hne)]
  rw [headed_enumerationWords, ofText, words_word_append hcreate (by decide),
    words_word_append htype (by decide), if_pos (hstart _), ofTypeText, typeHeader?_eq hname]
  simp only [henum, beforeClosing?_append, hread, hfirst]

/-! ## Tables -/

/-- The columns of a table whose clauses are all columns. -/
theorem columnsOf_joinWith (table : String) {clauses : List (List Char)} (hne : clauses ≠ [])
    (hclauses : ∀ clause ∈ clauses, IsFragment ',' clause ∧ isTableConstraint clause = false) :
    columnsOf table (' ' :: (joinWith [',', ' '] clauses ++ [' '])) =
      clauses.mapM (Column.ofClause table) := by
  have htrim : ∀ clause ∈ clauses, clause ≠ [] ∧ trim clause = clause := fun clause h =>
    ⟨(hclauses clause h).1.ne_nil, (hclauses clause h).1.trimmed⟩
  have hpass : ∀ clause ∈ clauses, (!isTableConstraint clause) = true := fun clause h => by
    simp [(hclauses clause h).2]
  have hbody : (joinWith [',', ' '] clauses).isEmpty = false := by
    simpa using joinWith_ne_nil [',', ' '] hne fun clause h => (htrim clause h).1
  obtain ⟨first, rest, rfl⟩ := List.exists_cons_of_ne_nil hne
  rw [columnsOf, trim_cons_of_blank (by decide), trim_concat_of_blank (by decide),
    trim_joinWith _ htrim, hbody, if_neg (by simp),
    splitOutside_cons_of_blank (by decide) (by decide),
    splitOutside_joinWith isSeparator_comma (by decide) (fun clause h => (hclauses clause h).1),
    List.filter_eq_self.mpr hpass]

/-- **Whatever follows the parentheses of a table is passed over**: what stands between them
declares the columns. -/
theorem ofText_headed_append {name : List Char} (hname : IsName name) {inner : List Char}
    (hinner : WellNested inner) (rest : List Char) :
    ofText (headed (tableWords name) inner ++ rest) =
      (columnsOf (String.ofList name) inner).map (.createTable (String.ofList name)) := by
  have hcreate : IsWord "CREATE".toList := by decide
  have htable : IsWord "TABLE".toList := by decide
  have hnotType : ∀ ws, startsWithKeywords ["CREATE", "TYPE"]
      ("CREATE".toList :: "TABLE".toList :: ws) = false := fun ws => by
    rw [startsWithKeywords_cons_cons, startsWithKeywords_cons_cons, startsWithKeywords_nil]
    decide
  have hstart : ∀ ws, startsWithKeywords ["CREATE", "TABLE"]
      ("CREATE".toList :: "TABLE".toList :: ws) = true := fun ws => by
    rw [startsWithKeywords_cons_cons, startsWithKeywords_cons_cons, startsWithKeywords_nil]
    decide
  have htext : headed (tableWords name) inner ++ rest =
      "CREATE".toList ++ ' ' :: ("TABLE".toList ++ ' ' :: (name ++ ' ' :: '(' ::
        (inner ++ ')' :: rest))) := by
    simp [headed_tableWords]
  -- the parenthesis opened behind the name closes behind `inner`, and `rest` is not read
  rw [htext, ofText, words_word_append hcreate (by decide), words_word_append htable (by decide),
    hnotType, if_neg (by simp), hstart, if_pos rfl, ofTableText, tableHeader?_eq hname]
  simp only [hinner.insideParens?]

/-- **A table is read back** from its clauses. -/
theorem ofText_table {name : List Char} (hname : IsName name) {clauses : List (List Char)}
    (hne : clauses ≠ [])
    (hclauses : ∀ clause ∈ clauses, IsFragment ',' clause ∧ isTableConstraint clause = false)
    (hnested : WellNested (joinWith [',', ' '] clauses)) :
    ofText (headed (tableWords name) (' ' :: (joinWith [',', ' '] clauses ++ [' ']))) =
      (clauses.mapM (Column.ofClause (String.ofList name))).map
        (.createTable (String.ofList name)) := by
  have hbody : WellNested (' ' :: (joinWith [',', ' '] clauses ++ [' '])) :=
    (hnested.append (by decide)).cons (by decide) (by decide)
  have hread := ofText_headed_append hname hbody []
  rwa [List.append_nil, columnsOf_joinWith _ hne hclauses] at hread

end Statement

end SchemaEvolution
