import SchemaEvolution.Declaration.Reader
import SchemaEvolution.Proofs.Text.Literal

/-! # Plain schemas
A schema is **plain** when nothing in its texts is taken for something else by a reader: its names
are names, its parentheses are well nested, no comment starts in it and it has no composite types.
`Quiet` is the part of this that survives when texts are put together. -/

namespace SchemaEvolution

/-! ## Quiet texts -/

/-- A text is **quiet** when it is well nested and cleaning finds no comment and no name delimiter
in it. -/
structure Quiet (cs : List Char) : Prop where
  /-- Parentheses are well nested. -/
  nested : WellNested cs
  /-- No comment starts in the text. -/
  uncommented : Apart (· == '-') cs
  /-- The text has no name delimiters. -/
  undelimited : ∀ c ∈ cs, isNameDelimiter c = false

/-- The three parts of being quiet, as they are decided. -/
theorem quiet_iff (cs : List Char) :
    Quiet cs ↔
      WellNested cs ∧ Apart (· == '-') cs ∧ (cs.all fun c => !isNameDelimiter c) = true := by
  simp only [List.all_eq_true, Bool.not_eq_true']
  exact ⟨fun h => ⟨h.nested, h.uncommented, h.undelimited⟩, fun h => ⟨h.1, h.2.1, h.2.2⟩⟩

instance (cs : List Char) : Decidable (Quiet cs) := decidable_of_iff _ (quiet_iff cs).symm

/-- A character is **neutral** when it is quiet whatever stands next to it. -/
def isNeutral (c : Char) : Bool := c != '(' && c != ')' && c != '-' && !isNameDelimiter c

/-- The neutral characters are no parentheses, no dashes and no name delimiters. -/
theorem isNeutral_iff (c : Char) :
    isNeutral c = true ↔ c ≠ '(' ∧ c ≠ ')' ∧ c ≠ '-' ∧ isNameDelimiter c = false := by
  simp [isNeutral, and_assoc]

namespace Quiet

variable {cs ds : List Char}

/-- Neutral characters are quiet. -/
theorem of_neutral (h : cs.all isNeutral = true) : Quiet cs where
  nested := .of_forall_ne fun c hc => by
    obtain ⟨hopen, hclose, -⟩ := (isNeutral_iff c).mp (List.all_eq_true.mp h c hc)
    exact ⟨hopen, hclose⟩
  uncommented := .of_forall_not fun c hc => by
    obtain ⟨-, -, hdash, -⟩ := (isNeutral_iff c).mp (List.all_eq_true.mp h c hc)
    simpa using hdash
  undelimited c hc := by
    obtain ⟨-, -, -, hdelimiter⟩ := (isNeutral_iff c).mp (List.all_eq_true.mp h c hc)
    exact hdelimiter

/-- Quiet texts are put together where no two dashes meet. -/
theorem append (hcs : Quiet cs) (hds : Quiet ds)
    (h : (∀ c ∈ cs.getLast?, isNeutral c = true) ∨ ∀ d ∈ ds.head?, isNeutral d = true) :
    Quiet (cs ++ ds) where
  nested := hcs.nested.append hds.nested
  uncommented := by
    refine hcs.uncommented.append hds.uncommented (h.imp ?_ ?_) <;>
      exact fun hneutral c hc => by simpa using ((isNeutral_iff c).mp (hneutral c hc)).2.2.1
  undelimited := List.forall_mem_append.mpr ⟨hcs.undelimited, hds.undelimited⟩

/-- Neutral characters in front of a quiet text. -/
theorem neutral_append (hcs : cs.all isNeutral = true) (hds : Quiet ds) : Quiet (cs ++ ds) :=
  (of_neutral hcs).append hds
    (.inl fun c hc => List.all_eq_true.mp hcs c (List.mem_of_mem_getLast? hc))

/-- A quiet text in front of neutral characters. -/
theorem append_neutral (hcs : Quiet cs) (hds : ds.all isNeutral = true) : Quiet (cs ++ ds) :=
  hcs.append (of_neutral hds)
    (.inr fun c hc => List.all_eq_true.mp hds c (List.mem_of_mem_head? hc))

/-- A quiet text in parentheses. -/
theorem enclosed (h : Quiet cs) : Quiet ('(' :: (cs ++ [')'])) where
  nested := h.nested.enclosed
  uncommented := by
    rw [Apart.cons_iff_of_not (by decide), Apart.append_cons_iff_of_not (by decide)]
    exact ⟨h.uncommented, .nil⟩
  undelimited := by
    have hopen : isNameDelimiter '(' = false := by decide
    have hclose : isNameDelimiter ')' = false := by decide
    simpa [hopen, hclose, or_imp, forall_and] using h.undelimited

/-- Quiet texts with neutral characters between neighbours. -/
theorem joined {separator : List Char} (hseparator : separator.all isNeutral = true)
    (hne : separator ≠ []) {pieces : List (List Char)} (h : ∀ piece ∈ pieces, Quiet piece) :
    Quiet (joinWith separator pieces) := by
  induction pieces with
  | nil => exact of_neutral rfl
  | cons piece pieces ih =>
    rw [List.forall_mem_cons] at h
    cases pieces with
    | nil => exact h.1
    | cons next rest =>
      rw [joinWith_cons_cons, List.append_assoc]
      refine h.1.append (neutral_append hseparator (ih h.2)) (.inr fun c hc => ?_)
      rw [List.head?_append_of_ne_nil _ hne] at hc
      exact List.all_eq_true.mp hseparator c (List.mem_of_mem_head? hc)

/-- The literal of a quiet value is quiet. -/
theorem literal (h : Quiet cs) : Quiet (literal cs) := by
  have hquote : [quoteMark].all isNeutral = true := by decide
  have hdoubled : Quiet (doubleQuotes cs) :=
    ⟨h.nested.doubleQuotes, h.uncommented.doubleQuotes (by decide),
      fun c hc => h.undelimited c ((mem_doubleQuotes_iff c cs).mp hc)⟩
  exact neutral_append hquote (hdoubled.append_neutral hquote)

end Quiet

/-! ## Names -/

/-- A **name** of a type or table is not empty and has only characters that names can have. -/
def IsName (cs : List Char) : Prop := cs ≠ [] ∧ ∀ c ∈ cs, Statement.isNameChar c = true

/-- The two parts of being a name, as they are decided. -/
theorem isName_iff (cs : List Char) :
    IsName cs ↔ cs ≠ [] ∧ cs.all Statement.isNameChar = true := by
  simp [IsName]

instance (cs : List Char) : Decidable (IsName cs) := decidable_of_iff _ (isName_iff cs).symm

/-- The code points of the blank characters. -/
private theorem toNat_mem_of_isBlank {c : Char} (h : isBlank c = true) :
    c.toNat ∈ [9, 10, 11, 12, 13, 0x20, 0x85, 0xA0, 0x1680, 0x2000, 0x2001, 0x2002, 0x2003, 0x2004,
      0x2005, 0x2006, 0x2007, 0x2008, 0x2009, 0x200A, 0x2028, 0x2029, 0x202F, 0x205F, 0x3000] := by
  simp only [isBlank, Bool.or_eq_true, Bool.and_eq_true, decide_eq_true_eq, beq_iff_eq] at h
  simp only [List.mem_cons, List.not_mem_nil]
  omega

/-- No blank can stand in a name. -/
theorem isNameChar_of_isBlank {c : Char} (h : isBlank c = true) :
    Statement.isNameChar c = false := by
  -- there are few blanks, so each of them is tried
  have hn := toNat_mem_of_isBlank h
  rw [← Char.ofNat_toNat c]
  generalize c.toNat = n at hn
  revert n
  decide +kernel

/-- A character of a name is no blank. -/
theorem isBlank_of_isNameChar {c : Char} (h : Statement.isNameChar c = true) :
    isBlank c = false := by
  by_contra hblank
  rw [Bool.not_eq_false] at hblank
  exact absurd h (by simp [isNameChar_of_isBlank hblank])

/-- A character of a name is neutral. -/
theorem isNeutral_of_isNameChar {c : Char} (h : Statement.isNameChar c = true) :
    isNeutral c = true := by
  have hmarks : ['(', ')', '-', '\x22', '\x60'].any Statement.isNameChar = false := by
    decide +kernel
  have hne : ∀ d ∈ ['(', ')', '-', '\x22', '\x60'], c ≠ d := fun d hd e =>
    List.any_eq_false.mp hmarks d hd (e ▸ h)
  simpa [isNeutral_iff, isNameDelimiter] using hne

namespace IsName

variable {cs : List Char}

/-- A name is a word. -/
theorem isWord (h : IsName cs) : IsWord cs := ⟨h.1, fun c hc => isBlank_of_isNameChar (h.2 c hc)⟩

/-- The characters of a name are neutral. -/
theorem neutral (h : IsName cs) : cs.all isNeutral = true :=
  List.all_eq_true.mpr fun c hc => isNeutral_of_isNameChar (h.2 c hc)

end IsName

/-! ## Plain texts -/

/-- A text is **plain** when it is quiet and its blanks are single spaces. -/
structure PlainText (cs : List Char) : Prop extends Quiet cs where
  /-- Every blank is a space. -/
  spaces : ∀ c ∈ cs, isBlank c = true → c = ' '
  /-- No two spaces are neighbours. -/
  single : Apart isBlank cs

/-- A plain text is a **phrase** when it consists of words one space apart, at least one, and has no
comma outside parentheses. -/
structure Phrase (cs : List Char) : Prop extends PlainText cs where
  /-- The phrase has a word. -/
  words_ne_nil : words cs ≠ []
  /-- The words stand one space apart. -/
  collapsed : collapse cs = cs
  /-- No comma is outside parentheses. -/
  uncut : hasOutside ',' 0 cs = false

/-- The parts of being a plain text, as they are decided. -/
theorem plainText_iff (cs : List Char) :
    PlainText cs ↔
      (WellNested cs ∧ Apart (· == '-') cs ∧ cs.any isNameDelimiter = false) ∧
        cs.all (fun c => !isBlank c || c == ' ') = true ∧ Apart isBlank cs := by
  have hdelimiters : cs.any isNameDelimiter = false ↔ ∀ c ∈ cs, isNameDelimiter c = false := by
    simp
  have hspaces : cs.all (fun c => !isBlank c || c == ' ') = true ↔
      ∀ c ∈ cs, isBlank c = true → c = ' ' := by
    simp [← imp_iff_not_or, ← Bool.not_eq_true]
  rw [hdelimiters, hspaces]
  exact ⟨fun h => ⟨⟨h.nested, h.uncommented, h.undelimited⟩, h.spaces, h.single⟩,
    fun h => ⟨⟨h.1.1, h.1.2.1, h.1.2.2⟩, h.2.1, h.2.2⟩⟩

instance (cs : List Char) : Decidable (PlainText cs) := decidable_of_iff _ (plainText_iff cs).symm

/-- The parts of being a phrase, as they are decided. -/
theorem phrase_iff (cs : List Char) :
    Phrase cs ↔
      PlainText cs ∧ words cs ≠ [] ∧ collapse cs = cs ∧ hasOutside ',' 0 cs = false :=
  ⟨fun h => ⟨h.toPlainText, h.words_ne_nil, h.collapsed, h.uncut⟩,
    fun h => ⟨h.1, h.2.1, h.2.2.1, h.2.2.2⟩⟩

instance (cs : List Char) : Decidable (Phrase cs) := decidable_of_iff _ (phrase_iff cs).symm

/-! ## Plain schemas -/

/-- A column is **plain** when its name is one word, its texts are phrases, no word of its type is a
qualifier, and its clause is not taken for a constraint on the table. -/
structure Column.Plain (column : Column) : Prop where
  /-- The name is one word. -/
  name_word : IsWord column.name.toList
  /-- The name is a phrase. -/
  name_phrase : Phrase column.name.toList
  /-- The type is a phrase. -/
  type_phrase : Phrase column.dataType.toList
  /-- No word of the type is a qualifier. -/
  type_unqualified : ∀ word ∈ words column.dataType.toList, isQualifierWord word = false
  /-- The default, if there is one, is a phrase. -/
  default_phrase : ∀ value ∈ column.defaultValue, Phrase value.toList
  /-- The clause does not look like a constraint on the table. -/
  clause_column : isTableConstraint column.definition.toList = false

/-- The parts of being a plain column, as they are decided. -/
theorem Column.plain_iff (column : Column) :
    column.Plain ↔ IsWord column.name.toList ∧ Phrase column.name.toList ∧
      Phrase column.dataType.toList ∧
      (∀ word ∈ words column.dataType.toList, isQualifierWord word = false) ∧
      (∀ value ∈ column.defaultValue, Phrase value.toList) ∧
      isTableConstraint column.definition.toList = false :=
  ⟨fun h => ⟨h.1, h.2, h.3, h.4, h.5, h.6⟩,
    fun h => ⟨h.1, h.2.1, h.2.2.1, h.2.2.2.1, h.2.2.2.2.1, h.2.2.2.2.2⟩⟩

instance (column : Column) : Decidable column.Plain := decidable_of_iff _ column.plain_iff.symm

/-- A type is **plain** when it is an enumeration of at least one value, and its values are plain
and not empty. -/
def TypeDefinition.Plain : TypeDefinition → Prop
  | .enumeration values =>
    values ≠ [] ∧ ∀ value ∈ values, value.toList ≠ [] ∧ PlainText value.toList
  | .composite _ => False

instance (definition : TypeDefinition) : Decidable definition.Plain :=
  match definition with
  | .enumeration values => inferInstanceAs (Decidable
      (values ≠ [] ∧ ∀ value ∈ values, value.toList ≠ [] ∧ PlainText value.toList))
  | .composite _ => inferInstanceAs (Decidable False)

/-- A schema is **plain** when its types and tables have names, its types are plain, and its tables
have columns, all of them plain. -/
structure Schema.Plain (schema : Schema) : Prop where
  /-- The types are plain. -/
  types : ∀ entry ∈ schema.types.entries, IsName entry.1.toList ∧ entry.2.Plain
  /-- The tables have plain columns. -/
  tables : ∀ entry ∈ schema.tables.entries,
    IsName entry.1.toList ∧ entry.2 ≠ [] ∧ ∀ column ∈ entry.2, column.Plain

instance (schema : Schema) : Decidable schema.Plain :=
  decidable_of_iff
    ((∀ entry ∈ schema.types.entries, IsName entry.1.toList ∧ entry.2.Plain) ∧
      ∀ entry ∈ schema.tables.entries,
        IsName entry.1.toList ∧ entry.2 ≠ [] ∧ ∀ column ∈ entry.2, column.Plain)
    ⟨fun h => ⟨h.1, h.2⟩, fun h => ⟨h.1, h.2⟩⟩

end SchemaEvolution
