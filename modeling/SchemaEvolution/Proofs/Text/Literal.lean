import SchemaEvolution.Proofs.Text.Nesting
import SchemaEvolution.Text.Literal

/-! # Reading literals back
A literal is read back as the value it was written for, alone and in a list. Inside quotes each
quote of the value stands twice, so passing over a literal leaves the reader outside quotes again,
and its commas cut nothing. -/

namespace SchemaEvolution

/-! ## Doubled quotes -/

/-- Doubling quotes keeps the characters of a text. -/
theorem mem_doubleQuotes_iff (c : Char) (cs : List Char) : c ∈ doubleQuotes cs ↔ c ∈ cs := by
  induction cs with
  | nil => rfl
  | cons d cs ih =>
    by_cases hd : d = quoteMark
    · subst hd
      simp [ih]
    · simp [doubleQuotes_cons_of_ne hd, ih]

/-- Doubling quotes makes no neighbours pass a test that quotes fail. -/
theorem Apart.doubleQuotes {test : Char → Bool} (hquote : test quoteMark = false) {cs : List Char}
    (h : Apart test cs) : Apart test (doubleQuotes cs) := by
  induction cs with
  | nil => exact .nil
  | cons c cs ih =>
    have hrest := ih h.tail
    by_cases hc : c = quoteMark
    · subst hc
      rwa [doubleQuotes_quote, cons_iff_of_not hquote, cons_iff_of_not hquote]
    · rw [doubleQuotes_cons_of_ne hc]
      -- the next character is the same before and after the doubling
      refine List.IsChain.cons hrest fun d hd => ?_
      cases cs with
      | nil => cases hd
      | cons e es =>
        have he : d = e := by
          by_cases hquoted : e = quoteMark
          · subst hquoted
            simpa [eq_comm] using hd
          · simpa [doubleQuotes_cons_of_ne hquoted, eq_comm] using hd
        exact he ▸ List.rel_of_isChain_cons_cons h

/-- Halving quotes keeps the first character. -/
theorem head?_halveQuotes (cs : List Char) : (halveQuotes cs).head? = cs.head? := by
  fun_cases halveQuotes cs with
  | case1 => rfl
  | case2 c => rfl
  | case3 c d rest hquotes => rw [List.head?_cons, List.head?_cons, hquotes.1]
  | case4 c d rest _ => rfl

/-- Halving quotes makes no neighbours pass a test that quotes fail. -/
theorem Apart.halveQuotes {test : Char → Bool} (hquote : test quoteMark = false) {cs : List Char}
    (h : Apart test cs) : Apart test (halveQuotes cs) := by
  fun_induction SchemaEvolution.halveQuotes cs with
  | case1 => exact h
  | case2 c => exact h
  | case3 c d rest _ ih =>
    -- one quote is left of the pair
    exact (cons_iff_of_not hquote _).mpr (ih h.tail.tail)
  | case4 c d rest _ ih =>
    refine List.IsChain.cons (ih h.tail) fun e he => ?_
    rw [head?_halveQuotes, List.head?_cons, Option.mem_some_iff] at he
    exact he ▸ List.rel_of_isChain_cons_cons h

/-- Quotes open and close no parentheses. -/
theorem WellNested.doubleQuotes {cs : List Char} (h : WellNested cs) :
    WellNested (doubleQuotes cs) := by
  -- passing over a quote does not change the depth, wherever it stands
  suffices hall : ∀ depth ds, SchemaEvolution.openAfter? depth (SchemaEvolution.doubleQuotes ds) =
      SchemaEvolution.openAfter? depth ds by
    rw [WellNested, hall]
    exact h
  intro depth ds
  induction ds generalizing depth with
  | nil => rfl
  | cons d ds ih =>
    by_cases hd : d = quoteMark
    · subst hd
      exact ih depth
    · rw [doubleQuotes_cons_of_ne hd]
      simp only [SchemaEvolution.openAfter?, List.foldlM_cons] at ih ⊢
      cases openAfterChar? depth d with
      | none => rfl
      | some next => exact ih next

/-! ## Literals -/

/-- The characters of the **literal** of a value. -/
def literal (value : List Char) : List Char := quoteMark :: (doubleQuotes value ++ [quoteMark])

/-- A quoted value is a literal. -/
theorem toList_quote (value : String) : (quote value).toList = literal value.toList :=
  String.toList_ofList

/-- A literal is not empty. -/
theorem literal_ne_nil (value : List Char) : literal value ≠ [] := by simp [literal]

/-- A literal starts with a quote. -/
@[simp] theorem head?_literal (value : List Char) : (literal value).head? = some quoteMark := rfl

/-- A literal ends with a quote. -/
@[simp] theorem getLast?_literal (value : List Char) :
    (literal value).getLast? = some quoteMark := by
  rw [literal, ← List.cons_append, List.getLast?_concat]

/-- A literal starts and ends with a quote, so it has no blanks to trim. -/
theorem trim_literal (value : List Char) : trim (literal value) = literal value := by
  have hquote : isBlank quoteMark = false := by decide
  rw [trim_eq_self_iff, head?_literal, getLast?_literal]
  simp [hquote]

/-- The literal of a value with single spaces is tidy, even if the value starts or ends in one. -/
theorem tidy_literal {value : List Char} (hspaces : ∀ c ∈ value, isBlank c = true → c = ' ')
    (hsingle : Apart isBlank value) : Tidy (literal value) where
  spaces c hc hblank := by
    rw [literal, List.mem_cons, List.mem_append, List.mem_singleton, mem_doubleQuotes_iff] at hc
    rcases hc with rfl | hvalue | rfl
    · exact absurd hblank (by decide)
    · exact hspaces c hvalue hblank
    · exact absurd hblank (by decide)
  apart := by
    rw [literal, Apart.cons_iff_of_not (by decide), Apart.append_cons_iff_of_not (by decide)]
    exact ⟨hsingle.doubleQuotes (by decide), .nil⟩
  head := ((trim_eq_self_iff _).mp (trim_literal value)).1
  last := ((trim_eq_self_iff _).mp (trim_literal value)).2

/-- **The value of a literal** is the value that it was written for. -/
theorem unquote_literal (value : List Char) : unquote (literal value) = value := by
  simp [unquote, literal, betweenQuotes?]

/-! ## Lists of literals -/

/-- Inside quotes nothing is cut, and the doubled quotes of a value end inside quotes. -/
theorem literalPieces_doubleQuotes (value cs : List Char) :
    literalPieces true (doubleQuotes value ++ cs) =
      (literalPieces true cs).modifyHead (doubleQuotes value ++ ·) := by
  induction value with
  | nil => cases h : literalPieces true cs <;> simp [h]
  | cons c value ih =>
    by_cases hc : c = quoteMark
    · -- the first quote of a pair leads outside and the second one back inside
      subst hc
      simp [literalPieces, ih, List.modifyHead_modifyHead, Function.comp_def]
    · simp [doubleQuotes_cons_of_ne hc, literalPieces, hc, ih, List.modifyHead_modifyHead,
        Function.comp_def]

/-- A literal belongs to the piece that it starts. -/
theorem literalPieces_literal (value cs : List Char) :
    literalPieces false (literal value ++ cs) =
      (literalPieces false cs).modifyHead (literal value ++ ·) := by
  simp [literal, literalPieces, literalPieces_doubleQuotes, List.modifyHead_modifyHead,
    Function.comp_def]

/-- A blank before an item does not count. -/
theorem literalValues_cons_of_blank {c : Char} (hc : isBlank c = true) (cs : List Char) :
    literalValues (c :: cs) = literalValues cs := by
  have hquote : c ≠ quoteMark := fun e => by
    rw [e] at hc
    exact absurd hc (by decide)
  have hcomma : c ≠ ',' := fun e => by
    rw [e] at hc
    exact absurd hc (by decide)
  rw [literalValues, literalValues, literalPieces, if_neg hquote, if_neg fun h => hcomma h.1]
  cases literalPieces false cs with
  | nil => rfl
  | cons first rest => simp [trim_cons_of_blank hc]

/-- A literal alone is read as its value, unless that is empty. -/
theorem literalValues_literal (value : List Char) :
    literalValues (literal value) = [value].filter fun value => !value.isEmpty := by
  have hpieces := literalPieces_literal value []
  rw [List.append_nil] at hpieces
  simp [literalValues, hpieces, literalPieces, trim_literal, unquote_literal]

/-- A literal and a comma in front of a list; an empty value is dropped. -/
theorem literalValues_literal_append (value cs : List Char) :
    literalValues (literal value ++ ',' :: cs) =
      ([value].filter fun value => !value.isEmpty) ++ literalValues cs := by
  have hcomma : ',' ≠ quoteMark := by decide
  rw [literalValues, literalPieces_literal, literalPieces, if_neg hcomma, if_pos ⟨rfl, rfl⟩,
    List.modifyHead_cons, List.append_nil, List.map_cons, trim_literal, unquote_literal,
    ← List.singleton_append, List.filter_append, literalValues]

/-- **Literals one comma and one space apart** are read back as their values, but for those that are
empty. -/
theorem literalValues_joinWith (values : List (List Char)) :
    literalValues (joinWith [',', ' '] (values.map literal)) =
      values.filter fun value => !value.isEmpty := by
  induction values with
  | nil => rfl
  | cons value values ih =>
    cases values with
    | nil => exact literalValues_literal value
    | cons next rest =>
      rw [List.map_cons, List.map_cons, joinWith_cons_cons, List.append_assoc, List.cons_append,
        List.singleton_append, literalValues_literal_append,
        literalValues_cons_of_blank (by decide), ← List.map_cons, ih, ← List.filter_append,
        List.singleton_append]

end SchemaEvolution
