import Mathlib.Data.List.TakeWhile
import Mathlib.Order.Bounds.Basic
import SchemaEvolution.Proofs.Declaration.Statement

/-! # The grammar of column clauses
A clause is read from left to right, one or two words at a time. Here its reading is given by the
places of its words instead: where the type ends, where the default begins, and where a `NOT` stands
before a `NULL`. Each clause has exactly one reading by places, and that is the one the reader
makes. -/

namespace SchemaEvolution

variable {test : List Char → Bool} {ws front back : List (List Char)} {name word : List Char}
  {place start : ℕ}

/-! ## Places of words -/

/-- A word that passes a test stands at a place. -/
def PassesAt (test : List Char → Bool) (ws : List (List Char)) (place : ℕ) : Prop :=
  ∃ word, ws[place]? = some word ∧ test word = true

/-- The **first place** behind the name of a column at which a word passes a test. -/
def FirstPlace (test : List Char → Bool) (ws : List (List Char)) (place : ℕ) : Prop :=
  IsLeast {i | 1 ≤ i ∧ PassesAt test ws i} place

/-- Among no words there is none that passes. -/
@[simp] theorem not_passesAt_nil : ¬PassesAt test [] place := by
  simp [PassesAt]

/-- The word at the first place is the first word. -/
@[simp] theorem passesAt_cons_zero : PassesAt test (word :: ws) 0 ↔ test word = true := by
  simp [PassesAt]

/-- The word at a later place is a word of the rest. -/
@[simp] theorem passesAt_cons_succ : PassesAt test (word :: ws) (place + 1) ↔
    PassesAt test ws place := by
  simp [PassesAt]

/-- A word that passes has its place among the words. -/
theorem PassesAt.lt_length (h : PassesAt test ws place) : place < ws.length := by
  obtain ⟨word, hword, -⟩ := h
  exact (List.getElem?_eq_some_iff.mp hword).1

/-- What stands at the places of a list does not depend on what follows the list. -/
theorem passesAt_append_left (h : place < front.length) :
    PassesAt test (front ++ back) place ↔ PassesAt test front place := by
  simp only [PassesAt, List.getElem?_append_left h]

/-- Where no word passes, none does at any place. -/
theorem not_passesAt_of_forall (h : ∀ word ∈ ws, test word = false) : ¬PassesAt test ws place := by
  rintro ⟨word, hword, htest⟩
  rw [h word (List.mem_of_getElem? hword)] at htest
  exact absurd htest Bool.false_ne_true

/-- There is one first place. -/
theorem FirstPlace.unique {other : ℕ} (h : FirstPlace test ws place)
    (hother : FirstPlace test ws other) : place = other :=
  IsLeast.unique h hother

/-- The first place of a test is where the words that fail it end. -/
theorem firstPlace_of_split (hfront : ∀ word ∈ front, test word = false)
    (hword : test word = true) :
    FirstPlace test (name :: (front ++ word :: back)) (front.length + 1) := by
  constructor
  · exact ⟨by omega, word, by simp, hword⟩
  · rintro i ⟨hpos, hpass⟩
    obtain ⟨j, rfl⟩ : ∃ j, i = j + 1 := ⟨i - 1, by omega⟩
    by_contra hlt
    rw [passesAt_cons_succ, passesAt_append_left (by omega)] at hpass
    exact not_passesAt_of_forall hfront hpass

/-- Without a word that passes a test there is no first place of it. -/
theorem not_firstPlace_of_forall (h : ∀ word ∈ ws, test word = false) :
    ¬FirstPlace test (name :: ws) place := by
  rintro ⟨⟨hpos, hpass⟩, -⟩
  obtain ⟨j, rfl⟩ : ∃ j, place = j + 1 := ⟨place - 1, by omega⟩
  exact not_passesAt_of_forall h (passesAt_cons_succ.mp hpass)

/-- A list of words passes a test nowhere, or it is split at the first word that passes it. -/
theorem forall_or_split (test : List Char → Bool) (ws : List (List Char)) :
    (∀ word ∈ ws, test word = false) ∨
      ∃ front word back, ws = front ++ word :: back ∧ (∀ word ∈ front, test word = false) ∧
        test word = true := by
  cases hfound : ws.find? test with
  | none => exact .inl (by simpa using List.find?_eq_none.mp hfound)
  | some word =>
    obtain ⟨hword, front, back, hsplit, hfront⟩ := List.find?_eq_some_iff_append.mp hfound
    exact .inr ⟨front, word, back, hsplit, by simpa using hfront, hword⟩

/-- The words before and behind a first place. -/
theorem FirstPlace.exists_split (h : FirstPlace test ws start) :
    ∃ name front word back, ws = name :: (front ++ word :: back) ∧ front.length + 1 = start ∧
      (∀ word ∈ front, test word = false) ∧ test word = true := by
  cases ws with
  | nil => exact absurd h.1.2 not_passesAt_nil
  | cons name tail =>
    obtain hnone | ⟨front, word, back, rfl, hfront, hword⟩ := forall_or_split test tail
    · exact absurd h (not_firstPlace_of_forall hnone)
    · have hplace := (firstPlace_of_split hfront hword).unique h
      exact ⟨name, front, word, back, rfl, hplace, hfront, hword⟩

/-! ## The grammar -/

/-- What a clause with the words `ws` **says** of its column. -/
structure Describes (ws : List (List Char)) (column : Column) : Prop where
  /-- The first word is the name. -/
  name : ws[0]? = some column.name.toList
  /-- The type is made of the words before the first qualifier word. -/
  dataType : ∀ stop, FirstPlace isQualifierWord ws stop →
    column.dataType = wordText ((ws.take stop).drop 1)
  /-- Without a qualifier word all other words are the type. -/
  dataType_all : (∀ stop, ¬FirstPlace isQualifierWord ws stop) →
    column.dataType = wordText (ws.drop 1)
  /-- Null is forbidden by a `NOT` right before a `NULL`, both before the first `DEFAULT`. -/
  notNull : column.notNull = true ↔ ∃ i, 1 ≤ i ∧ PassesAt (isKeyword "NOT") ws i ∧
    PassesAt (isKeyword "NULL") ws (i + 1) ∧
      ∀ start, FirstPlace (isKeyword "DEFAULT") ws start → i + 1 < start
  /-- The default is made of all words behind the first `DEFAULT`. -/
  defaultValue : ∀ start, FirstPlace (isKeyword "DEFAULT") ws start →
    column.defaultValue = some (wordText (ws.drop (start + 1)))
  /-- Without a `DEFAULT` there is no default. -/
  defaultValue_none : (∀ start, ¬FirstPlace (isKeyword "DEFAULT") ws start) →
    column.defaultValue = none

/-- The **readings** of a clause of a table by the places of its words. -/
inductive Column.Reading (table : String) (clause : List Char) : Except ReadError Column → Prop
  /-- A clause of fewer than two words is malformed. -/
  | malformed (short : (words clause).length < 2) :
    Reading table clause (.error (.malformedColumn table (String.ofList clause)))
  /-- A qualifier word follows the name. -/
  | missingType (name : List Char) (named : (words clause)[0]? = some name)
    (untyped : PassesAt isQualifierWord (words clause) 1) :
    Reading table clause (.error (.missingType table (String.ofList name)))
  /-- The first `DEFAULT` is the last word. -/
  | missingDefault (name : List Char) (start : ℕ) (named : (words clause)[0]? = some name)
    (typed : ¬PassesAt isQualifierWord (words clause) 1)
    (announced : FirstPlace (isKeyword "DEFAULT") (words clause) start)
    (unvalued : start + 1 = (words clause).length) :
    Reading table clause (.error (.missingDefault table (String.ofList name)))
  /-- In all other cases the clause describes a column. -/
  | column (column : Column) (long : 2 ≤ (words clause).length)
    (typed : ¬PassesAt isQualifierWord (words clause) 1)
    (valued : ∀ start, FirstPlace (isKeyword "DEFAULT") (words clause) start →
      start + 1 < (words clause).length)
    (described : Describes (words clause) column) : Reading table clause (.ok column)

/-- A clause describes one column at most. -/
theorem Describes.unique {column other : Column} (h : Describes ws column)
    (hother : Describes ws other) : column = other := by
  have hname : column.name = other.name := by
    rw [String.ext_iff, ← Option.some_inj, ← h.name, hother.name]
  have htype : column.dataType = other.dataType := by
    by_cases hstop : ∃ stop, FirstPlace isQualifierWord ws stop
    · obtain ⟨stop, hstop⟩ := hstop
      rw [h.dataType stop hstop, hother.dataType stop hstop]
    · rw [h.dataType_all (not_exists.mp hstop), hother.dataType_all (not_exists.mp hstop)]
  have hnull : column.notNull = other.notNull := by
    rw [Bool.eq_iff_iff, h.notNull, hother.notNull]
  have hdefault : column.defaultValue = other.defaultValue := by
    by_cases hstart : ∃ start, FirstPlace (isKeyword "DEFAULT") ws start
    · obtain ⟨start, hstart⟩ := hstart
      rw [h.defaultValue start hstart, hother.defaultValue start hstart]
    · rw [h.defaultValue_none (not_exists.mp hstart),
        hother.defaultValue_none (not_exists.mp hstart)]
  cases column
  cases other
  congr

namespace Column

variable {table : String} {clause : List Char}

/-- **A clause has one reading at most.** -/
theorem Reading.unique {result other : Except ReadError Column} (h : Reading table clause result)
    (hother : Reading table clause other) : result = other := by
  -- two readings of different kinds contradict each other in the length or in the words
  cases h with
  | malformed short =>
    cases hother with
    | malformed => rfl
    | missingType name named untyped => have := untyped.lt_length; omega
    | missingDefault name start named typed announced unvalued =>
      have := announced.1.1
      omega
    | column column long typed valued described => omega
  | missingType name named untyped =>
    cases hother with
    | malformed short => have := untyped.lt_length; omega
    | missingType other hother => rw [Option.some_inj.mp (named.symm.trans hother)]
    | missingDefault other start hother typed => exact absurd untyped typed
    | column column long typed => exact absurd untyped typed
  | missingDefault name start named typed announced unvalued =>
    cases hother with
    | malformed short => have := announced.1.1; omega
    | missingType other hother untyped => exact absurd untyped typed
    | missingDefault other start hother => rw [Option.some_inj.mp (named.symm.trans hother)]
    | column column long typed valued => have := valued start announced; omega
  | column column long typed valued described =>
    cases hother with
    | malformed short => omega
    | missingType name named untyped => exact absurd untyped typed
    | missingDefault name start named typed announced unvalued =>
      have := valued start announced
      omega
    | column other long typed valued hother => rw [described.unique hother]

end Column

/-! ## Qualifiers behind the type -/

/-- A word that does not qualify a column is no keyword of the qualifiers. -/
theorem not_isKeyword_of_unqualified (h : isQualifierWord word = false) :
    isKeyword "NOT" word = false ∧ isKeyword "DEFAULT" word = false := by
  simp only [isQualifierWord, isAnyKeyword, List.any_cons, Bool.or_eq_false_iff] at h
  exact ⟨h.2.1, h.1⟩

/-- The word `DEFAULT` is a qualifier. -/
theorem isQualifierWord_of_default (h : isKeyword "DEFAULT" word = true) :
    isQualifierWord word = true := by
  simp [isQualifierWord, isAnyKeyword, h]

/-- The word `DEFAULT` is no keyword of another length. -/
theorem not_isKeyword_of_default {keyword : String} (h : isKeyword "DEFAULT" word = true)
    (hlength : keyword.toList.length ≠ 7) : isKeyword keyword word = false := by
  by_contra hkeyword
  have hword := length_of_isKeyword (Bool.eq_true_of_not_eq_false hkeyword)
  rw [length_of_isKeyword h] at hword
  exact hlength hword.symm

namespace Qualifiers

/-- A word of the type says nothing as a qualifier. -/
theorem ofWords_cons_of_unqualified (h : isQualifierWord word = false) (ws : List (List Char)) :
    ofWords (word :: ws) = ofWords ws := by
  obtain ⟨hnot, hdefault⟩ := not_isKeyword_of_unqualified h
  cases ws <;> simp [ofWords, hnot, hdefault]

/-- The words of the type say nothing as qualifiers. -/
theorem ofWords_dropWhile (ws : List (List Char)) :
    ofWords (ws.dropWhile fun word => !isQualifierWord word) = ofWords ws := by
  induction ws with
  | nil => rfl
  | cons word ws ih =>
    cases hword : isQualifierWord word with
    | true => rw [List.dropWhile_cons_of_neg (by simp [hword])]
    | false =>
      rw [List.dropWhile_cons_of_pos (by simp [hword]), ih, ofWords_cons_of_unqualified hword]

/-- A `DEFAULT` takes all words behind it. -/
theorem ofWords_cons_of_default (h : isKeyword "DEFAULT" word = true) (ws : List (List Char)) :
    ofWords (word :: ws) = ⟨false, some ws⟩ := by
  have hnot : isKeyword "NOT" word = false := not_isKeyword_of_default h (by decide)
  cases ws <;> simp [ofWords, hnot, h]

/-- Words without a `DEFAULT` state no default. -/
theorem ofWords_of_no_default (h : ∀ word ∈ ws, isKeyword "DEFAULT" word = false) :
    ofWords ws = ⟨(ofWords ws).notNull, none⟩ := by
  fun_induction ofWords ws with
  | case1 => rfl
  | case2 word => simp [h word]
  | case3 word next rest hban _ ih =>
    show (⟨true, (ofWords rest).defaultWords⟩ : Qualifiers) = ⟨true, none⟩
    rw [ih (List.forall_mem_of_forall_mem_cons (List.forall_mem_of_forall_mem_cons h))]
  | case4 word next rest hban hdefault => exact absurd hdefault (by simp [h word])
  | case5 word next rest hban hdefault ih => exact ih (List.forall_mem_of_forall_mem_cons h)

/-- The first `DEFAULT` takes all words behind it, and what stands before it counts alone. -/
theorem ofWords_append_default (hfront : ∀ word ∈ front, isKeyword "DEFAULT" word = false)
    (hword : isKeyword "DEFAULT" word = true) :
    ofWords (front ++ word :: back) = ⟨(ofWords front).notNull, some back⟩ := by
  fun_induction ofWords front with
  | case1 => exact ofWords_cons_of_default hword back
  | case2 last =>
    have hnull : isKeyword "NULL" word = false := not_isKeyword_of_default hword (by decide)
    have hlast : isKeyword "DEFAULT" last = false := hfront last List.mem_cons_self
    simp [ofWords, hnull, hlast, ofWords_cons_of_default hword]
  | case3 first next rest hban _ ih =>
    have hrest :=
      ih (List.forall_mem_of_forall_mem_cons (List.forall_mem_of_forall_mem_cons hfront))
    simp [ofWords, hban, hrest]
  -- no word in front is `DEFAULT`
  | case4 first next rest hban hdefault => exact absurd hdefault (by simp [hfront first])
  | case5 first next rest hban hdefault ih =>
    have hrest := ih (List.forall_mem_of_forall_mem_cons hfront)
    rw [List.cons_append] at hrest
    simp [ofWords, hban, hdefault, hrest]

/-- Words without a `DEFAULT` forbid null if a `NOT` stands right before a `NULL` in them. -/
theorem notNull_ofWords_iff (h : ∀ word ∈ ws, isKeyword "DEFAULT" word = false) :
    (ofWords ws).notNull = true ↔
      ∃ i, PassesAt (isKeyword "NOT") ws i ∧ PassesAt (isKeyword "NULL") ws (i + 1) := by
  fun_induction ofWords ws with
  | case1 => simp
  | case2 word => simp
  | case3 word next rest hban _ ih =>
    -- the first two words forbid null
    rw [Bool.and_eq_true] at hban
    simpa using ⟨0, by simpa using hban.1, by simpa using hban.2⟩
  | case4 word next rest hban hdefault => exact absurd hdefault (by simp [h word])
  | case5 word next rest hban hdefault ih =>
    -- the first two words do not, so the places move on by one
    rw [ih (List.forall_mem_of_forall_mem_cons h)]
    constructor
    · rintro ⟨i, hnot, hnull⟩
      exact ⟨i + 1, by simpa using hnot, by simpa using hnull⟩
    · rintro ⟨i, hnot, hnull⟩
      cases i with
      | zero =>
        rw [passesAt_cons_zero] at hnot
        rw [passesAt_cons_succ, passesAt_cons_zero] at hnull
        exact absurd (by rw [hnot, hnull]; rfl) hban
      | succ i => exact ⟨i, by simpa using hnot, by simpa using hnull⟩

end Qualifiers

namespace Column

/-! ## The reader follows the grammar -/

/-- The words of the type in the words behind a name. -/
def typeWords (ws : List (List Char)) : List (List Char) :=
  ws.takeWhile fun word => !isQualifierWord word

/-- A type has no words exactly when a qualifier stands in its place. -/
theorem isEmpty_typeWords_cons (word : List Char) (ws : List (List Char)) :
    (typeWords (word :: ws)).isEmpty = isQualifierWord word := by
  cases h : isQualifierWord word <;> simp [typeWords, h]

/-- The type ends where a qualifier word stands. -/
theorem typeWords_append (hword : isQualifierWord word = true) :
    typeWords (front ++ word :: back) = typeWords front := by
  induction front with
  | nil => simp [typeWords, hword]
  | cons first front ih =>
    unfold typeWords at ih ⊢
    rw [List.cons_append, List.takeWhile_cons, List.takeWhile_cons, ih]

/-- Words among which there is no qualifier are all of the type. -/
theorem typeWords_eq_self (h : ∀ word ∈ ws, isQualifierWord word = false) : typeWords ws = ws := by
  exact List.takeWhile_eq_self_iff.mpr (by simpa using h)

/-- The words before the first qualifier word are those of the type. -/
theorem typeWords_of_firstPlace {stop : ℕ} (h : FirstPlace isQualifierWord (name :: ws) stop) :
    typeWords ws = ((name :: ws).take stop).drop 1 := by
  obtain ⟨_, front, word, back, hsplit, rfl, hfront, hword⟩ := h.exists_split
  obtain ⟨rfl, rfl⟩ := List.cons.inj hsplit
  rw [typeWords_append hword, typeWords_eq_self hfront]
  simp

/-- Without a qualifier word all words are those of the type. -/
theorem typeWords_of_no_place (h : ∀ stop, ¬FirstPlace isQualifierWord (name :: ws) stop) :
    typeWords ws = ws := by
  obtain hnone | ⟨front, word, back, rfl, hfront, hword⟩ := forall_or_split isQualifierWord ws
  · exact typeWords_eq_self hnone
  · exact absurd (firstPlace_of_split hfront hword) (h _)

/-- What a reader makes of a clause, from the words behind its name. -/
theorem ofClause_of_words (table : String) (hwords : words clause = name :: ws) (hws : ws ≠ []) :
    ofClause table clause =
      if (typeWords ws).isEmpty then .error (.missingType table (String.ofList name))
      else ofParts table name (typeWords ws) (Qualifiers.ofWords ws) := by
  obtain ⟨next, rest, rfl⟩ := List.exists_cons_of_ne_nil hws
  rw [ofClause, hwords]
  simp only [Qualifiers.ofWords_dropWhile]
  rfl

/-- A clause without a `DEFAULT` describes the column that is read. -/
theorem describes_of_no_default (h : ∀ word ∈ ws, isKeyword "DEFAULT" word = false) :
    Describes (name :: ws) ⟨String.ofList name, wordText (typeWords ws),
      (Qualifiers.ofWords ws).notNull, none⟩ where
  name := by simp
  dataType stop hstop := by rw [typeWords_of_firstPlace hstop]
  dataType_all hstop := by rw [typeWords_of_no_place hstop, List.drop_one, List.tail_cons]
  notNull := by
    rw [Qualifiers.notNull_ofWords_iff h]
    constructor
    · rintro ⟨i, hnot, hnull⟩
      exact ⟨i + 1, by omega, by simpa using hnot, by simpa using hnull,
        fun start hstart => absurd hstart (not_firstPlace_of_forall h)⟩
    · rintro ⟨i, hpos, hnot, hnull, -⟩
      obtain ⟨j, rfl⟩ : ∃ j, i = j + 1 := ⟨i - 1, by omega⟩
      exact ⟨j, by simpa using hnot, by simpa using hnull⟩
  defaultValue start hstart := absurd hstart (not_firstPlace_of_forall h)
  defaultValue_none _ := rfl

/-- A clause with a `DEFAULT` describes the column that is read. -/
theorem describes_of_default (hfront : ∀ word ∈ front, isKeyword "DEFAULT" word = false)
    (hword : isKeyword "DEFAULT" word = true) :
    Describes (name :: (front ++ word :: back)) ⟨String.ofList name,
      wordText (typeWords (front ++ word :: back)), (Qualifiers.ofWords front).notNull,
      some (wordText back)⟩ where
  name := by simp
  dataType stop hstop := by rw [typeWords_of_firstPlace hstop]
  dataType_all hstop := by rw [typeWords_of_no_place hstop, List.drop_one, List.tail_cons]
  notNull := by
    have hfirst : FirstPlace (isKeyword "DEFAULT") (name :: (front ++ word :: back))
        (front.length + 1) := firstPlace_of_split hfront hword
    -- a word of the clause stands one place further on than behind the name
    rw [Qualifiers.notNull_ofWords_iff hfront]
    constructor
    · rintro ⟨i, hnot, hnull⟩
      have hlt := hnull.lt_length
      refine ⟨i + 1, by omega, ?_, ?_, fun start hstart => ?_⟩
      · rwa [passesAt_cons_succ, passesAt_append_left (by omega)]
      · rwa [passesAt_cons_succ, passesAt_append_left hlt]
      · rw [← hfirst.unique hstart]
        omega
    · rintro ⟨i, hpos, hnot, hnull, hbefore⟩
      obtain ⟨j, rfl⟩ : ∃ j, i = j + 1 := ⟨i - 1, by omega⟩
      have hlt := hbefore _ hfirst
      rw [passesAt_cons_succ, passesAt_append_left (by omega)] at hnot hnull
      exact ⟨j, hnot, hnull⟩
  defaultValue start hstart := by
    rw [← (firstPlace_of_split hfront hword).unique hstart]
    simp
  defaultValue_none hnone := absurd (firstPlace_of_split hfront hword) (hnone _)

/-- **The reader makes a reading.** -/
theorem reading_ofClause (table : String) (clause : List Char) :
    Reading table clause (ofClause table clause) := by
  match hwords : words clause with
  | [] =>
    rw [ofClause, hwords]
    exact .malformed (by simp [hwords])
  | [name] =>
    rw [ofClause, hwords]
    exact .malformed (by simp [hwords])
  | name :: next :: rest =>
    have hnamed : (words clause)[0]? = some name := by rw [hwords]; rfl
    rw [ofClause_of_words table hwords (List.cons_ne_nil _ _), isEmpty_typeWords_cons]
    -- a qualifier behind the name leaves no room for a type
    cases hnext : isQualifierWord next with
    | true => exact .missingType name hnamed (by simpa [hwords] using hnext)
    | false =>
      have htyped : ¬PassesAt isQualifierWord (words clause) 1 := by simp [hwords, hnext]
      rw [if_neg Bool.false_ne_true]
      -- the words behind the name are cut at the first `DEFAULT`, if there is one
      obtain hnone | ⟨front, word, back, hsplit, hfront, hword⟩ :=
        forall_or_split (isKeyword "DEFAULT") (next :: rest)
      · rw [Qualifiers.ofWords_of_no_default hnone]
        refine .column _ (by simp [hwords]) htyped (fun start hstart => ?_) ?_
        · rw [hwords] at hstart
          exact absurd hstart (not_firstPlace_of_forall hnone)
        · rw [hwords]
          exact describes_of_no_default hnone
      · have hfirst : FirstPlace (isKeyword "DEFAULT") (words clause) (front.length + 1) := by
          rw [hwords, hsplit]
          exact firstPlace_of_split hfront hword
        have hlength : (words clause).length = front.length + back.length + 2 := by
          rw [hwords, hsplit]
          simp [Nat.add_assoc]
        rw [hsplit, Qualifiers.ofWords_append_default hfront hword]
        cases back with
        | nil => exact .missingDefault name _ hnamed htyped hfirst (by simpa using hlength.symm)
        | cons value values =>
          refine .column _ (by omega) htyped (fun start hstart => ?_) ?_
          · rw [← hfirst.unique hstart, hlength, List.length_cons]
            omega
          · rw [hwords, hsplit]
            exact describes_of_default hfront hword

/-! ## Behind the first `DEFAULT` -/

/-- A column without its default. -/
def withoutDefault (column : Column) : Column := { column with defaultValue := none }

/-- What a reader makes of a clause with a default, but for the default. -/
theorem map_withoutDefault_ofClause (table : String)
    (hwords : words clause = name :: (front ++ word :: back))
    (hfront : ∀ word ∈ front, isKeyword "DEFAULT" word = false)
    (hword : isKeyword "DEFAULT" word = true) (hback : back ≠ []) :
    (ofClause table clause).map withoutDefault =
      if (typeWords front).isEmpty then .error (.missingType table (String.ofList name))
      else .ok ⟨String.ofList name, wordText (typeWords front),
        (Qualifiers.ofWords front).notNull, none⟩ := by
  obtain ⟨value, values, rfl⟩ := List.exists_cons_of_ne_nil hback
  rw [ofClause_of_words table hwords (by simp), Qualifiers.ofWords_append_default hfront hword,
    typeWords_append (isQualifierWord_of_default hword)]
  split <;> rfl

end Column

/-- **The reader of column clauses follows the grammar**: what it makes of a clause is the one
reading of it, and the words behind the first `DEFAULT` make the default and nothing else. -/
theorem ofClause_eq_iff_reading (table : String) (clause : List Char) :
    (∀ result, Column.ofClause table clause = result ↔ Column.Reading table clause result) ∧
      ∀ (other : List Char) (start : ℕ), FirstPlace (isKeyword "DEFAULT") (words clause) start →
        (words other).take (start + 1) = (words clause).take (start + 1) →
        start + 1 < (words clause).length → start + 1 < (words other).length →
          (Column.ofClause table other).map Column.withoutDefault =
            (Column.ofClause table clause).map Column.withoutDefault := by
  constructor
  · intro result
    constructor
    · rintro rfl
      exact Column.reading_ofClause table clause
    · exact fun h => (Column.reading_ofClause table clause).unique h
  · intro other start hstart hshared hlong hlongOther
    obtain ⟨name, front, word, back, hwords, hlength, hfront, hword⟩ := hstart.exists_split
    subst hlength
    have htaken : (words clause).take (front.length + 1 + 1) = name :: (front ++ [word]) := by
      rw [hwords]
      simp [List.take_append, List.take_of_length_le]
    -- the other clause has other words behind the `DEFAULT` only
    have hother : words other =
        name :: (front ++ word :: (words other).drop (front.length + 1 + 1)) := by
      conv_lhs => rw [← List.take_append_drop (front.length + 1 + 1) (words other)]
      rw [hshared, htaken]
      simp
    have hback : back ≠ [] := by
      rintro rfl
      rw [hwords] at hlong
      simp at hlong
    have hbackOther : (words other).drop (front.length + 1 + 1) ≠ [] := by
      rw [Ne, List.drop_eq_nil_iff]
      omega
    rw [Column.map_withoutDefault_ofClause table hwords hfront hword hback,
      Column.map_withoutDefault_ofClause table hother hfront hword hbackOther]

namespace Sample

/-- A clause with blanks of several kinds and keywords in several cases; its type ends at a check.
-/
def checkedClause : List Char :=
  "total$\u3000double\u2028precision check Not nuLL default 1 CHECK".toList

/-- The words of that clause up to its default. -/
def checkedFront : List (List Char) :=
  ["total$", "double", "precision", "check", "Not", "nuLL"].map String.toList

/-- The column of that clause. -/
def checkedColumn : Column := ⟨"total$", "double precision", true, some "1 CHECK"⟩

end Sample

/-- A sample clause is read by the places of its words, and the words behind its `DEFAULT` do not
touch its ban on null. The word `NULL` ends a type, and behind a name it stands in its place. -/
theorem sample_clause_reading :
    Column.ofClause "t" Sample.checkedClause = .ok Sample.checkedColumn ∧
      Column.Reading "t" Sample.checkedClause (.ok Sample.checkedColumn) ∧
      (Column.ofClause "t" "total$ double precision check Not nuLL default NULL".toList).map
          Column.withoutDefault = .ok ⟨"total$", "double precision", true, none⟩ ∧
      Column.Reading "t" "id INT NULL".toList (.ok ⟨"id", "INT", false, none⟩) ∧
      Column.Reading "t" "id null INT".toList (.error (.missingType "t" "id")) := by
  have hclause : Column.ofClause "t" Sample.checkedClause = .ok Sample.checkedColumn := by
    decide +kernel
  have hsplit : words Sample.checkedClause = "total$".toList ::
      (Sample.checkedFront.tail ++ "default".toList :: ["1".toList, "CHECK".toList]) := by
    decide +kernel
  have hfirst : FirstPlace (isKeyword "DEFAULT") (words Sample.checkedClause) 6 := by
    rw [hsplit]
    exact firstPlace_of_split (by decide) (by decide)
  have hrest := (ofClause_eq_iff_reading "t" Sample.checkedClause).2
    "total$ double precision check Not nuLL default NULL".toList 6 hfirst (by decide +kernel)
    (by decide +kernel) (by decide +kernel)
  refine ⟨hclause, ((ofClause_eq_iff_reading "t" _).1 _).mp hclause, ?_,
    ((ofClause_eq_iff_reading "t" _).1 _).mp (by decide +kernel),
    ((ofClause_eq_iff_reading "t" _).1 _).mp (by decide +kernel)⟩
  rw [hrest, hclause]
  rfl

end SchemaEvolution
