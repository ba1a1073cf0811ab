import SchemaEvolution.Proofs.Text.Nesting

/-! # Layout
The **layout** of a text is what its words do not tell: how many blanks stand between them, and
which ones. Counting characters and cutting at separators outside parentheses read the words only,
though both go through the text character by character. -/

namespace SchemaEvolution

/-! ## Runs of blanks -/

/-- Blanks at the start belong to no word. -/
theorem words_blanks_append {blanks : List Char} (h : ∀ c ∈ blanks, isBlank c = true)
    (cs : List Char) : words (blanks ++ cs) = words cs := by
  induction blanks with
  | nil => rfl
  | cons c blanks ih =>
    rw [List.forall_mem_cons] at h
    rw [List.cons_append, words_cons_of_blank h.1, ih h.2]

/-- Blanks in a row separate the words before them from those behind them. -/
theorem words_append_blanks_append {blanks : List Char} (hne : blanks ≠ [])
    (h : ∀ c ∈ blanks, isBlank c = true) (cs ds : List Char) :
    words (cs ++ blanks ++ ds) = words cs ++ words ds := by
  obtain ⟨c, rest, rfl⟩ := List.exists_cons_of_ne_nil hne
  rw [List.forall_mem_cons] at h
  rw [List.append_assoc, List.cons_append, words_append_cons_of_blank h.1,
    words_blanks_append h.2]

/-- Blanks at the end belong to no word. -/
theorem words_append_blanks {blanks : List Char} (h : ∀ c ∈ blanks, isBlank c = true)
    (cs : List Char) : words (cs ++ blanks) = words cs := by
  cases blanks with
  | nil => rw [List.append_nil]
  | cons c blanks =>
    have hsplit := words_append_blanks_append (List.cons_ne_nil c blanks) h cs []
    rwa [List.append_nil, words_nil, List.append_nil] at hsplit

/-- Trimming changes no word. -/
@[simp] theorem words_trim (cs : List Char) : words (trim cs) = words cs := by
  obtain ⟨front, back, hcs, hfront, hback⟩ := exists_blanks_trim cs
  conv_rhs => rw [hcs, words_append_blanks hback, words_blanks_append hfront]

/-- Trimming leaves nothing of a text without words. -/
theorem trim_eq_nil_iff (cs : List Char) : trim cs = [] ↔ words cs = [] := by
  constructor
  · intro h
    rw [← words_trim, h, words_nil]
  · intro h
    induction cs with
    | nil => rfl
    | cons c cs ih =>
      by_cases hc : isBlank c = true
      · rw [words_cons_of_blank hc] at h
        rw [trim_cons_of_blank hc, ih h]
      · exact absurd h (words_cons_ne_nil (by simpa using hc) cs)

/-! ## Counting -/

/-- The words of a text have all its characters that are no blanks, in the same order. -/
theorem flatten_words (cs : List Char) : (words cs).flatten = cs.filter fun c => !isBlank c := by
  induction cs with
  | nil => simp
  | cons c cs ih =>
    by_cases hc : isBlank c = true
    · rw [words_cons_of_blank hc, ih, List.filter_cons_of_neg (by simp [hc])]
    · have hword : isBlank c = false := by simpa using hc
      rw [List.filter_cons_of_pos (by simp [hword]), ← ih, words_cons_of_not_blank hword]
      -- the character opens a word or joins the next one
      cases cs with
      | nil => simp
      | cons d ds =>
        by_cases hd : isBlank d = true
        · simp [hd, words_cons_of_blank hd]
        · obtain ⟨w, ws, hws⟩ :=
            List.exists_cons_of_ne_nil (words_cons_ne_nil (by simpa using hd) ds)
          simp [hd, hws]

/-- Texts with the same words have the same number of each character that is no blank. -/
theorem count_eq_of_words_eq {cs ds : List Char} (h : words cs = words ds) {c : Char}
    (hc : isBlank c = false) : cs.count c = ds.count c := by
  have hcount : ∀ es : List Char, (words es).flatten.count c = es.count c := fun es => by
    rw [flatten_words, List.count_filter (by simp [hc])]
  rw [← hcount, h, hcount]

/-- Collapsing changes no word. -/
@[simp] theorem words_collapse (cs : List Char) : words (collapse cs) = words cs :=
  words_unwords fun _ => isWord_of_mem_words

/-- Collapsing keeps all characters that are no blanks, in their order. -/
theorem filter_collapse (cs : List Char) :
    ((collapse cs).filter fun c => !isBlank c) = cs.filter fun c => !isBlank c := by
  rw [← flatten_words, words_collapse, flatten_words]

/-! ## Cutting -/

section Cutting

variable {separator : Char}

/-- The words of the pieces of a text. -/
def pieceWords (separator : Char) (depth : Nat) (cs : List Char) : List (List (List Char)) :=
  (piecesOutside separator depth cs).map words

/-- Whether the first piece of a text starts with a word. -/
def startsWord (separator : Char) (depth : Nat) : List Char → Bool
  | [] => false
  | c :: _ => !isBlank c && !decide (c = separator ∧ depth = 0)

/-- The only piece of an empty text has no words. -/
@[simp] theorem pieceWords_nil (separator : Char) (depth : Nat) :
    pieceWords separator depth [] = [[]] := by
  simp [pieceWords]

/-- A separator outside parentheses ends a piece. -/
theorem pieceWords_separator (separator : Char) (cs : List Char) :
    pieceWords separator 0 (separator :: cs) = [] :: pieceWords separator 0 cs := by
  simp [pieceWords, piecesOutside_cons]

/-- A blank at the start belongs to no word of a piece. -/
theorem pieceWords_cons_of_blank (hseparator : isBlank separator = false) {c : Char}
    (hc : isBlank c = true) (depth : Nat) (cs : List Char) :
    pieceWords separator depth (c :: cs) = pieceWords separator depth cs := by
  have hcut : ¬(c = separator ∧ depth = 0) := fun hcut => ne_of_isBlank hc hseparator hcut.1
  rw [pieceWords, piecesOutside_cons, if_neg hcut, depthAfter_of_blank hc, pieceWords]
  cases piecesOutside separator depth cs with
  | nil => rfl
  | cons first rest => simp [words_cons_of_blank hc]

/-- A character that is no blank continues the first word of the first piece, or is a word of its
own. -/
theorem pieceWords_cons {c : Char} (hc : isBlank c = false) {depth : Nat}
    (hcut : ¬(c = separator ∧ depth = 0)) (cs : List Char) :
    pieceWords separator depth (c :: cs) =
      (pieceWords separator (depthAfter depth c) cs).modifyHead fun ws =>
        if startsWord separator (depthAfter depth c) cs then ws.modifyHead (c :: ·)
        else [c] :: ws := by
  rw [pieceWords, piecesOutside_cons, if_neg hcut, pieceWords]
  generalize depthAfter depth c = depth
  cases cs with
  | nil => simp [startsWord, words_cons_of_not_blank hc]
  | cons d ds =>
    rw [piecesOutside_cons]
    -- the word ends with the piece, at a blank, or further on
    by_cases hend : d = separator ∧ depth = 0
    · simp [hend, startsWord, words_cons_of_not_blank hc]
    · obtain ⟨first, rest, hpieces⟩ :=
        List.exists_cons_of_ne_nil (piecesOutside_ne_nil separator (depthAfter depth d) ds)
      rw [if_neg hend, hpieces]
      by_cases hd : isBlank d = true
      · simp [startsWord, hd, words_cons_of_not_blank hc, words_cons_of_blank hd]
      · simp [startsWord, hd, hend, words_cons_of_not_blank hc]

/-- A text without words is collapsed to nothing. -/
theorem collapse_eq_nil {cs : List Char} (h : words cs = []) : collapse cs = [] := by
  rw [collapse, h]
  rfl

/-- A blank at the start is lost in the collapsed text. -/
theorem collapse_cons_of_blank {c : Char} (hc : isBlank c = true) (cs : List Char) :
    collapse (c :: cs) = collapse cs := by
  rw [collapse, words_cons_of_blank hc, collapse]

/-- The first character of a word is the first of the collapsed text. -/
theorem exists_collapse_cons {c : Char} (hc : isBlank c = false) (cs : List Char) :
    ∃ ds, collapse (c :: cs) = c :: ds := by
  cases cs with
  | nil => exact ⟨[], by simp [collapse, words_cons_of_not_blank hc, unwords]⟩
  | cons d ds =>
    by_cases hd : isBlank d = true
    · by_cases hds : words ds = []
      · exact ⟨[], by simp [collapse, words_cons_of_not_blank hc, hd, hds, unwords]⟩
      · exact ⟨_, collapse_cons_cons_of_blank hc hd hds⟩
    · exact ⟨_, collapse_cons_cons_of_not_blank hc (by simpa using hd) ds⟩

/-- What follows the first character of a collapsed text has the same pieces as what follows it in
the text itself, and goes on with the word in the same way. -/
theorem exists_pieceWords_collapse_cons (hseparator : isBlank separator = false) {c : Char}
    (hc : isBlank c = false) {cs : List Char}
    (h : ∀ depth, pieceWords separator depth (collapse cs) = pieceWords separator depth cs) :
    ∃ ds, collapse (c :: cs) = c :: ds ∧ ∀ depth,
      pieceWords separator depth ds = pieceWords separator depth cs ∧
        startsWord separator depth ds = startsWord separator depth cs := by
  cases cs with
  | nil =>
    exact ⟨[], by simp [collapse, words_cons_of_not_blank hc, unwords], fun depth => ⟨rfl, rfl⟩⟩
  | cons d es =>
    by_cases hd : isBlank d = true
    · by_cases hes : words es = []
      · -- there are only blanks behind the word
        refine ⟨[], by simp [collapse, words_cons_of_not_blank hc, hd, hes, unwords],
          fun depth => ⟨?_, by simp [startsWord, hd]⟩⟩
        rw [← h, collapse_cons_of_blank hd, collapse_eq_nil hes]
      · -- there is one space before the next word
        refine ⟨' ' :: collapse es, collapse_cons_cons_of_blank hc hd hes, fun depth => ⟨?_, ?_⟩⟩
        · rw [pieceWords_cons_of_blank hseparator (by decide), ← h, collapse_cons_of_blank hd]
        · have hspace : isBlank ' ' = true := by decide
          simp [startsWord, hd, hspace]
    · -- the word goes on
      have hword : isBlank d = false := by simpa using hd
      obtain ⟨fs, hfs⟩ := exists_collapse_cons hword es
      exact ⟨collapse (d :: es), collapse_cons_cons_of_not_blank hc hword es,
        fun depth => ⟨h depth, by rw [hfs]; rfl⟩⟩

/-- **Collapsing changes no word of a piece.** -/
theorem pieceWords_collapse (hseparator : isBlank separator = false) (depth : Nat)
    (cs : List Char) :
    pieceWords separator depth (collapse cs) = pieceWords separator depth cs := by
  induction cs generalizing depth with
  | nil => rfl
  | cons c cs ih =>
    by_cases hc : isBlank c = true
    · rw [collapse_cons_of_blank hc, ih, pieceWords_cons_of_blank hseparator hc]
    · have hword : isBlank c = false := by simpa using hc
      obtain ⟨ds, hcollapse, hds⟩ := exists_pieceWords_collapse_cons hseparator hword ih
      rw [hcollapse]
      by_cases hcut : c = separator ∧ depth = 0
      · obtain ⟨rfl, rfl⟩ := hcut
        rw [pieceWords_separator, pieceWords_separator, (hds 0).1]
      · rw [pieceWords_cons hword hcut, pieceWords_cons hword hcut, (hds _).1, (hds _).2]

/-- The collapsed fragments of a text are made of the words of its pieces. -/
theorem map_collapse_splitOutside (separator : Char) (cs : List Char) :
    (splitOutside separator cs).map collapse =
      ((pieceWords separator 0 cs).filter fun ws => !ws.isEmpty).map unwords := by
  have hempty : ∀ piece : List Char, (trim piece).isEmpty = (words piece).isEmpty := fun piece => by
    rw [Bool.eq_iff_iff, List.isEmpty_iff, List.isEmpty_iff, trim_eq_nil_iff]
  rw [splitOutside, pieceWords, List.filter_map, List.filter_map, List.map_map, List.map_map]
  simp only [Function.comp_def, hempty, collapse, words_trim]

/-- **The collapsed fragments of a text depend on its words only.** -/
theorem map_collapse_splitOutside_of_words_eq (hseparator : isBlank separator = false)
    {cs ds : List Char} (h : words cs = words ds) :
    (splitOutside separator cs).map collapse = (splitOutside separator ds).map collapse := by
  rw [map_collapse_splitOutside, map_collapse_splitOutside, ← pieceWords_collapse hseparator 0 cs,
    ← pieceWords_collapse hseparator 0 ds, collapse, h, collapse]

end Cutting

/-! ## Parentheses -/

/-- Blanks open and close no parentheses. -/
theorem openAfter?_filter (depth : Nat) (cs : List Char) :
    openAfter? depth (cs.filter fun c => !isBlank c) = openAfter? depth cs := by
  induction cs generalizing depth with
  | nil => rfl
  | cons c cs ih =>
    by_cases hc : isBlank c = true
    -- a blank is no parenthesis
    · have hclose : c ≠ ')' := ne_of_isBlank hc (by decide)
      have hstep : openAfterChar? depth c = some depth := by
        rw [openAfterChar?, if_neg fun h => hclose h.1, depthAfter_of_blank hc]
      rw [List.filter_cons_of_neg (by simp [hc]), ih, openAfter?, openAfter?, List.foldlM_cons,
        hstep]
      rfl
    · rw [List.filter_cons_of_pos (by simpa using hc)]
      simp only [openAfter?, List.foldlM_cons] at ih ⊢
      cases openAfterChar? depth c with
      | none => rfl
      | some next => exact ih next

/-- Texts with the same words are well nested together. -/
theorem wellNested_iff_of_words_eq {cs ds : List Char} (h : words cs = words ds) :
    WellNested cs ↔ WellNested ds := by
  have hkept : (cs.filter fun c => !isBlank c) = ds.filter fun c => !isBlank c := by
    rw [← flatten_words, h, flatten_words]
  rw [WellNested, WellNested, ← openAfter?_filter, hkept, openAfter?_filter]

/-- A text in parentheses is collapsed to a text in parentheses, and nothing but blanks is lost
between them. -/
theorem exists_collapse_enclosed (body : List Char) :
    ∃ inner, collapse ('(' :: (body ++ [')'])) = '(' :: (inner ++ [')']) ∧
      (inner.filter fun c => !isBlank c) = body.filter fun c => !isBlank c := by
  have hopen : isBlank '(' = false := by decide
  have hclose : isBlank ')' = false := by decide
  have htidy := tidy_collapse ('(' :: (body ++ [')']))
  have hkept := filter_collapse ('(' :: (body ++ [')']))
  obtain ⟨rest, hrest⟩ := exists_collapse_cons hopen (body ++ [')'])
  rw [hrest] at htidy hkept ⊢
  simp only [List.filter_cons, List.filter_append, List.filter_nil, hopen, hclose, Bool.not_false,
    if_true, List.cons_inj_right] at hkept
  -- the last character is no blank, so it is the parenthesis
  rcases List.eq_nil_or_concat' rest with rfl | ⟨inner, c, rfl⟩
  · simp at hkept
  · have hlast : ('(' :: (inner ++ [c])).getLast? = some c := by
      rw [← List.cons_append, List.getLast?_concat]
    have hc : isBlank c = false := htidy.last c hlast
    simp only [List.filter_append, List.filter_cons, List.filter_nil, hc, Bool.not_false,
      if_true] at hkept
    obtain ⟨hinner, hend⟩ := List.append_inj' hkept rfl
    obtain rfl := List.singleton_inj.mp hend
    exact ⟨inner, rfl, hinner⟩

/-- A well-nested text in parentheses stays one when it is collapsed. -/
theorem WellNested.exists_collapse_enclosed {body : List Char} (h : WellNested body) :
    ∃ inner, WellNested inner ∧ collapse ('(' :: (body ++ [')'])) = '(' :: (inner ++ [')']) := by
  obtain ⟨inner, hcollapse, hkept⟩ := SchemaEvolution.exists_collapse_enclosed body
  refine ⟨inner, ?_, hcollapse⟩
  rw [WellNested, ← openAfter?_filter, hkept, openAfter?_filter]
  exact h

end SchemaEvolution
