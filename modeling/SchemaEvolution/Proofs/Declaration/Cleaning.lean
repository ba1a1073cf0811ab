import SchemaEvolution.Declaration.Reader
import SchemaEvolution.Proofs.Text.Layout
import SchemaEvolution.Proofs.Text.Lines

/-! # What cleaning keeps
A text is cleaned line by line, so the words that are left of it are those that are left of each of
its lines. The carriage returns of line breaks and the blanks at both ends are lost, but no word
with them: where only the words matter, the text that is **stripped** of its comments and name
delimiters stands for the cleaned one. -/

namespace SchemaEvolution

/-! ## Comments -/

/-- A line in which no comment starts is kept. -/
theorem beforeComment_eq_self {cs : List Char} (h : Apart (· == '-') cs) :
    beforeComment cs = cs := by
  induction cs with
  | nil => rfl
  | cons c cs ih =>
    cases cs with
    | nil => rfl
    | cons d ds =>
      have hcd : ¬(c = '-' ∧ d = '-') := by simpa using List.rel_of_isChain_cons_cons h
      rw [beforeComment, if_neg hcd, ih h.tail]

/-- Another character than a dash at the end of a line starts no comment. -/
theorem beforeComment_concat {c : Char} (hc : c ≠ '-') (line : List Char) :
    beforeComment (line ++ [c]) = beforeComment line ∨
      beforeComment (line ++ [c]) = beforeComment line ++ [c] := by
  fun_induction beforeComment line with
  | case1 => exact .inr rfl
  | case2 d => exact .inr (by simp [beforeComment, hc])
  | case3 d e cs hde =>
    obtain ⟨rfl, rfl⟩ := hde
    exact .inl rfl
  | case4 d e cs hde ih =>
    rw [List.cons_append, List.cons_append, beforeComment, if_neg hde, ← List.cons_append]
    exact ih.imp (congrArg (d :: ·)) (congrArg (d :: ·))

/-! ## Name delimiters -/

/-- Blanks are no name delimiters. -/
theorem removeDelimiters_of_blank {cs : List Char} (h : ∀ c ∈ cs, isBlank c = true) :
    removeDelimiters cs = cs := by
  refine List.filter_eq_self.mpr fun c hc => ?_
  have hquote : c ≠ '\x22' := ne_of_isBlank (h c hc) (by decide)
  have hbacktick : c ≠ '\x60' := ne_of_isBlank (h c hc) (by decide)
  simp [isNameDelimiter, hquote, hbacktick]

/-! ## Lines -/

/-- The words that are left of a line. -/
def lineWords (line : List Char) : List (List Char) := words (removeDelimiters (beforeComment line))

/-- The words that are left of lines are those that are left of each of them. -/
theorem words_joinWith_lines (lines : List (List Char)) :
    words (removeDelimiters (joinWith ['\n'] (lines.map beforeComment))) =
      lines.flatMap lineWords := by
  have hfeed : removeDelimiters ['\n'] = ['\n'] := by decide
  induction lines with
  | nil => simp
  | cons line rest ih =>
    cases rest with
    | nil => simp [lineWords]
    | cons next rest =>
      rw [List.map_cons, List.map_cons, joinWith_cons_cons, ← List.map_cons,
        removeDelimiters_append, removeDelimiters_append, hfeed, List.append_assoc,
        List.singleton_append, words_append_cons_of_blank (by decide), ih, ← lineWords,
        ← List.flatMap_cons]

/-- The carriage return at the end of a line belongs to no word. -/
theorem lineWords_concat_return (line : List Char) :
    lineWords (line ++ ['\r']) = lineWords line := by
  have hblank : ∀ c ∈ ['\r'], isBlank c = true := List.forall_mem_singleton.mpr (by decide)
  rw [lineWords, lineWords]
  rcases beforeComment_concat (c := '\r') (by decide) line with hcut | hkept
  · rw [hcut]
  · rw [hkept, removeDelimiters_append, removeDelimiters_of_blank hblank,
      words_append_blanks hblank]

/-- A line keeps its words without the carriage return at its end. -/
theorem lineWords_dropReturn (line : List Char) : lineWords (dropReturn line) = lineWords line := by
  by_cases h : line.getLast? = some '\r'
  · obtain ⟨front, rfl⟩ := List.getLast?_eq_some_iff.mp h
    rw [dropReturn_concat, lineWords_concat_return]
  · rw [dropReturn_eq_self h]

/-- No word is lost with the carriage returns of line breaks and the nothing behind the last one. -/
theorem flatMap_linesOfPieces (pieces : List (List Char)) :
    (linesOfPieces pieces).flatMap lineWords = pieces.flatMap lineWords := by
  fun_induction linesOfPieces pieces with
  | case1 => rfl
  | case2 last hempty =>
    rw [List.isEmpty_iff.mp hempty]
    simp [lineWords]
  | case3 last hne => rfl
  | case4 piece next rest ih =>
    rw [List.flatMap_cons, ih, lineWords_dropReturn, ← List.flatMap_cons]

/-! ## Stripped texts -/

/-- A text without its comments and name delimiters, all blanks kept. -/
def strip (cs : List Char) : List Char :=
  removeDelimiters (joinWith ['\n'] ((textLines cs).map beforeComment))

/-- The words of a stripped text are those that are left of its lines. -/
theorem words_strip (cs : List Char) : words (strip cs) = (textLines cs).flatMap lineWords := by
  rw [strip, words_joinWith_lines]

/-- The words of a stripped single line are those that are left of it. -/
theorem words_strip_of_not_mem {line : List Char} (h : '\n' ∉ line) :
    words (strip line) = lineWords line := by
  rw [words_strip, textLines_of_not_mem h, List.flatMap_singleton]

/-- **Cleaning keeps the words of the stripped text.** -/
theorem words_clean (cs : List Char) : words (clean cs) = words (strip cs) := by
  rw [clean, words_trim, words_joinWith_lines, sourceLines, flatMap_linesOfPieces, words_strip]

/-- Nothing but name delimiters is lost of a text in which no comment starts. -/
theorem strip_of_uncommented {cs : List Char} (h : Apart (· == '-') cs) :
    strip cs = removeDelimiters cs := by
  have hlines : joinWith ['\n'] (textLines cs) = cs := by
    rw [joinWith_eq_intercalate, textLines, List.intercalate_splitOn]
  have hcomments : (textLines cs).map beforeComment = textLines cs := by
    refine (List.map_congr_left fun line hline => ?_).trans (List.map_id _)
    have hpart : line <:+: cs := hlines ▸ infix_joinWith hline
    exact beforeComment_eq_self (h.of_infix hpart)
  rw [strip, hcomments, hlines]

/-- The lines before a line feed and those after it are stripped separately. -/
theorem strip_append_cons (cs ds : List Char) :
    strip (cs ++ '\n' :: ds) = strip cs ++ '\n' :: strip ds := by
  have hlines : ∀ es, (textLines es).map beforeComment ≠ [] := fun es h =>
    List.splitOnP_ne_nil _ es (List.map_eq_nil_iff.mp h)
  have hfeed : removeDelimiters ['\n'] = ['\n'] := by decide
  rw [strip, textLines_append_cons, List.map_append, joinWith_append ['\n'] (hlines cs) (hlines ds),
    removeDelimiters_append, removeDelimiters_append, hfeed, List.append_assoc,
    List.singleton_append, strip, strip]

/-! ## Reading -/

/-- Characters that are no blanks are counted in the stripped text. -/
theorem count_clean {c : Char} (h : isBlank c = false) (cs : List Char) :
    (clean cs).count c = (strip cs).count c :=
  count_eq_of_words_eq (words_clean cs) h

/-- The statements of a cleaned text are those of the stripped one. -/
theorem statementTexts_clean (cs : List Char) :
    statementTexts (clean cs) = statementTexts (strip cs) :=
  map_collapse_splitOutside_of_words_eq (by decide) (words_clean cs)

/-- A text whose parentheses balance is read statement by statement. -/
theorem ofText_of_count_eq {text : String}
    (h : (clean text.toList).count '(' = (clean text.toList).count ')') :
    Schema.ofText text = Schema.empty.declareAll (statementTexts (clean text.toList)) := by
  rw [Schema.ofText_eq, if_pos h]

end SchemaEvolution
