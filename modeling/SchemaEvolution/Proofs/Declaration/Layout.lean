import Mathlib.Logic.Relation
import SchemaEvolution.Proofs.Declaration.Reader
import SchemaEvolution.Proofs.Declaration.Sequence
import SchemaEvolution.Proofs.Text.Layout

/-! # The layout of a schema text
A reader takes nothing from a cleaned text but its words: the parentheses in it are counted, and its
statements are cut out and then collapsed. Blanks may therefore be exchanged for other blanks where
no comment starts, and comments may be written at the ends of lines. -/

namespace SchemaEvolution

/-! ## Reading by words -/

/-- **The words of the cleaned text decide** what is read, or why the text is refused. -/
theorem ofText_eq_of_words_eq {first second : String}
    (h : words (clean first.toList) = words (clean second.toList)) :
    Schema.ofText first = Schema.ofText second := by
  have hopening : (clean first.toList).count '(' = (clean second.toList).count '(' :=
    count_eq_of_words_eq h (by decide)
  have hclosing : (clean first.toList).count ')' = (clean second.toList).count ')' :=
    count_eq_of_words_eq h (by decide)
  have hstatements : statementTexts (clean first.toList) = statementTexts (clean second.toList) :=
    map_collapse_splitOutside_of_words_eq (by decide) h
  rw [Schema.ofText_eq, Schema.ofText_eq, hopening, hclosing, hstatements]

/-! ## Changes of layout -/

/-- A **run of blanks**: a text of blanks that is not empty. -/
structure IsBlankRun (cs : List Char) : Prop where
  /-- The run is not empty. -/
  ne_nil : cs ≠ []
  /-- The run has blanks only. -/
  blank : ∀ c ∈ cs, isBlank c = true

/-- The two parts of being a run of blanks, as they are decided. -/
theorem isBlankRun_iff (cs : List Char) : IsBlankRun cs ↔ cs ≠ [] ∧ cs.all isBlank = true := by
  rw [List.all_eq_true]
  exact ⟨fun h => ⟨h.ne_nil, h.blank⟩, fun h => ⟨h.1, h.2⟩⟩

instance (cs : List Char) : Decidable (IsBlankRun cs) :=
  decidable_of_iff _ (isBlankRun_iff cs).symm

/-- A **change of layout** in a text. -/
inductive Relaid : List Char → List Char → Prop
  /-- A run of blanks gives place to another one in a text without comment marks. -/
  | blanks (front run other back : List Char) (hrun : IsBlankRun run) (hother : IsBlankRun other)
    (huncommented : Apart (· == '-') (front ++ run ++ back)) :
    Relaid (front ++ run ++ back) (front ++ other ++ back)
  /-- A comment is written at the end of a line that does not end in a dash, before the carriage
  return of the line if there is one. -/
  | comment (front comment ending back : List Char) (hfront : front.getLast? ≠ some '-')
    (hcomment : '\n' ∉ comment) (hending : ending = [] ∨ ending = ['\r'])
    (hback : back = [] ∨ back.head? = some '\n') :
    Relaid (front ++ ending ++ back) (front ++ '-' :: '-' :: comment ++ ending ++ back)

/-! ### Blanks -/

namespace IsBlankRun

variable {front run back : List Char}

/-- Blanks are no dashes. -/
theorem uncommented (hrun : IsBlankRun run) : ∀ c ∈ run, (c == '-') = false := fun c hc => by
  simpa using ne_of_isBlank (d := '-') (hrun.blank c hc) (by decide)

/-- A run of blanks makes no comment mark with what stands on its sides. -/
theorem apart (hrun : IsBlankRun run) (hfront : Apart (· == '-') front)
    (hback : Apart (· == '-') back) : Apart (· == '-') (front ++ run ++ back) := by
  refine (hfront.append (.of_forall_not hrun.uncommented) (.inr fun c hc => ?_)).append hback
    (.inl fun c hc => ?_)
  · exact hrun.uncommented c (List.mem_of_mem_head? hc)
  · rw [List.getLast?_append_of_ne_nil _ hrun.ne_nil] at hc
    exact hrun.uncommented c (List.mem_of_mem_getLast? hc)

/-- A run of blanks separates the words on its sides. -/
theorem words_strip (hrun : IsBlankRun run) (h : Apart (· == '-') (front ++ run ++ back)) :
    words (strip (front ++ run ++ back)) =
      words (removeDelimiters front) ++ words (removeDelimiters back) := by
  rw [strip_of_uncommented h, removeDelimiters_append, removeDelimiters_append,
    removeDelimiters_of_blank hrun.blank, words_append_blanks_append hrun.ne_nil hrun.blank]

end IsBlankRun

/-! ### Comments -/

/-- A comment behind a text that does not end in a dash is cut off. -/
theorem beforeComment_append_comment {line : List Char} (h : line.getLast? ≠ some '-')
    (comment : List Char) :
    beforeComment (line ++ '-' :: '-' :: comment) = beforeComment line := by
  fun_induction beforeComment line with
  | case1 => rfl
  | case2 c =>
    have hc : c ≠ '-' := by simpa using h
    simp [beforeComment, hc]
  | case3 c d cs hcd =>
    obtain ⟨rfl, rfl⟩ := hcd
    rfl
  | case4 c d cs hcd ih =>
    rw [List.getLast?_cons_cons] at h
    rw [List.cons_append, List.cons_append, beforeComment, if_neg hcd, ← List.cons_append, ih h]

/-- Neither a comment at the end of a line nor the carriage return behind it has a part in the words
that are left of the line. -/
theorem lineWords_append_comment {line ending : List Char} (hdash : line.getLast? ≠ some '-')
    (hending : ending = [] ∨ ending = ['\r']) (comment : List Char) :
    lineWords (line ++ '-' :: '-' :: comment ++ ending) = lineWords (line ++ ending) := by
  have hreturn : lineWords (line ++ ending) = lineWords line := by
    rcases hending with rfl | rfl
    · rw [List.append_nil]
    · exact lineWords_concat_return line
  have hcut := beforeComment_append_comment hdash (comment ++ ending)
  rw [hreturn, List.append_assoc, List.cons_append, List.cons_append, lineWords, hcut, lineWords]

/-- A comment at the end of a single line has no part in its words. -/
theorem words_strip_comment_line {line comment ending : List Char} (hline : '\n' ∉ line)
    (hdash : line.getLast? ≠ some '-') (hcomment : '\n' ∉ comment)
    (hending : ending = [] ∨ ending = ['\r']) :
    words (strip (line ++ '-' :: '-' :: comment ++ ending)) = words (strip (line ++ ending)) := by
  have hnofeed : '\n' ∉ line ++ '-' :: '-' :: comment ++ ending ∧ '\n' ∉ line ++ ending := by
    rcases hending with rfl | rfl <;> simp [hline, hcomment]
  rw [words_strip_of_not_mem hnofeed.1, words_strip_of_not_mem hnofeed.2,
    lineWords_append_comment hdash hending]

/-- The last line of a text. -/
theorem exists_last_line (cs : List Char) :
    ∃ line, '\n' ∉ line ∧ (cs = line ∨ ∃ lines, cs = lines ++ '\n' :: line) := by
  induction cs using List.reverseRecOn with
  | nil => exact ⟨[], by simp, .inl rfl⟩
  | append_singleton cs c ih =>
    by_cases hc : c = '\n'
    · exact ⟨[], by simp, .inr ⟨cs, by rw [hc]⟩⟩
    · obtain ⟨line, hline, hcs⟩ := ih
      refine ⟨line ++ [c], by simpa [hline] using Ne.symm hc, hcs.imp ?_ ?_⟩
      · rintro rfl
        rfl
      · rintro ⟨lines, rfl⟩
        exact ⟨lines, by simp⟩

/-- The words of a text are those of a line and those behind its line feed. -/
theorem words_strip_append {back : List Char} (hback : back = [] ∨ back.head? = some '\n')
    (line : List Char) :
    words (strip (line ++ back)) = words (strip line) ++ words (strip back) := by
  rcases hback with rfl | hfeed
  · have hnothing : words (strip []) = [] := by decide
    rw [List.append_nil, hnothing, List.append_nil]
  · obtain ⟨rest, rfl⟩ := List.head?_eq_some_iff.mp hfeed
    have hrest : strip ('\n' :: rest) = '\n' :: strip rest := strip_append_cons [] rest
    rw [strip_append_cons, words_append_cons_of_blank (by decide), hrest,
      words_cons_of_blank (by decide)]

/-- A comment at the end of a line has no part in the words. -/
theorem words_strip_comment {front comment ending back : List Char}
    (hfront : front.getLast? ≠ some '-') (hcomment : '\n' ∉ comment)
    (hending : ending = [] ∨ ending = ['\r']) (hback : back = [] ∨ back.head? = some '\n') :
    words (strip (front ++ '-' :: '-' :: comment ++ ending ++ back)) =
      words (strip (front ++ ending ++ back)) := by
  rw [words_strip_append hback, words_strip_append hback]
  -- only the last line that is begun in `front` goes on in the comment
  obtain ⟨line, hline, rfl | ⟨lines, rfl⟩⟩ := exists_last_line front
  · rw [words_strip_comment_line hline hfront hcomment hending]
  · have hdash : line.getLast? ≠ some '-' := by
      intro hlast
      apply hfront
      rw [List.getLast?_append, List.getLast?_cons, hlast]
      rfl
    have hwords := words_strip_comment_line hline hdash hcomment hending
    simp only [List.append_assoc, List.cons_append] at hwords ⊢
    rw [strip_append_cons, strip_append_cons, words_append_cons_of_blank (by decide),
      words_append_cons_of_blank (by decide), hwords]

/-! ## Reading a text anew -/

/-- A change of layout leaves the words of the cleaned text as they are. -/
theorem Relaid.words_clean_eq {cs ds : List Char} (h : Relaid cs ds) :
    words (clean cs) = words (clean ds) := by
  rw [words_clean, words_clean]
  cases h with
  | blanks front run other back hrun hother huncommented =>
    have hfront : Apart (· == '-') front :=
      huncommented.of_infix ⟨[], run ++ back, by simp⟩
    have hback : Apart (· == '-') back :=
      huncommented.of_infix ⟨front ++ run, [], by simp⟩
    rw [hrun.words_strip huncommented, hother.words_strip (hother.apart hfront hback)]
  | comment front comment ending back hfront hcomment hending hback =>
    rw [words_strip_comment hfront hcomment hending hback]

/-- Changes of layout leave the words of the cleaned text as they are, one after the other. -/
theorem words_clean_eq_of_eqvGen {cs ds : List Char} (h : Relation.EqvGen Relaid cs ds) :
    words (clean cs) = words (clean ds) := by
  induction h with
  | rel cs ds h => exact h.words_clean_eq
  | refl cs => rfl
  | symm cs ds h ih => exact ih.symm
  | trans cs ds es hcs hds ihcs ihds => exact ihcs.trans ihds

/-- **Layout does not matter to a reader.** Texts that are cleaned to the same words are read as the
same schema, or refused for the same cause. In particular it changes nothing to put other blanks in
the place of blanks in texts without comment marks, and to write comments at the ends of lines. -/
theorem ofText_eq_of_layout (first second : String) :
    (words (clean first.toList) = words (clean second.toList) →
        Schema.ofText first = Schema.ofText second) ∧
      (Relation.EqvGen Relaid first.toList second.toList →
        Schema.ofText first = Schema.ofText second) :=
  ⟨ofText_eq_of_words_eq, fun h => ofText_eq_of_words_eq (words_clean_eq_of_eqvGen h)⟩

namespace Sample

/-- A text in one line. -/
def narrowText : String := "create TABLE tag$ (id INT NULL);"

/-- The text with a run of other blanks in it. -/
def brokenText : String := "create\r\n\t\u2028\u3000TABLE tag$ (id INT NULL);"

/-- That text with a comment behind it. -/
def wideText : String := brokenText ++ "-- (one;"

/-- The text with a name in quotes and its words on lines of their own. -/
def tallText : String := "create\r\nTABLE\n\x22tag$\x22\n(id\nINT\nNULL);\n"

/-- The schema of all these texts. -/
def tagged : Schema := ⟨.empty, .ofList [("tag$", [⟨"id", "INT", false, none⟩])]⟩

end Sample

/-- The sample texts differ in their layout only, so they are read as one schema. -/
theorem sample_layouts_read_alike :
    (words (clean Sample.tallText.toList) = words (clean Sample.narrowText.toList) ∧
        Schema.ofText Sample.tallText = Schema.ofText Sample.narrowText) ∧
      (Relation.EqvGen Relaid Sample.narrowText.toList Sample.wideText.toList ∧
        Schema.ofText Sample.narrowText = Schema.ofText Sample.wideText) ∧
      Schema.ofText Sample.narrowText = .ok Sample.tagged := by
  have hwords : words (clean Sample.tallText.toList) = words (clean Sample.narrowText.toList) := by
    decide +kernel
  have hnarrow : Sample.narrowText.toList =
      "create".toList ++ [' '] ++ "TABLE tag$ (id INT NULL);".toList := by decide +kernel
  have hbreak : Sample.brokenText.toList =
      "create".toList ++ ['\r', '\n', '\t', '\u2028', '\u3000'] ++
        "TABLE tag$ (id INT NULL);".toList := by decide +kernel
  have hwide : Sample.wideText.toList =
      Sample.brokenText.toList ++ '-' :: '-' :: " (one;".toList := by decide +kernel
  have hbroken : Relaid Sample.narrowText.toList Sample.brokenText.toList := by
    rw [hnarrow, hbreak]
    exact .blanks _ _ _ _ (by decide) (by decide) (by decide)
  have hspaced : Relaid Sample.brokenText.toList Sample.wideText.toList := by
    have hbehind := Relaid.comment Sample.brokenText.toList " (one;".toList [] []
      (by decide +kernel) (by decide) (.inl rfl) (.inl rfl)
    simpa only [List.append_nil, hwide] using hbehind
  have hlayout : Relation.EqvGen Relaid Sample.narrowText.toList Sample.wideText.toList :=
    .trans _ _ _ (.rel _ _ hbroken) (.rel _ _ hspaced)
  have hread : Schema.ofText Sample.narrowText = .ok Sample.tagged := by decide +kernel
  exact ⟨⟨hwords, (ofText_eq_of_layout _ _).1 hwords⟩,
    ⟨hlayout, (ofText_eq_of_layout _ _).2 hlayout⟩, hread⟩

end SchemaEvolution
