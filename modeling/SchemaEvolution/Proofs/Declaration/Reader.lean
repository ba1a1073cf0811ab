import SchemaEvolution.Proofs.Declaration.Cleaning
import SchemaEvolution.Proofs.Declaration.Plain

/-! # Reading a sequence of statements
A text of quiet statements, each with a semicolon behind it and a line break between neighbours, is
read as the statements one after the other: cleaning removes no word, the parentheses are balanced,
and cutting at the semicolons finds the statements again. -/

namespace SchemaEvolution

/-! ## Cleaning -/

/-- **Cleaning a quiet text** keeps its words. -/
theorem Quiet.words_clean {cs : List Char} (h : Quiet cs) : words (clean cs) = words cs := by
  have hdelimiters : removeDelimiters cs = cs :=
    List.filter_eq_self.mpr fun c hc => by simp [h.undelimited c hc]
  rw [SchemaEvolution.words_clean, strip_of_uncommented h.uncommented, hdelimiters]

/-- A quiet text is read as it stands, statement by statement. -/
theorem ofText_of_quiet {text : String} (h : Quiet text.toList) :
    Schema.ofText text = Schema.empty.declareAll (statementTexts text.toList) := by
  have hopening := count_eq_of_words_eq h.words_clean (c := '(') (by decide)
  have hclosing := count_eq_of_words_eq h.words_clean (c := ')') (by decide)
  have hbalanced : (clean text.toList).count '(' = (clean text.toList).count ')' := by
    rw [hopening, hclosing, h.nested.count_eq]
  have hstatements : statementTexts (clean text.toList) = statementTexts text.toList :=
    map_collapse_splitOutside_of_words_eq (by decide) h.words_clean
  rw [ofText_of_count_eq hbalanced, hstatements]

/-! ## Statements -/

/-- A text **declares** a statement when it is a quiet fragment between semicolons and is read as
that statement. -/
structure Declares (text : List Char) (statement : Statement) : Prop where
  /-- Cleaning removes no word. -/
  quiet : Quiet text
  /-- Cutting at semicolons leaves the text whole. -/
  fragment : IsFragment ';' text
  /-- The text is read as the statement. -/
  read : Statement.ofText (collapse text) = .ok statement

/-- A text with a semicolon behind it. -/
def terminated (text : List Char) : List Char := text ++ [';']

/-- Statements that are read one by one are declared one after the other. -/
theorem declareAll_eq_ok {items : List (List Char × Statement)}
    (h : ∀ item ∈ items, Declares item.1 item.2) (schema : Schema) :
    schema.declareAll (items.map fun item => collapse item.1) =
      .ok ((items.map Prod.snd).foldl Schema.declare schema) := by
  induction items generalizing schema with
  | nil => rfl
  | cons item items ih =>
    rw [List.forall_mem_cons] at h
    have hrest := ih h.2 (schema.declare item.2)
    rw [Schema.declareAll] at hrest ⊢
    rw [List.map_cons, List.foldlM_cons, h.1.read]
    exact hrest

/-- Cutting at the semicolons finds the statements again. -/
theorem splitOutside_terminated {texts : List (List Char)}
    (h : ∀ text ∈ texts, IsFragment ';' text) :
    splitOutside ';' (joinWith ['\n'] (texts.map terminated)) = texts := by
  induction texts with
  | nil => exact splitOutside_nil ';'
  | cons text texts ih =>
    rw [List.forall_mem_cons] at h
    cases texts with
    | nil =>
      rw [List.map_singleton, joinWith_singleton, terminated, h.1.splitOutside_append,
        splitOutside_nil]
    | cons next rest =>
      rw [List.map_cons, List.map_cons, joinWith_cons_cons, ← List.map_cons, terminated,
        List.append_assoc, List.append_assoc, List.singleton_append, h.1.splitOutside_append,
        List.singleton_append, splitOutside_cons_of_blank (by decide) (by decide), ih h.2]

/-- **A sequence of statements is read back.** -/
theorem ofText_terminated {items : List (List Char × Statement)}
    (h : ∀ item ∈ items, Declares item.1 item.2) {text : String}
    (htext : text.toList = joinWith ['\n'] (items.map fun item => terminated item.1)) :
    Schema.ofText text = .ok ((items.map Prod.snd).foldl Schema.declare .empty) := by
  have hitems : items.map (fun item => terminated item.1) =
      (items.map Prod.fst).map terminated := by
    rw [List.map_map]
    rfl
  have hfragments : ∀ statement ∈ items.map Prod.fst, IsFragment ';' statement := by
    simpa using fun _ _ hitem => (h _ hitem).fragment
  have hquiet : Quiet text.toList := by
    rw [htext]
    refine Quiet.joined (by decide) (by simp) fun piece hpiece => ?_
    obtain ⟨item, hitem, rfl⟩ := List.mem_map.mp hpiece
    exact (h item hitem).quiet.append_neutral (by decide)
  -- a quiet text is cut as it stands: cleaning changes no word of it
  have hstatements : statementTexts text.toList = items.map fun item => collapse item.1 := by
    rw [statementTexts, htext, hitems, splitOutside_terminated hfragments, List.map_map]
    rfl
  rw [ofText_of_quiet hquiet, hstatements, declareAll_eq_ok h .empty]

end SchemaEvolution
