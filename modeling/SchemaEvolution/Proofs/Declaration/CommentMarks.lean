import SchemaEvolution.Plan.Step
import SchemaEvolution.Proofs.Declaration.Texts
import SchemaEvolution.Proofs.Text.Layout
import SchemaEvolution.Proofs.Text.Literal

/-! # Comment marks that cleaning leaves
Cleaning cuts every line at its first comment mark and deletes the name delimiters after that. Two
dashes that only delimiters kept apart come together then: a cleaned text holds a comment mark
exactly when the text **joins dashes** in this way. From any other text only texts without a comment
mark are read. -/

namespace SchemaEvolution

/-! ## Comment marks -/

/-- A text **has a comment mark** when two dashes stand side by side in it. -/
def HasMark (cs : List Char) : Prop := commentMark.toList <:+: cs

instance (cs : List Char) : Decidable (HasMark cs) :=
  inferInstanceAs (Decidable (commentMark.toList <:+: cs))

/-- A text has no comment mark exactly when its dashes stand apart. -/
theorem apart_dash_iff (cs : List Char) : Apart (· == '-') cs ↔ ¬HasMark cs := by
  have hmark : commentMark.toList = ['-', '-'] := by decide
  rw [Apart, List.isChain_iff_forall_rel_of_append_cons_cons, HasMark, hmark]
  constructor
  · rintro h ⟨front, back, rfl⟩
    exact @h '-' '-' front back (by simp) ⟨rfl, rfl⟩
  · rintro h c d front back rfl ⟨hc, hd⟩
    obtain rfl := eq_of_beq hc
    obtain rfl := eq_of_beq hd
    exact h ⟨front, back, by simp⟩

/-! ## Cleaning -/

/-- A text **joins dashes** when in one of its lines, before any comment, two dashes stand with
nothing but name delimiters between them. -/
def JoinsDashes (cs : List Char) : Prop :=
  ∃ line ∈ sourceLines cs, ∃ delimiters, (∀ c ∈ delimiters, isNameDelimiter c = true) ∧
    '-' :: (delimiters ++ ['-']) <:+: beforeComment line

/-- **Cleaning leaves a comment mark exactly where a text joins dashes.** -/
theorem hasMark_clean_iff (cs : List Char) : HasMark (clean cs) ↔ JoinsDashes cs := by
  have hmark : commentMark.toList = ['-', '-'] := by decide
  have hdash : (!isNameDelimiter '-') = true := by decide
  have hblank : ∀ c, isBlank c = true → (c == '-') = false := fun c hc => by
    simpa using ne_of_isBlank hc (by decide)
  -- no blank is a dash, so a mark is neither made nor lost by trimming
  have htrim : ∀ ds : List Char, HasMark (trim ds) ↔ HasMark ds := fun ds => by
    rw [← not_iff_not, ← apart_dash_iff, ← apart_dash_iff, apart_trim_iff hblank]
  rw [clean, htrim, HasMark, hmark, removeDelimiters, pair_infix_filter_iff hdash hdash]
  simp only [Bool.not_eq_false']
  constructor
  · rintro ⟨delimiters, hdelimiters, hpart⟩
    -- dashes with delimiters between them have no line feed, so they stand in one line
    have hline : '\n' ∉ '-' :: (delimiters ++ ['-']) := by
      have hfeed : '\n' ∉ delimiters := fun hmem => absurd (hdelimiters _ hmem) (by decide)
      simp [hfeed]
    obtain ⟨piece, hpiece, hinfix⟩ :=
      (infix_joinWith_iff (List.cons_ne_nil _ _) hline _).mp hpart
    obtain ⟨line, hmem, rfl⟩ := List.mem_map.mp hpiece
    exact ⟨line, hmem, delimiters, hdelimiters, hinfix⟩
  · rintro ⟨line, hmem, delimiters, hdelimiters, hinfix⟩
    exact ⟨delimiters, hdelimiters, hinfix.trans (infix_joinWith (List.mem_map_of_mem hmem))⟩

instance (cs : List Char) : Decidable (JoinsDashes cs) :=
  decidable_of_iff _ (hasMark_clean_iff cs)

/-! ## Reading -/

/-- Reading a text without comment marks gives texts without comment marks. -/
theorem hereditary_unmarked : Hereditary (Apart (· == '-')) where
  infix_of hpart h := h.of_infix hpart
  halve h := Apart.halveQuotes (by decide) h
  join hws := Apart.joinWith (by decide) fun w hw => (hws w hw).2

/-- **What is read of a text that joins no dashes has no comment mark**, be it a schema or the cause
for which the text is refused. -/
theorem handsOn_unmarked {text : String} (h : ¬JoinsDashes text.toList) :
    HandsOn (Apart (· == '-')) Schema.texts (Schema.ofText text) := by
  have hclean : Apart (· == '-') (clean text.toList) :=
    (apart_dash_iff _).mpr ((hasMark_clean_iff _).not.mpr h)
  exact hereditary_unmarked.handsOn_schema fun _ hstatement =>
    hereditary_unmarked.of_mem_statementTexts hclean hstatement

end SchemaEvolution
