import SchemaEvolution.Proofs.Declaration.WellFormed
import SchemaEvolution.Proofs.Text.Lines

/-! # Single lines in what is read
Whatever a text holds, the schema that is read from it has no line feed in any of its texts, the
message that refuses it is on a single line, and every table of the schema has a column. -/

namespace SchemaEvolution

/-! ## Schemas without line feeds -/

/-- A regular text has no line feed. -/
theorem RegularText.newline_not_mem {cs : List Char} (h : RegularText cs) : '\n' ∉ cs := by
  intro hmem
  have hspace : '\n' = ' ' := h.spaces '\n' hmem (by decide)
  exact absurd hspace (by decide)

/-- **No text of a schema that is read has a line feed.** -/
theorem Schema.newline_not_mem_of_ofText {text : String} {schema : Schema}
    (h : Schema.ofText text = .ok schema) : ∀ part ∈ schema.texts, '\n' ∉ part := by
  have hregular := (handsOn_regularText text).of_eq_ok h
  exact fun part hpart => (hregular part hpart).newline_not_mem

/-- What a message repeats of a statement on a single line is on a single line. -/
theorem ReadError.singleLine_excerpt {statement : List Char} (h : '\n' ∉ statement) :
    SingleLine (excerpt statement) := by
  unfold excerpt
  split
  · have hstart : '\n' ∉ statement.take excerptLength := fun hmem => h (List.mem_of_mem_take hmem)
    have hdots : SingleLine "..." := by decide
    rw [singleLine_append]
    exact ⟨by rwa [SingleLine, String.toList_ofList], hdots⟩
  · rwa [SingleLine, String.toList_ofList]

/-- The message for a cause is on a single line when all texts in it are. -/
theorem ReadError.singleLine_message {cause : ReadError} (h : ∀ text ∈ cause.texts, '\n' ∉ text) :
    SingleLine cause.message := by
  unfold ReadError.message
  cases cause with
  | unbalanced opening closing =>
    have hopening := singleLine_toString opening
    have hclosing := singleLine_toString closing
    simp only [singleLine_append, hopening, hclosing]
    decide
  | malformedType statement =>
    have hexcerpt := ReadError.singleLine_excerpt (h statement List.mem_cons_self)
    simp only [singleLine_append, hexcerpt]
    decide
  | malformedTable statement =>
    have hexcerpt := ReadError.singleLine_excerpt (h statement List.mem_cons_self)
    simp only [singleLine_append, hexcerpt]
    decide
  | _ =>
    -- the other messages repeat their texts as they are
    simp only [ReadError.texts, List.forall_mem_cons, ← singleLine_iff] at h
    simp only [singleLine_append, h]
    decide

/-- **The message that refuses a text is on a single line**, whatever the text holds. -/
theorem singleLine_message_of_ofText {text : String} {cause : ReadError}
    (h : Schema.ofText text = .error cause) : SingleLine cause.message := by
  have hregular := (handsOn_regularText text).of_eq_error h
  exact ReadError.singleLine_message fun part hpart => (hregular part hpart).newline_not_mem

/-! ## Tables with columns -/

/-- **Every table of a schema that is read has a column.** -/
theorem Schema.columns_ne_nil_of_ofText {text : String} {schema : Schema}
    (h : Schema.ofText text = .ok schema) : ∀ table ∈ schema.tables.entries, table.2 ≠ [] :=
  fun table htable => ((entriesWellFormed_of_ofText h).tables table htable).2.1

end SchemaEvolution
