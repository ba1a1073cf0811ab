import SchemaEvolution.Declaration.Cleaning

/-! # Lines of a text
A text is on a **single line** when it has no line feed. Single lines put together are a single
line, and a line feed between two texts separates the lines of the one from those of the other. -/

namespace SchemaEvolution

/-! ## Single lines -/

/-- A text is on a **single line**. -/
def SingleLine (text : String) : Prop := '\n' ∉ text.toList

/-- A single line is one without line feed. -/
theorem singleLine_iff (text : String) : SingleLine text ↔ '\n' ∉ text.toList := Iff.rfl

/-- Texts put together are a single line exactly when each of them is. -/
theorem singleLine_append (first second : String) :
    SingleLine (first ++ second) ↔ SingleLine first ∧ SingleLine second := by
  simp only [SingleLine, String.toList_append, List.mem_append, not_or]

instance (text : String) : Decidable (SingleLine text) :=
  inferInstanceAs (Decidable ('\n' ∉ text.toList))

/-- The digits of a number are on a single line. -/
theorem singleLine_toString (n : Nat) : SingleLine (toString n) := by
  intro h
  rw [Nat.toString_eq_repr, Nat.toList_repr] at h
  have hdigit := Nat.isDigit_of_mem_toDigits (by decide) (by decide) h
  exact absurd hdigit (by decide)

/-! ## Cutting into lines -/

/-- A text without line feed is its only line. -/
theorem textLines_of_not_mem {cs : List Char} (h : '\n' ∉ cs) : textLines cs = [cs] :=
  List.splitOn_eq_singleton h

/-- A line feed separates the lines before it from those after it. -/
theorem textLines_append_cons (cs ds : List Char) :
    textLines (cs ++ '\n' :: ds) = textLines cs ++ textLines ds :=
  List.splitOnP_append_cons cs ds (by decide)

/-- Where single lines are joined by a comma and a line feed, each line starts with one of them. -/
theorem exists_prefix_of_mem_textLines {pieces : List (List Char)} (hne : pieces ≠ [])
    (hpieces : ∀ piece ∈ pieces, '\n' ∉ piece) {line : List Char}
    (h : line ∈ textLines ([',', '\n'].intercalate pieces)) : ∃ piece ∈ pieces, piece <+: line := by
  induction pieces with
  | nil => exact absurd rfl hne
  | cons piece rest ih =>
    rw [List.forall_mem_cons] at hpieces
    cases rest with
    | nil =>
      rw [List.intercalate_singleton, textLines_of_not_mem hpieces.1, List.mem_singleton] at h
      exact ⟨piece, List.mem_cons_self, h ▸ List.prefix_refl piece⟩
    | cons next rest =>
      -- the first line ends at the comma behind the first piece
      have hsplit : piece ++ [',', '\n'] ++ [',', '\n'].intercalate (next :: rest) =
          (piece ++ [',']) ++ '\n' :: [',', '\n'].intercalate (next :: rest) := by simp
      have hcomma : '\n' ∉ piece ++ [','] := by simpa using hpieces.1
      rw [List.intercalate_cons_cons, hsplit, textLines_append_cons, textLines_of_not_mem hcomma,
        List.singleton_append, List.mem_cons] at h
      rcases h with rfl | hrest
      · exact ⟨piece, List.mem_cons_self, List.prefix_append piece [',']⟩
      · obtain ⟨found, hfound, hline⟩ := ih (List.cons_ne_nil next rest) hpieces.2 hrest
        exact ⟨found, List.mem_cons_of_mem piece hfound, hline⟩

end SchemaEvolution
