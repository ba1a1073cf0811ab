import SchemaEvolution.Proofs.Plan.Order
import SchemaEvolution.Report.Line

/-! # The lines of a plan are read as what they are
A line is classified by its first characters. The text of a statement starts with one of four
letters, whatever names and values it is made of, and a remark starts with its mark and the word for
its kind; so no step of a plan is taken for a step of another kind. -/

namespace SchemaEvolution

/-- The kind of line that a step **is meant** to be. -/
def Step.kind : Step → LineKind
  | .error _ => .error
  | .caution _ => .caution
  | .note _ => .note
  | _ => .command

/-! ## Statements -/

/-- A statement starts with the letter of its first word. -/
theorem head?_sql_of_command {step : Step} (h : step.kind = .command) :
    ∃ c ∈ ['A', 'C', 'D', 'I'], step.sql.toList.head? = some c := by
  unfold Step.sql
  cases step with
  | error | caution | note => cases h
  | createEnum | createTable => exact ⟨'C', by simp, by simp⟩
  | copyData => exact ⟨'I', by simp, by simp⟩
  | dropTable => exact ⟨'D', by simp, by simp⟩
  | alterType | setDefault | dropDefault | setNotNull | dropNotNull =>
    exact ⟨'A', by simp, by simp [Step.alterColumn]⟩
  | _ => exact ⟨'A', by simp, by simp⟩

/-- The first letter of a statement is neither a blank nor a dash. -/
theorem plain_of_mem_initials {c : Char} (h : c ∈ ['A', 'C', 'D', 'I']) :
    isBlank c = false ∧ c ≠ '-' := by
  simp only [List.mem_cons, List.not_mem_nil, or_false] at h
  rcases h with rfl | rfl | rfl | rfl <;> decide

/-- A statement ends in a semicolon. -/
theorem getLast?_sql_of_command {step : Step} (h : step.kind = .command) :
    step.sql.toList.getLast? = some ';' := by
  unfold Step.sql
  cases step with
  | error | caution | note => cases h
  | _ =>
    simp only [String.toList_append, List.getLast?_append]
    rfl

/-- A line that starts with another character than a blank or a dash is a command. -/
theorem classify_of_head? {line : String} {c : Char} (hhead : line.toList.head? = some c)
    (hblank : isBlank c = false) (hdash : c ≠ '-') : classify line = .command := by
  obtain ⟨rest, hline⟩ : ∃ rest, line.toList = c :: rest := List.head?_eq_some_iff.mp hhead
  have hmark : commentMark.toList.isPrefixOf (c :: rest) = false := by
    simp [commentMark, List.isPrefixOf, hdash.symm]
  simp only [classify, hline, trimStart_cons, hblank, Bool.false_eq_true, if_false, hmark]

/-- Statements are commands. -/
theorem classify_sql_of_command {step : Step} (h : step.kind = .command) :
    classify step.sql = .command := by
  obtain ⟨c, hc, hhead⟩ := head?_sql_of_command h
  obtain ⟨hblank, hdash⟩ := plain_of_mem_initials hc
  exact classify_of_head? hhead hblank hdash

/-! ## Remarks -/

/-- The line of an error is classified as one, whatever its text. -/
theorem classify_error (text : String) : classify (Step.error text).sql = .error := by
  change classify (commentMark ++ " ERROR: " ++ text) = .error
  simp [classify, commentMark, trimStart_cons, commentKind, isBlank]

/-- The line of a caution is classified as one, whatever its text. -/
theorem classify_caution (text : String) : classify (Step.caution text).sql = .caution := by
  change classify (commentMark ++ " CAUTION: " ++ text) = .caution
  simp [classify, commentMark, trimStart_cons, commentKind, isBlank]

/-- The text of the note that announces a copy of data starts with these words. -/
def hintOpening : String := "Migrate data from "

/-- The note that announces a copy of data is classified as one, whatever names it repeats. -/
theorem classify_hint (rest : String) : classify (Step.note (hintOpening ++ rest)).sql = .note := by
  change classify (commentMark ++ " " ++ (hintOpening ++ rest)) = .note
  simp [classify, commentMark, hintOpening, trimStart_cons, commentKind, isBlank]

/-! ## Plans -/

variable {matching : Matching} {old new : Schema}

/-- The note before a copy of data announces it. -/
theorem hint_of_mem_copyHint {source target text : String} {shared : List String}
    (h : .note text ∈ copyHint source target shared) : ∃ rest, text = hintOpening ++ rest := by
  unfold copyHint at h
  split at h
  · cases h
  · rcases List.mem_pair.mp h with he | he
    · refine ⟨source ++ " to " ++ target ++ " (similar columns detected)", ?_⟩
      rw [Step.note.inj he]
      simp only [hintOpening, String.append_assoc]
    · cases he

/-- The notes of a plan announce copies of data. -/
theorem hint_of_mem_planSteps {text : String} (h : .note text ∈ planSteps matching old new) :
    ∃ rest, text = hintOpening ++ rest := by
  obtain ⟨table, -, hcreation⟩ := exists_of_phase_eq_five h rfl
  rcases List.mem_cons.mp hcreation with he | hhint
  · cases he
  · split at hhint
    · cases hhint
    · split at hhint
      · cases hhint
      · exact hint_of_mem_copyHint hhint

/-- **Every step of a plan is read as what it is meant to be.** -/
theorem classify_of_mem_planSteps {step : Step} (h : step ∈ planSteps matching old new) :
    classify step.sql = step.kind := by
  cases step with
  | error text => exact classify_error text
  | caution text => exact classify_caution text
  | note text =>
    obtain ⟨rest, rfl⟩ := hint_of_mem_planSteps h
    exact classify_hint rest
  | _ => exact classify_sql_of_command rfl

end SchemaEvolution
