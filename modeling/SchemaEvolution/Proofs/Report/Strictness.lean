import SchemaEvolution.Plan.Generation
import SchemaEvolution.Proofs.Plan.Compatibility
import SchemaEvolution.Proofs.Report.Line

/-! # When a migration reports errors
A migration reports no error exactly when there is a plan between the two texts and all types grow.
Where there is no plan, the only line is the error that says why. -/

namespace SchemaEvolution

/-- There is a **plan between two texts**: both can be read, a text that declares neither types nor
tables is empty after cleaning, and the comparison of their schemas gives the steps. -/
structure Planned (options : MatchOptions) (oldText newText : String) (old new : Schema)
    (steps : List Step) : Prop where
  /-- The old text is read. -/
  old_read : Schema.ofText oldText = .ok old
  /-- The new text is read. -/
  new_read : Schema.ofText newText = .ok new
  /-- The old schema is empty only when cleaning leaves nothing of its text. -/
  old_declares : old = .empty → clean oldText.toList = []
  /-- The new schema is empty only when cleaning leaves nothing of its text. -/
  new_declares : new = .empty → clean newText.toList = []
  /-- The comparison of the schemas succeeds. -/
  planned : plan options old new = .ok steps

variable {options : MatchOptions} {oldText newText : String}

/-- Both texts are read exactly when each of them is. -/
theorem readBoth_eq_ok_iff (old new : Schema) :
    readBoth oldText newText = .ok (old, new) ↔
      Schema.ofText oldText = .ok old ∧ Schema.ofText newText = .ok new := by
  simp only [readBoth, bind_eq_ok_iff, pure_eq_ok_iff, Prod.mk.injEq]
  constructor
  · rintro ⟨left, hleft, right, hright, rfl, rfl⟩
    exact ⟨hleft, hright⟩
  · rintro ⟨hleft, hright⟩
    exact ⟨old, hleft, new, hright, rfl, rfl⟩

/-- A schema and its text pass the check unless the schema is empty and the cleaned text is not. -/
theorem declaresNothing_eq_false_iff (text : String) (schema : Schema) :
    declaresNothing text schema = false ↔ (schema = .empty → clean text.toList = []) := by
  rw [declaresNothing, ← Schema.isEmpty_iff, ← List.isEmpty_iff]
  cases schema.isEmpty <;> simp

/-- **The steps between two texts are those of a plan** between them. -/
theorem planBetween_eq_ok_iff (steps : List Step) :
    planBetween options oldText newText = .ok steps ↔
      ∃ old new, Planned options oldText newText old new steps := by
  unfold planBetween
  simp only [bind_eq_ok_iff, mapError_eq_ok_iff, Prod.exists, readBoth_eq_ok_iff]
  constructor
  · rintro ⟨old, new, ⟨hold, hnew⟩, h⟩
    -- each of the two checks refuses the pair or lets it pass
    cases holdDeclares : declaresNothing oldText old with
    | true =>
      rw [holdDeclares] at h
      cases h
    | false =>
      cases hnewDeclares : declaresNothing newText new with
      | true =>
        rw [holdDeclares, hnewDeclares] at h
        cases h
      | false =>
        rw [holdDeclares, hnewDeclares] at h
        exact ⟨old, new, hold, hnew, (declaresNothing_eq_false_iff _ _).mp holdDeclares,
          (declaresNothing_eq_false_iff _ _).mp hnewDeclares, (mapError_eq_ok_iff _ _ steps).mp h⟩
  · rintro ⟨old, new, h⟩
    refine ⟨old, new, ⟨h.old_read, h.new_read⟩, ?_⟩
    rw [(declaresNothing_eq_false_iff _ _).mpr h.old_declares,
      (declaresNothing_eq_false_iff _ _).mpr h.new_declares]
    exact (mapError_eq_ok_iff _ _ steps).mpr h.planned

/-- The lines of a migration are the texts of the steps of a plan, or the only line reports why
there is none. -/
theorem migrationLines_cases (options : MatchOptions) (oldText newText : String) :
    (∃ old new steps, Planned options oldText newText old new steps ∧
      migrationLines options oldText newText = steps.map Step.sql) ∨
    ((¬∃ old new steps, Planned options oldText newText old new steps) ∧
      ∃ obstacle : Obstacle,
        migrationLines options oldText newText = [(Step.error obstacle.message).sql]) := by
  unfold migrationLines
  cases hplan : planBetween options oldText newText with
  | ok steps =>
    obtain ⟨old, new, hplanned⟩ := (planBetween_eq_ok_iff steps).mp hplan
    exact .inl ⟨old, new, steps, hplanned, rfl⟩
  | error obstacle =>
    refine .inr ⟨?_, obstacle, rfl⟩
    rintro ⟨old, new, steps, hplanned⟩
    rw [(planBetween_eq_ok_iff steps).mpr ⟨old, new, hplanned⟩] at hplan
    cases hplan

/-- A text has one schema and two schemas have one plan. -/
theorem Planned.unique {old new old' new' : Schema} {steps steps' : List Step}
    (h : Planned options oldText newText old new steps)
    (h' : Planned options oldText newText old' new' steps') :
    old = old' ∧ new = new' ∧ steps = steps' := by
  obtain rfl := Except.ok.inj (h.old_read.symm.trans h'.old_read)
  obtain rfl := Except.ok.inj (h.new_read.symm.trans h'.new_read)
  exact ⟨rfl, rfl, Except.ok.inj (h.planned.symm.trans h'.planned)⟩

/-- The lines of a plan report an error exactly when one of its steps reports a conflict. -/
theorem hasErrors_map_sql_iff {matching : Matching} {old new : Schema} :
    hasErrors ((planSteps matching old new).map Step.sql) = true ↔
      ReportsConflict (planSteps matching old new) := by
  unfold hasErrors
  rw [List.any_map, List.any_eq_true]
  constructor
  · rintro ⟨step, hstep, herror⟩
    rw [Function.comp_apply, beq_iff_eq, classify_of_mem_planSteps hstep] at herror
    cases step with
    | error text => exact ⟨text, hstep⟩
    | _ => cases herror
  · rintro ⟨text, hmem⟩
    exact ⟨_, hmem, beq_iff_eq.mpr (classify_error text)⟩

/-- **Strict mode is exact.** A migration reports no error exactly when there is a plan between the
two texts and every type of both schemas grows. Where there is no plan, the result is one line, and
it is an error. -/
theorem migrationLines_strict (options : MatchOptions) (oldText newText : String) :
    (hasErrors (migrationLines options oldText newText) = false ↔
      ∃ old new steps, Planned options oldText newText old new steps ∧ old.TypesGrow new) ∧
    ((¬∃ old new steps, Planned options oldText newText old new steps) →
      ∃ line, migrationLines options oldText newText = [line] ∧ classify line = .error) := by
  rcases migrationLines_cases options oldText newText with ⟨old, new, steps, hplanned, hlines⟩ |
    ⟨hnone, obstacle, hlines⟩
  · refine ⟨?_, fun hnone => absurd ⟨old, new, steps, hplanned⟩ hnone⟩
    -- only a conflict of types is reported in the lines of a plan
    rw [hlines, ← Bool.not_eq_true, eq_planSteps_of_plan hplanned.planned, hasErrors_map_sql_iff,
      reportsConflict_iff_not_typesGrow, not_not]
    constructor
    · exact fun hgrow => ⟨old, new, steps, hplanned, hgrow⟩
    · rintro ⟨old', new', steps', hplanned', hgrow⟩
      obtain ⟨rfl, rfl, -⟩ := hplanned.unique hplanned'
      exact hgrow
  · -- without a plan the only line is the error
    have hclass := classify_error obstacle.message
    refine ⟨?_, fun _ => ⟨_, hlines, hclass⟩⟩
    rw [hlines, hasErrors_cons, hclass]
    constructor
    · intro h
      cases h
    · rintro ⟨old, new, steps, hplanned, -⟩
      exact absurd ⟨old, new, steps, hplanned⟩ hnone

namespace Sample

/-- A text of which cleaning leaves nothing. -/
def remark : String := "-- nothing is declared yet\n"

/-- A text that says something and declares nothing. -/
def grant : String := "GRANT ALL ON note;"

/-- A text that declares a table. -/
def noteText : String := "CREATE TABLE note (id INT);"

/-- The columns of the table. -/
def noteColumns : List Column := [⟨"id", "INT", false, none⟩]

/-- The schema with the table. -/
def noted : Schema := ⟨.empty, .ofList [("note", noteColumns)]⟩

end Sample

/-- From a text that is only a comment there is a plan to one that declares a table, and strict mode
accepts it; there is none to a text that declares nothing, and the only line says so. -/
theorem sample_strict :
    (clean Sample.remark.toList = [] ∧ Schema.ofText Sample.remark = .ok .empty ∧
        hasErrors (migrationLines .standard Sample.remark Sample.noteText) = false) ∧
      clean Sample.grant.toList ≠ [] ∧ Schema.ofText Sample.grant = .ok .empty ∧
        (¬∃ old new steps, Planned .standard Sample.remark Sample.grant old new steps) ∧
        ∃ line, migrationLines .standard Sample.remark Sample.grant = [line] ∧
          classify line = .error := by
  have hremark : Schema.ofText Sample.remark = .ok .empty := by decide +kernel
  have hgrant : Schema.ofText Sample.grant = .ok .empty := by decide +kernel
  have hcleaned : clean Sample.remark.toList = [] := by decide +kernel
  have hsaid : clean Sample.grant.toList ≠ [] := by decide +kernel
  have hnone : ¬∃ old new steps, Planned .standard Sample.remark Sample.grant old new steps := by
    rintro ⟨old, new, steps, hplanned⟩
    have hnew : new = .empty := Except.ok.inj (hplanned.new_read.symm.trans hgrant)
    exact hsaid (hplanned.new_declares hnew)
  have hplanned : Planned .standard Sample.remark Sample.noteText .empty Sample.noted
      [.createTable "note" Sample.noteColumns] :=
    ⟨hremark, by decide +kernel, fun _ => hcleaned, fun h => absurd h (by decide),
      by decide +kernel⟩
  -- the old schema has no types, so every type of both grows
  have hgrow : Schema.TypesGrow .empty Sample.noted := fun _ _ _ hget => by cases hget
  have hstrict := migrationLines_strict .standard Sample.remark Sample.noteText
  have hrefused := migrationLines_strict .standard Sample.remark Sample.grant
  exact ⟨⟨hcleaned, hremark, hstrict.1.mpr ⟨_, _, _, hplanned, hgrow⟩⟩, hsaid, hgrant, hnone,
    hrefused.2 hnone⟩

end SchemaEvolution
