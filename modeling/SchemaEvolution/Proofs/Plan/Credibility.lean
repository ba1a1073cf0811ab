import SchemaEvolution.Proofs.Plan.Copies

/-! # Credible matches
A plan **joins** an old table to a new one when it renames the one to the other or copies data from
the one into the other. Both kinds of matches are made by similarity, each with its own threshold.
Where the thresholds are positive and every table has a column, no table is joined to another one
without a credible overlap of their columns, so that a table that shares no column with any new
table is dropped and nothing else. -/

namespace SchemaEvolution

open Matching

/-- The steps that **join** an old table to a new one. -/
inductive Step.Joins (source target : String) : Step → Prop where
  /-- The one table is renamed to the other. -/
  | renamed : Joins source target (.renameTable source target)
  /-- Data is copied from the one table into the other. -/
  | copied (columns : List String) : Joins source target (.copyData source target columns)

/-- A table that only the old schema has **overlaps credibly** with one that only the new schema
has. -/
def TablesOverlap (options : MatchOptions) (old new : Schema) (source target : String) : Prop :=
  ∃ former columns, (source, former) ∈ missingFrom old new ∧
    (target, columns) ∈ missingFrom new old ∧ OverlapsCredibly options former columns

/-- A table is a **stranger** to a schema when it shares no column with any table that only this
schema has. -/
def Stranger (columns : List Column) (old new : Schema) : Prop :=
  ∀ table ∈ missingFrom new old, Disjoint (nameSet columns) (nameSet table.2)

/-- Steps **join credibly** when what they join overlaps, and strangers are just dropped. -/
structure JoinsCredibly (options : MatchOptions) (old new : Schema) (steps : List Step) :
    Prop where
  /-- Two tables that are joined overlap credibly. -/
  overlaps : ∀ step ∈ steps, ∀ source target, step.Joins source target →
    TablesOverlap options old new source target
  /-- A table that shares no column with any new one is dropped. -/
  stranger_dropped : ∀ table columns, (table, columns) ∈ missingFrom old new →
    Stranger columns old new → .dropTable table ∈ steps
  /-- A table that shares no column with any new one is joined to none. -/
  stranger_unjoined : ∀ table columns, (table, columns) ∈ missingFrom old new →
    Stranger columns old new → ∀ step ∈ steps, ∀ source target, step.Joins source target →
      table ≠ source ∧ table ≠ target

variable {options : MatchOptions} {old new : Schema}

/-- A table does not overlap with a new one that it is a stranger to. -/
theorem Stranger.not_overlapsCredibly {columns : List Column} (h : Stranger columns old new)
    {table : NamedTable} (htable : table ∈ missingFrom new old) :
    ¬OverlapsCredibly options columns table.2 := by
  intro hoverlap
  obtain ⟨name, hname⟩ := hoverlap.shared
  rw [Finset.mem_inter] at hname
  exact Finset.disjoint_left.mp (h table htable) hname.1 hname.2

/-- A stranger is neither of two tables that overlap. -/
theorem Stranger.ne_of_tablesOverlap {table source target : String} {columns : List Column}
    (h : Stranger columns old new) (hlost : (table, columns) ∈ missingFrom old new)
    (hoverlap : TablesOverlap options old new source target) :
    table ≠ source ∧ table ≠ target := by
  obtain ⟨former, declared, hsource, htarget, hcredible⟩ := hoverlap
  constructor
  · rintro rfl
    have hhere : old.tables.get? table = some columns := get?_of_mem_missingFrom hlost
    have hthere : old.tables.get? table = some former := get?_of_mem_missingFrom hsource
    obtain rfl := Option.some.inj (hhere.symm.trans hthere)
    exact h.not_overlapsCredibly htarget hcredible
  · rintro rfl
    -- the new schema lacks the one table and has the other
    have hnew : table ∈ (missingFrom new old).map Prod.fst := List.mem_map_of_mem htarget
    have hold : table ∈ (missingFrom old new).map Prod.fst := List.mem_map_of_mem hlost
    rw [mem_map_missingFrom_iff] at hnew hold
    exact hold.2 hnew.1

/-! ## Joined tables -/

/-- A renamed table is as similar as it takes to the one that it becomes. -/
theorem Matching.exists_reached_of_rename {pair : String × String}
    (h : pair ∈ (ofSchemas options old new).renames) :
    ∃ former columns, (pair.1, former) ∈ missingFrom old new ∧
      (pair.2, columns) ∈ missingFrom new old ∧
      ¬similarity options former columns < options.renameThreshold := by
  rw [renames_ofSchemas] at h
  exact Round.exists_reached_of_mem_pairs h

/-- **Joined tables overlap credibly.** Each kind of join has reached its own threshold. -/
theorem tablesOverlap_of_joins (hold : old.TablesFilled) (hnew : new.TablesFilled)
    (hrename : 0.0 < options.renameThreshold) (hreplace : 0.0 < options.replacementThreshold)
    {step : Step} (hstep : step ∈ planSteps (ofSchemas options old new) old new)
    {source target : String} (hjoins : step.Joins source target) :
    TablesOverlap options old new source target := by
  cases hjoins with
  | renamed =>
    have hpair := (renameTable_mem_planSteps_iff source target).mp hstep
    obtain ⟨former, columns, hlost, hgained, hreached⟩ := exists_reached_of_rename hpair
    have hoverlap := overlapsCredibly_of_mem_missingFrom hold hnew hrename hlost hgained hreached
    exact ⟨former, columns, hlost, hgained, hoverlap⟩
  | copied shared =>
    obtain ⟨former, columns, hlost, hgained, hreached, -⟩ := exists_reached_of_copyData hstep
    have hoverlap := overlapsCredibly_of_mem_missingFrom hold hnew hreplace hlost hgained hreached
    exact ⟨former, columns, hlost, hgained, hoverlap⟩

/-- A table that no step renames is dropped, unless the new schema has it. -/
theorem dropTable_mem_of_unjoined {matching : Matching} {table : NamedTable}
    (hlost : table ∈ missingFrom old new)
    (hunjoined : ∀ target, .renameTable table.1 target ∉ planSteps matching old new) :
    .dropTable table.1 ∈ planSteps matching old new := by
  obtain ⟨hold, hnew⟩ := (mem_map_missingFrom_iff old new table.1).mp (List.mem_map_of_mem hlost)
  refine (dropTable_mem_planSteps_iff table.1).mpr ⟨hold, hnew, ?_⟩
  intro hsource
  obtain ⟨⟨source, target⟩, hpair, hsame⟩ := List.mem_map.mp hsource
  obtain rfl : source = table.1 := hsame
  exact hunjoined target ((renameTable_mem_planSteps_iff _ target).mpr hpair)

/-! ## Plans join credibly -/

/-- **No match without a credible overlap.** Where both thresholds are positive and every table has
a column, a plan joins credibly. -/
theorem plan_joinsCredibly (options : MatchOptions) (old new : Schema) (steps : List Step)
    (hold : old.TablesFilled) (hnew : new.TablesFilled) (hrename : 0.0 < options.renameThreshold)
    (hreplace : 0.0 < options.replacementThreshold) (hplan : plan options old new = .ok steps) :
    JoinsCredibly options old new steps := by
  obtain rfl := eq_planSteps_of_plan hplan
  have hoverlaps : ∀ step ∈ planSteps (ofSchemas options old new) old new, ∀ source target,
      step.Joins source target → TablesOverlap options old new source target := by
    intro step hstep source target hjoins
    exact tablesOverlap_of_joins hold hnew hrename hreplace hstep hjoins
  refine ⟨hoverlaps, ?_, ?_⟩
  · intro table columns hlost hstranger
    apply dropTable_mem_of_unjoined hlost
    intro target hstep
    have hoverlap := hoverlaps _ hstep table target .renamed
    exact (hstranger.ne_of_tablesOverlap hlost hoverlap).1 rfl
  · intro table columns hlost hstranger step hstep source target hjoins
    exact hstranger.ne_of_tablesOverlap hlost (hoverlaps step hstep source target hjoins)

/-- The sample joins two old tables to new ones; the log shares no column with a new table. -/
theorem sample_joinsCredibly :
    Sample.before.TablesFilled ∧ Sample.after.TablesFilled ∧
      0.0 < MatchOptions.standard.renameThreshold ∧
      0.0 < MatchOptions.standard.replacementThreshold ∧
      plan .standard Sample.before Sample.after = .ok Sample.steps ∧
      JoinsCredibly .standard Sample.before Sample.after Sample.steps := by
  have hbefore : Sample.before.TablesFilled := by decide +kernel
  have hafter : Sample.after.TablesFilled := by decide +kernel
  have hrename : 0.0 < MatchOptions.standard.renameThreshold := by decide +kernel
  have hreplace : 0.0 < MatchOptions.standard.replacementThreshold := by decide +kernel
  exact ⟨hbefore, hafter, hrename, hreplace, Sample.plan_before_after,
    plan_joinsCredibly .standard Sample.before Sample.after Sample.steps hbefore hafter hrename
      hreplace Sample.plan_before_after⟩

end SchemaEvolution
