import SchemaEvolution.Proofs.Plan.Phases

/-! # Every table is accounted for once
The renamed, created and dropped tables are read off the steps of a plan. Together with the tables
that both schemas have, they account for each table of either schema exactly once, whatever the
options are. A table that both schemas have is never renamed, created, copied or dropped, and the
steps for its columns neither drop what the new schema declares nor add what was there. -/

namespace SchemaEvolution

/-! ## Tables that steps are about -/

namespace Step

/-- The old and the new name of a table that a step renames. -/
def renamed? : Step → Option (String × String)
  | .renameTable source target => some (source, target)
  | _ => none

/-- The table that a step creates. -/
def created? : Step → Option String
  | .createTable name _ => some name
  | _ => none

/-- The table that a step drops. -/
def dropped? : Step → Option String
  | .dropTable name => some name
  | _ => none

/-- The tables that a step renames, creates, copies from, copies into or drops. -/
def movedTables : Step → List String
  | .renameTable source target => [source, target]
  | .createTable name _ => [name]
  | .copyData source target _ => [source, target]
  | .dropTable name => [name]
  | _ => []

/-- A step that changes the columns of a table moves no table. -/
theorem ChangesTable.movedTables_eq_nil {table : String} {old new : List Column} {step : Step}
    (h : step.ChangesTable table old new) : step.movedTables = [] := by
  cases h with
  | added => rfl
  | altered column former step hmem hformer h => cases h <;> rfl
  | dropped => rfl

/-- A step that moves no table renames, creates and drops none. -/
theorem observed_eq_none {step : Step} (h : step.movedTables = []) :
    step.renamed? = none ∧ step.created? = none ∧ step.dropped? = none := by
  cases step with
  | renameTable => cases h
  | createTable => cases h
  | copyData => cases h
  | dropTable => cases h
  | _ => exact ⟨rfl, rfl, rfl⟩

end Step

/-- The old names of the tables that a list of steps renames. -/
def renamedFrom (steps : List Step) : List String := (steps.filterMap Step.renamed?).map Prod.fst

/-- The new names of the tables that a list of steps renames. -/
def renamedTo (steps : List Step) : List String := (steps.filterMap Step.renamed?).map Prod.snd

/-- The tables that a list of steps creates. -/
def createdTables (steps : List Step) : List String := steps.filterMap Step.created?

/-- The tables that a list of steps drops. -/
def droppedTables (steps : List Step) : List String := steps.filterMap Step.dropped?

variable {matching : Matching} {old new : Schema}

/-! ## Moved tables by phase -/

/-- Changes of types move no table. -/
theorem movedTables_of_mem_typeChanges {types : List (String × TypeDefinition)} {step : Step}
    (h : step ∈ typeChanges old.types types) : step.movedTables = [] := by
  rcases shape_of_mem_typeChanges h with ⟨text, rfl⟩ | ⟨name, value, rfl⟩ <;> rfl

/-- Changes within tables that stay move no table. -/
theorem movedTables_of_mem_keptPhase {tables : List NamedTable} {step : Step}
    (h : step ∈ tables.flatMap (keptSteps matching old)) : step.movedTables = [] := by
  obtain ⟨table, -, hstep⟩ := List.mem_flatMap.mp h
  obtain ⟨former, -, hchanges⟩ := changesTable_of_mem_keptSteps hstep
  exact hchanges.movedTables_eq_nil

/-- Creations of types move no table. -/
theorem movedTables_of_mem_typeCreations {step : Step} (h : step ∈ typeCreations old new) :
    step.movedTables = [] := by
  obtain ⟨name, values, rfl⟩ := shape_of_mem_typeCreations h
  rfl

/-- What only steps that move tables show is shown by three phases of a plan. -/
theorem filterMap_planSteps {β : Type} (observe : Step → Option β)
    (hquiet : ∀ step, step.movedTables = [] → observe step = none) :
    (planSteps matching old new).filterMap observe =
      (renameSteps matching).filterMap observe ++
        (tableCreations matching old new).filterMap observe ++
        (tableDrops matching old new).filterMap observe := by
  have hnil : ∀ steps : List Step, (∀ step ∈ steps, step.movedTables = []) →
      steps.filterMap observe = [] := fun steps h =>
    List.filterMap_eq_nil_iff.mpr fun step hstep => hquiet step (h step hstep)
  rw [planSteps]
  simp only [List.filterMap_append, hnil _ fun _ => movedTables_of_mem_typeChanges,
    hnil _ fun _ => movedTables_of_mem_keptPhase, hnil _ fun _ => movedTables_of_mem_typeCreations,
    List.nil_append, List.append_nil]

/-- What creating and copying do not show is not shown by the fifth phase. -/
theorem filterMap_tableCreations_eq_nil {β : Type} (observe : Step → Option β)
    (hcreate : ∀ name columns, observe (.createTable name columns) = none)
    (hnote : ∀ text, observe (.note text) = none)
    (hcopy : ∀ source target columns, observe (.copyData source target columns) = none) :
    (tableCreations matching old new).filterMap observe = [] := by
  refine List.filterMap_eq_nil_iff.mpr fun step hstep => ?_
  obtain ⟨table, -, htable⟩ := List.mem_flatMap.mp hstep
  rcases shape_of_mem_tableCreation htable with rfl | ⟨text, rfl⟩ | ⟨source, former, -, -, rfl⟩
  · exact hcreate table.1 table.2
  · exact hnote text
  · exact hcopy source table.1 (sharedColumnNames former table.2)

/-- What warning and dropping do not show is not shown by the last phase. -/
theorem filterMap_tableDrops_eq_nil {β : Type} (observe : Step → Option β)
    (hcaution : ∀ text, observe (.caution text) = none)
    (hdrop : ∀ name, observe (.dropTable name) = none) :
    (tableDrops matching old new).filterMap observe = [] := by
  refine List.filterMap_eq_nil_iff.mpr fun step hstep => ?_
  obtain ⟨table, -, htable⟩ := List.mem_flatMap.mp hstep
  rcases shape_of_mem_tableDrop htable with ⟨text, rfl⟩ | rfl
  · exact hcaution text
  · exact hdrop table

/-- What renaming does not show is not shown by the second phase. -/
theorem filterMap_renameSteps_eq_nil {β : Type} (observe : Step → Option β)
    (hrename : ∀ source target, observe (.renameTable source target) = none) :
    (renameSteps matching).filterMap observe = [] := by
  refine List.filterMap_eq_nil_iff.mpr fun step hstep => ?_
  obtain ⟨pair, -, rfl⟩ := List.mem_map.mp hstep
  exact hrename pair.1 pair.2

/-- **The renamed tables** of a plan are those of the matching. -/
theorem filterMap_renamed?_planSteps :
    (planSteps matching old new).filterMap Step.renamed? = matching.renames := by
  have hrenames : (renameSteps matching).filterMap Step.renamed? = matching.renames := by
    rw [renameSteps, List.filterMap_map]
    exact List.filterMap_some
  rw [filterMap_planSteps _ fun _ h => (Step.observed_eq_none h).1, hrenames,
    filterMap_tableCreations_eq_nil _ (fun _ _ => rfl) (fun _ => rfl) (fun _ _ _ => rfl),
    filterMap_tableDrops_eq_nil _ (fun _ => rfl) (fun _ => rfl), List.append_nil, List.append_nil]

/-- Whatever hint about copying follows it, one table is created. -/
theorem filterMap_created?_tableCreation (table : NamedTable) :
    (tableCreation matching old table).filterMap Step.created? = [table.1] := by
  unfold tableCreation copyHint
  cases matching.replacedBy? table.1 with
  | none => rfl
  | some source =>
    cases hformer : old.tables.get? source with
    | none => simp [hformer, Step.created?]
    | some former =>
      by_cases hshared : (sharedColumnNames former table.2).isEmpty <;>
        simp [hformer, hshared, Step.created?]

/-- **The created tables** of a plan are those of the new schema that were not there before. -/
theorem filterMap_created?_planSteps :
    (planSteps matching old new).filterMap Step.created? =
      (new.tables.entries.filter fun table =>
        (formerColumns? matching old table.1).isNone).map Prod.fst := by
  rw [filterMap_planSteps _ fun _ h => (Step.observed_eq_none h).2.1,
    filterMap_renameSteps_eq_nil _ (fun _ _ => rfl),
    filterMap_tableDrops_eq_nil _ (fun _ => rfl) (fun _ => rfl), List.nil_append, List.append_nil,
    tableCreations, List.filterMap_flatMap]
  simp only [filterMap_created?_tableCreation]
  exact List.map_eq_flatMap.symm

/-- **The dropped tables** of a plan are the old ones that are not kept. -/
theorem filterMap_dropped?_planSteps :
    (planSteps matching old new).filterMap Step.dropped? =
      old.tables.names.filter fun table => !isKept matching new table := by
  have hdrop : ∀ table : String, (tableDrop table).filterMap Step.dropped? = [table] := fun _ => rfl
  rw [filterMap_planSteps _ fun _ h => (Step.observed_eq_none h).2.2,
    filterMap_renameSteps_eq_nil _ (fun _ _ => rfl),
    filterMap_tableCreations_eq_nil _ (fun _ _ => rfl) (fun _ => rfl) (fun _ _ _ => rfl),
    List.nil_append, List.nil_append, tableDrops, List.filterMap_flatMap]
  simp only [hdrop, List.flatMap_singleton']

/-! ## What a plan leaves alone -/

/-- **No table of both schemas is moved** by a plan. -/
theorem Matching.Fits.movedTables_disjoint (hfits : matching.Fits old new) {step : Step}
    (hstep : step ∈ planSteps matching old new) {table : String} (h : table ∈ step.movedTables) :
    ¬(table ∈ old.tables.names ∧ table ∈ new.tables.names) := by
  rintro ⟨hold, hnew⟩
  have hquiet : step.movedTables ≠ [] := List.ne_nil_of_mem h
  -- one case for each phase; those about types and columns move no table at all
  rcases mem_planSteps_iff.mp hstep with htypes | ⟨pair, hpair, rfl⟩ | ⟨kept, hkept, hchanges⟩ |
    henums | ⟨created, hcreated, hnone, hcreation⟩ | ⟨dropped, hdropped, hgone, hdrop⟩
  · exact hquiet (movedTables_of_mem_typeChanges htypes)
  · rcases List.mem_pair.mp h with rfl | rfl
    · exact (hfits.source_lost _ (List.mem_map_of_mem hpair)).2 hnew
    · exact (hfits.target_gained _ (List.mem_map_of_mem hpair)).2 hold
  · exact hquiet (movedTables_of_mem_keptPhase (List.mem_flatMap.mpr ⟨kept, hkept, hchanges⟩))
  · exact hquiet (movedTables_of_mem_typeCreations henums)
  · have hfresh := ((hfits.formerColumns?_eq_none_iff created.1).mp hnone).1
    rcases shape_of_mem_tableCreation hcreation with rfl | ⟨text, rfl⟩ |
      ⟨source, former, hreplaced, -, rfl⟩
    · exact hfresh (List.mem_singleton.mp h ▸ hold)
    · cases h
    · have hpair := mem_replacements_of_replacedBy? hreplaced
      rcases List.mem_pair.mp h with rfl | rfl
      · exact (hfits.replaced_lost _ hpair).2.1 hnew
      · exact hfresh hold
  · have hlost : dropped ∉ new.tables.names := fun hmem => by
      rw [(isKept_iff dropped).mpr (.inl hmem)] at hgone
      cases hgone
    rcases shape_of_mem_tableDrop hdrop with ⟨text, rfl⟩ | rfl
    · cases h
    · exact hlost (List.mem_singleton.mp h ▸ hnew)

/-- The table and the column that a step adds to or drops from an existing table. -/
def Step.movedColumn? : Step → Option (String × String)
  | .addColumn table column => some (table, column.name)
  | .dropColumn table column => some (table, column)
  | _ => none

/-- Columns are added and dropped where a table of the new schema was there before. -/
theorem changesTable_of_movedColumn {step : Step} (hstep : step ∈ planSteps matching old new)
    (hmoved : step.movedColumn?.isSome = true) :
    ∃ table ∈ new.tables.entries, ∃ former,
      formerColumns? matching old table.1 = some former ∧
        step.ChangesTable table.1 former table.2 := by
  -- only the third phase adds or drops columns
  rcases mem_planSteps_iff.mp hstep with htypes | ⟨pair, -, rfl⟩ | ⟨table, htable, hchanges⟩ |
    henums | ⟨table, -, -, hcreation⟩ | ⟨table, -, -, hdrop⟩
  · rcases shape_of_mem_typeChanges htypes with ⟨text, rfl⟩ | ⟨name, value, rfl⟩ <;> cases hmoved
  · cases hmoved
  · exact ⟨table, htable, changesTable_of_mem_keptSteps hchanges⟩
  · obtain ⟨name, values, rfl⟩ := shape_of_mem_typeCreations henums
    cases hmoved
  · rcases shape_of_mem_tableCreation hcreation with rfl | ⟨text, rfl⟩ |
      ⟨source, former, -, -, rfl⟩ <;> cases hmoved
  · rcases shape_of_mem_tableDrop hdrop with ⟨text, rfl⟩ | rfl <;> cases hmoved

/-! ## The account -/

/-- The columns that a table had in the old schema **before the steps**: under its own name, or
under the name that a step renames it from. -/
def FormerColumns (old : Schema) (steps : List Step) (table : String) (former : List Column) :
    Prop :=
  old.tables.get? table = some former ∨
    ∃ source, .renameTable source table ∈ steps ∧ old.tables.get? source = some former

/-- Steps **account** for the tables of two schemas when no table is forgotten or handled twice and
nothing that both schemas have is destroyed. -/
structure Accounts (old new : Schema) (steps : List Step) : Prop where
  /-- An old table stays, is renamed once or is dropped once, and only one of these. -/
  old_once : ∀ table ∈ old.tables.names,
    (if table ∈ new.tables.names then 1 else 0) + (renamedFrom steps).count table +
      (droppedTables steps).count table = 1
  /-- A new table was there, is renamed to once or is created once, and only one of these. -/
  new_once : ∀ table ∈ new.tables.names,
    (if table ∈ old.tables.names then 1 else 0) + (renamedTo steps).count table +
      (createdTables steps).count table = 1
  /-- A table of both schemas is not renamed, created, copied or dropped. -/
  unmoved : ∀ step ∈ steps, ∀ table ∈ step.movedTables,
    ¬(table ∈ old.tables.names ∧ table ∈ new.tables.names)
  /-- A dropped column is one that the new table does not declare. -/
  dropped_undeclared : ∀ table column, .dropColumn table column ∈ steps →
    ∃ columns, new.tables.get? table = some columns ∧ column ∉ columns.map Column.name
  /-- An added column is one that the table did not have before. -/
  added_absent : ∀ table column, .addColumn table column ∈ steps →
    (∃ former, FormerColumns old steps table former) ∧
      ∀ former, FormerColumns old steps table former → column.name ∉ former.map Column.name

/-- A step that renames is found among the renamed tables. -/
theorem renameTable_mem_iff (steps : List Step) (source target : String) :
    .renameTable source target ∈ steps ↔ (source, target) ∈ steps.filterMap Step.renamed? := by
  rw [List.mem_filterMap]
  constructor
  · exact fun h => ⟨_, h, rfl⟩
  · rintro ⟨step, hstep, hrenamed⟩
    cases step with
    | renameTable from' to' =>
      cases hrenamed
      exact hstep
    | _ => cases hrenamed

/-- **A plan renames** as its matching does. -/
theorem renameTable_mem_planSteps_iff (source target : String) :
    .renameTable source target ∈ planSteps matching old new ↔
      (source, target) ∈ matching.renames := by
  rw [renameTable_mem_iff, filterMap_renamed?_planSteps]

/-- A step that drops is found among the dropped tables. -/
theorem dropTable_mem_iff (steps : List Step) (table : String) :
    .dropTable table ∈ steps ↔ table ∈ droppedTables steps := by
  rw [droppedTables, List.mem_filterMap]
  constructor
  · exact fun h => ⟨_, h, rfl⟩
  · rintro ⟨step, hstep, hdropped⟩
    cases step with
    | dropTable name =>
      cases hdropped
      exact hstep
    | _ => cases hdropped

/-- **A plan drops** the tables that only the old schema has and that are not renamed. -/
theorem dropTable_mem_planSteps_iff (table : String) :
    .dropTable table ∈ planSteps matching old new ↔
      table ∈ old.tables.names ∧ table ∉ new.tables.names ∧ table ∉ matching.renamedSources := by
  rw [dropTable_mem_iff, droppedTables, filterMap_dropped?_planSteps, Matching.mem_dropped_iff]

/-- The columns before the steps of a plan are those that the plan was made from. -/
theorem Matching.Fits.formerColumns_iff (hfits : matching.Fits old new) (table : String)
    (former : List Column) :
    FormerColumns old (planSteps matching old new) table former ↔
      formerColumns? matching old table = some former := by
  simp only [FormerColumns, renameTable_mem_planSteps_iff]
  constructor
  · rintro (hsame | ⟨source, hpair, hsource⟩)
    · rw [hfits.formerColumns?_of_mem (Catalog.mem_names_of_get? hsame), hsame]
    · rw [hfits.formerColumns?_of_mem_renames hpair, hsource]
  · intro h
    unfold formerColumns? at h
    cases hfrom : matching.renamedFrom? table with
    | none => exact .inl (by rwa [hfrom] at h)
    | some source =>
      rw [hfrom] at h
      exact .inr ⟨source, mem_renames_of_renamedFrom? hfrom, h⟩

/-- The created tables are in the new schema only and are not renamed tables. -/
theorem Matching.Fits.mem_created_iff (hfits : matching.Fits old new) (table : String) :
    table ∈ createdTables (planSteps matching old new) ↔
      table ∈ new.tables.names ∧ table ∉ old.tables.names ∧ table ∉ matching.renamedTargets := by
  simp only [createdTables, filterMap_created?_planSteps, List.mem_map, List.mem_filter,
    Option.isNone_iff_eq_none, hfits.formerColumns?_eq_none_iff, Catalog.names]
  constructor
  · rintro ⟨entry, ⟨hentry, hfresh⟩, rfl⟩
    exact ⟨⟨entry, hentry, rfl⟩, hfresh⟩
  · rintro ⟨⟨entry, hentry, rfl⟩, hfresh⟩
    exact ⟨entry, ⟨hentry, hfresh⟩, rfl⟩

/-- No table is created twice. -/
theorem nodup_createdTables (matching : Matching) (old new : Schema) :
    (createdTables (planSteps matching old new)).Nodup := by
  rw [createdTables, filterMap_created?_planSteps]
  exact new.tables.nodup_names.sublist (List.filter_sublist.map Prod.fst)

/-- The steps of a matching that fits account for all tables. -/
theorem Matching.Fits.accounts (hfits : matching.Fits old new) :
    Accounts old new (planSteps matching old new) where
  old_once table hold := by
    have hrenamed : renamedFrom (planSteps matching old new) = matching.renamedSources := by
      rw [renamedFrom, filterMap_renamed?_planSteps, renamedSources]
    have hdropped : table ∈ old.tables.names.filter (fun table => !isKept matching new table) ↔ _ :=
      mem_dropped_iff table
    -- no name is listed twice, so each count is one or zero by membership
    rw [hrenamed, droppedTables, filterMap_dropped?_planSteps, hfits.sources_nodup.count,
      (old.tables.nodup.filter _).count]
    by_cases hnew : table ∈ new.tables.names
    · simp [hnew, hdropped, hfits.not_renamed_of_mem hnew]
    · by_cases hsource : table ∈ matching.renamedSources <;> simp [hold, hnew, hsource, hdropped]
  new_once table hnew := by
    have hrenamed : renamedTo (planSteps matching old new) = matching.renamedTargets := by
      rw [renamedTo, filterMap_renamed?_planSteps, renamedTargets]
    have hnodup := nodup_createdTables matching old new
    have hcreated := hfits.mem_created_iff table
    rw [hrenamed, hfits.targets_nodup.count, hnodup.count]
    by_cases hold : table ∈ old.tables.names
    · have hnot : table ∉ matching.renamedTargets := fun h => (hfits.target_gained table h).2 hold
      simp [hold, hcreated, hnot]
    · by_cases htarget : table ∈ matching.renamedTargets <;> simp [hold, hnew, htarget, hcreated]
  unmoved step hstep table htable := hfits.movedTables_disjoint hstep htable
  dropped_undeclared table column hstep := by
    obtain ⟨entry, hentry, former, -, hchanges⟩ := changesTable_of_movedColumn hstep rfl
    cases hchanges with
    -- no alteration of a column drops it
    | altered column former step hmem hformer h => cases h
    | dropped column h =>
      refine ⟨entry.2, new.tables.get?_of_mem hentry, ?_⟩
      rw [← Column.declares_eq_false_iff]
      simpa using (List.mem_filter.mp h).2
  added_absent table column hstep := by
    simp only [hfits.formerColumns_iff]
    obtain ⟨entry, -, former, hformer, hchanges⟩ := changesTable_of_movedColumn hstep rfl
    cases hchanges with
    | added column h =>
      -- the columns from before are those that the step was made from
      refine ⟨⟨former, hformer⟩, fun other hother => ?_⟩
      cases hformer.symm.trans hother
      rw [← Column.declares_eq_false_iff]
      simpa using (List.mem_filter.mp h).2
    | altered column former step hmem hformer h => cases h

/-- **A plan accounts for every table exactly once**, and destroys nothing that is kept. -/
theorem plan_accounts (options : MatchOptions) (old new : Schema) (steps : List Step)
    (hplan : plan options old new = .ok steps) : Accounts old new steps := by
  rw [eq_planSteps_of_plan hplan]
  exact (Matching.ofSchemas_fits options old new).accounts

/-- The sample migration accounts for its tables: one is renamed, one is created and two are
dropped. -/
theorem sample_plan_accounts :
    plan .standard Sample.before Sample.after = .ok Sample.steps ∧
      Accounts Sample.before Sample.after Sample.steps ∧
      renamedFrom Sample.steps = ["person"] ∧ createdTables Sample.steps = ["contacts"] ∧
      droppedTables Sample.steps = ["legacy", "log"] :=
  ⟨Sample.plan_before_after,
    plan_accounts .standard Sample.before Sample.after Sample.steps Sample.plan_before_after,
    rfl, rfl, rfl⟩

end SchemaEvolution
