import SchemaEvolution.Proofs.Plan.Matching
import SchemaEvolution.Proofs.Result

/-! # The phases of a plan
A plan that exists is the concatenation `planSteps` of six lists, one for each phase, and each of
them is given by `map`, `filter` and `flatMap` alone. The second half of the file says which kinds
of steps a phase can hold. -/

namespace SchemaEvolution

/-! ## Plans in closed form -/

/-- The steps from one list of columns to another, when every new column can be filled. -/
def columnSteps (table : String) (old new : List Column) : List Step :=
  (columnsMissingFrom new old).map (.addColumn table) ++ keptColumnChanges table old new ++
    (columnsMissingFrom old new).map fun column => .dropColumn table column.name

/-- The steps for the columns of one table of the new schema; none for a table that is created. -/
def keptSteps (matching : Matching) (old : Schema) (table : NamedTable) : List Step :=
  match formerColumns? matching old table.1 with
  | none => []
  | some former => columnSteps table.1 former table.2

/-- The phases of a plan, one after the other. -/
def planSteps (matching : Matching) (old new : Schema) : List Step :=
  typeChanges old.types new.types.entries ++ renameSteps matching ++
    new.tables.entries.flatMap (keptSteps matching old) ++ typeCreations old new ++
    tableCreations matching old new ++ tableDrops matching old new

/-- The changes of a table that stays exist exactly when all its new columns can be filled. -/
theorem tableChanges_eq_ok_iff (table : String) (old new : List Column) (steps : List Step) :
    tableChanges table old new = .ok steps ↔
      (∀ column ∈ columnsMissingFrom new old, column.isUnfillable = false) ∧
        steps = columnSteps table old new := by
  -- the first new column that cannot be filled, if any, is the cause of refusal
  cases hfind : (columnsMissingFrom new old).find? Column.isUnfillable with
  | none =>
    have hfillable : ∀ column ∈ columnsMissingFrom new old, column.isUnfillable = false := by
      simpa using List.find?_eq_none.mp hfind
    have hok : tableChanges table old new = .ok (columnSteps table old new) := by
      simp only [tableChanges, hfind, columnSteps]
    rw [hok, Except.ok.injEq]
    exact ⟨fun h => ⟨hfillable, h.symm⟩, fun h => h.2.symm⟩
  | some column =>
    have herror : tableChanges table old new = .error ⟨table, column.name⟩ := by
      simp only [tableChanges, hfind]
    have hunfillable : ¬ ∀ column ∈ columnsMissingFrom new old, column.isUnfillable = false := by
      intro h
      have hcolumn := List.find?_some hfind
      rw [h column (List.mem_of_find?_eq_some hfind)] at hcolumn
      cases hcolumn
    rw [herror]
    exact ⟨fun h => (by cases h), fun h => absurd h.1 hunfillable⟩

/-- All new columns of the tables that stay can be filled. -/
def AllFillable (matching : Matching) (old : Schema) (tables : List NamedTable) : Prop :=
  ∀ table ∈ tables, ∀ former, formerColumns? matching old table.1 = some former →
    ∀ column ∈ columnsMissingFrom table.2 former, column.isUnfillable = false

/-- All tables can be filled when the first one can, if it stays, and the others can. -/
theorem allFillable_cons (matching : Matching) (old : Schema) (table : NamedTable)
    (tables : List NamedTable) :
    AllFillable matching old (table :: tables) ↔
      (∀ former, formerColumns? matching old table.1 = some former →
        ∀ column ∈ columnsMissingFrom table.2 former, column.isUnfillable = false) ∧
      AllFillable matching old tables :=
  List.forall_mem_cons

/-- The changes of all tables that stay exist exactly when all new columns can be filled. -/
theorem keptTableChanges_eq_ok_iff (matching : Matching) (old : Schema) (tables : List NamedTable)
    (steps : List Step) :
    keptTableChanges matching old tables = .ok steps ↔
      AllFillable matching old tables ∧ steps = tables.flatMap (keptSteps matching old) := by
  induction tables generalizing steps with
  | nil =>
    rw [keptTableChanges, Except.ok.injEq, List.flatMap_nil]
    exact ⟨fun h => ⟨fun _ hmem => (by cases hmem), h.symm⟩, fun h => h.2.symm⟩
  | cons table rest ih =>
    obtain ⟨name, columns⟩ := table
    rw [allFillable_cons, List.flatMap_cons]
    cases hformer : formerColumns? matching old name with
    | none => simp [keptTableChanges, keptSteps, hformer, ih]
    | some former =>
      -- the changes of the first table exist, and so do those of the rest
      simp only [keptTableChanges, keptSteps, hformer, Option.some.injEq, forall_eq',
        bind_eq_ok_iff, pure_eq_ok_iff, tableChanges_eq_ok_iff, ih]
      constructor
      · rintro ⟨changes, ⟨hfillable, rfl⟩, others, ⟨hrest, rfl⟩, rfl⟩
        exact ⟨⟨hfillable, hrest⟩, rfl⟩
      · rintro ⟨⟨hfillable, hrest⟩, rfl⟩
        exact ⟨_, ⟨hfillable, rfl⟩, _, ⟨hrest, rfl⟩, rfl⟩

/-- **A plan exists exactly when all new columns can be filled**, and then it is the list of its
phases. -/
theorem plan_eq_ok_iff (options : MatchOptions) (old new : Schema) (steps : List Step) :
    plan options old new = .ok steps ↔
      AllFillable (Matching.ofSchemas options old new) old new.tables.entries ∧
        steps = planSteps (Matching.ofSchemas options old new) old new := by
  simp only [plan, bind_eq_ok_iff, pure_eq_ok_iff, keptTableChanges_eq_ok_iff]
  constructor
  · rintro ⟨changes, ⟨hfillable, rfl⟩, rfl⟩
    exact ⟨hfillable, rfl⟩
  · rintro ⟨hfillable, rfl⟩
    exact ⟨_, ⟨hfillable, rfl⟩, rfl⟩

/-- A plan that exists is the list of its phases. -/
theorem eq_planSteps_of_plan {options : MatchOptions} {old new : Schema} {steps : List Step}
    (h : plan options old new = .ok steps) :
    steps = planSteps (Matching.ofSchemas options old new) old new :=
  ((plan_eq_ok_iff options old new steps).mp h).2

/-! ## Plans that do not exist -/

/-- Where a table cannot be changed, one of its new columns is the cause. -/
theorem exists_of_tableChanges_eq_error {table : String} {old new : List Column}
    {cause : UnfillableColumn} (h : tableChanges table old new = .error cause) :
    ∃ column ∈ new, cause = ⟨table, column.name⟩ := by
  unfold tableChanges at h
  dsimp only at h
  split at h
  · next column hfind =>
    have hadded := List.mem_of_find?_eq_some hfind
    exact ⟨column, List.mem_of_mem_filter hadded, (Except.error.inj h).symm⟩
  · cases h

/-- Where the tables that stay cannot be changed, a column of one of them is the cause. -/
theorem exists_of_keptTableChanges_eq_error {matching : Matching} {old : Schema}
    {tables : List NamedTable} {cause : UnfillableColumn}
    (h : keptTableChanges matching old tables = .error cause) :
    ∃ table ∈ tables, ∃ column ∈ table.2, cause = ⟨table.1, column.name⟩ := by
  induction tables with
  | nil => cases h
  | cons table rest ih =>
    obtain ⟨name, columns⟩ := table
    have hrest : keptTableChanges matching old rest = .error cause →
        ∃ table ∈ (name, columns) :: rest, ∃ column ∈ table.2, cause = ⟨table.1, column.name⟩ := by
      intro herror
      obtain ⟨found, hfound, hcause⟩ := ih herror
      exact ⟨found, List.mem_cons_of_mem _ hfound, hcause⟩
    rw [keptTableChanges] at h
    split at h
    · exact hrest h
    · -- the first table is refused, or one of the rest is
      simp only [bind_eq_error_iff, pure_ne_error, and_false, exists_false, or_false] at h
      rcases h with hfirst | ⟨changes, -, herror⟩
      · exact ⟨_, List.mem_cons_self, exists_of_tableChanges_eq_error hfirst⟩
      · exact hrest herror

/-- Where there is no plan, a column of the new schema is the cause. -/
theorem exists_of_plan_eq_error {options : MatchOptions} {old new : Schema}
    {cause : UnfillableColumn} (h : plan options old new = .error cause) :
    ∃ table ∈ new.tables.entries, ∃ column ∈ table.2, cause = ⟨table.1, column.name⟩ := by
  simp only [plan, bind_eq_error_iff, pure_ne_error, and_false, exists_false, or_false] at h
  exact exists_of_keptTableChanges_eq_error h

/-! ## The steps of each phase -/

/-- A step of two lists one behind the other stands in the first or in the second. -/
theorem split_append {first second earlier later : List Step} {step : Step}
    (h : first ++ second = earlier ++ step :: later) :
    (∃ middle, first = earlier ++ step :: middle) ∨
      ∃ middle, earlier = first ++ middle ∧ second = middle ++ step :: later := by
  rcases List.append_eq_append_iff.mp h with ⟨middle, hearlier, hsecond⟩ | ⟨middle, hfirst, hrest⟩
  · exact .inr ⟨middle, hearlier, hsecond⟩
  · cases middle with
    | nil => exact .inr ⟨[], by rw [hfirst, List.append_nil, List.append_nil], hrest.symm⟩
    | cons head tail =>
      obtain ⟨rfl, -⟩ := List.cons.inj hrest
      exact .inl ⟨tail, hfirst⟩

/-- Conflicts between enumeration values are reported, nothing else. -/
theorem exists_error_of_mem_valueConflicts {typeName : String} {old new : List String} {step : Step}
    (h : step ∈ valueConflicts typeName old new) : ∃ text, step = .error text := by
  induction old generalizing new with
  | nil => cases h
  | cons value old ih =>
    cases new with
    | nil => cases h
    | cons next new =>
      rw [valueConflicts] at h
      split at h
      · exact ih h
      · rcases List.mem_cons.mp h with rfl | hrest
        · exact ⟨_, rfl⟩
        · exact ih hrest

/-- Changing an enumeration reports conflicts and adds values. -/
theorem shape_of_mem_enumerationChanges {typeName : String} {old new : List String} {step : Step}
    (h : step ∈ enumerationChanges typeName old new) :
    (∃ text, step = .error text) ∨ ∃ name value, step = .addEnumValue name value := by
  rcases List.mem_append.mp h with hconflict | hadded
  · rcases List.mem_append.mp hconflict with hchanged | hremoved
    · exact .inl (exists_error_of_mem_valueConflicts hchanged)
    · obtain ⟨value, -, rfl⟩ := List.mem_map.mp hremoved
      exact .inl ⟨_, rfl⟩
  · obtain ⟨value, -, rfl⟩ := List.mem_map.mp hadded
    exact .inr ⟨_, _, rfl⟩

/-- The first phase reports conflicts and adds values to enumerations. -/
theorem shape_of_mem_typeChanges {old : Catalog TypeDefinition}
    {types : List (String × TypeDefinition)} {step : Step} (h : step ∈ typeChanges old types) :
    (∃ text, step = .error text) ∨ ∃ name value, step = .addEnumValue name value := by
  induction types with
  | nil => cases h
  | cons entry rest ih =>
    obtain ⟨name, definition⟩ := entry
    rw [typeChanges] at h
    split at h
    · exact ih h
    · split at h
      · rcases List.mem_append.mp h with hfirst | hrest
        · exact shape_of_mem_enumerationChanges hfirst
        · exact ih hrest
      · split at h
        · exact ih h
        · exact .inl ⟨_, List.mem_singleton.mp h⟩
      · rcases List.mem_cons.mp h with rfl | hrest
        · exact .inl ⟨_, rfl⟩
        · exact ih hrest

/-- The steps that can be made of a column that a table keeps, when it is to be as declared. -/
inductive Step.Alters (table : String) (column : Column) : Step → Prop where
  /-- Its default is taken away. -/
  | dropDefault : Alters table column (.dropDefault table column.name)
  /-- It gets the declared base type. -/
  | alterType (conversion : Option String) :
    Alters table column (.alterType table column.name column.baseType conversion)
  /-- It gets the declared default. -/
  | setDefault (value : String) (h : column.defaultValue = some value) :
    Alters table column (.setDefault table column.name value)
  /-- It is no longer the primary key. -/
  | dropPrimaryKey : Alters table column (.dropPrimaryKey table)
  /-- It becomes the primary key. -/
  | addPrimaryKey : Alters table column (.addPrimaryKey table column.name)
  /-- Null is forbidden. -/
  | setNotNull : Alters table column (.setNotNull table column.name)
  /-- Null is allowed. -/
  | dropNotNull : Alters table column (.dropNotNull table column.name)

/-- The default is taken away, the type changes, and the declared default is set. -/
theorem shape_of_mem_typeAndDefaultChanges {table : String} {old new : Column} {step : Step}
    (h : step ∈ typeAndDefaultChanges table old new) :
    step = .dropDefault table new.name ∨
      step = .alterType table new.name new.baseType
        (booleanConversion old.baseType new.baseType new.name) ∨
      ∃ value, new.defaultValue = some value ∧ step = .setDefault table new.name value := by
  unfold typeAndDefaultChanges at h
  by_cases htype : old.baseType = new.baseType
  · rw [if_neg (not_not.mpr htype)] at h
    by_cases hdefault : old.defaultValue = new.defaultValue
    · rw [if_neg (not_not.mpr hdefault)] at h
      cases h
    · rw [if_pos hdefault] at h
      cases hnew : new.defaultValue with
      | none =>
        simp only [hnew, List.mem_singleton] at h
        exact .inl h
      | some value =>
        simp only [hnew, List.mem_singleton] at h
        exact .inr (.inr ⟨value, rfl, h⟩)
  · -- the type changes: the default is out of the way before and set again afterwards
    simp only [if_pos htype, List.mem_append, List.mem_singleton, List.mem_ite_nil_right] at h
    rcases h with (⟨-, hdropped⟩ | haltered) | hrestored
    · exact .inl hdropped
    · exact .inr (.inl haltered)
    · cases hnew : new.defaultValue with
      | none =>
        rw [hnew] at hrestored
        cases hrestored
      | some value =>
        simp only [hnew, List.mem_singleton] at hrestored
        exact .inr (.inr ⟨value, rfl, hrestored⟩)

/-- Changes of type and default alter the column. -/
theorem alters_of_mem_typeAndDefaultChanges {table : String} {old new : Column} {step : Step}
    (h : step ∈ typeAndDefaultChanges table old new) : step.Alters table new := by
  rcases shape_of_mem_typeAndDefaultChanges h with rfl | rfl | ⟨value, hvalue, rfl⟩
  · exact .dropDefault
  · exact .alterType _
  · exact .setDefault value hvalue

/-- Changes of the key alter the column. -/
theorem alters_of_mem_keyChanges {table : String} {old new : Column} {step : Step}
    (h : step ∈ keyChanges table old new) : step.Alters table new := by
  unfold keyChanges at h
  split at h
  · exact List.mem_singleton.mp h ▸ .dropPrimaryKey
  · exact List.mem_singleton.mp h ▸ .addPrimaryKey
  · cases h

/-- Changes of the ban on null alter the column. -/
theorem alters_of_mem_nullChanges {table : String} {old new : Column} {step : Step}
    (h : step ∈ nullChanges table old new) : step.Alters table new := by
  unfold nullChanges at h
  split at h
  · exact List.mem_singleton.mp h ▸ .dropNotNull
  · exact List.mem_singleton.mp h ▸ .setNotNull
  · cases h

/-- The steps for a column alter that column. -/
theorem alters_of_mem_columnChanges {table : String} {old new : Column} {step : Step}
    (h : step ∈ columnChanges table old new) : step.Alters table new := by
  rcases List.mem_append.mp h with hfirst | hnull
  · rcases List.mem_append.mp hfirst with htype | hkey
    · exact alters_of_mem_typeAndDefaultChanges htype
    · exact alters_of_mem_keyChanges hkey
  · exact alters_of_mem_nullChanges hnull

/-- The steps that can be made of the columns of a table that stays. -/
inductive Step.ChangesTable (table : String) (old new : List Column) : Step → Prop where
  /-- A column that the table lacked is added. -/
  | added (column : Column) (h : column ∈ columnsMissingFrom new old) :
    ChangesTable table old new (.addColumn table column)
  /-- A column that the table had is altered. -/
  | altered (column former : Column) (step : Step) (hmem : column ∈ new)
    (hformer : Column.find? old column.name = some former) (h : step.Alters table column) :
    ChangesTable table old new step
  /-- A column that the table loses is dropped. -/
  | dropped (column : Column) (h : column ∈ columnsMissingFrom old new) :
    ChangesTable table old new (.dropColumn table column.name)

/-- The steps for a table change that table. -/
theorem changesTable_of_mem_columnSteps {table : String} {old new : List Column} {step : Step}
    (h : step ∈ columnSteps table old new) : step.ChangesTable table old new := by
  rcases List.mem_append.mp h with hfirst | hdropped
  · rcases List.mem_append.mp hfirst with hadded | hkept
    · obtain ⟨column, hcolumn, rfl⟩ := List.mem_map.mp hadded
      exact .added column hcolumn
    · obtain ⟨column, hcolumn, hstep⟩ := List.mem_flatMap.mp hkept
      cases hformer : Column.find? old column.name with
      | none =>
        rw [hformer] at hstep
        cases hstep
      | some former =>
        rw [hformer] at hstep
        exact .altered column former step hcolumn hformer (alters_of_mem_columnChanges hstep)
  · obtain ⟨column, hcolumn, rfl⟩ := List.mem_map.mp hdropped
    exact .dropped column hcolumn

/-- The third phase changes tables of the new schema that were there before. -/
theorem changesTable_of_mem_keptSteps {matching : Matching} {old : Schema} {table : NamedTable}
    {step : Step} (h : step ∈ keptSteps matching old table) :
    ∃ former, formerColumns? matching old table.1 = some former ∧
      step.ChangesTable table.1 former table.2 := by
  unfold keptSteps at h
  split at h
  · cases h
  · next former hformer => exact ⟨former, hformer, changesTable_of_mem_columnSteps h⟩

/-- The fourth phase declares enumerations. -/
theorem shape_of_mem_typeCreations {old new : Schema} {step : Step}
    (h : step ∈ typeCreations old new) : ∃ name values, step = .createEnum name values := by
  obtain ⟨⟨name, definition⟩, -, hstep⟩ := List.mem_filterMap.mp h
  cases definition with
  | enumeration values => exact ⟨name, values, (Option.some.inj hstep).symm⟩
  | composite definition => cases hstep

/-- The fifth phase creates a table, and may follow it with a remark and a copy of data from the
table that it replaces. -/
theorem shape_of_mem_tableCreation {matching : Matching} {old : Schema} {table : NamedTable}
    {step : Step} (h : step ∈ tableCreation matching old table) :
    step = .createTable table.1 table.2 ∨ (∃ text, step = .note text) ∨
      ∃ source former, matching.replacedBy? table.1 = some source ∧
        old.tables.get? source = some former ∧
        step = .copyData source table.1 (sharedColumnNames former table.2) := by
  rcases List.mem_cons.mp h with hcreate | hhint
  · exact .inl hcreate
  · split at hhint
    · cases hhint
    · next source hsource =>
      split at hhint
      · cases hhint
      · next former hformer =>
        unfold copyHint at hhint
        split at hhint
        · cases hhint
        · rcases List.mem_cons.mp hhint with hnote | hcopy
          · exact .inr (.inl ⟨_, hnote⟩)
          · exact .inr (.inr ⟨source, former, hsource, hformer, List.mem_singleton.mp hcopy⟩)

/-- The last phase warns and drops. -/
theorem shape_of_mem_tableDrop {table : String} {step : Step} (h : step ∈ tableDrop table) :
    (∃ text, step = .caution text) ∨ step = .dropTable table := by
  rcases List.mem_cons.mp h with hcaution | hdrop
  · exact .inl ⟨_, hcaution⟩
  · exact .inr (List.mem_singleton.mp hdrop)

/-- A step of a plan belongs to one of its phases. -/
theorem mem_planSteps_iff {matching : Matching} {old new : Schema} {step : Step} :
    step ∈ planSteps matching old new ↔
      step ∈ typeChanges old.types new.types.entries ∨
      (∃ pair ∈ matching.renames, step = .renameTable pair.1 pair.2) ∨
      (∃ table ∈ new.tables.entries, step ∈ keptSteps matching old table) ∨
      step ∈ typeCreations old new ∨
      (∃ table ∈ new.tables.entries, formerColumns? matching old table.1 = none ∧
        step ∈ tableCreation matching old table) ∨
      ∃ table ∈ old.tables.names, isKept matching new table = false ∧ step ∈ tableDrop table := by
  simp only [planSteps, renameSteps, tableCreations, tableDrops, List.mem_append, List.mem_flatMap,
    List.mem_map, List.mem_filter, Option.isNone_iff_eq_none, Bool.not_eq_true', or_assoc,
    and_assoc, eq_comm (a := step)]

/-! ## A sample migration -/

namespace Sample

/-- A column without a default that allows null. -/
def plain (name dataType : String) : Column := ⟨name, dataType, false, none⟩

/-- A schema with a table to be renamed, one to be replaced and one to be dropped. -/
def before : Schema where
  types := .ofList [("mood", .enumeration ["ok"])]
  tables := .ofList
    [("person", [plain "id" "INT PRIMARY KEY", ⟨"name", "TEXT", true, none⟩,
      ⟨"age", "INT", false, some "0"⟩]),
    ("legacy", [plain "id" "INT", plain "mail" "TEXT", plain "fax" "TEXT", plain "pager" "TEXT",
      plain "telex" "TEXT"]),
    ("log", [plain "at" "DATE"])]

/-- The schema that it becomes. -/
def after : Schema where
  types := .ofList [("mood", .enumeration ["ok", "sad"]), ("level", .enumeration ["low"])]
  tables := .ofList
    [("people", [plain "id" "INT", plain "name" "TEXT", ⟨"age", "BIGINT", false, some "1"⟩,
      ⟨"mood", "mood", true, some "'ok'"⟩]),
    ("contacts", [plain "id" "INT", plain "mail" "TEXT", plain "fax" "TEXT", plain "phone" "TEXT",
      plain "level" "level"])]

/-- The plan from the one to the other. -/
def steps : List Step :=
  [.addEnumValue "mood" "sad",
    .renameTable "person" "people",
    .addColumn "people" ⟨"mood", "mood", true, some "'ok'"⟩,
    .dropPrimaryKey "people",
    .dropNotNull "people" "name",
    .dropDefault "people" "age",
    .alterType "people" "age" "BIGINT" none,
    .setDefault "people" "age" "1",
    .createEnum "level" ["low"],
    .createTable "contacts" [plain "id" "INT", plain "mail" "TEXT", plain "fax" "TEXT",
      plain "phone" "TEXT", plain "level" "level"],
    .note "Migrate data from legacy to contacts (similar columns detected)",
    .copyData "legacy" "contacts" ["id", "mail", "fax"],
    .caution "Dropping table legacy will permanently delete its data",
    .dropTable "legacy",
    .caution "Dropping table log will permanently delete its data",
    .dropTable "log"]

/-- The plan between the two sample schemas. -/
theorem plan_before_after : plan .standard before after = .ok steps := by decide +kernel

end Sample

end SchemaEvolution
