import SchemaEvolution.Proofs.Plan.Announcement
import SchemaEvolution.Proofs.Plan.BestFirst
import SchemaEvolution.Proofs.Plan.Overlap

/-! # Copies of data
Tables that are neither kept nor renamed are matched once more: a table that is dropped is replaced
by the first best of the tables that are created. Where the threshold for this is positive and every
table has a column, a table and the one that replaces it share a column, so each **replacement**
shows in the plan as one copy of data. A copy takes exactly the columns that both tables have, and
comes before the drop of its source. -/

namespace SchemaEvolution

/-! ## Tables that are copied -/

/-- The table that a step copies from and the table that it copies into. -/
def Step.copied? : Step → Option (String × String)
  | .copyData source target _ => some (source, target)
  | _ => none

/-- The tables that a list of steps copies from. -/
def copiedFrom (steps : List Step) : List String := (steps.filterMap Step.copied?).map Prod.fst

/-- The tables that a list of steps copies into. -/
def copiedInto (steps : List Step) : List String := (steps.filterMap Step.copied?).map Prod.snd

/-- The shared columns are the names of the new table that the old one has, in the new order. -/
theorem sharedColumnNames_eq (former columns : List Column) :
    sharedColumnNames former columns =
      (columns.map Column.name).filter fun name => decide (name ∈ former.map Column.name) := by
  rw [sharedColumnNames, List.filter_map]
  congr 1
  refine List.filter_congr fun column _ => ?_
  rw [Bool.eq_iff_iff, Function.comp_apply, decide_eq_true_iff, Column.declares_iff]

/-- Where two tables overlap, there is a column to copy. -/
theorem sharedColumnNames_ne_nil {former columns : List Column}
    (h : (nameSet former ∩ nameSet columns).Nonempty) : sharedColumnNames former columns ≠ [] := by
  obtain ⟨name, hname⟩ := h
  rw [Finset.mem_inter, mem_nameSet_iff, mem_nameSet_iff] at hname
  apply List.ne_nil_of_mem (a := name)
  rw [sharedColumnNames_eq, List.mem_filter, decide_eq_true_iff]
  exact hname.symm

/-! ## Replacements -/

namespace Matching

variable {options : MatchOptions} {old new : Schema}

/-- The tables that only the old schema has and that are not renamed. -/
def leftBehind (matching : Matching) (old new : Schema) : List NamedTable :=
  (missingFrom old new).filter fun table => !matching.renames.any fun pair => pair.1 == table.1

/-- The tables that only the new schema has and that no table is renamed to. -/
def unclaimed (matching : Matching) (old new : Schema) : List NamedTable :=
  (missingFrom new old).filter fun table => !matching.renames.any fun pair => pair.2 == table.1

/-- The replacements of a matching are the pairs of its second rounds. -/
theorem replacements_ofSchemas (options : MatchOptions) (old new : Schema) :
    (ofSchemas options old new).replacements =
      Round.pairs (Round.playAll options options.replacementThreshold
        (leftBehind (ofSchemas options old new) old new)
        (unclaimed (ofSchemas options old new) old new)) := rfl

/-- A table is left behind when it is missing from the new schema and was not renamed. -/
theorem mem_leftBehind_iff (matching : Matching) (table : NamedTable) :
    table ∈ leftBehind matching old new ↔
      table ∈ missingFrom old new ∧ table.1 ∉ matching.renamedSources := by
  rw [leftBehind, List.mem_filter, Bool.not_eq_true', List.any_eq_false]
  simp only [renamedSources, List.mem_map, beq_iff_eq, not_exists, not_and]

/-- A table is unclaimed when it is missing from the old schema and no table was renamed to it. -/
theorem mem_unclaimed_iff (matching : Matching) (table : NamedTable) :
    table ∈ unclaimed matching old new ↔
      table ∈ missingFrom new old ∧ table.1 ∉ matching.renamedTargets := by
  rw [unclaimed, List.mem_filter, Bool.not_eq_true', List.any_eq_false]
  simp only [renamedTargets, List.mem_map, beq_iff_eq, not_exists, not_and]

/-- No table is replaced twice. -/
theorem nodup_replaced (options : MatchOptions) (old new : Schema) :
    ((ofSchemas options old new).replacements.map Prod.fst).Nodup := by
  rw [replacements_ofSchemas]
  refine List.Nodup.sublist (Round.pairs_sources_sublist _ _) ?_
  exact (nodup_map_missingFrom old new).sublist (List.filter_sublist.map Prod.fst)

/-- No table replaces two tables. -/
theorem nodup_replacing (options : MatchOptions) (old new : Schema) :
    ((ofSchemas options old new).replacements.map Prod.snd).Nodup := by
  rw [replacements_ofSchemas]
  exact Round.pairs_targets_nodup _ _

/-- **A table is as similar as it takes to the one that replaces it.** -/
theorem exists_reached_of_replacement {pair : String × String}
    (h : pair ∈ (ofSchemas options old new).replacements) :
    ∃ former columns, (pair.1, former) ∈ missingFrom old new ∧
      (pair.2, columns) ∈ missingFrom new old ∧
      ¬similarity options former columns < options.replacementThreshold := by
  rw [replacements_ofSchemas] at h
  obtain ⟨former, columns, hformer, hcolumns, hreached⟩ := Round.exists_reached_of_mem_pairs h
  exact ⟨former, columns, ((mem_leftBehind_iff _ _).mp hformer).1,
    ((mem_unclaimed_iff _ _).mp hcolumns).1, hreached⟩

/-- **No likeness is left** between a table that is not replaced and one that replaces none. -/
theorem similarity_lt_of_unreplaced {source target : String} {former columns : List Column}
    (hlost : (source, former) ∈ leftBehind (ofSchemas options old new) old new)
    (hsource : source ∉ (ofSchemas options old new).replacements.map Prod.fst)
    (hgained : (target, columns) ∈ unclaimed (ofSchemas options old new) old new)
    (htarget : target ∉ (ofSchemas options old new).replacements.map Prod.snd) :
    similarity options former columns < options.replacementThreshold := by
  rw [replacements_ofSchemas] at hsource htarget
  exact Round.similarity_lt_of_unmatched hlost hsource hgained htarget

/-- Two tables without a partner of the same name overlap credibly when their similarity reaches a
positive threshold. -/
theorem overlapsCredibly_of_mem_missingFrom (hold : old.TablesFilled) (hnew : new.TablesFilled)
    {threshold : Float} (hpositive : 0.0 < threshold) {lost gained : NamedTable}
    (hlost : lost ∈ missingFrom old new) (hgained : gained ∈ missingFrom new old)
    (hreached : ¬similarity options lost.2 gained.2 < threshold) :
    OverlapsCredibly options lost.2 gained.2 := by
  have hformer : lost.2 ≠ [] := hold lost ((mem_missingFrom_iff _ _ _).mp hlost).1
  have hdeclared : gained.2 ≠ [] := hnew gained ((mem_missingFrom_iff _ _ _).mp hgained).1
  exact overlapsCredibly_of_reached hpositive hformer hdeclared hreached

/-- Each replacement has a column to copy. -/
def Copyable (matching : Matching) (old new : Schema) : Prop :=
  ∀ pair ∈ matching.replacements, ∃ former columns, old.tables.get? pair.1 = some former ∧
    new.tables.get? pair.2 = some columns ∧ sharedColumnNames former columns ≠ []

/-- **Replacements have columns to copy** where the threshold is positive and every table has a
column. -/
theorem copyable_ofSchemas (hpositive : 0.0 < options.replacementThreshold)
    (hold : old.TablesFilled) (hnew : new.TablesFilled) :
    (ofSchemas options old new).Copyable old new := by
  intro pair hpair
  obtain ⟨former, columns, hlost, hgained, hreached⟩ := exists_reached_of_replacement hpair
  have hoverlap := overlapsCredibly_of_mem_missingFrom hold hnew hpositive hlost hgained hreached
  exact ⟨former, columns, get?_of_mem_missingFrom hlost, get?_of_mem_missingFrom hgained,
    sharedColumnNames_ne_nil hoverlap.shared⟩

end Matching

/-! ## The copies of a plan -/

open Matching

variable {matching : Matching} {old new : Schema}

/-- The creation of a table holds a copy exactly when the table replaces another one. -/
theorem filterMap_copied?_tableCreation (hcopyable : matching.Copyable old new) {table : NamedTable}
    (htable : table ∈ new.tables.entries) :
    (tableCreation matching old table).filterMap Step.copied? =
      ((matching.replacedBy? table.1).map fun source => (source, table.1)).toList := by
  unfold tableCreation
  cases hreplaced : matching.replacedBy? table.1 with
  | none => rfl
  | some source =>
    obtain ⟨former, columns, hformer, hcolumns, hshared⟩ :=
      hcopyable (source, table.1) (mem_replacements_of_replacedBy? hreplaced)
    obtain rfl := Option.some.inj (hcolumns.symm.trans (new.tables.get?_of_mem htable))
    -- the two share a column, so the hint is written
    have hsome : (sharedColumnNames former table.2).isEmpty = false :=
      List.isEmpty_eq_false_iff.mpr hshared
    dsimp only
    rw [hformer]
    dsimp only
    rw [copyHint, hsome]
    rfl

/-- **The copies of a plan** are the replacements, in the order in which the tables are created. -/
theorem filterMap_copied?_planSteps (hcopyable : matching.Copyable old new) :
    (planSteps matching old new).filterMap Step.copied? =
      (createdTables (planSteps matching old new)).filterMap fun target =>
        (matching.replacedBy? target).map fun source => (source, target) := by
  have hquiet : ∀ step : Step, step.movedTables = [] → step.copied? = none := by
    intro step h
    cases step with
    | copyData source target columns => cases h
    | _ => rfl
  rw [filterMap_planSteps _ hquiet, filterMap_renameSteps_eq_nil _ (fun _ _ => rfl),
    filterMap_tableDrops_eq_nil _ (fun _ => rfl) (fun _ => rfl), List.nil_append, List.append_nil,
    createdTables, filterMap_created?_planSteps, List.filterMap_map, tableCreations,
    List.filterMap_flatMap, List.filterMap_eq_flatMap_toList]
  refine List.flatMap_congr fun table htable => ?_
  exact filterMap_copied?_tableCreation hcopyable (List.mem_filter.mp htable).1

variable {options : MatchOptions}

/-- A plan copies from one table into another exactly when the second one replaces the first. -/
theorem mem_copied_iff (hcopyable : (ofSchemas options old new).Copyable old new)
    (pair : String × String) :
    pair ∈ (planSteps (ofSchemas options old new) old new).filterMap Step.copied? ↔
      pair ∈ (ofSchemas options old new).replacements := by
  have hfits := ofSchemas_fits options old new
  rw [filterMap_copied?_planSteps hcopyable, List.mem_filterMap]
  constructor
  · rintro ⟨target, -, hpair⟩
    obtain ⟨source, hreplaced, rfl⟩ := Option.map_eq_some_iff.mp hpair
    exact mem_replacements_of_replacedBy? hreplaced
  · intro hpair
    have hfound := find?_of_nodup_targets (nodup_replacing options old new) hpair
    obtain ⟨hgained, hfresh, hunclaimed⟩ := hfits.replacing_gained pair hpair
    refine ⟨pair.2, (hfits.mem_created_iff pair.2).mpr ⟨hgained, hfresh, hunclaimed⟩, ?_⟩
    rw [replacedBy?, hfound]
    rfl

/-- No table is copied into twice. -/
theorem nodup_copiedInto (hcopyable : matching.Copyable old new) :
    (copiedInto (planSteps matching old new)).Nodup := by
  rw [copiedInto, filterMap_copied?_planSteps hcopyable, List.map_filterMap]
  refine List.Nodup.filterMap ?_ (nodup_createdTables matching old new)
  intro first second target hfirst hsecond
  simp only [Option.map_map, Option.mem_def, Option.map_eq_some_iff, Function.comp_apply]
    at hfirst hsecond
  obtain ⟨-, -, rfl⟩ := hfirst
  obtain ⟨-, -, rfl⟩ := hsecond
  rfl

/-- No table is copied from twice. -/
theorem nodup_copiedFrom (hcopyable : (ofSchemas options old new).Copyable old new) :
    (copiedFrom (planSteps (ofSchemas options old new) old new)).Nodup := by
  refine List.Nodup.map_on ?_ (nodup_copiedInto hcopyable).of_map
  -- copies from one table are one replacement
  intro first hfirst second hsecond hsame
  rw [mem_copied_iff hcopyable] at hfirst hsecond
  exact List.inj_on_of_nodup_map (nodup_replaced options old new) hfirst hsecond hsame

/-- A copy of a plan takes the columns that a table shares with the one that replaces it. -/
theorem exists_shared_of_copyData {source target : String} {columns : List String}
    (h : .copyData source target columns ∈ planSteps matching old new) :
    ∃ former declared, (source, target) ∈ matching.replacements ∧
      old.tables.get? source = some former ∧ new.tables.get? target = some declared ∧
      columns = sharedColumnNames former declared := by
  obtain ⟨table, htable, hcreation⟩ := exists_of_phase_eq_five h rfl
  rcases shape_of_mem_tableCreation hcreation with he | ⟨text, he⟩ |
    ⟨from', former, hreplaced, hformer, he⟩
  · cases he
  · cases he
  · obtain ⟨rfl, rfl, rfl⟩ := Step.copyData.inj he
    exact ⟨former, table.2, mem_replacements_of_replacedBy? hreplaced, hformer,
      new.tables.get?_of_mem htable, rfl⟩

/-- **A copy of a plan is made between two tables that are as similar as it takes.** -/
theorem exists_reached_of_copyData {source target : String} {columns : List String}
    (h : .copyData source target columns ∈ planSteps (ofSchemas options old new) old new) :
    ∃ former declared, (source, former) ∈ missingFrom old new ∧
      (target, declared) ∈ missingFrom new old ∧
      ¬similarity options former declared < options.replacementThreshold ∧
      columns = sharedColumnNames former declared := by
  obtain ⟨former, declared, hpair, hformer, hdeclared, hcolumns⟩ := exists_shared_of_copyData h
  obtain ⟨former', declared', hlost, hgained, hreached⟩ := exists_reached_of_replacement hpair
  obtain rfl := Option.some.inj (hformer.symm.trans (get?_of_mem_missingFrom hlost))
  obtain rfl := Option.some.inj (hdeclared.symm.trans (get?_of_mem_missingFrom hgained))
  exact ⟨former, declared, hlost, hgained, hreached, hcolumns⟩

/-- **The table that is copied from is dropped later.** -/
theorem Matching.Fits.dropTable_mem_later (hfits : matching.Fits old new)
    {earlier later : List Step} {source target : String} {columns : List String}
    (h : planSteps matching old new = earlier ++ .copyData source target columns :: later) :
    .dropTable source ∈ later := by
  have hcopied : .copyData source target columns ∈ planSteps matching old new := by
    rw [h]
    exact List.mem_append_right earlier List.mem_cons_self
  obtain ⟨former, declared, hpair, -, -, -⟩ := exists_shared_of_copyData hcopied
  have hdropped : .dropTable source ∈ planSteps matching old new :=
    (dropTable_mem_planSteps_iff source).mpr (hfits.replaced_lost _ hpair)
  have horder := inOrder_planSteps matching old new
  -- copies are of the fifth phase and drops of the sixth
  rw [h] at hdropped horder
  exact horder.mem_later_of_phase_lt hdropped (Nat.lt_succ_self 5)

/-- **No likeness is left** between a dropped table that is not copied from and a created one that
is not copied into. -/
theorem similarity_lt_of_uncopied (hcopyable : (ofSchemas options old new).Copyable old new)
    {source target : String} {declared : List Column}
    (hdrop : .dropTable source ∈ planSteps (ofSchemas options old new) old new)
    (hcreate : .createTable target declared ∈ planSteps (ofSchemas options old new) old new)
    (hsource : source ∉ copiedFrom (planSteps (ofSchemas options old new) old new))
    (htarget : target ∉ copiedInto (planSteps (ofSchemas options old new) old new)) :
    ∃ former, (source, former) ∈ missingFrom old new ∧ (target, declared) ∈ missingFrom new old ∧
      similarity options former declared < options.replacementThreshold := by
  obtain ⟨former, hlost, hfree⟩ := exists_dropped_of_mem hdrop
  obtain ⟨hgained, hclaimed⟩ := (ofSchemas_fits options old new).created_of_mem hcreate
  refine ⟨former, hlost, hgained, ?_⟩
  apply similarity_lt_of_unreplaced ((mem_leftBehind_iff _ _).mpr ⟨hlost, hfree⟩) _
    ((mem_unclaimed_iff _ _).mpr ⟨hgained, hclaimed⟩) _
  · intro hreplaced
    obtain ⟨pair, hpair, rfl⟩ := List.mem_map.mp hreplaced
    exact hsource (List.mem_map_of_mem ((mem_copied_iff hcopyable pair).mpr hpair))
  · intro hreplacing
    obtain ⟨pair, hpair, rfl⟩ := List.mem_map.mp hreplacing
    exact htarget (List.mem_map_of_mem ((mem_copied_iff hcopyable pair).mpr hpair))

/-! ## Data is rescued -/

/-- Steps **rescue data** when the data of a dropped table goes first to the table that replaces it,
and no replacement is missed. -/
structure RescuesData (options : MatchOptions) (old new : Schema) (steps : List Step) : Prop where
  /-- A copy stands behind the creation of its target and a remark, a drop behind a warning. -/
  announced : Announced steps
  /-- The table that is copied from is dropped later. -/
  dropped_later : ∀ earlier source target columns later,
    steps = earlier ++ .copyData source target columns :: later → .dropTable source ∈ later
  /-- A copy is made between two tables that are as similar as it takes. Of the columns of the new
  table it takes those that the old one has, in the new order, and there is one. -/
  columns_shared : ∀ source target columns, .copyData source target columns ∈ steps →
    ∃ former declared, (source, former) ∈ missingFrom old new ∧
      (target, declared) ∈ missingFrom new old ∧
      ¬similarity options former declared < options.replacementThreshold ∧ columns ≠ [] ∧
      columns = (declared.map Column.name).filter fun name =>
        decide (name ∈ former.map Column.name)
  /-- No table is copied from twice. -/
  sources_nodup : (copiedFrom steps).Nodup
  /-- No table is copied into twice. -/
  targets_nodup : (copiedInto steps).Nodup
  /-- A dropped table that is not copied from is unlike each created one that is not copied into. -/
  unlike : ∀ source target declared, .dropTable source ∈ steps →
    .createTable target declared ∈ steps → source ∉ copiedFrom steps → target ∉ copiedInto steps →
      ∃ former, (source, former) ∈ missingFrom old new ∧ (target, declared) ∈ missingFrom new old ∧
        similarity options former declared < options.replacementThreshold

/-- **A plan rescues data before it drops a table**, where the threshold for replacements is
positive and every table has a column. -/
theorem plan_rescuesData (options : MatchOptions) (old new : Schema) (steps : List Step)
    (hold : old.TablesFilled) (hnew : new.TablesFilled)
    (hpositive : 0.0 < options.replacementThreshold) (hplan : plan options old new = .ok steps) :
    RescuesData options old new steps := by
  obtain rfl := eq_planSteps_of_plan hplan
  have hfits := ofSchemas_fits options old new
  have hcopyable := copyable_ofSchemas hpositive hold hnew
  refine ⟨announced_planSteps _ old new, ?_, ?_, nodup_copiedFrom hcopyable,
    nodup_copiedInto hcopyable, ?_⟩
  · intro earlier source target columns later hsteps
    exact hfits.dropTable_mem_later hsteps
  · intro source target columns hcopied
    obtain ⟨former, declared, hlost, hgained, hreached, rfl⟩ := exists_reached_of_copyData hcopied
    have hoverlap := overlapsCredibly_of_mem_missingFrom hold hnew hpositive hlost hgained hreached
    exact ⟨former, declared, hlost, hgained, hreached, sharedColumnNames_ne_nil hoverlap.shared,
      sharedColumnNames_eq former declared⟩
  · intro source target declared hdrop hcreate hsource htarget
    exact similarity_lt_of_uncopied hcopyable hdrop hcreate hsource htarget

namespace Sample

/-- A schema with a table that will be replaced and one that will be dropped. -/
def ledger : Schema where
  types := .empty
  tables := .ofList [("bills", amounts ++ [plain "due" "DATE", plain "paid" "DATE"]),
    ("audit", [plain "at" "DATE"])]

/-- The schema with a replacement for the first table and a table that has nothing to do with either
of them. -/
def books : Schema where
  types := .empty
  tables := .ofList [("invoices", amounts ++ [plain "tax" "INT", plain "rate" "INT"]),
    ("metrics", [plain "value" "FLOAT"])]

/-- The plan from the one to the other. -/
def rescue : List Step :=
  [.createTable "invoices" (amounts ++ [plain "tax" "INT", plain "rate" "INT"]),
    .note "Migrate data from bills to invoices (similar columns detected)",
    .copyData "bills" "invoices" ["id", "total", "day"],
    .createTable "metrics" [plain "value" "FLOAT"],
    .caution "Dropping table bills will permanently delete its data",
    .dropTable "bills",
    .caution "Dropping table audit will permanently delete its data",
    .dropTable "audit"]

/-- The plan between the two sample schemas. -/
theorem plan_ledger_books : plan .standard ledger books = .ok rescue := by decide +kernel

end Sample

/-- The sample copies what the bills share with the invoices; the audit shares nothing with the
metrics. -/
theorem sample_rescuesData :
    Sample.ledger.TablesFilled ∧ Sample.books.TablesFilled ∧
      0.0 < MatchOptions.standard.replacementThreshold ∧
      plan .standard Sample.ledger Sample.books = .ok Sample.rescue ∧
      RescuesData .standard Sample.ledger Sample.books Sample.rescue := by
  have hledger : Sample.ledger.TablesFilled := by decide +kernel
  have hbooks : Sample.books.TablesFilled := by decide +kernel
  have hpositive : 0.0 < MatchOptions.standard.replacementThreshold := by decide +kernel
  exact ⟨hledger, hbooks, hpositive, Sample.plan_ledger_books,
    plan_rescuesData .standard Sample.ledger Sample.books Sample.rescue hledger hbooks hpositive
      Sample.plan_ledger_books⟩

end SchemaEvolution
