import SchemaEvolution.Proofs.Plan.Accounting
import SchemaEvolution.Proofs.Plan.BestChoice
import SchemaEvolution.Proofs.Plan.Order

/-! # Renames are matched best first
The tables that only the old schema has look for a new name one after the other, in their order.
Each takes the first best of the tables that only the new schema has and that are not taken yet, and
at the end a table that is dropped is unlike every table that is created. -/

namespace SchemaEvolution

open Double Matching

/-- Steps **rename best first** when their renames are made greedily and none is left to make. -/
structure RenamesBestFirst (options : MatchOptions) (old new : Schema) (steps : List Step) :
    Prop where
  /-- The tables are renamed in the order of the old schema. -/
  in_order : (renamedFrom steps).Sublist ((missingFrom old new).map Prod.fst)
  /-- Who is renamed takes the first best name that no earlier step has taken. -/
  first_best : ∀ earlier later source target,
    steps = earlier ++ .renameTable source target :: later →
      ∃ former columns, (source, former) ∈ missingFrom old new ∧
        Round.FirstBest options options.renameThreshold former
          (Round.untaken (renamedTo earlier) (missingFrom new old)) (target, columns)
  /-- Who is dropped is unlike every table that is created. -/
  unlike : ∀ source target columns,
    .dropTable source ∈ steps → .createTable target columns ∈ steps →
      ∃ former, (source, former) ∈ missingFrom old new ∧ (target, columns) ∈ missingFrom new old ∧
        similarity options former columns < options.renameThreshold

variable {options : MatchOptions} {old new : Schema}

/-! ## The renames of a matching -/

/-- The renames of a matching are the pairs of its first rounds. -/
theorem Matching.renames_ofSchemas (options : MatchOptions) (old new : Schema) :
    (ofSchemas options old new).renames =
      Round.pairs (Round.playAll options options.renameThreshold (missingFrom old new)
        (missingFrom new old)) := rfl

/-- **Who is renamed takes the first best name** that no earlier pair has taken. -/
theorem Matching.firstBest_of_renames {earlier later : List (String × String)}
    {source target : String}
    (h : (ofSchemas options old new).renames = earlier ++ (source, target) :: later) :
    ∃ former columns, (source, former) ∈ missingFrom old new ∧
      Round.FirstBest options options.renameThreshold former
        (Round.untaken (earlier.map Prod.snd) (missingFrom new old)) (target, columns) := by
  rw [renames_ofSchemas] at h
  obtain ⟨former, hformer, hchoice⟩ := Round.exists_choice_of_pairs h
  obtain ⟨columns, hbest⟩ := Round.firstBest_of_choice hchoice
  exact ⟨former, columns, hformer, hbest⟩

/-- **No likeness is left** between a table that is not renamed and a name that is not taken. -/
theorem Matching.similarity_lt_of_unrenamed {source target : String} {former columns : List Column}
    (hlost : (source, former) ∈ missingFrom old new)
    (hsource : source ∉ (ofSchemas options old new).renamedSources)
    (hgained : (target, columns) ∈ missingFrom new old)
    (htarget : target ∉ (ofSchemas options old new).renamedTargets) :
    similarity options former columns < options.renameThreshold := by
  rw [renamedSources, renames_ofSchemas] at hsource
  rw [renamedTargets, renames_ofSchemas] at htarget
  exact Round.similarity_lt_of_unmatched hlost hsource hgained htarget

/-! ## The renames of a plan -/

/-- A dropped table is one that only the old schema has and that is not renamed. -/
theorem exists_dropped_of_mem {matching : Matching} {source : String}
    (h : .dropTable source ∈ planSteps matching old new) :
    ∃ former, (source, former) ∈ missingFrom old new ∧ source ∉ matching.renamedSources := by
  obtain ⟨hold, hlost, hsource⟩ := (dropTable_mem_planSteps_iff source).mp h
  obtain ⟨former, hformer⟩ := (old.tables.exists_get?_iff source).mpr hold
  refine ⟨former, ?_, hsource⟩
  rw [mem_missingFrom_iff]
  exact ⟨(old.tables.get?_eq_some_iff source former).mp hformer, hlost⟩

/-- A created table is one that only the new schema has and that no other one is renamed to. -/
theorem Matching.Fits.created_of_mem {matching : Matching} (hfits : matching.Fits old new)
    {target : String} {columns : List Column}
    (h : .createTable target columns ∈ planSteps matching old new) :
    (target, columns) ∈ missingFrom new old ∧ target ∉ matching.renamedTargets := by
  have hcreated : target ∈ createdTables (planSteps matching old new) :=
    List.mem_filterMap.mpr ⟨_, h, rfl⟩
  rw [hfits.mem_created_iff] at hcreated
  obtain ⟨-, hgained, htarget⟩ := hcreated
  rw [mem_missingFrom_iff]
  exact ⟨⟨mem_of_createTable_mem_planSteps h, hgained⟩, htarget⟩

/-- **Renames are a maximal greedy matching, best first.** All similarities are numbers, and every
plan renames best first. -/
theorem plan_renamesBestFirst (options : MatchOptions) (old new : Schema) :
    (∀ former columns, IsNumber (similarity options former columns)) ∧
      ∀ steps, plan options old new = .ok steps → RenamesBestFirst options old new steps := by
  refine ⟨isNumber_similarity options, fun steps hplan => ?_⟩
  have hfits := ofSchemas_fits options old new
  obtain rfl := eq_planSteps_of_plan hplan
  refine ⟨?_, ?_, ?_⟩
  · rw [renamedFrom, filterMap_renamed?_planSteps, renames_ofSchemas]
    exact Round.pairs_sources_sublist _ _
  · intro earlier later source target hsteps
    -- the renames are those of the steps before, this one, and those of the steps behind
    have hrenames := congrArg (List.filterMap Step.renamed?) hsteps
    rw [filterMap_renamed?_planSteps, List.filterMap_append] at hrenames
    exact firstBest_of_renames hrenames
  · intro source target columns hdrop hcreate
    obtain ⟨former, hlost, hsource⟩ := exists_dropped_of_mem hdrop
    obtain ⟨hgained, htarget⟩ := hfits.created_of_mem hcreate
    exact ⟨former, hlost, hgained, similarity_lt_of_unrenamed hlost hsource hgained htarget⟩

namespace Sample

/-- The columns that two tables of a schema share. -/
def amounts : List Column := [plain "id" "INT", plain "total" "INT", plain "day" "DATE"]

/-- A schema with two tables that are alike. -/
def orders : Schema where
  types := .empty
  tables := .ofList [("orders", amounts), ("bills", plain "due" "DATE" :: amounts)]

/-- The schema with new names for both, of which the second is as good for the first table as the
first one is. -/
def sales : Schema where
  types := .empty
  tables := .ofList [("sales", amounts), ("invoices", amounts)]

end Sample

/-- The first table takes the first of two equally good names, and the second table takes the name
that is left. -/
theorem sample_renamesBestFirst :
    plan .standard Sample.orders Sample.sales =
        .ok [.renameTable "orders" "sales", .renameTable "bills" "invoices",
          .dropColumn "invoices" "due"] ∧
      RenamesBestFirst .standard Sample.orders Sample.sales
        [.renameTable "orders" "sales", .renameTable "bills" "invoices",
          .dropColumn "invoices" "due"] := by
  have hplan : plan .standard Sample.orders Sample.sales =
      .ok [.renameTable "orders" "sales", .renameTable "bills" "invoices",
        .dropColumn "invoices" "due"] := by decide +kernel
  exact ⟨hplan, (plan_renamesBestFirst .standard Sample.orders Sample.sales).2 _ hplan⟩

end SchemaEvolution
