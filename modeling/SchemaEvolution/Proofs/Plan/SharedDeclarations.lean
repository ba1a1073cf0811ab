import SchemaEvolution.Proofs.Catalog.Placement
import SchemaEvolution.Proofs.Plan.Unchanged

/-! # Declarations that both schemas share
A table or a type that is declared alike in both schemas has no part in the plan between them. The
table is no candidate for a rename or a replacement, so all rounds are played as without it; each
phase passes over it, wherever it stands among the other declarations; and where the comparison
fails, it fails for the same reason. -/

namespace SchemaEvolution

/-! ## Sharing a declaration -/

namespace Schema

/-- The schema with a new table placed among its tables. -/
def placeTable (schema : Schema) (position : Nat) (name : String) (columns : List Column)
    (hname : name ∉ schema.tables.names) : Schema :=
  { schema with tables := schema.tables.place position name columns hname }

/-- The schema with a new type placed among its types. -/
def placeType (schema : Schema) (position : Nat) (name : String) (definition : TypeDefinition)
    (hname : name ∉ schema.types.names) : Schema :=
  { schema with types := schema.types.place position name definition hname }

variable (schema : Schema) (position : Nat) (name : String)

/-- A placed table is placed among the tables. -/
@[simp] theorem tables_placeTable (columns : List Column) (hname : name ∉ schema.tables.names) :
    (schema.placeTable position name columns hname).tables =
      schema.tables.place position name columns hname := rfl

/-- A placed type is placed among the types. -/
@[simp] theorem types_placeType (definition : TypeDefinition) (hname : name ∉ schema.types.names) :
    (schema.placeType position name definition hname).types =
      schema.types.place position name definition hname := rfl

end Schema

variable {matching : Matching} {old new other : Schema} {name : String}

/-! ## Changes of what stays as it is -/

/-- Nothing is done about a table whose columns stay as they are. -/
theorem tableChanges_self (table : String) {columns : List Column}
    (hdistinct : Column.Distinct columns) : tableChanges table columns columns = .ok [] := by
  have hsteps : columnSteps table columns columns = [] :=
    (columnSteps_eq_nil_iff hdistinct hdistinct).mpr (.of_perm (.refl columns))
  have hadded : columnsMissingFrom columns columns = [] := by
    rw [columnsMissingFrom_eq_nil_iff]
    exact fun column hcolumn => (Column.declares_iff columns column.name).mpr
      (List.mem_map_of_mem hcolumn)
  rw [tableChanges_eq_ok_iff, hadded, hsteps]
  exact ⟨fun _ hmem => (by cases hmem), rfl⟩

/-- The comparison of tables passes over one whose columns stay as they are. -/
theorem keptTableChanges_cons_self {columns : List Column} (hdistinct : Column.Distinct columns)
    (hformer : formerColumns? matching old name = some columns) (rest : List NamedTable) :
    keptTableChanges matching old ((name, columns) :: rest) =
      keptTableChanges matching old rest := by
  simp only [keptTableChanges, hformer, tableChanges_self name hdistinct]
  cases keptTableChanges matching old rest <;> rfl

/-- Behind the same tables, what is compared alike makes the comparison alike. -/
theorem keptTableChanges_append_congr {first second : List NamedTable}
    (h : keptTableChanges matching old first = keptTableChanges matching old second)
    (front : List NamedTable) :
    keptTableChanges matching old (front ++ first) =
      keptTableChanges matching old (front ++ second) := by
  induction front with
  | nil => exact h
  | cons entry front ih => simp only [List.cons_append, keptTableChanges, ih]

/-- The comparison of tables depends on the old schema only by their former columns. -/
theorem keptTableChanges_congr {tables : List NamedTable}
    (h : ∀ table ∈ tables,
      formerColumns? matching old table.1 = formerColumns? matching other table.1) :
    keptTableChanges matching old tables = keptTableChanges matching other tables := by
  induction tables with
  | nil => rfl
  | cons table tables ih =>
    rw [List.forall_mem_cons] at h
    simp only [keptTableChanges, h.1, ih h.2]

/-- The comparison of types passes over one that stays as it is. -/
theorem typeChanges_cons_self {types : Catalog TypeDefinition} {definition : TypeDefinition}
    (hformer : types.get? name = some definition) (rest : List (String × TypeDefinition)) :
    typeChanges types ((name, definition) :: rest) = typeChanges types rest := by
  cases definition with
  | enumeration values =>
    have hvalues := (enumerationChanges_eq_nil_iff name values values).mpr rfl
    simp only [typeChanges, hformer, hvalues, List.nil_append]
  | composite text => simp only [typeChanges, hformer, if_true]

/-- Behind the same types, what is compared alike makes the comparison alike, also where it ends
early. -/
theorem typeChanges_append_congr {types : Catalog TypeDefinition}
    {first second : List (String × TypeDefinition)}
    (h : typeChanges types first = typeChanges types second)
    (front : List (String × TypeDefinition)) :
    typeChanges types (front ++ first) = typeChanges types (front ++ second) := by
  induction front with
  | nil => exact h
  | cons entry front ih => simp only [List.cons_append, typeChanges, ih]

/-- The comparison of types depends on the old catalog only by the types that it looks up. -/
theorem typeChanges_congr {types others : Catalog TypeDefinition}
    {entries : List (String × TypeDefinition)}
    (h : ∀ entry ∈ entries, types.get? entry.1 = others.get? entry.1) :
    typeChanges types entries = typeChanges others entries := by
  induction entries with
  | nil => rfl
  | cons entry entries ih =>
    rw [List.forall_mem_cons] at h
    simp only [typeChanges, h.1, ih h.2]

/-! ## A table of both schemas -/

section Table

variable {columns : List Column} {oldPosition newPosition : Nat}
  {hold : name ∉ old.tables.names} {hnew : name ∉ new.tables.names}

/-- A table that both schemas have is missing from neither of them. -/
theorem Matching.missingFrom_placeTable :
    missingFrom (old.placeTable oldPosition name columns hold)
        (new.placeTable newPosition name columns hnew) =
      missingFrom old new := by
  unfold missingFrom
  rw [Schema.tables_placeTable, Schema.tables_placeTable, Catalog.filter_lacking_place]

/-- **All rounds are played as without the table.** -/
theorem Matching.ofSchemas_placeTable (options : MatchOptions) :
    ofSchemas options (old.placeTable oldPosition name columns hold)
        (new.placeTable newPosition name columns hnew) =
      ofSchemas options old new := by
  unfold ofSchemas
  rw [missingFrom_placeTable, missingFrom_placeTable]

namespace Matching.Fits

variable (hfits : matching.Fits old new)
include hfits

/-- The table itself had its columns before. -/
theorem formerColumns?_placeTable_self (hnew : name ∉ new.tables.names) :
    formerColumns? matching (old.placeTable oldPosition name columns hold) name = some columns := by
  have hfrom : matching.renamedFrom? name = none :=
    (renamedFrom?_eq_none_iff name).mpr fun htarget => hnew (hfits.target_gained name htarget).1
  rw [formerColumns?, hfrom, Option.getD_none, Schema.tables_placeTable, Catalog.get?_place_self]

/-- Every other table had the columns that it had without the table. -/
theorem formerColumns?_placeTable_of_ne {table : String} (htable : table ≠ name) :
    formerColumns? matching (old.placeTable oldPosition name columns hold) table =
      formerColumns? matching old table := by
  have hsource : (matching.renamedFrom? table).getD table ≠ name := by
    cases hfrom : matching.renamedFrom? table with
    | none => exact htable
    | some source =>
      -- the source of a rename is an old table, and the shared one is none
      have hpair := mem_renames_of_renamedFrom? hfrom
      exact fun e => hold (e ▸ (hfits.source_lost source (List.mem_map_of_mem hpair)).1)
  rw [formerColumns?, formerColumns?, Schema.tables_placeTable, Catalog.get?_place_of_ne hsource]

/-- The comparison of the tables that stay passes over the shared one. -/
theorem keptTableChanges_placeTable (hdistinct : Column.Distinct columns) :
    keptTableChanges matching (old.placeTable oldPosition name columns hold)
        (new.placeTable newPosition name columns hnew).tables.entries =
      keptTableChanges matching old new.tables.entries := by
  obtain ⟨front, back, hentries, hplaced⟩ :=
    new.tables.exists_entries_place newPosition name columns hnew
  rw [Schema.tables_placeTable, hplaced, keptTableChanges_append_congr
    (keptTableChanges_cons_self hdistinct (hfits.formerColumns?_placeTable_self hnew) back),
    ← hentries]
  exact keptTableChanges_congr fun table htable =>
    hfits.formerColumns?_placeTable_of_ne (Catalog.name_ne_of_mem hnew htable)

/-- A table that comes is created and filled as without the shared one. -/
theorem tableCreation_placeTable (table : NamedTable) :
    tableCreation matching (old.placeTable oldPosition name columns hold) table =
      tableCreation matching old table := by
  unfold tableCreation
  cases hreplaced : matching.replacedBy? table.1 with
  | none => rfl
  | some source =>
    -- who is replaced is an old table, and the shared one is none
    have hpair := mem_replacements_of_replacedBy? hreplaced
    have hne : source ≠ name := fun e => hold (e ▸ (hfits.replaced_lost _ hpair).1)
    simp only [Schema.tables_placeTable, Catalog.get?_place_of_ne hne]

/-- The shared table does not come, and no other one comes in another way. -/
theorem tableCreations_placeTable :
    tableCreations matching (old.placeTable oldPosition name columns hold)
        (new.placeTable newPosition name columns hnew) =
      tableCreations matching old new := by
  have hshared : formerColumns? matching (old.placeTable oldPosition name columns hold) name =
      some columns := hfits.formerColumns?_placeTable_self hnew
  have hothers : ∀ table ∈ new.tables.entries,
      (formerColumns? matching (old.placeTable oldPosition name columns hold) table.1).isNone =
        (formerColumns? matching old table.1).isNone := by
    intro table htable
    rw [hfits.formerColumns?_placeTable_of_ne (Catalog.name_ne_of_mem hnew htable)]
  unfold tableCreations
  rw [Schema.tables_placeTable, Catalog.filter_entries_place (by simp [hshared]),
    List.filter_congr hothers]
  exact List.flatMap_congr fun table _ => hfits.tableCreation_placeTable table

end Matching.Fits

/-- The shared table does not go, and the same tables go as without it. -/
theorem tableDrops_placeTable :
    tableDrops matching (old.placeTable oldPosition name columns hold)
        (new.placeTable newPosition name columns hnew) =
      tableDrops matching old new := by
  have hshared : isKept matching (new.placeTable newPosition name columns hnew) name = true := by
    rw [isKept, Schema.tables_placeTable, Catalog.contains_place_self, Bool.true_or]
  unfold tableDrops
  rw [Schema.tables_placeTable, Catalog.filter_names_place (by simp [hshared])]
  refine congrArg _ (List.filter_congr fun table htable => ?_)
  have hne : table ≠ name := fun e => hold (e ▸ htable)
  rw [isKept, isKept, Schema.tables_placeTable, Catalog.contains_place_of_ne hne]

/-- The plan without a table that both schemas have is the plan with it. -/
theorem plan_placeTable (options : MatchOptions) (hdistinct : Column.Distinct columns) :
    plan options (old.placeTable oldPosition name columns hold)
        (new.placeTable newPosition name columns hnew) =
      plan options old new := by
  have hfits := Matching.ofSchemas_fits options old new
  unfold plan
  simp only [Matching.ofSchemas_placeTable, hfits.keptTableChanges_placeTable hdistinct,
    hfits.tableCreations_placeTable, tableDrops_placeTable]
  rfl

end Table

/-! ## A type of both schemas -/

section TypeDefinition

variable {definition : TypeDefinition} {oldPosition newPosition : Nat}
  {hold : name ∉ old.types.names} {hnew : name ∉ new.types.names}

/-- The comparison of types passes over the shared one, also where it ends early. -/
theorem typeChanges_placeType :
    typeChanges (old.placeType oldPosition name definition hold).types
        (new.placeType newPosition name definition hnew).types.entries =
      typeChanges old.types new.types.entries := by
  obtain ⟨front, back, hentries, hplaced⟩ :=
    new.types.exists_entries_place newPosition name definition hnew
  rw [Schema.types_placeType, Schema.types_placeType, hplaced,
    typeChanges_append_congr (typeChanges_cons_self Catalog.get?_place_self back), ← hentries]
  exact typeChanges_congr fun entry hentry =>
    Catalog.get?_place_of_ne (Catalog.name_ne_of_mem hnew hentry)

/-- The shared type is not declared again, and the same types are declared as without it. -/
theorem typeCreations_placeType :
    typeCreations (old.placeType oldPosition name definition hold)
        (new.placeType newPosition name definition hnew) =
      typeCreations old new := by
  unfold typeCreations addedTypes
  rw [Schema.types_placeType, Schema.types_placeType, Catalog.filter_lacking_place]

/-- The plan without a type that both schemas have is the plan with it. -/
theorem plan_placeType (options : MatchOptions) :
    plan options (old.placeType oldPosition name definition hold)
        (new.placeType newPosition name definition hnew) =
      plan options old new := by
  have hkept (matching : Matching) (tables : List NamedTable) :
      keptTableChanges matching (old.placeType oldPosition name definition hold) tables =
        keptTableChanges matching old tables :=
    keptTableChanges_congr fun _ _ => rfl
  unfold plan
  simp only [typeChanges_placeType, typeCreations_placeType, hkept]
  rfl

end TypeDefinition

/-! ## The plan -/

/-- **Unchanged declarations never influence a plan.** A table that neither schema has, placed with
the same distinct columns anywhere in both, leaves the steps or the failure as they are, and so does
a type that neither schema has, placed with the same definition anywhere in both. -/
theorem plan_place_shared (options : MatchOptions) (old new : Schema) (name : String)
    (oldPosition newPosition : Nat) :
    (∀ (columns : List Column) (hold : name ∉ old.tables.names) (hnew : name ∉ new.tables.names),
      Column.Distinct columns →
        plan options (old.placeTable oldPosition name columns hold)
            (new.placeTable newPosition name columns hnew) =
          plan options old new) ∧
      ∀ (definition : TypeDefinition) (hold : name ∉ old.types.names)
        (hnew : name ∉ new.types.names),
        plan options (old.placeType oldPosition name definition hold)
            (new.placeType newPosition name definition hnew) =
          plan options old new :=
  ⟨fun _ _ _ hdistinct => plan_placeTable options hdistinct, fun _ _ _ => plan_placeType options⟩

/-- The columns of a table that is more like the renamed table than its new form is. -/
def Sample.twin : List Column :=
  [plain "id" "INT PRIMARY KEY", ⟨"name", "TEXT", true, none⟩, ⟨"age", "INT", false, some "0"⟩]

/-- With such a table in both schemas the sample migration stays as it is, and it does so with a
type of both schemas. -/
theorem sample_plan_with_shared :
    plan .standard (Sample.before.placeTable 1 "twin" Sample.twin (by decide +kernel))
        (Sample.after.placeTable 0 "twin" Sample.twin (by decide +kernel)) = .ok Sample.steps ∧
      plan .standard
          (Sample.before.placeType 0 "pair" (.composite "(a INT)") (by decide +kernel))
          (Sample.after.placeType 2 "pair" (.composite "(a INT)") (by decide +kernel)) =
        .ok Sample.steps :=
  ⟨((plan_place_shared .standard Sample.before Sample.after "twin" 1 0).1 Sample.twin
      (by decide +kernel) (by decide +kernel) (by decide +kernel)).trans Sample.plan_before_after,
    ((plan_place_shared .standard Sample.before Sample.after "pair" 0 2).2 (.composite "(a INT)")
      (by decide +kernel) (by decide +kernel)).trans Sample.plan_before_after⟩

end SchemaEvolution
