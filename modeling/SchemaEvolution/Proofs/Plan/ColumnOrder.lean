import SchemaEvolution.Proofs.Plan.Overlap
import SchemaEvolution.Proofs.Plan.Phases
import Mathlib.Data.List.Forall2

/-! # The order of columns in the old schema
A comparison reads the columns of an old table as a set of named entries: it looks them up by name
and counts their names. Their order shows in one place only, where the columns that a table loses
are dropped one after the other. Two old schemas whose tables **list the same columns** therefore
have plans that are the same up to the order of such drops, or no plan for the same cause. -/

namespace SchemaEvolution

/-! ## The same columns in another order -/

/-- Two tables of one name **list the same columns**, in whatever order. -/
structure SameListing (table other : NamedTable) : Prop where
  /-- The tables have the same name. -/
  name : table.1 = other.1
  /-- The columns of the one are those of the other in some order. -/
  columns : table.2.Perm other.2

instance (table other : NamedTable) : Decidable (SameListing table other) :=
  decidable_of_iff (table.1 = other.1 ∧ table.2.Perm other.2)
    ⟨fun h => ⟨h.1, h.2⟩, fun h => ⟨h.name, h.columns⟩⟩

/-- Tables that are chosen by their names. -/
theorem sameListing_filter (keep : String → Bool) {tables others : List NamedTable}
    (h : List.Forall₂ SameListing tables others) :
    List.Forall₂ SameListing (tables.filter fun table => keep table.1)
      (others.filter fun table => keep table.1) := by
  refine List.rel_filter (fun table other hlisting => ?_) h
  show keep table.1 = true ↔ keep other.1 = true
  rw [hlisting.name]

/-- What is looked up is the same up to the order of columns. -/
theorem lookup_rel {tables others : List NamedTable} (h : List.Forall₂ SameListing tables others)
    (name : String) :
    Option.Rel List.Perm (Catalog.lookup name tables) (Catalog.lookup name others) := by
  induction h with
  | nil => exact .none
  | cons hlisting _ ih =>
    rw [Catalog.lookup_cons, Catalog.lookup_cons, hlisting.name]
    split
    · exact .some hlisting.columns
    · exact ih

/-- One schema **permutes the columns** of another: it declares the same types, and the same tables
in the same order, and only the columns inside a table come in another order. -/
structure Schema.PermutesColumns (schema other : Schema) : Prop where
  /-- The same types are declared, in the same order. -/
  types : schema.types = other.types
  /-- The same tables are declared, in the same order, each with the same columns. -/
  tables : List.Forall₂ SameListing schema.tables.entries other.tables.entries

instance (schema other : Schema) : Decidable (schema.PermutesColumns other) :=
  decidable_of_iff (schema.types = other.types ∧
      List.Forall₂ SameListing schema.tables.entries other.tables.entries)
    ⟨fun h => ⟨h.1, h.2⟩, fun h => ⟨h.types, h.tables⟩⟩

namespace Column

variable {columns others : List Column}

/-- The order of columns does not matter to what a list declares. -/
theorem declares_of_perm (h : columns.Perm others) (name : String) :
    declares columns name = declares others name := by
  rw [Bool.eq_iff_iff, declares_iff, declares_iff, (h.map Column.name).mem_iff]

/-- A column of a list without repeated names is what is found under its name. -/
theorem find?_of_mem (hdistinct : Distinct columns) {column : Column} (h : column ∈ columns) :
    find? columns column.name = some column := by
  induction columns with
  | nil => cases h
  | cons first columns ih =>
    rw [find?_cons]
    rcases List.mem_cons.mp h with rfl | hrest
    · exact if_pos rfl
    · rw [if_neg (Ne.symm (hdistinct.name_ne hrest))]
      exact ih ((distinct_cons first columns).mp hdistinct).2 hrest

/-- The order of columns does not matter to a search, as long as no name is repeated. -/
theorem find?_of_perm (hdistinct : Distinct columns) (h : columns.Perm others) (name : String) :
    find? columns name = find? others name := by
  cases hfind : find? columns name with
  | none =>
    rw [find?_eq_none_iff, declares_of_perm h, ← find?_eq_none_iff] at hfind
    exact hfind.symm
  | some column =>
    obtain ⟨hmem, rfl⟩ := mem_of_find? hfind
    have hothers : Distinct others := (h.map Column.name).nodup_iff.mp hdistinct
    exact (find?_of_mem hothers (h.mem_iff.mp hmem)).symm

end Column

/-! ## The same steps up to the order of drops -/

/-- Two lists of steps are the **same up to the order of drops**: they differ only where columns of
one table are dropped one right after the other. -/
inductive SameUpToDrops : List Step → List Step → Prop where
  /-- Nothing is done. -/
  | nil : SameUpToDrops [] []
  /-- The same step is made. -/
  | step (step : Step) {first second : List Step} (h : SameUpToDrops first second) :
    SameUpToDrops (step :: first) (step :: second)
  /-- The same columns of a table are dropped, in some order. -/
  | drops (table : String) {columns others : List String} {first second : List Step}
    (hcolumns : columns.Perm others) (h : SameUpToDrops first second) :
    SameUpToDrops (columns.map (.dropColumn table) ++ first)
      (others.map (.dropColumn table) ++ second)

namespace SameUpToDrops

variable {first second third fourth : List Step}

/-- Steps are the same as themselves. -/
@[refl] theorem refl (steps : List Step) : SameUpToDrops steps steps := by
  induction steps with
  | nil => exact .nil
  | cons step steps ih => exact .step step ih

/-- Such lists can be put one behind the other. -/
theorem append (hfirst : SameUpToDrops first second) (hthird : SameUpToDrops third fourth) :
    SameUpToDrops (first ++ third) (second ++ fourth) := by
  induction hfirst with
  | nil => exact hthird
  | step step _ ih => exact .step step ih
  | drops table hcolumns _ ih =>
    rw [List.append_assoc, List.append_assoc]
    exact .drops table hcolumns ih

end SameUpToDrops

/-- Two comparisons **come to the same**: both fail for the same cause, or both give steps that are
the same up to the order of drops. -/
inductive ComeToSame :
    Except UnfillableColumn (List Step) → Except UnfillableColumn (List Step) → Prop where
  /-- Both fail. -/
  | error (cause : UnfillableColumn) : ComeToSame (.error cause) (.error cause)
  /-- Both give steps. -/
  | ok {first second : List Step} (h : SameUpToDrops first second) :
    ComeToSame (.ok first) (.ok second)

/-- Comparisons that are made one after the other. -/
theorem ComeToSame.bind {first second : Except UnfillableColumn (List Step)}
    {next other : List Step → Except UnfillableColumn (List Step)} (h : ComeToSame first second)
    (hnext : ∀ steps others, SameUpToDrops steps others → ComeToSame (next steps) (other others)) :
    ComeToSame (first >>= next) (second >>= other) := by
  cases h with
  | error cause => exact .error cause
  | ok h => exact hnext _ _ h

/-! ## One table -/

section Table

variable {columns others : List Column}

/-- The columns that a table lacks do not depend on the order of those it has. -/
theorem columnsMissingFrom_of_perm (h : columns.Perm others) (new : List Column) :
    columnsMissingFrom new columns = columnsMissingFrom new others := by
  unfold columnsMissingFrom
  refine List.filter_congr fun column _ => ?_
  rw [Column.declares_of_perm h]

/-- The columns that a table keeps are looked up by their names. -/
theorem keptColumnChanges_of_perm (hdistinct : Column.Distinct columns) (h : columns.Perm others)
    (table : String) (new : List Column) :
    keptColumnChanges table columns new = keptColumnChanges table others new := by
  unfold keptColumnChanges
  refine List.flatMap_congr fun column _ => ?_
  rw [Column.find?_of_perm hdistinct h]

/-- **The changes of one table** depend on the order of its old columns only by the order of
drops. -/
theorem tableChanges_of_perm (hdistinct : Column.Distinct columns) (h : columns.Perm others)
    (table : String) (new : List Column) :
    ComeToSame (tableChanges table columns new) (tableChanges table others new) := by
  unfold tableChanges
  rw [columnsMissingFrom_of_perm h, keptColumnChanges_of_perm hdistinct h]
  dsimp only
  cases (columnsMissingFrom new others).find? Column.isUnfillable with
  | some column => exact .error ⟨table, column.name⟩
  | none =>
    refine .ok ((SameUpToDrops.refl _).append ?_)
    have hdropped : (columnsMissingFrom columns new).Perm (columnsMissingFrom others new) :=
      h.filter _
    have hdrops := SameUpToDrops.drops table (hdropped.map Column.name) .nil
    rw [List.map_map, List.map_map, List.append_nil, List.append_nil] at hdrops
    exact hdrops

end Table

/-! ## Two schemas -/

namespace Schema.PermutesColumns

variable {old other : Schema}

/-- The tables have the same names. -/
theorem names_eq (h : old.PermutesColumns other) : old.tables.names = other.tables.names := by
  have hnames : List.Forall₂ (· = ·) (old.tables.entries.map Prod.fst)
      (other.tables.entries.map Prod.fst) := by
    rw [List.forall₂_map_left_iff, List.forall₂_map_right_iff]
    exact h.tables.imp fun _ _ hlisting => hlisting.name
  exact List.forall₂_eq_eq_eq ▸ hnames

/-- The two schemas have the same tables. -/
theorem contains_eq (h : old.PermutesColumns other) (table : String) :
    old.tables.contains table = other.tables.contains table := by
  rw [Bool.eq_iff_iff, Catalog.contains_iff, Catalog.contains_iff, h.names_eq]

/-- A table has its columns in some order. -/
theorem get?_rel (h : old.PermutesColumns other) (table : String) :
    Option.Rel List.Perm (old.tables.get? table) (other.tables.get? table) :=
  lookup_rel h.tables table

/-! ## The matching of tables -/

/-- The tables that another schema lacks have the same columns in both. -/
theorem missingFrom_rel (h : old.PermutesColumns other) (new : Schema) :
    List.Forall₂ SameListing (Matching.missingFrom old new) (Matching.missingFrom other new) :=
  sameListing_filter (fun table => !new.tables.contains table) h.tables

/-- The new tables that come are the same in both comparisons. -/
theorem missingFrom_eq (h : old.PermutesColumns other) (new : Schema) :
    Matching.missingFrom new old = Matching.missingFrom new other := by
  refine List.filter_congr fun table _ => ?_
  rw [h.contains_eq]

end Schema.PermutesColumns

/-- **The rounds do not depend on the order of columns**: each table is as similar to each candidate
as before. -/
theorem Round.playAll_of_sameListing (options : MatchOptions) (threshold : Float)
    {tables others : List NamedTable} (h : List.Forall₂ SameListing tables others)
    (candidates : List NamedTable) :
    playAll options threshold tables candidates = playAll options threshold others candidates := by
  induction h generalizing candidates with
  | nil => rfl
  | @cons table other tables others hlisting _ ih =>
    have hplay : play options threshold table candidates =
        play options threshold other candidates := by
      have hsimilarity : ∀ candidate : NamedTable,
          similarity options table.2 candidate.2 = similarity options other.2 candidate.2 :=
        fun candidate => similarity_congr options (nameSet_of_perm hlisting.columns) rfl
      unfold play
      simp only [hlisting.name, hsimilarity]
    rw [playAll_cons, playAll_cons, hplay, ih]

namespace Schema.PermutesColumns

variable {old other : Schema}

/-- **The same tables are matched.** -/
theorem ofSchemas_eq (h : old.PermutesColumns other) (options : MatchOptions) (new : Schema) :
    Matching.ofSchemas options old new = Matching.ofSchemas options other new := by
  have hlost := h.missingFrom_rel new
  have hrenames := Round.playAll_of_sameListing options options.renameThreshold hlost
  have hdropped (renamed : List (String × String)) :=
    sameListing_filter (fun table => !renamed.any fun pair => pair.1 == table) hlost
  unfold Matching.ofSchemas
  dsimp only
  rw [h.missingFrom_eq new, hrenames, Round.playAll_of_sameListing options _ (hdropped _)]

variable {matching : Matching}

/-- A table has no former columns in both comparisons, or the same ones up to their order. -/
theorem formerColumns?_cases (h : old.PermutesColumns other) (matching : Matching)
    (table : String) :
    (formerColumns? matching old table = none ∧ formerColumns? matching other table = none) ∨
      ∃ columns others, formerColumns? matching old table = some columns ∧
        formerColumns? matching other table = some others ∧ columns.Perm others := by
  have hrel : Option.Rel List.Perm (formerColumns? matching old table)
      (formerColumns? matching other table) := h.get?_rel _
  generalize formerColumns? matching old table = former,
    formerColumns? matching other table = formerOther at hrel ⊢
  cases hrel with
  | none => exact .inl ⟨rfl, rfl⟩
  | some hperm => exact .inr ⟨_, _, rfl, rfl, hperm⟩

/-! ## The phases -/

/-- **The tables that stay** change in the same way up to the order of drops. -/
theorem comeToSame_keptTableChanges (h : old.PermutesColumns other)
    (hdistinct : old.ColumnsDistinct) (tables : List NamedTable) :
    ComeToSame (keptTableChanges matching old tables) (keptTableChanges matching other tables) := by
  induction tables with
  | nil => exact .ok .nil
  | cons table rest ih =>
    obtain ⟨name, new⟩ := table
    rw [keptTableChanges, keptTableChanges]
    rcases h.formerColumns?_cases matching name with
      ⟨hold, hother⟩ | ⟨columns, others, hold, hother, hperm⟩
    · rw [hold, hother]
      exact ih
    · rw [hold, hother]
      -- the steps for this table come first, then those for the rest
      refine (tableChanges_of_perm (hdistinct.of_get? hold) hperm name new).bind ?_
      intro changes changes' hchanges
      refine ih.bind fun steps steps' hsteps => ?_
      exact .ok (hchanges.append hsteps)

/-- A table that comes is created and filled in the same way. -/
theorem tableCreation_eq (h : old.PermutesColumns other) (table : NamedTable) :
    tableCreation matching old table = tableCreation matching other table := by
  unfold tableCreation
  cases matching.replacedBy? table.1 with
  | none => rfl
  | some source =>
    have hshared : ∀ columns others : List Column, columns.Perm others →
        sharedColumnNames columns table.2 = sharedColumnNames others table.2 := by
      intro columns others hperm
      unfold sharedColumnNames
      rw [List.filter_congr fun column _ => Column.declares_of_perm hperm column.name]
    -- only the set of the columns of the source is looked at
    have hrel := h.get?_rel source
    dsimp only
    generalize old.tables.get? source = columns, other.tables.get? source = others at hrel
    cases hrel with
    | none => rfl
    | some hperm =>
      dsimp only
      rw [hshared _ _ hperm]

/-- The same tables come, and in the same way. -/
theorem tableCreations_eq (h : old.PermutesColumns other) (new : Schema) :
    tableCreations matching old new = tableCreations matching other new := by
  have hcomes : ∀ table, (formerColumns? matching old table).isNone =
      (formerColumns? matching other table).isNone := by
    intro table
    rcases h.formerColumns?_cases matching table with
      ⟨hold, hother⟩ | ⟨columns, others, hold, hother, -⟩
    · rw [hold, hother]
    · rw [hold, hother]
      rfl
  unfold tableCreations
  simp only [hcomes]
  exact List.flatMap_congr fun table _ => h.tableCreation_eq table

/-- The same tables go. -/
theorem tableDrops_eq (h : old.PermutesColumns other) (new : Schema) :
    tableDrops matching old new = tableDrops matching other new := by
  rw [tableDrops, tableDrops, h.names_eq]

/-- The same types are declared. -/
theorem typeCreations_eq (h : old.PermutesColumns other) (new : Schema) :
    typeCreations old new = typeCreations other new := by
  rw [typeCreations, typeCreations, addedTypes, addedTypes, h.types]

end Schema.PermutesColumns

/-! ## The plan -/

/-- **The order of columns in the old schema shows only in the order of drops.** When two old
schemas differ by the order of columns inside their tables and no table repeats a column name, their
plans to a new schema fail for the same cause, or both exist and are the same up to the order in
which the columns of one table are dropped one right after the other. -/
theorem plan_permuted_columns (options : MatchOptions) (old other new : Schema)
    (hdistinct : old.ColumnsDistinct) (hpermutes : old.PermutesColumns other) :
    ComeToSame (plan options old new) (plan options other new) := by
  unfold plan
  dsimp only
  rw [hpermutes.ofSchemas_eq options new, hpermutes.tableCreations_eq new,
    hpermutes.tableDrops_eq new, hpermutes.typeCreations_eq new, hpermutes.types]
  refine (hpermutes.comeToSame_keptTableChanges hdistinct _).bind fun steps others hsteps => ?_
  have hfront := (SameUpToDrops.refl (typeChanges other.types new.types.entries ++
    renameSteps (Matching.ofSchemas options other new))).append hsteps
  exact .ok (((hfront.append (.refl _)).append (.refl _)).append (.refl _))

namespace Sample

/-- A schema with a table that is to be renamed and one that is to be dropped. -/
def listed : Schema where
  types := .empty
  tables := .ofList
    [("person", [plain "id" "INT", plain "name" "TEXT", ⟨"age", "INT", false, some "0"⟩,
      plain "fax" "TEXT", plain "pager" "TEXT"]),
    ("log", [plain "at" "DATE", plain "text" "TEXT"])]

/-- The same schema with the columns of both tables in another order. -/
def relisted : Schema where
  types := .empty
  tables := .ofList
    [("person", [plain "pager" "TEXT", ⟨"age", "INT", false, some "0"⟩, plain "id" "INT",
      plain "fax" "TEXT", plain "name" "TEXT"]),
    ("log", [plain "text" "TEXT", plain "at" "DATE"])]

/-- The schema that it becomes. -/
def slimmed : Schema where
  types := .empty
  tables := .ofList [("people", [plain "id" "INT", plain "name" "TEXT", plain "age" "INT"])]

/-- The plan to it, with the drops of the first table given. -/
def slimmingSteps (dropped : List String) : List Step :=
  [.renameTable "person" "people", .dropDefault "people" "age"] ++
    dropped.map (.dropColumn "people") ++
    [.caution "Dropping table log will permanently delete its data", .dropTable "log"]

end Sample

/-- The sample plans differ by the order of two drops. -/
theorem sample_permuted_columns :
    Sample.listed.ColumnsDistinct ∧ Sample.listed.PermutesColumns Sample.relisted ∧
      plan .standard Sample.listed Sample.slimmed = .ok (Sample.slimmingSteps ["fax", "pager"]) ∧
      plan .standard Sample.relisted Sample.slimmed = .ok (Sample.slimmingSteps ["pager", "fax"]) ∧
      SameUpToDrops (Sample.slimmingSteps ["fax", "pager"])
        (Sample.slimmingSteps ["pager", "fax"]) := by
  have hdistinct : Sample.listed.ColumnsDistinct := by decide +kernel
  have hpermutes : Sample.listed.PermutesColumns Sample.relisted := by decide +kernel
  have hlisted : plan .standard Sample.listed Sample.slimmed =
      .ok (Sample.slimmingSteps ["fax", "pager"]) := by decide +kernel
  have hrelisted : plan .standard Sample.relisted Sample.slimmed =
      .ok (Sample.slimmingSteps ["pager", "fax"]) := by decide +kernel
  refine ⟨hdistinct, hpermutes, hlisted, hrelisted, ?_⟩
  have hsame := plan_permuted_columns .standard Sample.listed Sample.relisted Sample.slimmed
    hdistinct hpermutes
  rw [hlisted, hrelisted] at hsame
  cases hsame with
  | ok h => exact h

end SchemaEvolution
